import ClientFacade.Log.Override
import ClientFacade.Log.Sink

/-!
# Applying a logging configuration

A configuration is applied step by step: its version is checked, then come formatters and handlers,
the loggers in order, and the root. What has been done before a step fails stays done. A logger that
is not configured is reset if one above it is. Without an entry for the root the root stays as it
is.
-/

namespace ClientFacade.Log

/-- The entries of a part of a configuration, or the fault of taking something else for them, which
may fail at its first item. -/
def entriesOf (key : Text) (fault : Text → Fault) (config : Graph) : Except Fault Entries :=
  match config.get? key with
  | none => .ok []
  | some (.atom (.scalar (.text []))) => .ok []
  | some (.atom (.scalar (.text (c :: _)))) => .error (fault (Text.quoted [c]))
  | some (.atom (.bytes [])) => .ok []
  | some (.atom (.bytes (code :: _))) => .error (fault (Text.ofNat code.toNat))
  | some (.atom value) => .error (.notIterable value.typeName)
  | some (.cell id) =>
    match config.heap.cell id with
    | .map entries => .ok entries
    | .list [] | .pairs [] | .set [] => .ok []
    | .list (item :: _) => .error (fault (config.heap.shown item))
    | .pairs ((first, second) :: _) =>
      let items : List Text := [config.heap.shown first, config.heap.shown second]
      .error (fault ("(" ++ Text.join ", " items ++ ")"))
    | .set (member :: _) => .error (fault member.shown)

def levelOf? (value : Ref) : Option Level :=
  match value.text? with
  | some name => Level.ofName? name
  | none => value.int?.map Level.mk

def levelOr? (heap : Heap) (default : Level) (entry : Ref) : Option Level :=
  match heap.get? "level" entry with
  | none | some (.atom (.scalar .null)) => some default
  | some value => levelOf? value

/-- The format that an entry describes. It must have a field. -/
def formatOf? (heap : Heap) (entry : Ref) : Option Format := do
  let _ ← heap.entries? entry
  let text ←
    match heap.get? "format" entry with
    | none => some Format.messageText
    | some value => if heap.isEmpty value then some Format.messageText else value.text?
  let isPercent :=
    match heap.get? "style" entry with
    | none => true
    | some value => value.text? = some ['%']
  if isPercent && Format.hasField text then some (Format.ofText text) else none

def formatters (heap : Heap) : Entries → Except Fault (List (Atom × Format))
  | [] => .ok []
  | (name, entry) :: rest =>
    match formatOf? heap entry with
    | none => .error (.formatter name.shown)
    | some format => do return (name, format) :: (← formatters heap rest)

/-- Where a stream writes to, if it is known. A text that does not refer to a stream is one that
nothing can be written to. -/
def streamTarget? (heap : Heap) (value : Ref) : Option Target :=
  if heap.isEmpty value then some .standardError
  else
    match value.text? with
    | none => some .nowhere
    | some text =>
      if text = "ext://sys.stderr".toList then some .standardError
      else if text = "ext://sys.stdout".toList then some .standardOutput
      else if ("ext://".toList).isPrefixOf text then none
      else some .nowhere

def targetOf? (heap : Heap) (entry : Ref) : Option Target := do
  let class_ ← (← heap.get? "class" entry).text?
  match heap.get? "stream" entry with
  | none =>
    if class_ = "logging.NullHandler".toList then some .nowhere
    else if class_ = "logging.StreamHandler".toList then some .standardError
    else none
  | some stream =>
    if class_ = "logging.StreamHandler".toList then streamTarget? heap stream else none

def handlerFormat? (heap : Heap) (formats : List (Atom × Format)) (entry : Ref) :
    Option Format :=
  match heap.get? "formatter" entry with
  | none => some (Format.ofText Format.messageText)
  | some (.atom name) =>
    if name.isEmpty then some (Format.ofText Format.messageText) else formats.lookup name
  | some (.cell _) => none

def handlerKeys : List Text := ["class", "level", "formatter", "filters", "stream"]

def handlerOf? (heap : Heap) (formats : List (Atom × Format)) (entry : Ref) : Option Handler := do
  let entries ← heap.entries? entry
  if entries.any fun (key, _) => !(handlerKeys.map Atom.ofText).elem key then none
  let format ← handlerFormat? heap formats entry
  let target ← targetOf? heap entry
  let level ← levelOr? heap .notSet entry
  return ⟨level, target, format⟩

def precedes (a b : Atom × Ref) : Bool :=
  let shown (name : Atom) : Text := name.text?.getD name.shown
  String.ofList (shown a.1) ≤ String.ofList (shown b.1)

def handlersFrom (heap : Heap) (formats : List (Atom × Format)) :
    Entries → Except Fault (List (Atom × Handler))
  | [] => .ok []
  | (name, entry) :: rest =>
    match handlerOf? heap formats entry with
    | none => .error (.handler name.shown)
    | some handler => do return (name, handler) :: (← handlersFrom heap formats rest)

def handlersOf (config : Graph) : Except Fault (List (Atom × Handler)) := do
  let formats ← formatters config.heap (← entriesOf "formatters" .formatter config)
  let entries ← entriesOf "handlers" .handler config
  handlersFrom config.heap formats (entries.mergeSort precedes)

/-- Adds the handlers that an entry names, as far as they exist. The flag tells whether all do. -/
def addHandlers (handlers : List (Atom × Handler)) (logger : Logger) : List Ref → Logger × Bool
  | [] => (logger, true)
  | .atom name :: rest =>
    match handlers.lookup name with
    | some handler =>
      addHandlers handlers { logger with handlers := logger.handlers ++ [handler] } rest
    | none => (logger, false)
  | .cell _ :: _ => (logger, false)

/-- The names of handlers in an entry, if it can have some. A text names one by each character. -/
def handlerNames? (heap : Heap) : Ref → Option (List Ref)
  | .atom (.scalar (.text text)) => some (text.map fun c => .ofText [c])
  | .atom (.bytes codes) => some (codes.map fun code => .atom (.scalar (.int code.toNat)))
  | .atom value => if value.isEmpty then some [] else none
  | .cell id =>
    match heap.cell id with
    | .list items => some items
    | .map entries => some (entries.map fun (key, _) => .atom key)
    | .set members => some (members.map Ref.atom)
    | .pairs [] => some []
    | .pairs _ => none

def configureLogger (heap : Heap) (handlers : List (Atom × Handler)) (logger : Logger)
    (entry : Ref) : Logger × Bool :=
  match heap.entries? entry, levelOr? heap logger.level entry with
  | some _, some level =>
    let bare : Logger := { logger with level, handlers := [] }
    match heap.get? "handlers" entry with
    | none => (bare, true)
    | some value =>
      match handlerNames? heap value with
      | some names => addHandlers handlers bare names
      | none => (bare, false)
  | _, _ => (logger, false)

/-- Applies the entry of a logger below the root, which may keep its records to itself. -/
def configureBelow (heap : Heap) (handlers : List (Atom × Handler)) (logger : Logger)
    (entry : Ref) : Logger × Bool :=
  match configureLogger heap handlers logger entry with
  | (logger, false) => (logger, false)
  | (logger, true) =>
    match heap.get? "propagate" entry with
    | none | some (.atom (.scalar .null)) => (logger, true)
    | some value => ({ logger with propagates := !heap.isEmpty value }, true)

def configureAll (heap : Heap) (handlers : List (Atom × Handler)) (loggers : Loggers) :
    Entries → Loggers × Option Fault
  | [] => (loggers, none)
  | (.scalar (.text name), entry) :: rest =>
    let (logger, complete) := configureBelow heap handlers (loggers.get name) entry
    let next := loggers.set name logger
    if complete then configureAll heap handlers next rest
    else (next, some (.logger name.quoted))
  | (name, _) :: _ => (loggers, some (.logger name.shown))

def isBelow (names : List Text) (name : Text) : Bool :=
  names.any fun above => (above ++ ['.']).isPrefixOf name

/-- Resets the loggers that are not configured but stand below one that is. -/
def resetBelow (names : List Text) (loggers : Loggers) : Loggers :=
  { loggers with
    named := loggers.named.map fun (name, logger) =>
      (name, if !names.elem name && isBelow names name then .fresh else logger) }

def configureRoot (handlers : List (Atom × Handler)) (loggers : Loggers) (config : Graph) :
    Loggers × Option Fault :=
  match config.get? "root" with
  | none => (loggers, none)
  | some entry =>
    if config.heap.isEmpty entry then (loggers, none)
    else
      let (root, complete) := configureLogger config.heap handlers loggers.root entry
      ({ loggers with root }, if complete then none else some .root)

def checkVersion (config : Graph) : Except Fault Unit :=
  match config.get? "version" with
  | none => .error .noVersion
  | some version =>
    match version with
    | .atom (.scalar value) =>
      if value.sameKey (.int 1) then .ok ()
      else .error (.unknownVersion (config.heap.plain version))
    | _ => .error (.unknownVersion (config.heap.plain version))

/-- Applies a configuration, up to the first fault. -/
def configure (config : Graph) (loggers : Loggers) : Loggers × Option Fault :=
  match checkVersion config with
  | .error fault => (loggers, some fault)
  | .ok () =>
    match handlersOf config with
    | .error fault => (loggers, some fault)
    | .ok handlers =>
      match entriesOf "loggers" .logger config with
      | .error fault => (loggers, some fault)
      | .ok entries =>
        match configureAll config.heap handlers loggers entries with
        | (loggers, some fault) => (loggers, some fault)
        | (loggers, none) =>
          let names := entries.filterMap fun entry => entry.1.text?
          configureRoot handlers (resetBelow names loggers) config

end ClientFacade.Log
