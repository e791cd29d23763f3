import ClientFacade.Aggregation
import ClientFacade.Command.Arguments
import ClientFacade.Command.Failure
import ClientFacade.Environment
import ClientFacade.Log.Setup
import ClientFacade.Settings.File
import ClientFacade.Source.Load
import ClientFacade.Text.ControlSequence
import ClientFacade.Value.Json

/-!
# Running the program

A run reads the variables of the environment and the arguments, sets logging up and performs the
command. The command changes the store at most by the one file it is told to write, and only when
there is a text to write. The outcome is a code, what goes to the standard output, what is noticed
on the way, and the store.

A run looks at the file with variables, at the paths in its arguments and at the files that its
settings name. Whoever provides the store for a run has to provide these.
-/

namespace ClientFacade.Command

variable [Runtime]

inductive Cause
  | settings (fault : Settings.FileFault)
  | source (fault : Source.LoadFault)
  | aggregation (fault : Aggregator.Fault)
  | store (fault : Store.Fault)
  deriving Repr

namespace Cause

def message : Cause → Text
  | .settings fault => fault.message
  | .source fault => fault.message
  | .aggregation fault => fault.message
  | .store fault => fault.message

def stop (cause : Cause) : Stop Cause := .fault cause.message cause

end Cause

/-- What the fault of a settings file means for a command. -/
def stopOfSettings (command : Text) (fault : Settings.FileFault) : Stop Cause :=
  if fault.isOfFile then .failed ⟨fault.message, some command, some (.settings fault)⟩
  else (Cause.settings fault).stop

def loadSettings (store : Store) (command : Text) (path : Option Path) (files : List Path)
    (strict : Option Bool) : Logged (Stop Cause) Settings := do
  let settings ←
    match path with
    | none => pure Settings.defaults
    | some path => (Settings.load store path).mapError (stopOfSettings command)
  return settings.override files strict

namespace Call

/-- The settings in effect. Strictness can be asked for but not waived. -/
def settings (call : Call) (store : Store) : Logged (Stop Cause) Settings :=
  loadSettings store call.command.name call.config call.files
    (if call.strict then some true else none)

def sources (store : Store) (settings : Settings) : Logged (Stop Cause) (List Source) :=
  (Source.loadAll store .utf8 settings.files).mapError fun fault => (Cause.source fault).stop

def generated (call : Call) (store : Store) : Logged (Stop Cause) Text := do
  let settings ← call.settings store
  let sources ← sources store settings
  ((Aggregator.ofSettings settings).run sources).mapError fun fault =>
    (Cause.aggregation fault).stop

/-- The facade as JSON. Collisions are of no concern here. -/
def extracted (call : Call) (store : Store) : Logged (Stop Cause) Text := do
  let settings ← call.settings store
  let sources ← sources store settings
  let aggregator := Aggregator.ofSettings settings
  let extractions ← aggregator.extract sources
  let facade ← Logged.ofExcept ((aggregator.assemble extractions).mapError fun fault =>
    (Cause.aggregation fault).stop)
  return Json.write 0 facade.toValue ++ ['\n']

def shownSettings (call : Call) (store : Store) : Logged (Stop Cause) Text := do
  return (← call.settings store).shown

end Call

structure Performance where
  result : Logged (Stop Cause) Text
  store : Store

def writtenReport (path : Path) : Record :=
  .of .commands .info ("Aggregator written to " ++ path.text)

def deliver (output : Option Path) (store : Store) (result : Logged (Stop Cause) Text) :
    Performance :=
  match output, result with
  | some path, ⟨records, .ok text⟩ =>
    let attempt := store.save path (Utf8.encode text)
    match attempt.fault with
    | some fault => ⟨⟨records, .error (Cause.store fault).stop⟩, attempt.store⟩
    | none => ⟨⟨records ++ [writtenReport path], .ok []⟩, attempt.store⟩
  | _, result => ⟨result, store⟩

def Call.perform (call : Call) (store : Store) : Performance :=
  match call.command with
  | .generate => deliver call.output store (call.generated store)
  | .extract => ⟨call.extracted store, store⟩
  | .showConfig => ⟨call.shownSettings store, store⟩

/-- What is noticed on the way: text as it is written, or a panel. -/
inductive Notice
  | text (text : Text)
  | panel (panel : Panel)
  deriving DecidableEq, Repr

structure Outcome where
  code : Nat
  output : Text
  notices : List Notice
  store : Store

/-- What ends a run without an outcome. -/
inductive Escape
  | variables (fault : DecodeFault)
  | logging (fault : Log.SetupFault)
  | markup (fault : Markup.Fault)

def noticesOf (loggers : Log.Loggers) (records : List Record) : List Notice :=
  records.map fun record => .text (loggers.emit record)

/-- The outcome of a performance. A failure is recorded and shown. -/
def Performance.conclude (command : Command) (loggers : Log.Loggers) (performance : Performance) :
    Except Escape Outcome :=
  match performance.result.outcome with
  | .ok output =>
    .ok ⟨0, output.withoutSequences, noticesOf loggers performance.result.records,
      performance.store⟩
  | .error stop => do
    let failure := stop.toFailure command.name
    let records := performance.result.records ++ [failure.report command.title]
    let panel ← (failure.panel command.title).mapError .markup
    return ⟨1, [], noticesOf loggers records ++ [.panel panel], performance.store⟩

def Call.logging (call : Call) (store : Store) (environment : Option Text) :
    Except Log.SetupFault Log.Outcome :=
  (Log.setup store environment ⟨none, some call.level, none, false⟩ .initial).outcome

def Call.run (call : Call) (store : Store) (environment : Option Text) :
    Except Escape Outcome := do
  let logging ← (call.logging store environment).mapError .logging
  let outcome ← (call.perform store).conclude call.command logging.loggers
  return { outcome with notices := .text logging.written :: outcome.notices }

def UsageError.outcome (error : UsageError) (store : Store) : Outcome :=
  ⟨2, [], error.usage.map (fun line => .text (line ++ ['\n'])) ++ [.panel error.panel], store⟩

def environmentName : Text := "CLIENT_AGGREGATOR_ENV"

def run (environment : Environment) (store : Store) (arguments : List Text) :
    Except Escape Outcome := do
  let statements ← (Environment.readFile store).mapError .variables
  let outcome ←
    match Call.read store arguments with
    | .error error => pure (error.outcome store)
    | .ok call => call.run store (Environment.lookup environment statements environmentName)
  let reports := (Environment.reports statements).map fun report => Notice.text (report ++ ['\n'])
  return { outcome with notices := reports ++ outcome.notices }

/-! ## What a run looks at -/

def Arguments.paths (arguments : Arguments) : List Path :=
  (arguments.others ++ arguments.given.map (·.2)).map Path.ofText

/-- The paths that are known from the arguments of the program alone. -/
def writtenPaths (arguments : List Text) : List Path :=
  let found : List Path :=
    match arguments.filter (· ≠ dashes) with
    | text :: rest =>
      match ofName? text with
      | some command =>
        match Arguments.read command rest with
        | .ok arguments => arguments.paths
        | .error _ => []
      | none => []
    | [] => []
  Environment.fileName :: found

/-- The files that the settings of a run name, if the settings can be read. -/
def settingsPaths (store : Store) (arguments : List Text) : List Path :=
  match Call.read store arguments with
  | .error _ => []
  | .ok call =>
    match (call.settings store).outcome with
    | .ok settings => settings.files
    | .error _ => []

end ClientFacade.Command
