import ClientFacade.Log.Configure
import ClientFacade.Log.Packaged

/-!
# Setting up logging

Logging is set up from a configuration file or a packaged one, with a level that may override those
of the file. Where that fails, a plain handler for everything takes over, and a warning tells why.
The plain handler may also be asked for at once.
-/

namespace ClientFacade.Log

inductive Location
  | file (path : Path)
  | packaged (path : Path)
  deriving DecidableEq, Repr

namespace Location

def shown : Location → Text
  | .file path => path.text
  | .packaged path => Packaged.shown path

def fault (location : Location) : Yaml.FileFault → Fault
  | .store .nullByte => .nullByte
  | .store fault => .unreadable location.shown fault
  | .decoding fault => .undecodable fault
  | .content .malformed => .malformed location.shown
  | .content (.impossible kind reason) => .impossible kind reason

def read (store : Store) : Location → Except Yaml.FileFault Graph
  | .file path => Yaml.loadFile store path
  | .packaged path => Yaml.loadFile Packaged.store path

/-- The configuration in what a place was found to hold, which must be a map. -/
def config (location : Location) : Except Yaml.FileFault Graph → Except Fault Graph
  | .error fault => .error (location.fault fault)
  | .ok graph => if graph.entries?.isSome then .ok graph else .error (.noMap location.shown)

def load (store : Store) (location : Location) : Except Fault Graph :=
  location.config (location.read store)

end Location

structure Request where
  path : Option Path
  level : Option Text
  environment : Option Text
  plain : Bool

def fallbackName (level : Option Text) : Text :=
  match level with
  | some (c :: rest) => c :: rest
  | _ => "INFO"

inductive FallbackFault
  | unknown
  /-- The name stands for something that is neither number nor text. -/
  | unusable
  deriving DecidableEq, Repr

/-- The registered entry that is no number but a text. -/
def lineEntry : Text := "%(levelname)s:%(name)s:%(message)s"

def styleEntry : Text :=
  "\x7b'%': (<class 'logging.PercentStyle'>, '%(levelname)s:%(name)s:%(message)s'), " ++
  "'\x7b': (<class 'logging.StrFormatStyle'>, " ++
  "'\x7blevelname\x7d:\x7bname\x7d:\x7bmessage\x7d'), " ++
  "'$': (<class 'logging.StringTemplateStyle'>, " ++
  "'$\x7blevelname\x7d:$\x7bname\x7d:$\x7bmessage\x7d')\x7d"

def FallbackFault.message : FallbackFault → Text
  | .unknown => "Unknown level: '" ++ lineEntry ++ "'"
  | .unusable => "Level not an integer or a valid string: " ++ styleEntry

def fallbackLevel (name : Text) : Except FallbackFault Level :=
  let name := Level.capitals name
  if name = "BASIC_FORMAT".toList then .error .unknown
  else if name = "_STYLES".toList then .error .unusable
  else .ok ((Level.ofName? name).getD .info)

def plainHandler : Handler := ⟨.notSet, .standardError, .ofText Format.basicText⟩

inductive SetupFault
  | fallback (fault : FallbackFault)
  /-- A fault that the fallback does not cover. -/
  | uncovered (fault : Fault)
  deriving Repr

/-- What a set-up leaves: the loggers, and what it has written to standard error or the fault that
it ends in. -/
structure Attempt where
  loggers : Loggers
  written : Except SetupFault Text

structure Outcome where
  loggers : Loggers
  written : Text

def Attempt.outcome (attempt : Attempt) : Except SetupFault Outcome :=
  attempt.written.map (Outcome.mk attempt.loggers)

/-- Replaces the handlers of the root by the plain one, and then sets its level. -/
def usePlain (name : Text) (loggers : Loggers) : Loggers × Option FallbackFault :=
  let root := { loggers.root with handlers := [plainHandler] }
  match fallbackLevel name with
  | .ok level => ({ loggers with root := { root with level } }, none)
  | .error fault => ({ loggers with root }, some fault)

/-- Where the configuration is that is asked for. There is a packaged one for every environment. -/
def Request.location (request : Request) (fromProcess : Option Text) : Location :=
  match request.path with
  | some path => .file path
  | none => .packaged (Path.ofText (Packaged.wanted none request.environment fromProcess))

def configuredReport (location : Location) : Record :=
  .of .logging .debug ("Logging configured from: " ++ location.shown)

def fallbackReport (reason name : Text) : Record :=
  .of .logging .warning ("Failed to configure logging from file (" ++ reason ++
    "), using basic console logging at " ++ name ++ " level")

/-- How a configuration is applied to the loggers. What was applied before a fault stays applied. -/
abbrev Apply := Graph → Loggers → Loggers × Option Fault

def adjust (level : Option Text) (config : Graph) : Graph × Option Fault :=
  match level with
  | some (c :: rest) => override (c :: rest) config
  | _ => (config, none)

def setupFrom (apply : Apply) (location : Location) (found : Except Yaml.FileFault Graph)
    (level : Option Text) (loggers : Loggers) : Loggers × Option Fault :=
  match location.config found with
  | .error fault => (loggers, some fault)
  | .ok config =>
    match adjust level config with
    | (_, some fault) => (loggers, some fault)
    | (config, none) => apply config loggers

/-- Falls back to the plain handler, and tells why if there is a reason. -/
def fallBack (reason : Option Fault) (name : Text) (loggers : Loggers) : Attempt :=
  match usePlain name loggers with
  | (loggers, some fault) => ⟨loggers, .error (.fallback fault)⟩
  | (loggers, none) =>
    match reason with
    | none => ⟨loggers, .ok []⟩
    | some fault => ⟨loggers, .ok (loggers.emit (fallbackReport fault.message name))⟩

def setupWith (apply : Apply) (location : Location) (found : Except Yaml.FileFault Graph)
    (request : Request) (loggers : Loggers) : Attempt :=
  let name := fallbackName request.level
  if request.plain then fallBack none name loggers
  else
    match setupFrom apply location found request.level loggers with
    | (loggers, none) => ⟨loggers, .ok (loggers.emit (configuredReport location))⟩
    | (loggers, some fault) =>
      if fault.isCovered then fallBack (some fault) name loggers
      else ⟨loggers, .error (.uncovered fault)⟩

def setup (store : Store) (fromProcess : Option Text) (request : Request) (loggers : Loggers) :
    Attempt :=
  let location := request.location fromProcess
  setupWith configure location (location.read store) request loggers

end ClientFacade.Log
