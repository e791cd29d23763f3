import ClientFacade.Log.Logged
import ClientFacade.Settings.Basic
import ClientFacade.Yaml.File
import ClientFacade.Yaml.Print

/-!
# Settings files

Settings may stand in a YAML file. An empty file has the default settings. The paths of files in it
count from its directory. Settings are shown as the document that a file with all keys would be.
-/

namespace ClientFacade.Settings

variable [Machine]

inductive FileFault
  | invalid (fault : Settings.Fault)
  | malformed (path : Path)
  | unreadable (path : Path) (fault : Store.Fault)
  | noMap (path : Path)
  /-- A scalar stands for a value that does not exist. -/
  | impossible (kind : Yaml.FaultKind) (reason : Text)
  | undecodable (fault : DecodeFault)
  | nullByte
  deriving DecidableEq, Repr

def FileFault.message : FileFault → Text
  | .invalid fault => fault.message
  | .malformed path => "Failed to parse YAML config " ++ path.text ++ ": malformed document"
  | .unreadable path fault =>
    "Failed to read config file " ++ path.text ++ ": " ++ fault.message
  | .noMap path => "Invalid configuration format in " ++ path.text
  | .impossible _ reason => reason
  | .undecodable fault => fault.message
  | .nullByte => Store.Fault.nullByte.message

/-- Whether a fault is one of the file and its settings. The others are those of the scalars, bytes
and templates in it. -/
def FileFault.isOfFile : FileFault → Bool
  | .invalid (.invalid _) | .malformed _ | .unreadable _ _ | .noMap _ => true
  | _ => false

def FileFault.ofYaml (path : Path) : Yaml.FileFault → FileFault
  | .store .nullByte => .nullByte
  | .store fault => .unreadable path fault
  | .decoding fault => .undecodable fault
  | .content .malformed => .malformed path
  | .content (.impossible kind reason) => .impossible kind reason

def seenFrom (settings : Settings) (directory : Path) : Settings :=
  { settings with files := settings.files.map directory.under }

def ofFileValue (path : Path) : Value → Except FileFault Settings
  | .scalar .null => .ok (defaults.seenFrom path.parent)
  | .map entries =>
    match read (.map entries) with
    | .ok settings => .ok (settings.seenFrom path.parent)
    | .error fault => .error (.invalid fault)
  | _ => .error (.noMap path)

def readFile (store : Store) (path : Path) : Except FileFault Settings :=
  match Yaml.readFile store path with
  | .error fault => .error (.ofYaml path fault)
  | .ok value => ofFileValue path value

def load (store : Store) (path : Path) : Logged FileFault Settings := do
  Logged.log .config .debug ("Loading configuration from: " ++ path.text)
  Logged.ofExcept (readFile store path)

def contents (settings : Settings) : List (Text × Yaml.Print.Content) :=
  [("module_path", .texts settings.modulePath),
   ("class_name", .text settings.className),
   ("submodule_namespace", .texts settings.nesting),
   ("subclient_type_template", .text settings.template),
   ("files", .texts (settings.files.map Path.text)),
   ("strict_identifiers", .flag settings.strict)]

def shown (settings : Settings) : Text := Yaml.Print.document settings.contents

end ClientFacade.Settings
