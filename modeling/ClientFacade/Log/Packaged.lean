import ClientFacade.Store.Basic
import ClientFacade.Text.Lowercase
import ClientFacade.Text.Lines

/-!
# Packaged logging configurations

Four configurations come with the library, one of them for every environment and the default one. An
environment may be called by a short or a long name, in any case. A configuration that is asked for
by name and does not exist is replaced by the default one. Packaged files are shown below a mark
that stands for their directory.
-/

namespace ClientFacade.Log.Packaged

def defaultFile : Text := "logging.yaml"

def timedFormat : Text := "%(asctime)s - %(name)s - %(levelname)s - %(message)s"

def configuration (formatter : Text) (formatLines : List Text) (handler package root : Text) :
    Text :=
  let head : List Text :=
    ["version: 1", "disable_existing_loggers: false", "", "formatters:"]
  let handlers : List Text :=
    ["", "handlers:", "  console:", "    class: logging.StreamHandler",
     ("    level: " : Text) ++ handler, ("    formatter: " : Text) ++ formatter,
     "    stream: ext://sys.stderr"]
  let loggers : List Text :=
    ["", "loggers:", "  client_aggregator:", ("    level: " : Text) ++ package,
     "", "root:", ("  level: " : Text) ++ root, "  handlers: [console]"]
  Text.unlines (head ++ [("  " : Text) ++ formatter ++ [':']] ++ formatLines ++ handlers ++ loggers)

def formatLine (key value : Text) : Text := "    " ++ key ++ ": \"" ++ value ++ "\""

def files : List (Text × Text) :=
  [(defaultFile, configuration "simple" [formatLine "format" "%(levelname)s: %(message)s"]
      "INFO" "INFO" "WARNING"),
   ("logging-dev.yaml", configuration "detailed"
      [formatLine "format" timedFormat, formatLine "datefmt" "%Y-%m-%d %H:%M:%S"]
      "DEBUG" "DEBUG" "WARNING"),
   ("logging-test.yaml", configuration "simple"
      [formatLine "format" "%(levelname)s: %(name)s: %(message)s"] "WARNING" "WARNING" "WARNING"),
   ("logging-prod.yaml", configuration "timestamped"
      [formatLine "format" "%(asctime)s %(levelname)s %(name)s: %(message)s"]
      "WARNING" "WARNING" "ERROR")]

/-- The directory of the packaged files, as a working directory. -/
def store : Store where
  base := ["client_aggregator", "resources"]
  entries := files.map fun (name, text) =>
    (["client_aggregator", "resources", name], .file (Utf8.encode text))

def environments : List (Text × Text) :=
  [("dev", "dev"), ("development", "dev"), ("test", "test"), ("prod", "prod"),
   ("production", "prod")]

def fileFor (environment : Text) : Text :=
  match environments.lookup environment.lower with
  | some short => "logging-" ++ short ++ ".yaml"
  | none => defaultFile

/-- The file that is asked for by name, or else by environment: the one given, or that of the
process. -/
def wanted (name environment : Option Text) (fromProcess : Option Text) : Text :=
  match name with
  | some (c :: rest) => c :: rest ++ ".yaml"
  | _ =>
    match environment with
    | some (c :: rest) => fileFor (c :: rest)
    | _ => fileFor (fromProcess.getD [])

def find (name environment fromProcess : Option Text) : Except Store.Fault Path := do
  let path := Path.ofText (wanted name environment fromProcess)
  if ← store.holds path then return path else return Path.ofText defaultFile

/-- The name that a packaged file is shown by. -/
def shown (path : Path) : Text := "<resources>/" ++ path.text

end ClientFacade.Log.Packaged
