import ClientFacade.Facade.Basic
import ClientFacade.Path

/-!
# Settings

The settings of a run say where the facade stands, how the submodules are nested, which type the
sub-clients have, which files are read, and whether a collision of identifiers is an error. Every
setting has a default. Settings are read from a map and checked as a whole. Afterwards the files and
the strictness may be overridden.

The class and the modules have constant names: a capital letter and then letters, digits and
underscores, all of ASCII. The name of a module may also be followed by one line feed.
-/

namespace ClientFacade

def isCapital (c : Char) : Bool := 'A' ≤ c && c ≤ 'Z'

def isNameChar (c : Char) : Bool :=
  isCapital c || ('a' ≤ c && c ≤ 'z') || ('0' ≤ c && c ≤ '9') || c = '_'

def isConstantName : Text → Bool
  | [] => false
  | c :: rest => isCapital c && rest.all isNameChar

/-- The text without one line feed at its end. -/
def dropFinalFeed (text : Text) : Text :=
  if text.getLast? = some '\n' then text.dropLast else text

def isModuleName (text : Text) : Bool := isConstantName (dropFinalFeed text)

structure Settings where
  modulePath : List Text
  className : Text
  nesting : List Text
  template : Text
  files : List Path
  strict : Bool
  deriving DecidableEq, Repr

namespace Settings

variable [Machine]

def defaultNesting : List Text := ["Line", "Bot", "V2"]

def defaults : Settings where
  modulePath := ["Line", "Bot", "V2", "AllInOne"]
  className := "ApiClient"
  nesting := defaultNesting
  template := "::Line::Bot::V2::\x7bsubmodule\x7d::ApiClient"
  files := ["./lib/line/bot/v2/messaging_api/api/messaging_api_client.rb",
    "./lib/line/bot/v2/messaging_api/api/messaging_api_blob_client.rb"].map
      fun name => Path.ofText name.toList
  strict := false

def checkModuleNames (names : List Text) : Checked (List Text) :=
  let wrong := names.filter (!isModuleName ·)
  if wrong = [] then .valid names
  else Checked.problem
    (.invalid ("Module names must be Ruby constant names: " ++ Text.quotedList wrong))

def moduleNames (value : Value) : Checked (List Text) :=
  (Checked.list Checked.text value).andThen checkModuleNames

def checkClassName (name : Text) : Checked Text :=
  if isConstantName name then .valid name else Checked.problem .notConstant

def className? (value : Value) : Checked Text := (Checked.text value).andThen checkClassName

def template? (value : Value) : Checked Text := (Checked.text value).andThen Checked.template

def file (value : Value) : Checked Path :=
  match value.text? with
  | some text => .valid (Path.ofText text)
  | none => Checked.problem .notPath

def ofEntries (entries : List (Scalar × Value)) : Checked Settings :=
  ((((Checked.both Settings.mk
    (Checked.optional "module_path" defaults.modulePath moduleNames entries)
    (Checked.optional "class_name" defaults.className className? entries)).ap
    (Checked.optional "submodule_namespace" defaults.nesting moduleNames entries)).ap
    (Checked.optional "subclient_type_template" defaults.template template? entries)).ap
    (Checked.optional "files" defaults.files (Checked.list file) entries)).ap
    (Checked.optional "strict_identifiers" defaults.strict Checked.bool entries)

def modelName : Text := "AggregatorConfig"

def ofValue : Value → Checked Settings := Checked.model modelName ofEntries

def toValue (settings : Settings) : Value :=
  .map [(.text "module_path", .ofTexts settings.modulePath),
    (.text "class_name", .ofText settings.className),
    (.text "submodule_namespace", .ofTexts settings.nesting),
    (.text "subclient_type_template", .ofText settings.template),
    (.text "files", .ofTexts (settings.files.map Path.text)),
    (.text "strict_identifiers", .ofBool settings.strict)]

inductive Fault
  | invalid (problems : List Problem)
  /-- The template asks for something that texts do not have. -/
  | template (fault : Template.Fault)
  deriving DecidableEq, Repr

def problemLine (problem : Problem) : Text :=
  let place : Text :=
    if problem.place = [] then "root" else Text.join " -> " (problem.place.map Step.text)
  "  " ++ place ++ ": " ++ problem.kind.message

def Fault.message : Fault → Text
  | .invalid problems =>
    "Invalid aggregator configuration:\n" ++ Text.join "\n" (problems.map problemLine)
  | .template fault => fault.message

def read (value : Value) : Except Fault Settings :=
  match ofValue value with
  | .valid settings => .ok settings
  | .problems found => .error (.invalid found)
  | .aborted fault => .error (.template fault)

/-- The settings with other files, unless there are none, and another strictness, if one is given.
-/
def override (settings : Settings) (files : List Path) (strict : Option Bool) : Settings :=
  { settings with
    files := if files = [] then settings.files else files
    strict := strict.getD settings.strict }

def facade (settings : Settings) (extractions : List Extraction) : Checked Facade :=
  Facade.checked settings.modulePath settings.className settings.template extractions

end Settings

end ClientFacade
