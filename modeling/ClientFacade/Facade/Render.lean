import ClientFacade.Facade.Basic
import ClientFacade.Facade.Identifier
import ClientFacade.Log.Logged
import ClientFacade.Text.Lines

/-!
# The text of a facade

Generated code is laid out as lines at a depth, indented once per level. The modules and the class
are opened, then comes the constructor, then the delegates of every extraction in order, and then
all is closed. The constructor builds one sub-client for every submodule, in the order of their
first occurrence. A delegate repeats the comment lines and the header of its method and calls the
method of the sub-client with the parameter text as it is written. The constructors of sub-clients
are left out, with a warning for each.
-/

namespace ClientFacade

inductive Line
  | code (depth : Nat) (text : Text)
  | blank
  deriving DecidableEq, Repr

namespace Line

def defaultIndent : Text := "  "

def indentation (indent : Text) (depth : Nat) : Text := (List.replicate depth indent).flatten

def text (indent : Text) : Line → Text
  | .code depth text => indentation indent depth ++ text
  | .blank => []

def render (indent : Text) (lines : List Line) : Text :=
  Text.unlines (lines.map (text indent))

theorem render_append (indent : Text) (first second : List Line) :
    render indent (first ++ second) = render indent first ++ render indent second := by
  simp [render, Text.unlines_append]

end Line

namespace Facade

variable [Runtime]

def constructorDocs : List Text :=
  ["# Initialises the aggregator.",
   "# Builds every sub-client.",
   "#",
   "# @param base_url [String] Base URL passed to every sub-client",
   "# @param channel_access_token [String] Channel access token",
   "# @param http_options [Hash] HTTP options passed to every sub-client"]

def constructorSignature : Text :=
  "def initialize(base_url: nil, channel_access_token:, http_options: \x7b\x7d)"

def closing : Text := "end"

def classDepth (facade : Facade) : Nat := facade.modulePath.length

def moduleLines (depth : Nat) : List Text → List Line
  | [] => []
  | name :: inner => .code depth ("module " ++ name) :: moduleLines (depth + 1) inner

def openingLines (facade : Facade) : List Line :=
  moduleLines 0 facade.modulePath ++ [.code facade.classDepth ("class " ++ facade.className)]

/-- The closing lines from the class outwards. -/
def closingLines : Nat → List Line
  | 0 => [.code 0 closing]
  | depth + 1 => .code (depth + 1) closing :: closingLines depth

/-- The lines that build the sub-client of a submodule. -/
def construction (depth : Nat) (submodule type : Text) : List Line :=
  [.code depth (identifier submodule ++ " = " ++ type ++ ".new("),
   .code (depth + 1) "base_url: base_url,",
   .code (depth + 1) "channel_access_token: channel_access_token,",
   .code (depth + 1) "http_options: http_options",
   .code depth ")"]

def constructions (facade : Facade) (depth : Nat) :
    List Text → Except Template.Fault (List Line)
  | [] => .ok []
  | submodule :: rest => do
    let type ← facade.clientType submodule
    return construction depth submodule type ++ (← facade.constructions depth rest)

def constructor (facade : Facade) (depth : Nat) : Except Template.Fault (List Line) := do
  let body ← facade.constructions (depth + 1) facade.submodules.eraseDups
  return constructorDocs.map (.code depth) ++ [.code depth constructorSignature] ++ body ++
    [.code depth closing, .blank]

def withParameters (name parameters : Text) : Text :=
  if parameters = [] then name else name ++ "(" ++ parameters ++ ")"

def delegate (depth : Nat) (receiver : Text) (method : Method) : List Line :=
  let call := withParameters method.name method.parameters
  method.docLines.map (fun line => .code depth line.trimLeft) ++
    [.code depth ("def " ++ call), .code (depth + 1) (receiver ++ "." ++ call),
     .code depth closing, .blank]

def delegates (depth : Nat) (extraction : Extraction) : List Line :=
  (extraction.methods.filter (!·.isConstructor)).flatMap
    (delegate depth (identifier extraction.submodule))

def skipReport (extraction : Extraction) (method : Method) : Record :=
  .of .generator .warning ("Skipping sub-client constructor in " ++ extraction.path ++ ": " ++
    method.signature)

def skipReports (facade : Facade) : List Record :=
  facade.extractions.flatMap fun extraction =>
    (extraction.methods.filter (·.isConstructor)).map (skipReport extraction)

def lines (facade : Facade) : Except Template.Fault (List Line) := do
  let body ← facade.constructor (facade.classDepth + 1)
  return facade.openingLines ++ body ++
    facade.extractions.flatMap (delegates (facade.classDepth + 1)) ++ closingLines facade.classDepth

def render (facade : Facade) (indent : Text) : Except Template.Fault Text := do
  return Line.render indent (← facade.lines)

/-- The text of the facade with the reports on what it leaves out. -/
def generate (facade : Facade) (indent : Text) : Logged Template.Fault Text := do
  let text ← Logged.ofExcept (facade.render indent)
  Logged.write facade.skipReports
  return text

end Facade

end ClientFacade
