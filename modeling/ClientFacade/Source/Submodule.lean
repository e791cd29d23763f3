import ClientFacade.Text.Blank

/-!
# The submodule of a source

A source belongs to the submodule that it opens inside a fixed nesting of modules. The nesting is
found by its text alone: `module`, one blank, the name, a run of blanks, and so on for each outer
module, then the same for the submodule, whose name is any run of characters that are not blank.
The first place of the text where all this stands decides.
-/

namespace ClientFacade.Submodule

def afterBlanks? : Text → Option Text
  | c :: rest => if isBlank c then some (Text.trimLeft rest) else none
  | [] => none

def afterModule? (text : Text) : Option Text :=
  match Text.dropBeginning? "module" text with
  | some (c :: rest) => if isBlank c then some rest else none
  | _ => none

def afterOpening? (name text : Text) : Option Text :=
  (afterModule? text).bind fun rest => (Text.dropBeginning? name rest).bind afterBlanks?

/-- What follows the openings of the modules of `nesting`, outermost first. -/
def afterNesting? : List Text → Text → Option Text
  | [], text => some text
  | name :: inner, text => (afterOpening? name text).bind (afterNesting? inner)

/-- The name of the module opened here, whatever it is. -/
def opened? (text : Text) : Option Text :=
  (afterModule? text).bind fun rest =>
    let name := rest.takeWhile (!isBlank ·)
    if name = [] then none
    else (afterBlanks? (rest.dropWhile (!isBlank ·))).map fun _ => name

def here? (nesting : List Text) (text : Text) : Option Text :=
  (afterNesting? nesting text).bind opened?

/-- The submodule at the first place of the text that has one. -/
def find? (nesting : List Text) : Text → Option Text
  | [] => here? nesting []
  | c :: rest =>
    match here? nesting (c :: rest) with
    | some name => some name
    | none => find? nesting rest

end ClientFacade.Submodule
