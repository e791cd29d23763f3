import ClientFacade.Text.Blank
import ClientFacade.Text.Lines

/-!
# Methods and their headers

A method is known by its header and the comment lines directly above it. The header is the line that
starts with `def` and a blank. It is read as a name and a parameter text, which is kept as it is
written so that it can serve as the arguments of a call. The name runs up to the first opening
parenthesis and may not be empty, the parameters up to the last closing one on that line. A header
without any parenthesis is a name alone. In every other case the header is not recognised, and all
that follows `def` counts as the name. The name and the parameters of a method are always read off
its header, so they cannot disagree with it.
-/

namespace ClientFacade

structure Header where
  name : Text
  parameters : Text
  recognised : Bool
  deriving DecidableEq, Repr

namespace Header

def afterKeyword? : Text → Option Text
  | 'd' :: 'e' :: 'f' :: c :: rest => if isBlank c then some rest else none
  | _ => none

/-- The parameter text, given what follows the opening parenthesis: up to the last closing
parenthesis before the first line feed. -/
def parameters? (tail : Text) : Option Text := Text.beforeLast? ')' (Text.firstLine tail)

/-- The name without parameters that stands in for a header of no known shape. -/
def unrecognised (name : Text) : Header := ⟨name, [], false⟩

def ofBody (body : Text) : Header :=
  match Text.breakAt? '(' body with
  | none => if body = [] then unrecognised [] else ⟨body.trim, [], true⟩
  | some (before, tail) =>
    match before, parameters? tail with
    | _ :: _, some inside => ⟨before.trim, inside.trim, true⟩
    | _, _ => unrecognised body.trimLeft

def parse (signature : Text) : Header :=
  match afterKeyword? signature with
  | some body => ofBody body
  | none => unrecognised signature

end Header

structure Method where
  docLines : List Text
  signature : Text
  deriving DecidableEq, Repr

namespace Method

def header (method : Method) : Header := Header.parse method.signature

def name (method : Method) : Text := method.header.name

def parameters (method : Method) : Text := method.header.parameters

def recognised (method : Method) : Bool := method.header.recognised

def constructorName : Text := "initialize"

def isConstructor (method : Method) : Bool := method.name = constructorName

end Method

end ClientFacade
