import ClientFacade.Template.Render
import ClientFacade.Value.Basic

/-!
# Checking values

A value is checked against the type that is wanted, and every problem is found: each with its
place, the names and indices that lead to it from the outermost value. Parts are checked in order
and their problems stand in that order. Only a template that asks for something that texts do not
have ends the check itself.
-/

namespace ClientFacade

inductive Step
  | name (name : Text)
  | index (index : Nat)
  deriving DecidableEq, Repr

def Step.text : Step → Text
  | .name field => field
  | .index place => Text.ofNat place

inductive ProblemKind
  | missing
  | notText
  | emptyText
  | notConstant
  | notList
  | notModel (model : Text)
  | notPath
  | notBool
  | unreadableBool
  | invalid (reason : Text)
  | frozen
  deriving DecidableEq, Repr

namespace ProblemKind

def code : ProblemKind → Text
  | .missing => "missing"
  | .notText => "string_type"
  | .emptyText => "string_too_short"
  | .notConstant => "string_pattern_mismatch"
  | .notList => "list_type"
  | .notModel _ => "model_type"
  | .notPath => "path_type"
  | .notBool => "bool_type"
  | .unreadableBool => "bool_parsing"
  | .invalid _ => "value_error"
  | .frozen => "frozen_instance"

def message : ProblemKind → Text
  | .missing => "Field required"
  | .notText => "Input should be a valid string"
  | .emptyText => "String should have at least 1 character"
  | .notConstant => "String should match pattern '^[A-Z][A-Za-z0-9_]*$'"
  | .notList => "Input should be a valid list"
  | .notModel model => "Input should be a valid dictionary or instance of " ++ model
  | .notPath => "Input is not a valid path for <class 'pathlib.Path'>"
  | .notBool => "Input should be a valid boolean"
  | .unreadableBool => "Input should be a valid boolean, unable to interpret input"
  | .invalid reason => "Value error, " ++ reason
  | .frozen => "Instance is frozen"

end ProblemKind

structure Problem where
  place : List Step
  kind : ProblemKind
  deriving DecidableEq, Repr

inductive Checked (α : Type)
  | valid (value : α)
  | problems (found : List Problem)
  | aborted (fault : Template.Fault)
  deriving DecidableEq, Repr

namespace Checked

variable {α β γ : Type}

def map (f : α → β) : Checked α → Checked β
  | .valid value => .valid (f value)
  | .problems found => .problems found
  | .aborted fault => .aborted fault

/-- Checks two parts one after the other. The problems of both count. -/
def both (f : α → β → γ) : Checked α → Checked β → Checked γ
  | .aborted fault, _ => .aborted fault
  | _, .aborted fault => .aborted fault
  | .problems first, .problems second => .problems (first ++ second)
  | .problems first, .valid _ => .problems first
  | .valid _, .problems second => .problems second
  | .valid a, .valid b => .valid (f a b)

def andThen (check : Checked α) (next : α → Checked β) : Checked β :=
  match check with
  | .valid value => next value
  | .problems found => .problems found
  | .aborted fault => .aborted fault

def within (step : Step) : Checked α → Checked α
  | .problems found => .problems (found.map fun problem => ⟨step :: problem.place, problem.kind⟩)
  | check => check

def problem (kind : ProblemKind) : Checked α := .problems [⟨[], kind⟩]

/-- A further function of one argument applied to a further part. -/
def ap (f : Checked (α → β)) (a : Checked α) : Checked β := both (fun f a => f a) f a

def text (value : Value) : Checked Text :=
  match value.text? with
  | some text => .valid text
  | none => problem .notText

def nonEmptyText (value : Value) : Checked Text :=
  (text value).andThen fun text => if text = [] then problem .emptyText else .valid text

def itemsFrom (item : Value → Checked α) (place : Nat) : List Value → Checked (List α)
  | [] => .valid []
  | value :: rest =>
    both List.cons ((item value).within (.index place)) (itemsFrom item (place + 1) rest)

def list (item : Value → Checked α) : Value → Checked (List α)
  | .list items => itemsFrom item 0 items
  | _ => problem .notList

/-- Checks the entries of a map that stands for a value of the model. -/
def model (name : Text) (read : List (Scalar × Value) → Checked α) : Value → Checked α
  | .map entries => read entries
  | _ => problem (.notModel name)

def required (name : Text) (read : Value → Checked α) (entries : List (Scalar × Value)) :
    Checked α :=
  match Value.get? name entries with
  | some value => (read value).within (.name name)
  | none => .problems [⟨[.name name], .missing⟩]

def optional (name : Text) (default : α) (read : Value → Checked α)
    (entries : List (Scalar × Value)) : Checked α :=
  match Value.get? name entries with
  | some value => (read value).within (.name name)
  | none => .valid default

def template [Machine] (text : Text) : Checked Text :=
  match Template.check text with
  | .accepted => .valid text
  | .rejected reason => problem (.invalid reason.message)
  | .aborted fault => .aborted fault

def boolText? (text : Text) : Option Bool :=
  let word := String.ofList (text.map Char.toLower)
  if ["1", "t", "true", "y", "yes", "on"].elem word then some true
  else if ["0", "f", "false", "n", "no", "off"].elem word then some false
  else none

def boolOfInt? (n : Int) : Option Bool :=
  if n = 0 then some false else if n = 1 then some true else none

def bool : Value → Checked Bool
  | .scalar (.bool value) => .valid value
  | .scalar (.int n) =>
    match boolOfInt? n with
    | some value => .valid value
    | none =>
      problem (if -0x8000000000000000 ≤ n ∧ n < 0x8000000000000000 then .unreadableBool
        else .notBool)
  | .scalar (.float x) =>
    if x.isInt 0 then .valid false else if x.isInt 1 then .valid true else problem .notBool
  | .scalar (.text text) =>
    match boolText? text with
    | some value => .valid value
    | none => problem .unreadableBool
  | _ => problem .notBool

end Checked

end ClientFacade
