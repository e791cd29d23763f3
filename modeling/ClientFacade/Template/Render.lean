import ClientFacade.Template.Layout
import ClientFacade.Template.Piece

/-!
# Rendering a template

A template is rendered for a submodule name, which is all that its fields can refer to. The pieces
are rendered in order and the first fault ends it. In a field the base is looked up first, then
come the accesses, the conversion, the spec if it is nested, and the layout. A template is accepted
if it holds the placeholder and renders for a probe name. A fault of the probe is reported as a
problem of the template, except for an access that texts do not have, a text that is too wide, and
some faults of objects.
-/

namespace ClientFacade

structure Template where
  pieces : List (Template.Piece Template.OuterSpec)

namespace Template

def fieldName : Text := "submodule"

def placeholder : Text := "\x7bsubmodule\x7d"

/-- The name that a template is tried on. -/
def probe : Text := "Submodule"

def ofText (text : Text) : Template :=
  ⟨readPieces (Spec.ofText (readPieces (Spec.ofText fun _ => ()))) text⟩

def Base.resolve (name : Text) : Base → Except Fault Text
  | .named field => if field = fieldName then .ok name else .error (.unknownName field)
  | .position index => .error (.noPosition index)
  | .malformed fault => .error fault

/-- What accesses of a text lead to that start with an attribute. -/
def Objects.follow (objects : Objects) (moment : Moment) (origin : Text) (path : List Access) :
    Except Fault Thing :=
  match objects.reach moment origin path with
  | .ok (some content) => .ok (.text content)
  | .ok none => .ok (.object origin path)
  | .error raised => .error (.ofObject raised)

def Access.apply (objects : Objects) (moment : Moment) (thing : Thing) :
    Access → Except Fault Thing
  | .malformed fault => .error fault
  | access =>
    match thing, access with
    | .object origin path, access => objects.follow moment origin (path ++ [access])
    | .text value, .attribute name =>
      if textAttributes.elem name then objects.follow moment value [.attribute name]
      else .error (.noAttribute name)
    | .text value, .index place =>
      match value[place]? with
      | some c => .ok (.text [c])
      | none => .error .indexPastEnd
    | .text _, _ => .error .textKey

def applyAll (objects : Objects) (moment : Moment) (thing : Thing) :
    List Access → Except Fault Thing
  | [] => .ok thing
  | access :: rest => do
    applyAll objects moment (← access.apply objects (rest.length :: moment) thing) rest

def convert (value : Text) : Option Char → Except Fault Text
  | none => .ok value
  | some 's' => .ok value
  | some 'r' => .ok value.quoted
  | some 'a' => .ok value.quotedAscii
  | some c => .error (.unknownConversion c)

def conversions : List Char := ['s', 'r', 'a']

/-- An object is left as it is without a conversion, and becomes a text by any. -/
def Thing.convert (objects : Objects) (moment : Moment) :
    Thing → Option Char → Except Fault Thing
  | .text value, conversion => (Template.convert value conversion).map .text
  | .object origin path, none => .ok (.object origin path)
  | .object origin path, some c =>
    if conversions.elem c then
      match objects.convert moment origin path c with
      | .ok content => .ok (.text content)
      | .error raised => .error (.ofObject raised)
    else .error (.unknownConversion c)

section Rendering

variable [Machine]

def Thing.layOut (objects : Objects) (moment : Moment) (spec : Text) : Thing → Except Fault Text
  | .text value => Template.layOut spec value
  | .object origin path =>
    match objects.format moment origin path spec with
    | .ok shown => .ok shown
    | .error raised => .error (.ofObject raised)

def Field.render {σ : Type} (objects : Objects) (moment : Moment) (expand : σ → Except Fault Text)
    (name : Text) (field : Field σ) : Except Fault Text := do
  let value ← field.base.resolve name
  let thing ← applyAll objects moment (.text value) field.accesses
  let thing ← thing.convert objects moment field.conversion
  let spec ← expand field.spec
  thing.layOut objects moment spec

def Piece.render {σ : Type} (objects : Objects) (moment : Moment) (expand : σ → Except Fault Text)
    (name : Text) : Piece σ → Except Fault Text
  | .literal text => .ok text
  | .field part => part.render objects moment expand name
  | .malformed fault => .error fault

/-- The pieces in order, each rendered with the number of pieces behind it. -/
def renderAll {σ : Type} (render : Nat → Piece σ → Except Fault Text) :
    List (Piece σ) → Except Fault Text
  | [] => .ok []
  | piece :: rest => do return (← render rest.length piece) ++ (← renderAll render rest)

def Spec.expand {σ : Type} (expand : σ → Except Fault Text) : Spec σ → Except Fault Text
  | .plain text => .ok text
  | .nested inner => expand inner

def expandInner : InnerSpec → Except Fault Text := Spec.expand fun _ => .error .nestedTooDeep

def expandOuter (objects : Objects) (moment : Moment) (name : Text) :
    OuterSpec → Except Fault Text :=
  Spec.expand (renderAll fun place => Piece.render objects (place :: moment) expandInner name)

def render (objects : Objects) (template : Template) (name : Text) : Except Fault Text :=
  renderAll (fun place => Piece.render objects [place] (expandOuter objects [place] name) name)
    template.pieces

end Rendering

inductive Problem
  | noPlaceholder
  | invalid (fault : Fault)
  deriving DecidableEq, Repr

def Problem.message : Problem → Text
  | .noPlaceholder => "Sub-client type template must contain " ++ placeholder
  | .invalid fault => "Invalid sub-client type template: " ++ fault.message

/-- Whether a fault of the probe is a problem of the template. Any other ends the check itself. -/
def Fault.reported (fault : Fault) : Bool :=
  match fault.kind with
  | .malformed | .index | .name => true
  | .attribute | .access | .memory | .other _ => false

inductive Verdict
  | accepted
  | rejected (problem : Problem)
  | aborted (fault : Fault)
  deriving DecidableEq, Repr

def check [Machine] (text : Text) : Verdict :=
  if Text.hasPart placeholder text then
    match (ofText text).render Machine.checking probe with
    | .ok _ => .accepted
    | .error fault => if fault.reported then .rejected (.invalid fault) else .aborted fault
  else .rejected .noPlaceholder

end Template

end ClientFacade
