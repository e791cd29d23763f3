import ClientFacade.Proofs.Outcome
import ClientFacade.Template.Render

/-!
# Templates without attributes

A template none of whose fields asks for an attribute never meets an object. Its types are made of
the characters of the name alone, so that every runtime makes the same ones. How they are made is
written down here a second time, without objects and moments.
-/

namespace ClientFacade.Template

def Access.isAttribute : Access → Bool
  | .attribute _ => true
  | _ => false

/-- The accesses of a piece, with `inner` for those in its spec. -/
def Piece.allAccesses {σ : Type} (inner : σ → List Access) : Piece σ → List Access
  | .field part => part.accesses ++ inner part.spec
  | _ => []

/-- The accesses of the fields in a nested spec. Their own specs are never nested. -/
def OuterSpec.allAccesses : OuterSpec → List Access
  | .plain _ => []
  | .nested pieces => pieces.flatMap (Piece.allAccesses fun _ => [])

def allAccesses (template : Template) : List Access :=
  template.pieces.flatMap (Piece.allAccesses OuterSpec.allAccesses)

def NoAttributes (accesses : List Access) : Prop := ∀ access ∈ accesses, access.isAttribute = false

instance (accesses : List Access) : Decidable (NoAttributes accesses) :=
  inferInstanceAs (Decidable (∀ access ∈ accesses, _))

theorem noAttributes_append {first second : List Access} :
    NoAttributes (first ++ second) ↔ NoAttributes first ∧ NoAttributes second := by
  simp [NoAttributes, or_imp, forall_and]

theorem noAttributes_flatMap {α : Type} {items : List α} {f : α → List Access} :
    NoAttributes (items.flatMap f) ↔ ∀ item ∈ items, NoAttributes (f item) := by
  simp only [NoAttributes, List.mem_flatMap]
  exact ⟨fun h item hitem access haccess => h access ⟨item, hitem, haccess⟩,
    fun h access ⟨item, hitem, haccess⟩ => h item hitem access haccess⟩

/-- No field of the template asks for an attribute, nested specs included. -/
def Textual (template : Template) : Prop := NoAttributes template.allAccesses

instance (template : Template) : Decidable template.Textual :=
  inferInstanceAs (Decidable (NoAttributes _))

/-! ## Types from the name alone -/

def Access.take (value : Text) : Access → Except Fault Text
  | .attribute name => .error (.noAttribute name)
  | .index place =>
    match value[place]? with
    | some c => .ok [c]
    | none => .error .indexPastEnd
  | .key _ => .error .textKey
  | .malformed fault => .error fault

def takeAll (value : Text) : List Access → Except Fault Text
  | [] => .ok value
  | access :: rest => do takeAll (← access.take value) rest

section Accesses

variable (objects : Objects)

theorem apply_eq_take {access : Access} (h : access.isAttribute = false) (moment : Moment)
    (value : Text) : access.apply objects moment (.text value) = (access.take value).map .text := by
  match access, h with
  | .index place, _ =>
    cases hplace : value[place]? <;> simp [Access.apply, Access.take, hplace, Except.map]
  | .key _, _ => rfl
  | .malformed _, _ => rfl

theorem applyAll_eq_takeAll {accesses : List Access} (h : NoAttributes accesses) (moment : Moment)
    (value : Text) :
    applyAll objects moment (.text value) accesses = (takeAll value accesses).map .text := by
  induction accesses generalizing value with
  | nil => rfl
  | cons access rest ih =>
    obtain ⟨haccess, hrest⟩ := List.forall_mem_cons.mp h
    rw [applyAll, apply_eq_take objects haccess, takeAll]
    cases access.take value with
    | error fault => rfl
    | ok next => exact ih hrest next

end Accesses

/-- What a field makes of a name before it is laid out. -/
def Field.value {σ : Type} (name : Text) (field : Field σ) : Except Fault Text := do
  let value ← field.base.resolve name
  let value ← takeAll value field.accesses
  convert value field.conversion

section Plain

variable [Machine]

def Field.plain {σ : Type} (expand : σ → Except Fault Text) (name : Text) (field : Field σ) :
    Except Fault Text := do
  let value ← field.value name
  let spec ← expand field.spec
  layOut spec value

def Piece.plain {σ : Type} (expand : σ → Except Fault Text) (name : Text) :
    Piece σ → Except Fault Text
  | .literal text => .ok text
  | .field part => part.plain expand name
  | .malformed fault => .error fault

def plainAll {σ : Type} (expand : σ → Except Fault Text) (name : Text) :
    List (Piece σ) → Except Fault Text
  | [] => .ok []
  | piece :: rest => do return (← piece.plain expand name) ++ (← plainAll expand name rest)

def expandPlain (name : Text) : OuterSpec → Except Fault Text :=
  Spec.expand (plainAll expandInner name)

/-- The template with `name` for the submodule, in a runtime without objects. -/
def plain (template : Template) (name : Text) : Except Fault Text :=
  plainAll (expandPlain name) name template.pieces

/-! ## The runtime does not matter -/

variable {σ : Type} (objects : Objects)

theorem Field.render_eq_plain {field : Field σ} (h : NoAttributes field.accesses)
    {expand other : σ → Except Fault Text} (hspec : expand field.spec = other field.spec)
    (moment : Moment) (name : Text) :
    field.render objects moment expand name = field.plain other name := by
  rw [Field.render, Field.plain, Field.value, bind_assoc]
  refine bind_congr fun base => ?_
  rw [applyAll_eq_takeAll objects h, except_map_bind, bind_assoc]
  refine bind_congr fun taken => ?_
  rw [Thing.convert, except_map_bind, hspec]
  rfl

theorem Piece.render_eq_plain {piece : Piece σ} {inner : σ → List Access}
    (h : NoAttributes (piece.allAccesses inner)) {expand other : σ → Except Fault Text}
    (hspec : ∀ spec, NoAttributes (inner spec) → expand spec = other spec) (moment : Moment)
    (name : Text) : piece.render objects moment expand name = piece.plain other name := by
  cases piece with
  | literal alone => rfl
  | malformed fault => rfl
  | field part =>
    obtain ⟨haccesses, hinner⟩ := noAttributes_append.mp h
    exact Field.render_eq_plain objects haccesses (hspec part.spec hinner) moment name

/-- What holds of every piece, wherever it stands, holds of all of them in order. -/
theorem renderAll_eq_plainAll {render : Nat → Piece σ → Except Fault Text}
    {expand : σ → Except Fault Text} {name : Text} {pieces : List (Piece σ)}
    (h : ∀ piece ∈ pieces, ∀ place, render place piece = piece.plain expand name) :
    renderAll render pieces = plainAll expand name pieces := by
  induction pieces with
  | nil => rfl
  | cons piece rest ih =>
    obtain ⟨hpiece, hrest⟩ := List.forall_mem_cons.mp h
    rw [renderAll, plainAll, hpiece, ih hrest]

theorem expandOuter_eq_expandPlain {spec : OuterSpec} (h : NoAttributes spec.allAccesses)
    (moment : Moment) (name : Text) :
    expandOuter objects moment name spec = expandPlain name spec := by
  cases spec with
  | plain alone => rfl
  | nested pieces =>
    refine renderAll_eq_plainAll fun piece hpiece place => ?_
    exact Piece.render_eq_plain objects (noAttributes_flatMap.mp h piece hpiece)
      (fun _ _ => rfl) _ name

theorem render_of_textual {template : Template} (h : template.Textual) (name : Text) :
    template.render objects name = template.plain name := by
  refine renderAll_eq_plainAll fun piece hpiece place => ?_
  exact Piece.render_eq_plain objects (noAttributes_flatMap.mp h piece hpiece)
    (fun spec hspec => expandOuter_eq_expandPlain objects hspec _ name) _ name

end Plain

end ClientFacade.Template
