import ClientFacade.Proofs.Template.Plain
import ClientFacade.Proofs.Template.Spec

/-!
# How far a template reaches into a name

The first access of a field can be an index, and then the name has to be longer than this index. No
name is longer than those that the indexes of a template ask for just because it is like the probe,
so that a template that renders for the probe may not render for a shorter name. Nothing else can
keep it from that: every other fault would have shown with the probe.
-/

namespace ClientFacade.Template

/-- A step that gives a result with `R` if `p` holds, and ends at an index past the end if not. -/
def Guarded {α : Type} (p : Prop) (R : α → Prop) (step : Except Fault α) : Prop :=
  (p ∧ ∃ a, step = .ok a ∧ R a) ∨ (¬ p ∧ step = .error .indexPastEnd)

namespace Guarded

variable {α β : Type} {p q : Prop} {R : α → Prop} {S : β → Prop} {step : Except Fault α}
  {next : α → Except Fault β}

theorem of_ok {a : α} (h : step = .ok a) (ha : R a) : Guarded True R step :=
  Or.inl ⟨trivial, a, h, ha⟩

theorem bind (h : Guarded p R step) (hnext : ∀ a, R a → Guarded q S (next a)) :
    Guarded (p ∧ q) S (step >>= next) := by
  rcases h with ⟨hp, a, rfl, ha⟩ | ⟨hp, rfl⟩
  · rcases hnext a ha with ⟨hq, hresult⟩ | ⟨hq, hfault⟩
    · exact Or.inl ⟨⟨hp, hq⟩, hresult⟩
    · exact Or.inr ⟨fun hboth => hq hboth.2, hfault⟩
  · exact Or.inr ⟨fun hboth => hp hboth.1, rfl⟩

theorem bind_ok {f : α → β} (h : Guarded p R step) (hf : ∀ a, R a → S (f a)) :
    Guarded p S (step >>= fun a => .ok (f a)) := by
  rcases h with ⟨hp, a, rfl, ha⟩ | ⟨hp, rfl⟩
  · exact Or.inl ⟨hp, f a, rfl, hf a ha⟩
  · exact Or.inr ⟨hp, rfl⟩

theorem congr (h : Guarded p R step) (hiff : p ↔ q) : Guarded q R step := by
  rwa [← hiff]

theorem mono {T : α → Prop} (h : Guarded p R step) (himp : ∀ a, R a → T a) :
    Guarded p T step := by
  rcases h with ⟨hp, a, hstep, ha⟩ | hfault
  · exact Or.inl ⟨hp, a, hstep, himp a ha⟩
  · exact Or.inr hfault

theorem exists_ok_iff (h : Guarded p R step) : (∃ a, step = .ok a) ↔ p := by
  rcases h with ⟨hp, a, rfl, -⟩ | ⟨hp, rfl⟩
  · simp [hp]
  · simp [hp]

theorem fault_eq (h : Guarded p R step) {fault : Fault} (hfault : step = .error fault) :
    fault = .indexPastEnd := by
  rcases h with ⟨-, a, hok, -⟩ | ⟨-, hend⟩
  · rw [hok] at hfault
    cases hfault
  · rw [hend] at hfault
    cases hfault
    rfl

end Guarded

def Field.index? {σ : Type} (field : Field σ) : Option Nat :=
  match field.accesses with
  | .index place :: _ => some place
  | _ => none

def Piece.indexes {σ : Type} (inner : σ → List Nat) : Piece σ → List Nat
  | .field part => part.index?.toList ++ inner part.spec
  | _ => []

def indexesAll {σ : Type} (inner : σ → List Nat) (pieces : List (Piece σ)) : List Nat :=
  pieces.flatMap (Piece.indexes inner)

theorem indexesAll_cons {σ : Type} (inner : σ → List Nat) (piece : Piece σ)
    (rest : List (Piece σ)) :
    indexesAll inner (piece :: rest) = piece.indexes inner ++ indexesAll inner rest := rfl

/-- The indexes of the fields in a nested spec. Their own specs are never nested. -/
def OuterSpec.indexes : OuterSpec → List Nat
  | .plain _ => []
  | .nested pieces => indexesAll (fun _ => []) pieces

/-- All indexes that directly follow a base in the template. -/
def indexes (template : Template) : List Nat := indexesAll OuterSpec.indexes template.pieces

/-- Whether a name is longer than all indexes ask for. -/
def Within (places : List Nat) (name : Text) : Prop := ∀ place ∈ places, place < name.length

theorem within_append {first second : List Nat} {name : Text} :
    Within (first ++ second) name ↔ Within first name ∧ Within second name := by
  simp [Within, or_imp, forall_and]

/-- A field is rendered by laying out its value as its spec says. -/
theorem Field.exists_of_plain [Machine] {σ : Type} {expand : σ → Except Fault Text}
    {name text : Text} {field : Field σ} (h : field.plain expand name = .ok text) :
    ∃ value spec, field.value name = .ok value ∧ expand field.spec = .ok spec ∧
      layOut spec value = .ok text := by
  obtain ⟨value, hvalue, h₁⟩ := except_bind_eq_ok_iff.mp h
  obtain ⟨spec, hspec, hlaid⟩ := except_bind_eq_ok_iff.mp h₁
  exact ⟨value, spec, hvalue, hspec, hlaid⟩

theorem eq_of_resolve {base : Base} {name value : Text} (h : base.resolve name = .ok value) :
    base = .named fieldName ∧ value = name := by
  unfold Base.resolve at h
  split at h
  · split_ifs at h with hfield
    exact ⟨by rw [hfield], (Except.ok.inj h).symm⟩
  · cases h
  · cases h

/-- A field has a value just if it refers to the name and its steps succeed on the name. -/
theorem Field.value_eq_ok_iff {σ : Type} {field : Field σ} {name value : Text} :
    field.value name = .ok value ↔ field.base = .named fieldName ∧
      ∃ taken, takeAll name field.accesses = .ok taken ∧
        convert taken field.conversion = .ok value := by
  constructor
  · intro h
    obtain ⟨base, hbase, h₁⟩ := except_bind_eq_ok_iff.mp h
    obtain ⟨taken, htaken, hconverted⟩ := except_bind_eq_ok_iff.mp h₁
    obtain ⟨hnamed, rfl⟩ := eq_of_resolve hbase
    exact ⟨hnamed, taken, htaken, hconverted⟩
  · rintro ⟨hnamed, taken, htaken, hconverted⟩
    have hbase : field.base.resolve name = .ok name := by rw [hnamed, Base.resolve, if_pos rfl]
    refine except_bind_eq_ok_iff.mpr ⟨name, hbase, ?_⟩
    exact except_bind_eq_ok_iff.mpr ⟨taken, htaken, hconverted⟩

/-- How what a field makes of the probe goes with what it makes of another name. -/
structure Similar (first second : Text) : Prop where
  marks : ∀ c ∈ first, isMark c = true
  left_ne_nil : first ≠ []
  right_ne_nil : second ≠ []
  single : first.length = 1 → second.length = 1

/-- A text has no attributes and no keys. -/
theorem exists_index_of_take {access : Access} {value next : Text}
    (h : access.take value = .ok next) :
    ∃ place c, access = .index place ∧ value[place]? = some c ∧ next = [c] := by
  unfold Access.take at h
  split at h
  · cases h
  · next place =>
    cases hc : value[place]? with
    | none => simp [hc] at h
    | some c =>
      rw [hc] at h
      exact ⟨place, c, rfl, hc, (Except.ok.inj h).symm⟩
  · cases h
  · cases h

theorem takeAll_single {accesses : List Access} {c : Char} {value : Text}
    (h : takeAll [c] accesses = .ok value) :
    value = [c] ∧ ∀ d, takeAll [d] accesses = .ok [d] := by
  induction accesses with
  | nil =>
    obtain rfl := Except.ok.inj h
    exact ⟨rfl, fun _ => rfl⟩
  | cons access rest ih =>
    obtain ⟨next, haccess, hrest⟩ := except_bind_eq_ok_iff.mp h
    obtain ⟨place, d, rfl, hplace, rfl⟩ := exists_index_of_take haccess
    obtain ⟨rfl, rfl⟩ : place = 0 ∧ c = d := by
      cases place with
      | zero => exact ⟨rfl, by simpa using hplace⟩
      | succ place => simp at hplace
    obtain ⟨hvalue, hall⟩ := ih hrest
    exact ⟨hvalue, fun d => except_bind_eq_ok_iff.mpr ⟨[d], rfl, hall d⟩⟩

/-- A field takes the whole name or one character of it. -/
theorem takeAll_guarded {accesses : List Access} {value name : Text}
    (h : takeAll probe accesses = .ok value) (hname : name ≠ []) :
    (value = probe ∨ ∃ c ∈ probe, value = [c]) ∧
      Guarded (∀ place rest, accesses = .index place :: rest → place < name.length)
        (fun other => other ≠ [] ∧ (value.length = 1 → other.length = 1))
        (takeAll name accesses) := by
  cases accesses with
  | nil =>
    obtain rfl := Except.ok.inj h
    refine ⟨Or.inl rfl, Or.inl ⟨by simp, name, rfl, hname, fun hone => ?_⟩⟩
    exact absurd hone (by decide)
  | cons access rest =>
    obtain ⟨next, haccess, hrest⟩ := except_bind_eq_ok_iff.mp h
    obtain ⟨place, c, rfl, hc, rfl⟩ := exists_index_of_take haccess
    obtain ⟨rfl, hall⟩ := takeAll_single hrest
    refine ⟨Or.inr ⟨c, List.mem_of_getElem? hc, rfl⟩, ?_⟩
    by_cases hplace : place < name.length
    · have hother : takeAll name (.index place :: rest) = .ok [name[place]] := by
        refine except_bind_eq_ok_iff.mpr ⟨[name[place]], ?_, hall _⟩
        simp [Access.take, hplace]
      refine Or.inl ⟨?_, _, hother, by simp, by simp⟩
      intro place' rest' heq
      cases heq
      exact hplace
    · have hfault : takeAll name (.index place :: rest) = .error .indexPastEnd := by
        have hnone : name[place]? = none := List.getElem?_eq_none (by omega)
        simp [takeAll, Access.take, hnone, bind, Except.bind]
      exact Or.inr ⟨fun hall => hplace (hall place rest rfl), hfault⟩

theorem length_quotedBy (shown : Char → Bool) (text : Text) :
    2 ≤ (Text.quotedBy shown text).length := by
  simp [Text.quotedBy]

theorem marks_of_part {f : Text → Text} {first : Text}
    (hpart : first = probe ∨ ∃ c ∈ probe, first = [c]) (hwhole : (f probe).all isMark = true)
    (hsingle : (probe.all fun c => (f [c]).all isMark) = true) :
    ∀ c ∈ f first, isMark c = true := by
  rcases hpart with rfl | ⟨c, hc, rfl⟩
  · exact List.all_eq_true.mp hwhole
  · exact List.all_eq_true.mp (List.all_eq_true.mp hsingle c hc)

/-- The conversions keep what a field takes of two names alike. -/
theorem convert_similar {conversion : Option Char} {first second converted : Text}
    (h : convert first conversion = .ok converted)
    (hpart : first = probe ∨ ∃ c ∈ probe, first = [c]) (hne : second ≠ [])
    (hsingle : first.length = 1 → second.length = 1) :
    ∃ other, convert second conversion = .ok other ∧ Similar converted other := by
  have hplain : ∀ c ∈ first, isMark c = true :=
    marks_of_part (f := id) hpart (by decide +kernel) (by decide +kernel)
  have hfirst : first ≠ [] := by
    rintro rfl
    rcases hpart with hempty | ⟨c, -, hempty⟩
    · exact absurd hempty (by decide +kernel)
    · cases hempty
  have hquoted : ∀ c ∈ Text.quoted first, isMark c = true :=
    marks_of_part hpart (by decide +kernel) (by decide +kernel)
  have hascii : ∀ c ∈ Text.quotedAscii first, isMark c = true :=
    marks_of_part hpart (by decide +kernel) (by decide +kernel)
  have hshape : ∀ shown, (∀ c ∈ Text.quotedBy shown first, isMark c = true) →
      Similar (Text.quotedBy shown first) (Text.quotedBy shown second) := by
    intro shown hmarks
    have hlength := length_quotedBy shown first
    exact ⟨hmarks, by simp [Text.quotedBy], by simp [Text.quotedBy], by omega⟩
  unfold convert at h
  split at h
  · obtain rfl := Except.ok.inj h
    exact ⟨second, rfl, hplain, hfirst, hne, hsingle⟩
  · obtain rfl := Except.ok.inj h
    exact ⟨second, rfl, hplain, hfirst, hne, hsingle⟩
  · obtain rfl := Except.ok.inj h
    exact ⟨_, rfl, hshape _ hquoted⟩
  · obtain rfl := Except.ok.inj h
    exact ⟨_, rfl, hshape _ hascii⟩
  · cases h

variable {name : Text}

theorem Field.value_guarded {σ : Type} {field : Field σ} {value : Text}
    (h : field.value probe = .ok value) (hname : name ≠ []) :
    Guarded (Within field.index?.toList name) (Similar value) (field.value name) := by
  obtain ⟨hbase, taken, htaken, hconverted⟩ := value_eq_ok_iff.mp h
  obtain ⟨hpart, haccesses⟩ := takeAll_guarded htaken hname
  have hvalue : field.value name =
      (takeAll name field.accesses >>= fun taken => convert taken field.conversion) := by
    rw [Field.value, hbase]
    rfl
  have hindexes : (∀ place rest, field.accesses = .index place :: rest → place < name.length) ↔
      Within field.index?.toList name := by
    unfold index? Within
    cases field.accesses with
    | nil => simp
    | cons access rest => cases access <;> simp
  rw [hvalue]
  refine ((haccesses.bind fun other hsimilar => ?_).congr (iff_of_eq (and_true _))).congr hindexes
  obtain ⟨converted, hconvert, hsim⟩ :=
    convert_similar hconverted hpart hsimilar.1 hsimilar.2
  exact Guarded.of_ok hconvert hsim

end ClientFacade.Template
