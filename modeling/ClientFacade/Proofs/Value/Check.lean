import ClientFacade.Value.Check
import Mathlib.Data.List.Forall2

/-!
# What passes a check

A check of several parts lets a value through just if each part passes. A list passes item by item,
and an entry of a map as the value that stands at its key.
-/

namespace ClientFacade.Checked

variable {α β γ : Type}

/-! ## What has passed -/

theorem both_eq_valid_iff {f : α → β → γ} {first : Checked α} {second : Checked β} {value : γ} :
    both f first second = .valid value ↔
      ∃ a b, first = .valid a ∧ second = .valid b ∧ f a b = value := by
  cases first <;> cases second <;> simp [both]

theorem ap_eq_valid_iff {f : Checked (α → β)} {part : Checked α} {value : β} :
    ap f part = .valid value ↔ ∃ g a, f = .valid g ∧ part = .valid a ∧ g a = value :=
  both_eq_valid_iff

theorem andThen_eq_valid_iff {check : Checked α} {next : α → Checked β} {value : β} :
    check.andThen next = .valid value ↔ ∃ a, check = .valid a ∧ next a = .valid value := by
  cases check <;> simp [andThen]

theorem within_eq_valid_iff {step : Step} {check : Checked α} {value : α} :
    check.within step = .valid value ↔ check = .valid value := by
  cases check <;> simp [within]

theorem optional_eq_valid {name : Text} {default value : α} {read : Value → Checked α}
    {entries : List (Scalar × Value)} (h : optional name default read entries = .valid value) :
    value = default ∨ ∃ given, read given = .valid value := by
  unfold optional at h
  split at h
  · exact Or.inr ⟨_, within_eq_valid_iff.mp h⟩
  · exact Or.inl (by simpa using h.symm)

theorem template_eq_valid_iff [Machine] {text accepted : Text} :
    template text = .valid accepted ↔ Template.check text = .accepted ∧ text = accepted := by
  cases hcheck : Template.check text <;> simp [template, hcheck, problem]

theorem ap_valid (f : Checked (α → β)) (a : α) : f.ap (.valid a) = f.map fun g => g a := by
  cases f with
  | valid g => rfl
  | problems found => rfl
  | aborted fault => rfl

/-- Every item that passed was read from some value. -/
theorem exists_of_mem_itemsFrom {item : Value → Checked α} {place : Nat} {values : List Value}
    {results : List α} (h : itemsFrom item place values = .valid results) :
    ∀ result ∈ results, ∃ value, item value = .valid result := by
  induction values generalizing place results with
  | nil =>
    obtain rfl : [] = results := valid.inj h
    exact fun result hmem => absurd hmem List.not_mem_nil
  | cons value rest ih =>
    obtain ⟨first, others, hfirst, hothers, rfl⟩ := both_eq_valid_iff.mp h
    intro result hmem
    rcases List.mem_cons.mp hmem with rfl | hmem
    · exact ⟨value, within_eq_valid_iff.mp hfirst⟩
    · exact ih hothers result hmem

theorem exists_of_mem_list {item : Value → Checked α} {value : Value} {results : List α}
    (h : list item value = .valid results) :
    ∀ result ∈ results, ∃ value, item value = .valid result := by
  cases value with
  | list items => exact exists_of_mem_itemsFrom h
  | scalar value => cases h
  | map entries => cases h

/-! ## What passes -/

theorem itemsFrom_eq_valid {item : Value → Checked α} {values : List Value} {results : List α}
    (h : List.Forall₂ (fun value result => item value = .valid result) values results)
    (place : Nat) : itemsFrom item place values = .valid results := by
  induction h generalizing place with
  | nil => rfl
  | cons hitem hrest ih =>
    rw [itemsFrom, hitem, ih]
    rfl

theorem list_eq_valid {item : Value → Checked α} {values : List Value} {results : List α}
    (h : List.Forall₂ (fun value result => item value = .valid result) values results) :
    list item (.list values) = .valid results := itemsFrom_eq_valid h 0

/-- A list of values that are written one by one is read one by one. -/
theorem list_map_eq_valid {item : Value → Checked α} {write : α → Value} {results : List α}
    (h : ∀ result ∈ results, item (write result) = .valid result) :
    list item (.list (results.map write)) = .valid results := by
  apply list_eq_valid
  rw [List.forall₂_map_left_iff, List.forall₂_same]
  exact h

theorem list_text (texts : List Text) : list text (.ofTexts texts) = .valid texts :=
  list_map_eq_valid fun _ _ => rfl

theorem required_eq_valid {name : Text} {read : Value → Checked α}
    {entries : List (Scalar × Value)} {value : Value} {result : α}
    (hget : Value.get? name entries = some value) (hread : read value = .valid result) :
    required name read entries = .valid result := by
  rw [required, hget]
  exact within_eq_valid_iff.mpr hread

theorem optional_eq_valid_of_get? {name : Text} {default : α} {read : Value → Checked α}
    {entries : List (Scalar × Value)} {value : Value} {result : α}
    (hget : Value.get? name entries = some value) (hread : read value = .valid result) :
    optional name default read entries = .valid result := by
  rw [optional, hget]
  exact within_eq_valid_iff.mpr hread

/-! ## What ends a check -/

/-- The check comes to its end, with a value or with problems. -/
def Concludes (check : Checked α) : Prop := ∀ fault, check ≠ .aborted fault

theorem concludes_valid (value : α) : (valid value).Concludes := nofun

theorem concludes_problem (kind : ProblemKind) : (problem kind : Checked α).Concludes := nofun

theorem both_eq_aborted_iff_left {f : α → β → γ} {first : Checked α} {second : Checked β}
    {fault : Template.Fault} (h : second.Concludes) :
    both f first second = .aborted fault ↔ first = .aborted fault := by
  cases second with
  | aborted other => exact absurd rfl (h other)
  | valid b => cases first <;> simp [both]
  | problems found => cases first <;> simp [both]

theorem both_eq_aborted_iff_right {f : α → β → γ} {first : Checked α} {second : Checked β}
    {fault : Template.Fault} (h : first.Concludes) :
    both f first second = .aborted fault ↔ second = .aborted fault := by
  cases first with
  | aborted other => exact absurd rfl (h other)
  | valid a => cases second <;> simp [both]
  | problems found => cases second <;> simp [both]

theorem Concludes.both {f : α → β → γ} {first : Checked α} {second : Checked β}
    (hfirst : first.Concludes) (hsecond : second.Concludes) :
    (Checked.both f first second).Concludes :=
  fun fault hfault => hsecond fault ((both_eq_aborted_iff_right hfirst).mp hfault)

theorem Concludes.ap {f : Checked (α → β)} {part : Checked α} (hf : f.Concludes)
    (hpart : part.Concludes) : (f.ap part).Concludes := hf.both hpart

theorem within_eq_aborted_iff {step : Step} {check : Checked α} {fault : Template.Fault} :
    check.within step = .aborted fault ↔ check = .aborted fault := by
  cases check <;> simp [within]

theorem Concludes.andThen {check : Checked α} {next : α → Checked β} (h : check.Concludes)
    (hnext : ∀ a, (next a).Concludes) : (check.andThen next).Concludes := by
  cases check with
  | valid a => exact hnext a
  | problems found => nofun
  | aborted fault => exact absurd rfl (h fault)

theorem concludes_text (value : Value) : (text value).Concludes := by
  unfold text
  split
  · exact concludes_valid _
  · exact concludes_problem _

theorem concludes_list {item : Value → Checked α} (h : ∀ value, (item value).Concludes)
    (value : Value) : (list item value).Concludes := by
  have hitems : ∀ values place, (itemsFrom item place values).Concludes := by
    intro values
    induction values with
    | nil => exact fun _ => concludes_valid []
    | cons first rest ih =>
      intro place
      refine Concludes.both (fun fault hfault => ?_) (ih (place + 1))
      exact h first fault (within_eq_aborted_iff.mp hfault)
  cases value with
  | list items => exact hitems items 0
  | scalar | map => exact concludes_problem _

theorem concludes_bool (value : Value) : (bool value).Concludes := by
  unfold bool
  split
  · exact concludes_valid _
  · split
    · exact concludes_valid _
    · exact concludes_problem _
  · split_ifs
    · exact concludes_valid _
    · exact concludes_valid _
    · exact concludes_problem _
  · split
    · exact concludes_valid _
    · exact concludes_problem _
  · exact concludes_problem _

theorem optional_eq_aborted_iff {name : Text} {default : α} {read : Value → Checked α}
    {entries : List (Scalar × Value)} {fault : Template.Fault} :
    optional name default read entries = .aborted fault ↔
      ∃ value, Value.get? name entries = some value ∧ read value = .aborted fault := by
  unfold optional
  cases Value.get? name entries <;> simp [within_eq_aborted_iff]

theorem Concludes.optional {name : Text} {default : α} {read : Value → Checked α}
    (h : ∀ value, (read value).Concludes) (entries : List (Scalar × Value)) :
    (Checked.optional name default read entries).Concludes := by
  intro fault hfault
  obtain ⟨value, -, hread⟩ := optional_eq_aborted_iff.mp hfault
  exact h value fault hread

theorem template_eq_aborted_iff [Machine] {text : Text} {fault : Template.Fault} :
    template text = .aborted fault ↔ Template.check text = .aborted fault := by
  cases hcheck : Template.check text <;> simp [template, hcheck, problem]

end ClientFacade.Checked
