import ClientFacade.Log.Override
import ClientFacade.Proofs.Value.Heap

/-!
# What setting levels leaves

Whatever shares their cells, setting the levels of maps leaves the maps maps, all other cells as
they were, and in the maps all entries but that of the level.
-/

namespace ClientFacade

def Cell.withLevel (name : Text) : Cell → Cell
  | .map entries => .map (Entries.insert (.ofText "level") (.ofText name) entries)
  | cell => cell

namespace Cell

variable {name : Text} {cell : Cell}

theorem withLevel_withLevel (name : Text) (cell : Cell) :
    (cell.withLevel name).withLevel name = cell.withLevel name := by
  cases cell with
  | map entries => exact congrArg Cell.map (Entries.insert_insert_self _ _ entries)
  | list items => rfl
  | pairs items => rfl
  | set members => rfl

theorem exists_withLevel_eq_map_iff :
    (∃ entries, cell.withLevel name = .map entries) ↔ ∃ entries, cell = .map entries := by
  cases cell <;> simp [withLevel]

end Cell

namespace Log

variable {name key : Text} {heap middle next : Heap} {touched more : Nat → Prop} {ref target : Ref}
  {id : Nat} {entries : Entries}

/-- The maps in some cells have got the level, and the other cells are as they were. -/
structure LevelsSet (name : Text) (touched : Nat → Prop) (heap next : Heap) : Prop where
  set : ∀ id, touched id → next.cell id = (heap.cell id).withLevel name
  kept : ∀ id, ¬ touched id → next.cell id = heap.cell id

namespace LevelsSet

theorem refl (name : Text) (heap : Heap) : LevelsSet name (fun _ => False) heap heap :=
  ⟨fun _ => False.elim, fun _ _ => rfl⟩

theorem congr (h : LevelsSet name touched heap next) (hiff : ∀ id, touched id ↔ more id) :
    LevelsSet name more heap next :=
  ⟨fun id hmore => h.set id ((hiff id).mpr hmore),
    fun id hmore => h.kept id (mt (hiff id).mp hmore)⟩

theorem trans (hfirst : LevelsSet name touched heap middle)
    (hsecond : LevelsSet name more middle next) :
    LevelsSet name (fun id => touched id ∨ more id) heap next := by
  refine ⟨fun id hid => ?_, fun id hid => ?_⟩
  · by_cases hmore : more id
    · rw [hsecond.set id hmore]
      by_cases htouched : touched id
      · rw [hfirst.set id htouched, Cell.withLevel_withLevel]
      · rw [hfirst.kept id htouched]
    · rw [hsecond.kept id hmore, hfirst.set id (hid.resolve_right hmore)]
  · obtain ⟨htouched, hmore⟩ := not_or.mp hid
    rw [hsecond.kept id hmore, hfirst.kept id htouched]

theorem isMap_iff (h : LevelsSet name touched heap next) : next.IsMap ref ↔ heap.IsMap ref := by
  cases ref with
  | atom value => simp
  | cell id =>
    rw [Heap.isMap_cell_iff, Heap.isMap_cell_iff]
    by_cases htouched : touched id
    · rw [h.set id htouched, Cell.exists_withLevel_eq_map_iff]
    · rw [h.kept id htouched]

theorem get?_of_not_touched (h : LevelsSet name touched heap next) (hid : ¬ touched id)
    (key : Text) : next.get? key (.cell id) = heap.get? key (.cell id) := by
  rw [Heap.get?, Heap.get?, Heap.entries?, Heap.entries?, h.kept id hid]

theorem get?_level (h : LevelsSet name touched heap next) (hid : touched id)
    (hmap : heap.IsMap (.cell id)) : next.get? "level" (.cell id) = some (.ofText name) := by
  obtain ⟨entries, hentries⟩ := Heap.isMap_cell_iff.mp hmap
  have hnext := h.set id hid
  rw [hentries] at hnext
  rw [Heap.get?, Heap.entries?_cell_eq_some_iff.mpr hnext, Option.bind_some]
  exact Entries.get?_insert_self "level" (.ofText name) entries

/-- Only levels change. -/
theorem get?_of_ne (h : LevelsSet name touched heap next) (hkey : key ≠ "level") (ref : Ref) :
    next.get? key ref = heap.get? key ref := by
  cases ref with
  | atom value => rfl
  | cell id =>
    by_cases htouched : touched id
    · rw [Heap.get?, Heap.get?, Heap.entries?, Heap.entries?, h.set id htouched]
      cases heap.cell id with
      | map entries => exact Entries.get?_insert_of_ne hkey (.ofText name) entries
      | list items => rfl
      | pairs items => rfl
      | set members => rfl
    · exact h.get?_of_not_touched htouched key

end LevelsSet

/-! ## One level -/

theorem setLevel_of_cell (h : heap.cell id = .map entries) (name : Text) :
    setLevel name (.cell id) heap =
      (heap.set id (.map (Entries.insert (.ofText "level") (.ofText name) entries)), none) := by
  simp only [setLevel, h]

theorem exists_setLevel (h : heap.IsMap target) (name : Text) :
    ∃ next, setLevel name target heap = (next, none) ∧
      LevelsSet name (fun id => target = .cell id) heap next := by
  obtain ⟨id, entries, rfl, hcell⟩ := h.exists_cell
  refine ⟨_, setLevel_of_cell hcell name, fun other hother => ?_, fun other hother => ?_⟩
  · obtain rfl := Ref.cell.inj hother
    rw [Heap.cell_set_self hcell, hcell, Cell.withLevel]
  · exact Heap.cell_set_of_ne (fun hid => hother (congrArg Ref.cell hid)) _

theorem setLevel_of_not_isMap (h : ¬ heap.IsMap target) (name : Text) :
    ∃ fault, setLevel name target heap = (heap, some fault) ∧ fault.isCovered = true := by
  cases target with
  | atom value => exact ⟨_, rfl, rfl⟩
  | cell id =>
    cases hcell : heap.cell id with
    | map entries => exact absurd (Heap.isMap_cell_iff.mpr ⟨entries, hcell⟩) h
    | list items => exact ⟨.listKey "str", by simp only [setLevel, hcell], rfl⟩
    | pairs items => exact ⟨.listKey "str", by simp only [setLevel, hcell], rfl⟩
    | set members => exact ⟨.unassignable "set", by simp only [setLevel, hcell], rfl⟩

/-! ## Ways to end -/

variable {α : Type} {first second : Edit}

/-- Whether a change ends in a fault that the fallback does not cover. -/
def EndsUncovered (change : α × Option Fault) : Prop :=
  ∃ fault, change.2 = some fault ∧ fault.isCovered = false

@[simp] theorem not_endsUncovered_none (a : α) : ¬ EndsUncovered (a, none) := by
  rintro ⟨fault, h, -⟩
  cases h

@[simp] theorem endsUncovered_some_iff {a : α} {fault : Fault} :
    EndsUncovered (a, some fault) ↔ fault.isCovered = false := by
  simp [EndsUncovered]

theorem Edit.endsUncovered_andThen_iff : EndsUncovered (first.andThen second heap) ↔
    EndsUncovered (first heap) ∨
      ∃ next, first heap = (next, none) ∧ EndsUncovered (second next) := by
  rcases h : first heap with ⟨next, _ | fault⟩ <;> simp [Edit.andThen, h]

end Log

end ClientFacade
