import ClientFacade.Proofs.Value.Entries
import ClientFacade.Value.Heap

/-!
# Cells of a heap

What is put into a cell is found there, and the other cells stay as they are. An entry that is set
in a map keeps the place of its key, if the key is not new.
-/

namespace ClientFacade

namespace Atom

theorem sameKey_ofText_iff {name : Atom} {key : Text} :
    name.sameKey (.ofText key) = true ↔ name = .ofText key := by
  cases name with
  | scalar value => simp [sameKey, ofText, Scalar.sameKey_text_iff]
  | bytes codes => simp [sameKey, ofText]

end Atom

namespace Entries

variable {key : Text} {value : Ref} {entries first second : Entries}

def Has (key : Text) (entries : Entries) : Prop := Atom.ofText key ∈ entries.map Prod.fst

theorem not_has_nil (key : Text) : ¬ Has key [] := nofun

theorem has_cons_iff {name : Atom} :
    Has key ((name, value) :: entries) ↔ name = .ofText key ∨ Has key entries := by
  simp [Has, eq_comm]

theorem has_append_iff : Has key (first ++ second) ↔ Has key first ∨ Has key second := by
  simp [Has]

theorem has_append_singleton_iff {name : Atom} :
    Has key (first ++ [(name, value)]) ↔ Has key first ∨ name = .ofText key := by
  simp [Has, eq_comm]

theorem get?_eq_none_iff : get? key entries = none ↔ ¬ Has key entries := by
  induction entries with
  | nil => simp [get?, Has]
  | cons entry rest ih =>
    rw [get?, has_cons_iff]
    split <;> simp [*]

theorem has_of_get? (h : get? key entries = some value) : Has key entries := by
  by_cases hhas : Has key entries
  · exact hhas
  · rw [get?_eq_none_iff.mpr hhas] at h
    cases h

theorem exists_mem_of_get? (h : get? key entries = some value) :
    ∃ entry ∈ entries, entry.2 = value := by
  induction entries with
  | nil => cases h
  | cons entry rest ih =>
    rw [get?] at h
    split at h
    · exact ⟨entry, List.mem_cons_self, Option.some.inj h⟩
    · obtain ⟨found, hfound, hvalue⟩ := ih h
      exact ⟨found, List.mem_cons_of_mem _ hfound, hvalue⟩

theorem get?_insert_of_ne {other : Text} (h : other ≠ key) (value : Ref) (entries : Entries) :
    get? other (insert (.ofText key) value entries) = get? other entries := by
  have hkey : Atom.ofText key ≠ .ofText other := by
    rintro ⟨⟩
    exact h rfl
  induction entries with
  | nil => simp only [insert, get?, if_neg hkey]
  | cons entry rest ih =>
    obtain ⟨name, old⟩ := entry
    rw [insert]
    split
    · rename_i hname
      rw [Atom.sameKey_ofText_iff] at hname
      rw [hname, get?, get?, if_neg hkey, if_neg hkey]
    · rw [get?, get?, ih]

theorem get?_insert_self (key : Text) (value : Ref) (entries : Entries) :
    get? key (insert (.ofText key) value entries) = some value := by
  induction entries with
  | nil => rw [insert, get?, if_pos rfl]
  | cons entry rest ih =>
    rw [insert]
    split
    · rename_i hname
      rw [Atom.sameKey_ofText_iff] at hname
      rw [get?, if_pos hname]
    · rename_i hname
      rw [Atom.sameKey_ofText_iff] at hname
      rw [get?, if_neg hname, ih]

theorem insert_of_not_has (h : ¬ Has key entries) (value : Ref) :
    insert (.ofText key) value entries = entries ++ [(.ofText key, value)] := by
  induction entries with
  | nil => rfl
  | cons entry rest ih =>
    rw [has_cons_iff, not_or] at h
    rw [insert, if_neg (mt Atom.sameKey_ofText_iff.mp h.1), ih h.2, List.cons_append]

theorem map_fst_insert (h : Has key entries) (value : Ref) :
    (insert (.ofText key) value entries).map Prod.fst = entries.map Prod.fst := by
  induction entries with
  | nil => cases h
  | cons entry rest ih =>
    rw [insert]
    split
    · rfl
    · rename_i hname
      rw [Atom.sameKey_ofText_iff] at hname
      rw [List.map_cons, List.map_cons, ih ((has_cons_iff.mp h).resolve_left hname)]

theorem length_insert (h : Has key entries) (value : Ref) :
    (insert (.ofText key) value entries).length = entries.length := by
  have hkeys := congrArg List.length (map_fst_insert h value)
  rwa [List.length_map, List.length_map] at hkeys

theorem has_insert_self (key : Text) (value : Ref) (entries : Entries) :
    Has key (insert (.ofText key) value entries) :=
  has_of_get? (get?_insert_self key value entries)

theorem insert_append (h : Has key first) (value : Ref) (second : Entries) :
    insert (.ofText key) value (first ++ second) =
      insert (.ofText key) value first ++ second := by
  induction first with
  | nil => cases h
  | cons entry rest ih =>
    rw [List.cons_append, insert, insert]
    split
    · rfl
    · rename_i hname
      rw [Atom.sameKey_ofText_iff] at hname
      rw [ih ((has_cons_iff.mp h).resolve_left hname), List.cons_append]

theorem insert_append_of_not_has (h : ¬ Has key first) (value : Ref) (second : Entries) :
    insert (.ofText key) value (first ++ second) =
      first ++ insert (.ofText key) value second := by
  induction first with
  | nil => rfl
  | cons entry rest ih =>
    rw [has_cons_iff, not_or] at h
    rw [List.cons_append, insert, if_neg (mt Atom.sameKey_ofText_iff.mp h.1), ih h.2,
      List.cons_append]

theorem mem_or_eq_of_mem_insert {name : Atom} {entry : Atom × Ref}
    (h : entry ∈ insert name value entries) : entry ∈ entries ∨ entry.2 = value := by
  induction entries with
  | nil =>
    obtain rfl := List.mem_singleton.mp h
    exact Or.inr rfl
  | cons first rest ih =>
    rw [insert] at h
    split at h
    · rcases List.mem_cons.mp h with rfl | hrest
      · exact Or.inr rfl
      · exact Or.inl (List.mem_cons_of_mem first hrest)
    · rcases List.mem_cons.mp h with rfl | hrest
      · exact Or.inl List.mem_cons_self
      · exact (ih hrest).imp_left (List.mem_cons_of_mem first)

theorem insert_insert_self (key : Text) (value : Ref) (entries : Entries) :
    insert (.ofText key) value (insert (.ofText key) value entries) =
      insert (.ofText key) value entries := by
  have hself : (Atom.ofText key).sameKey (.ofText key) = true := Atom.sameKey_ofText_iff.mpr rfl
  induction entries with
  | nil => rw [insert, insert, if_pos hself]
  | cons entry rest ih =>
    obtain ⟨name, old⟩ := entry
    by_cases hname : name.sameKey (.ofText key) = true
    · rw [insert, if_pos hname, insert, if_pos hname]
    · rw [insert, if_neg hname, insert, if_neg hname, ih]

theorem exists_mem_insert (key : Text) (value : Ref) (entries : Entries) :
    ∃ entry ∈ insert (.ofText key) value entries, entry.2 = value := by
  induction entries with
  | nil => exact ⟨_, List.mem_cons_self, rfl⟩
  | cons entry rest ih =>
    rw [insert]
    split
    · exact ⟨_, List.mem_cons_self, rfl⟩
    · obtain ⟨found, hfound, hvalue⟩ := ih
      exact ⟨found, List.mem_cons_of_mem _ hfound, hvalue⟩

end Entries

namespace Heap

variable {heap : Heap} {id : Nat} {entries : Entries}

theorem lt_length_of_cell_eq_map (h : heap.cell id = .map entries) : id < heap.length := by
  rcases Nat.lt_or_ge id heap.length with hlt | hge
  · exact hlt
  · rw [cell, List.getElem?_eq_none hge] at h
    cases h

theorem cell_set_self (h : heap.cell id = .map entries) (next : Cell) :
    cell (heap.set id next) id = next := by
  rw [cell, List.getElem?_set_self (lt_length_of_cell_eq_map h)]
  rfl

theorem cell_set_of_ne {other : Nat} (h : id ≠ other) (next : Cell) :
    cell (heap.set id next) other = heap.cell other := by
  rw [cell, cell, List.getElem?_set_ne h]

theorem entries?_cell_eq_some_iff :
    heap.entries? (.cell id) = some entries ↔ heap.cell id = .map entries := by
  rw [entries?]
  split
  · rename_i found hfound
    rw [hfound, Option.some.injEq, Cell.map.injEq]
  · rename_i hnone
    exact ⟨nofun, fun h => absurd h (hnone entries)⟩

theorem values_of_cell (h : heap.cell id = .map entries) :
    heap.values id = entries.map Prod.snd := by
  rw [values, entries?_cell_eq_some_iff.mpr h]
  rfl

def IsMap (heap : Heap) (ref : Ref) : Prop := ∃ entries, heap.entries? ref = some entries

theorem isMap_cell_iff : heap.IsMap (.cell id) ↔ ∃ entries, heap.cell id = .map entries := by
  simp only [IsMap, entries?_cell_eq_some_iff]

@[simp] theorem not_isMap_atom (heap : Heap) (value : Atom) : ¬ heap.IsMap (.atom value) := by
  rintro ⟨entries, h⟩
  cases h

theorem IsMap.exists_cell {ref : Ref} (h : heap.IsMap ref) :
    ∃ id entries, ref = .cell id ∧ heap.cell id = .map entries := by
  cases ref with
  | atom value => exact absurd h (not_isMap_atom heap value)
  | cell id =>
    obtain ⟨entries, hcell⟩ := isMap_cell_iff.mp h
    exact ⟨id, entries, rfl, hcell⟩

end Heap

end ClientFacade
