import ClientFacade.Value.Basic

/-!
# Entries of a map

An entry that is set is found at its key, and the values of the other keys stay where they are.
-/

namespace ClientFacade

namespace Scalar

theorem sameKey_text_iff {name : Scalar} {key : Text} :
    name.sameKey (.text key) = true ↔ name = .text key := by
  cases name <;> simp [sameKey, int?]

end Scalar

namespace Value

theorem get?_insert_of_ne {key other : Text} (h : other ≠ key) (value : Value)
    (entries : List (Scalar × Value)) :
    get? other (insert (.text key) value entries) = get? other entries := by
  have hkey : Scalar.text key ≠ .text other := fun heq => h (Scalar.text.inj heq).symm
  induction entries with
  | nil => simp only [insert, get?, if_neg hkey]
  | cons entry rest ih =>
    obtain ⟨name, old⟩ := entry
    rw [insert]
    split
    · rename_i hname
      rw [Scalar.sameKey_text_iff] at hname
      rw [hname, get?, get?, if_neg hkey, if_neg hkey]
    · rw [get?, get?, ih]

theorem get?_insert_self (key : Text) (value : Value) (entries : List (Scalar × Value)) :
    get? key (insert (.text key) value entries) = some value := by
  induction entries with
  | nil => rw [insert, get?, if_pos rfl]
  | cons entry rest ih =>
    rw [insert]
    split
    · rename_i hname
      rw [Scalar.sameKey_text_iff] at hname
      rw [get?, if_pos hname]
    · rename_i hname
      rw [Scalar.sameKey_text_iff] at hname
      rw [get?, if_neg hname, ih]

end Value

end ClientFacade
