import ClientFacade.Proofs.Text.ControlSequence
import ClientFacade.Text.Lines
import ClientFacade.Text.Quoted
import Mathlib.Data.List.Basic

/-!
# Texts without control characters

Documents are written with escapes in place of control characters, by tables and codes, so that
line feeds are the only ones in them. Such a text has no control sequence and no other line end.
-/

namespace ClientFacade.Text

/-- Line feeds are the only control characters below the blank. -/
def Clean (text : Text) : Prop := ∀ c ∈ text, c = '\n' ∨ ' ' ≤ c

-- found by itself, the instance would go through all characters there are
instance (text : Text) : Decidable (Clean text) := List.decidableBAll _ text

@[simp] theorem clean_nil : Clean [] := List.forall_mem_nil _

@[simp] theorem clean_cons {c : Char} {rest : Text} :
    Clean (c :: rest) ↔ (c = '\n' ∨ ' ' ≤ c) ∧ Clean rest := List.forall_mem_cons

@[simp] theorem clean_append {first second : Text} :
    Clean (first ++ second) ↔ Clean first ∧ Clean second := List.forall_mem_append

theorem clean_flatMap {α : Type} {f : α → Text} {items : List α}
    (h : ∀ item ∈ items, Clean (f item)) : Clean (items.flatMap f) := by
  intro c hc
  obtain ⟨item, hitem, hmem⟩ := List.mem_flatMap.mp hc
  exact h item hitem c hmem

theorem Clean.withoutSequences {text : Text} (h : Clean text) : text.withoutSequences = text := by
  apply (withoutSequences_eq_self_iff text).mpr
  rintro before rest rfl
  have hescape := h '\x1b' (List.mem_append_right before List.mem_cons_self)
  exact absurd hescape (by decide)

theorem unifyLineEnds_eq_self {text : Text} (h : '\r' ∉ text) : text.unifyLineEnds = text := by
  fun_induction unifyLineEnds text with
  | case1 => rfl
  | case2 rest ih => exact absurd List.mem_cons_self h
  | case3 rest hfeed ih => exact absurd List.mem_cons_self h
  | case4 c rest hfeed hreturn ih => rw [ih fun hmem => h (List.mem_cons_of_mem c hmem)]

theorem Clean.unifyLineEnds {text : Text} (h : Clean text) : text.unifyLineEnds = text := by
  apply unifyLineEnds_eq_self
  intro hmem
  exact absurd (h '\r' hmem) (by decide)

theorem forall_of_lookup {β : Type} {table : List (Char × β)} {p : Char × β → Prop} {c : Char}
    {found : β} (h : ∀ entry ∈ table, p entry) (hfound : table.lookup c = some found) :
    p (c, found) := by
  obtain ⟨before, after, hsplit, -⟩ := List.lookup_eq_some_iff.mp hfound
  apply h
  rw [hsplit]
  exact List.mem_append_right before List.mem_cons_self

theorem mem_toDigitsCore {base fuel n : Nat} {digits : List Char} {c : Char} (hbase : 0 < base)
    (h : c ∈ Nat.toDigitsCore base fuel n digits) :
    c ∈ digits ∨ ∃ digit < base, c = Nat.digitChar digit := by
  induction fuel generalizing n digits with
  | zero => exact Or.inl h
  | succ fuel ih =>
    have hdigit : c ∈ Nat.digitChar (n % base) :: digits →
        c ∈ digits ∨ ∃ digit < base, c = Nat.digitChar digit := by
      intro hmem
      rcases List.mem_cons.mp hmem with rfl | hmem
      · exact Or.inr ⟨n % base, Nat.mod_lt n hbase, rfl⟩
      · exact Or.inl hmem
    rw [Nat.toDigitsCore] at h
    split at h
    · exact hdigit h
    · exact (ih h).elim hdigit Or.inr

theorem clean_hexUpper (width n : Nat) : Clean (hexUpper width n) := by
  have hdigits : ∀ digit < 16, ' ' ≤ (Nat.digitChar digit).toUpper := by decide
  intro c hc
  obtain ⟨d, hd, rfl⟩ := List.mem_map.mp hc
  right
  rcases List.mem_append.mp hd with hzero | hdigit
  · rw [List.eq_of_mem_replicate hzero]
    decide
  · rcases mem_toDigitsCore (by decide) hdigit with hnil | ⟨digit, hsmall, rfl⟩
    · cases hnil
    · exact hdigits digit hsmall

end ClientFacade.Text
