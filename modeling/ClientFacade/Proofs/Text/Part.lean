import ClientFacade.Text.Basic
import Mathlib.Data.List.Infix

/-!
# Parts of a text

A part is a run of consecutive characters. A part that begins with a mark begins at a mark of the
text, and one that ends in a mark and has no other lies on one side of every mark of the text.
-/

namespace ClientFacade.Text

theorem hasPart_iff {part text : Text} : hasPart part text = true ↔ part <:+: text := by
  induction text with
  | nil => simp [hasPart, List.infix_nil]
  | cons c rest ih =>
    rw [hasPart, Bool.or_eq_true, List.isPrefixOf_iff_prefix, ih, List.infix_cons_iff]

variable {mark c : Char} {part before after rest : Text}

theorem infix_of_infix_cons (hc : c ≠ mark) (h : mark :: part <:+: c :: rest) :
    mark :: part <:+: rest := by
  rcases List.infix_cons_iff.mp h with ⟨behind, heq⟩ | hrest
  · exact absurd (List.cons.inj heq).1.symm hc
  · exact hrest

theorem infix_of_infix_append (hbefore : mark ∉ before) (h : mark :: part <:+: before ++ rest) :
    mark :: part <:+: rest := by
  induction before with
  | nil => exact h
  | cons c tail ih =>
    rw [List.mem_cons, not_or] at hbefore
    exact ih hbefore.2 (infix_of_infix_cons (Ne.symm hbefore.1) h)

/-- A part that begins at the front of `before` and goes on behind the mark would have the mark
inside. -/
theorem prefix_append_mark_cases (hpart : mark ∉ part)
    (h : part ++ [mark] <+: before ++ mark :: after) :
    part ++ [mark] <+: before ∨ part = before := by
  obtain ⟨behind, heq⟩ := h
  rw [List.append_assoc, List.append_eq_append_iff] at heq
  rcases heq with ⟨middle, rfl, htail⟩ | ⟨middle, rfl, htail⟩
  · cases middle with
    | nil => exact Or.inr (List.append_nil part).symm
    | cons d middle =>
      obtain rfl : mark = d := (List.cons.inj htail).1
      exact Or.inl ⟨middle, by simp⟩
  · cases middle with
    | nil => exact Or.inr (List.append_nil before)
    | cons d middle =>
      obtain rfl : mark = d := (List.cons.inj htail).1
      exact absurd (List.mem_append_right before List.mem_cons_self) hpart

theorem infix_append_mark_cases (hpart : mark ∉ part)
    (h : part ++ [mark] <:+: before ++ mark :: after) :
    part ++ [mark] <:+: before ∨ part <:+ before ∨ part ++ [mark] <:+: after := by
  induction before with
  | nil =>
    rcases List.infix_cons_iff.mp h with hfront | hafter
    · have hcases : part ++ [mark] <+: [] ∨ part = [] := prefix_append_mark_cases hpart hfront
      rcases hcases with hnil | rfl
      · exact Or.inl hnil.isInfix
      · exact Or.inr (Or.inl List.suffix_rfl)
    · exact Or.inr (Or.inr hafter)
  | cons c tail ih =>
    rcases List.infix_cons_iff.mp h with hfront | hrest
    · have hcases : part ++ [mark] <+: c :: tail ∨ part = c :: tail :=
        prefix_append_mark_cases hpart hfront
      rcases hcases with hbefore | rfl
      · exact Or.inl hbefore.isInfix
      · exact Or.inr (Or.inl List.suffix_rfl)
    · rcases ih hrest with hbefore | hend | hafter
      · exact Or.inl (List.infix_cons hbefore)
      · exact Or.inr (Or.inl (hend.trans (List.suffix_cons c tail)))
      · exact Or.inr (Or.inr hafter)

end ClientFacade.Text
