import ClientFacade.Text.Basic
import Mathlib.Data.List.Basic

/-!
# Splitting a text at a mark

A text breaks at the first mark, or at the last one, exactly where its parts say: the mark does not
occur on the shorter side. The pieces between the marks hold none, and a mark always separates the
pieces before it from those behind it.
-/

namespace ClientFacade.Text

variable {mark : Char}

theorem dropBeginning?_eq_some_iff {beginning text rest : Text} :
    dropBeginning? beginning text = some rest ↔ text = beginning ++ rest := by
  unfold dropBeginning?
  constructor
  · intro h
    split_ifs at h with hprefix
    obtain ⟨after, rfl⟩ := List.isPrefixOf_iff_prefix.mp hprefix
    rw [List.drop_left, Option.some.injEq] at h
    rw [h]
  · rintro rfl
    have hprefix : beginning.isPrefixOf (beginning ++ rest) = true :=
      List.isPrefixOf_iff_prefix.mpr (List.prefix_append beginning rest)
    rw [if_pos hprefix, List.drop_left]

theorem dropBeginning?_append (beginning rest : Text) :
    dropBeginning? beginning (beginning ++ rest) = some rest :=
  dropBeginning?_eq_some_iff.mpr rfl

theorem breakAt?_append {before : Text} (h : mark ∉ before) (after : Text) :
    breakAt? mark (before ++ mark :: after) = some (before, after) := by
  induction before with
  | nil => simp [breakAt?]
  | cons c rest ih =>
    have hc : c ≠ mark := fun he => h (he ▸ List.mem_cons_self)
    have hrest : mark ∉ rest := fun hm => h (List.mem_cons_of_mem _ hm)
    simp [breakAt?, hc, ih hrest]

theorem eq_append_of_breakAt? {text before after : Text}
    (h : breakAt? mark text = some (before, after)) : text = before ++ mark :: after := by
  induction text generalizing before with
  | nil => cases h
  | cons c rest ih =>
    unfold breakAt? at h
    split_ifs at h with hc
    · simp only [Option.some.injEq, Prod.mk.injEq] at h
      obtain ⟨rfl, rfl⟩ := h
      rw [hc, List.nil_append]
    · obtain ⟨⟨found, behind⟩, hfound, hparts⟩ := Option.map_eq_some_iff.mp h
      simp only [Prod.mk.injEq] at hparts
      obtain ⟨rfl, rfl⟩ := hparts
      rw [ih hfound, List.cons_append]

theorem breakAt?_eq_none {text : Text} (h : mark ∉ text) : breakAt? mark text = none := by
  induction text with
  | nil => rfl
  | cons c rest ih =>
    have hc : c ≠ mark := fun he => h (he ▸ List.mem_cons_self)
    have hrest : mark ∉ rest := fun hm => h (List.mem_cons_of_mem _ hm)
    simp [breakAt?, hc, ih hrest]

theorem beforeLast?_eq_none_iff {text : Text} : beforeLast? mark text = none ↔ mark ∉ text := by
  induction text with
  | nil => simp [beforeLast?]
  | cons c rest ih =>
    cases hrest : beforeLast? mark rest with
    | none =>
      have hmem : mark ∉ rest := ih.mp hrest
      by_cases hc : c = mark
      · simp [beforeLast?, hrest, hc]
      · simp [beforeLast?, hrest, hc, hmem, Ne.symm hc]
    | some before =>
      have hmem : mark ∈ rest := by
        by_contra hnot
        simp [ih.mpr hnot] at hrest
      simp [beforeLast?, hrest, hmem]

theorem beforeLast?_append {after : Text} (h : mark ∉ after) (before : Text) :
    beforeLast? mark (before ++ mark :: after) = some before := by
  induction before with
  | nil => simp [beforeLast?, beforeLast?_eq_none_iff.mpr h]
  | cons c rest ih => simp [beforeLast?, ih]

theorem eq_append_of_beforeLast? {text before : Text} (h : beforeLast? mark text = some before) :
    ∃ after, text = before ++ mark :: after ∧ mark ∉ after := by
  induction text generalizing before with
  | nil => simp [beforeLast?] at h
  | cons c rest ih =>
    cases hrest : beforeLast? mark rest with
    | none =>
      have hmem : mark ∉ rest := beforeLast?_eq_none_iff.mp hrest
      by_cases hc : c = mark
      · subst hc
        have hbefore : before = [] := by simpa [beforeLast?, hrest] using h.symm
        exact ⟨rest, by rw [hbefore, List.nil_append], hmem⟩
      · simp [beforeLast?, hrest, hc] at h
    | some shorter =>
      obtain ⟨after, hafter, hnot⟩ := ih hrest
      have hbefore : before = c :: shorter := by simpa [beforeLast?, hrest] using h.symm
      exact ⟨after, by rw [hbefore, hafter, List.cons_append], hnot⟩

theorem pieces_mark (rest : Text) : pieces mark (mark :: rest) = [] :: pieces mark rest := by
  simp [pieces]

theorem pieces_cons {c : Char} (hc : c ≠ mark) {rest piece : Text} {others : List Text}
    (h : pieces mark rest = piece :: others) :
    pieces mark (c :: rest) = (c :: piece) :: others := by
  simp [pieces, hc, h]

theorem pieces_append_mark (before after : Text) :
    pieces mark (before ++ mark :: after) = pieces mark before ++ pieces mark after := by
  induction before with
  | nil => exact pieces_mark after
  | cons c rest ih =>
    by_cases hc : c = mark
    · subst hc
      rw [List.cons_append, pieces_mark, pieces_mark, ih, List.cons_append]
    · obtain ⟨piece, others, hpieces⟩ := List.exists_cons_of_ne_nil (pieces_ne_nil mark rest)
      rw [hpieces, List.cons_append] at ih
      rw [List.cons_append, pieces_cons hc ih, pieces_cons hc hpieces, List.cons_append]

theorem pieces_eq_singleton {text : Text} (h : mark ∉ text) : pieces mark text = [text] := by
  induction text with
  | nil => rfl
  | cons c rest ih =>
    have hc : c ≠ mark := fun he => h (he ▸ List.mem_cons_self)
    exact pieces_cons hc (ih fun hm => h (List.mem_cons_of_mem _ hm))

/-- Parts that hold no mark are the pieces of their join. -/
theorem pieces_join {parts : List Text} (hne : parts ≠ []) (h : ∀ part ∈ parts, mark ∉ part) :
    pieces mark (join [mark] parts) = parts := by
  induction parts with
  | nil => exact absurd rfl hne
  | cons part rest ih =>
    obtain ⟨hpart, hrest⟩ := List.forall_mem_cons.mp h
    cases rest with
    | nil => exact pieces_eq_singleton hpart
    | cons next rest =>
      have hjoin : join [mark] (part :: next :: rest) =
          part ++ mark :: join [mark] (next :: rest) := by simp [join]
      rw [hjoin, pieces_append_mark, pieces_eq_singleton hpart,
        ih (List.cons_ne_nil next rest) hrest, List.singleton_append]

theorem join_pieces (text : Text) : join [mark] (pieces mark text) = text := by
  induction text with
  | nil => rfl
  | cons c rest ih =>
    obtain ⟨first, others, hpieces⟩ := List.exists_cons_of_ne_nil (pieces_ne_nil mark rest)
    by_cases hc : c = mark
    · subst hc
      rw [pieces_mark, hpieces, join, ← hpieces, ih]
      simp
    · rw [hpieces] at ih
      rw [pieces_cons hc hpieces]
      cases others <;> simpa [join] using ih

theorem join_eq_intercalate (separator : Text) (parts : List Text) :
    join separator parts = List.intercalate separator parts := by
  induction parts with
  | nil => rfl
  | cons part rest ih =>
    cases rest with
    | nil => simp [join, List.intercalate]
    | cons next rest =>
      rw [join, ih]
      simp [List.intercalate]

theorem not_mem_of_mem_pieces {text piece : Text} (h : piece ∈ pieces mark text) :
    mark ∉ piece := by
  induction text generalizing piece with
  | nil => simp_all [pieces]
  | cons c rest ih =>
    by_cases hc : c = mark
    · subst hc
      rw [pieces_mark, List.mem_cons] at h
      rcases h with rfl | h
      · exact List.not_mem_nil
      · exact ih h
    · obtain ⟨first, others, hpieces⟩ := List.exists_cons_of_ne_nil (pieces_ne_nil mark rest)
      rw [pieces_cons hc hpieces, List.mem_cons] at h
      rcases h with rfl | h
      · have hfirst : mark ∉ first := ih (hpieces ▸ List.mem_cons_self)
        simp [hfirst, Ne.symm hc]
      · exact ih (hpieces ▸ List.mem_cons_of_mem _ h)

end ClientFacade.Text
