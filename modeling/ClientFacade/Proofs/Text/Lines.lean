import ClientFacade.Proofs.Text.Marks
import ClientFacade.Proofs.Text.Trim
import ClientFacade.Text.Lines
import Mathlib.Data.List.Forall2

/-!
# Reading lines back

The lines of a text are what its line feeds separate, each without one carriage return at its end;
this is also said here without the functions that split and cut. Lines that were written one after
the other are read back one by one: each of them without a carriage return at its end, and cut
where it holds a line feed of its own. Trimming does not see the carriage return that reading drops.
-/

namespace ClientFacade.Text

/-- The parts between the line feeds of a text: one part more than there are line feeds. -/
structure SplitAtFeeds (text : Text) (parts : List Text) : Prop where
  nonempty : parts ≠ []
  feedless : ∀ part ∈ parts, '\n' ∉ part
  joined : List.intercalate ['\n'] parts = text

/-- The line is the part without one carriage return at its end, if there is one. -/
inductive WithoutReturn : Text → Text → Prop
  | dropped (line : Text) : WithoutReturn (line ++ ['\r']) line
  | kept {line : Text} (h : line.getLast? ≠ some '\r') : WithoutReturn line line

theorem splitAtFeeds_iff {text : Text} {parts : List Text} :
    SplitAtFeeds text parts ↔ parts = text.pieces '\n' := by
  constructor
  · rintro ⟨hne, hfeedless, rfl⟩
    rw [← join_eq_intercalate, pieces_join hne hfeedless]
  · rintro rfl
    refine ⟨pieces_ne_nil _ text, fun part hpart => not_mem_of_mem_pieces hpart, ?_⟩
    rw [← join_eq_intercalate, join_pieces]

theorem dropReturn_append_return (line : Text) : dropReturn (line ++ ['\r']) = line := by
  simp [dropReturn]

theorem dropReturn_eq_self {line : Text} (h : line.getLast? ≠ some '\r') :
    dropReturn line = line := by
  induction line using List.reverseRecOn with
  | nil => rfl
  | append_singleton line c _ =>
    have hc : c ≠ '\r' := by simpa using h
    simp [dropReturn, hc]

/-- A line ends in one carriage return that is dropped, or it stays as it is. -/
theorem dropReturn_cases (line : Text) :
    line = dropReturn line ++ ['\r'] ∨ dropReturn line = line := by
  by_cases h : line.getLast? = some '\r'
  · obtain ⟨before, rfl⟩ := List.getLast?_eq_some_iff.mp h
    exact Or.inl (by rw [dropReturn_append_return])
  · exact Or.inr (dropReturn_eq_self h)

theorem withoutReturn_iff {part line : Text} :
    WithoutReturn part line ↔ dropReturn part = line := by
  constructor
  · rintro (_ | h)
    · exact dropReturn_append_return line
    · exact dropReturn_eq_self h
  · rintro rfl
    by_cases h : part.getLast? = some '\r'
    · obtain ⟨before, rfl⟩ := List.getLast?_eq_some_iff.mp h
      rw [dropReturn_append_return]
      exact .dropped before
    · rw [dropReturn_eq_self h]
      exact .kept h

theorem forall₂_withoutReturn_iff {parts lines : List Text} :
    List.Forall₂ WithoutReturn parts lines ↔ lines = parts.map dropReturn := by
  constructor
  · intro h
    induction h with
    | nil => rfl
    | cons hfirst _ ih => rw [List.map_cons, withoutReturn_iff.mp hfirst, ih]
  · rintro rfl
    exact List.forall₂_map_right_iff.mpr
      (List.forall₂_same.mpr fun part _ => withoutReturn_iff.mpr rfl)

theorem dropReturn_prefix_self (line : Text) : dropReturn line <+: line := by
  rcases dropReturn_cases line with h | h
  · exact ⟨['\r'], h.symm⟩
  · exact ⟨[], by rw [List.append_nil, h]⟩

theorem dropReturn_append {line : Text} (h : line ≠ []) (before : Text) :
    dropReturn (before ++ line) = before ++ dropReturn line := by
  induction line using List.reverseRecOn with
  | nil => exact absurd rfl h
  | append_singleton line c _ =>
    rw [← List.append_assoc]
    by_cases hc : c = '\r'
    · subst hc
      rw [dropReturn_append_return, dropReturn_append_return]
    · rw [dropReturn_eq_self (by simpa using hc), dropReturn_eq_self (by simpa using hc),
        List.append_assoc]

theorem trim_dropReturn (line : Text) : (dropReturn line).trim = line.trim := by
  rcases dropReturn_cases line with h | h
  · conv_rhs => rw [h]
    exact (trim_append_blank (by decide) _).symm
  · rw [h]

theorem lines_append_feed (before after : Text) :
    lines (before ++ '\n' :: after) = lines before ++ lines after := by
  simp [lines, pieces_append_mark]

theorem lines_eq_singleton {line : Text} (h : '\n' ∉ line) : lines line = [dropReturn line] := by
  simp [lines, pieces_eq_singleton h]

theorem pieces_unlines (texts : List Text) :
    pieces '\n' (unlines texts) = texts.flatMap (pieces '\n') ++ [[]] := by
  induction texts with
  | nil => rfl
  | cons line rest ih =>
    rw [unlines_cons, pieces_append_mark, ih, List.flatMap_cons, List.append_assoc]

theorem lines_unlines (texts : List Text) :
    lines (unlines texts) = texts.flatMap lines ++ [[]] := by
  rw [lines, pieces_unlines, List.map_append, List.map_flatMap]
  rfl

theorem not_mem_of_mem_lines {text line : Text} (h : line ∈ lines text) : '\n' ∉ line := by
  obtain ⟨piece, hpiece, rfl⟩ := List.mem_map.mp h
  exact fun hm => not_mem_of_mem_pieces hpiece ((dropReturn_prefix_self piece).subset hm)

end ClientFacade.Text
