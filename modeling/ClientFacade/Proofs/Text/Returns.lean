import ClientFacade.Proofs.Text.Lines

/-!
# Line feeds with a carriage return

A text may end its lines with a carriage return and a line feed in place of a line feed alone. Its
lines are the same then. A carriage return is blank, as a line feed is, so that words and runs of
blanks are found in the same places: what is left of the text behind them is again the same up to
its line ends.
-/

namespace ClientFacade.Text

def withReturns (text : Text) : Text := replaceChar '\n' ['\r', '\n'] text

@[simp] theorem withReturns_nil : withReturns [] = [] := rfl

@[simp] theorem withReturns_feed (rest : Text) :
    withReturns ('\n' :: rest) = '\r' :: '\n' :: withReturns rest := rfl

theorem withReturns_cons {c : Char} (h : c ≠ '\n') (rest : Text) :
    withReturns (c :: rest) = c :: withReturns rest := by
  simp [withReturns, replaceChar, h]

/-- The lines do not change, whatever has already been read of the first one. -/
theorem lines_append_withReturns {before text : Text} (hbefore : '\n' ∉ before)
    (hreturn : '\r' ∉ before ++ text) :
    lines (before ++ withReturns text) = lines (before ++ text) := by
  induction text generalizing before with
  | nil => rfl
  | cons c rest ih =>
    by_cases hc : c = '\n'
    · subst hc
      have hrest : '\r' ∉ rest := by simp at hreturn; exact hreturn.2
      have hline : lines (before ++ ['\r']) = lines before := by
        rw [lines_eq_singleton (by simp [hbefore]), lines_eq_singleton hbefore,
          dropReturn_append_return]
        rw [dropReturn_eq_self]
        intro hlast
        apply hreturn
        exact List.mem_append_left _ (List.mem_of_getLast? hlast)
      have hsplit : before ++ withReturns ('\n' :: rest) =
          (before ++ ['\r']) ++ '\n' :: withReturns rest := by simp
      have hothers : lines ([] ++ withReturns rest) = lines ([] ++ rest) := by
        apply ih List.not_mem_nil
        exact hrest
      rw [List.nil_append, List.nil_append] at hothers
      rw [hsplit, lines_append_feed, lines_append_feed, hline, hothers]
    · have hshift : ∀ more : Text, before ++ c :: more = (before ++ [c]) ++ more := by simp
      rw [withReturns_cons hc, hshift (withReturns rest), hshift rest]
      apply ih
      · simp [hbefore, Ne.symm hc]
      · rwa [← hshift]

theorem lines_withReturns {text : Text} (h : '\r' ∉ text) :
    lines (withReturns text) = lines text := by
  have hnil : lines ([] ++ withReturns text) = lines ([] ++ text) := by
    apply lines_append_withReturns List.not_mem_nil
    exact h
  exact hnil

theorem trimLeft_withReturns (text : Text) :
    trimLeft (withReturns text) = withReturns (trimLeft text) := by
  induction text with
  | nil => rfl
  | cons c rest ih =>
    by_cases hc : c = '\n'
    · subst hc
      exact ih
    · rw [withReturns_cons hc]
      by_cases hblank : isBlank c = true
      · simpa [trimLeft, hblank] using ih
      · rw [Bool.not_eq_true] at hblank
        rw [trimLeft_cons hblank, trimLeft_cons hblank, withReturns_cons hc]

theorem takeWhile_withReturns (text : Text) :
    (withReturns text).takeWhile (!isBlank ·) = text.takeWhile (!isBlank ·) := by
  induction text with
  | nil => rfl
  | cons c rest ih =>
    by_cases hc : c = '\n'
    · subst hc
      rfl
    · rw [withReturns_cons hc, List.takeWhile_cons, List.takeWhile_cons, ih]

theorem dropWhile_withReturns (text : Text) :
    (withReturns text).dropWhile (!isBlank ·) = withReturns (text.dropWhile (!isBlank ·)) := by
  induction text with
  | nil => rfl
  | cons c rest ih =>
    by_cases hc : c = '\n'
    · subst hc
      rfl
    · rw [withReturns_cons hc, List.dropWhile_cons, List.dropWhile_cons, ih]
      split_ifs
      · rfl
      · rw [withReturns_cons hc]

theorem dropBeginning?_cons (b : Char) (beginning : Text) (c : Char) (rest : Text) :
    dropBeginning? (b :: beginning) (c :: rest) =
      if b = c then dropBeginning? beginning rest else none := by
  by_cases hc : b = c
  · simp [dropBeginning?, hc]
  · simp [dropBeginning?, hc]

/-- A beginning without line ends is found just where it was. -/
theorem dropBeginning?_withReturns {beginning : Text} (hreturn : '\r' ∉ beginning)
    (hfeed : '\n' ∉ beginning) (text : Text) :
    dropBeginning? beginning (withReturns text) =
      (dropBeginning? beginning text).map withReturns := by
  induction beginning generalizing text with
  | nil => rfl
  | cons b beginning ih =>
    rw [List.mem_cons, not_or] at hreturn hfeed
    cases text with
    | nil => rfl
    | cons c rest =>
      by_cases hc : c = '\n'
      · subst hc
        rw [withReturns_feed, dropBeginning?_cons, dropBeginning?_cons, if_neg (Ne.symm hreturn.1),
          if_neg (Ne.symm hfeed.1), Option.map_none]
      · rw [withReturns_cons hc, dropBeginning?_cons, dropBeginning?_cons]
        split_ifs
        · exact ih hreturn.2 hfeed.2 rest
        · rfl

end ClientFacade.Text
