import ClientFacade.Text.Lowercase
import Mathlib.Data.List.Basic

/-!
# Lower case has no blanks of its own

No letter has a lower case that is blank, so that the lower case of a word is free of blanks.
-/

namespace ClientFacade

/-- All lower-case letters that a run of the table leads to lie outside every range of blanks. -/
theorem lowercaseRuns_avoid_blanks : ∀ run ∈ lowercaseRuns, ∀ range ∈ blankRanges,
    (run.2.1 + run.2.2.2).toNat < range.1 ∨ range.2 < (run.1 + run.2.2.2).toNat := by
  decide +kernel

theorem isBlank_ofNat_eq_false {n : Nat} (h : inRanges blankRanges n = false) :
    isBlank (Char.ofNat n) = false := by
  by_cases hvalid : n.isValidChar
  · have hcode : (Char.ofNat n).toNat = n := by
      rw [Char.ofNat, dif_pos hvalid]
      rfl
    rw [isBlank, hcode, h]
  · have hzero : Char.ofNat n = Char.ofNat 0 := by
      rw [Char.ofNat, dif_neg hvalid]
      rfl
    rw [hzero]
    decide

theorem inRanges_eq_false {ranges : List (Nat × Nat)} {code : Nat}
    (h : ∀ range ∈ ranges, code < range.1 ∨ range.2 < code) : inRanges ranges code = false := by
  refine List.any_eq_false.mpr fun range hrange => ?_
  have hout := h range hrange
  simp only [Bool.and_eq_true, decide_eq_true_eq]
  omega

theorem not_isBlank_of_mem_lowerChar {c d : Char} (hc : isBlank c = false)
    (hd : d ∈ lowerChar c) : isBlank d = false := by
  unfold lowerChar at hd
  split_ifs at hd with hdot
  · rcases List.mem_cons.mp hd with rfl | hd
    · decide
    · rw [List.mem_singleton.mp hd]
      decide
  · split at hd
    · next first last step distance hrun =>
      rw [List.mem_singleton.mp hd]
      have hmem : (first, last, step, distance) ∈ lowercaseRuns := List.mem_of_find?_eq_some hrun
      have hwithin := List.find?_some hrun
      simp only [Bool.and_eq_true, decide_eq_true_eq] at hwithin
      refine isBlank_ofNat_eq_false (inRanges_eq_false fun range hrange => ?_)
      have havoid := lowercaseRuns_avoid_blanks _ hmem range hrange
      dsimp only at havoid
      omega
    · rwa [List.mem_singleton.mp hd]

namespace Text

theorem noBlank_lowerAfter {text : Text} (h : ∀ c ∈ text, isBlank c = false) (before : Text) :
    ∀ d ∈ lowerAfter before text, isBlank d = false := by
  induction text generalizing before with
  | nil => simp [lowerAfter]
  | cons c rest ih =>
    intro d hd
    rcases List.mem_append.mp hd with hfirst | hrest
    · split_ifs at hfirst with hsigma hfinal
      · rw [List.mem_singleton.mp hfirst]
        decide
      · rw [List.mem_singleton.mp hfirst]
        decide
      · exact not_isBlank_of_mem_lowerChar (h c List.mem_cons_self) hfirst
    · exact ih (fun e he => h e (List.mem_cons_of_mem _ he)) _ d hrest

theorem noBlank_lower {text : Text} (h : ∀ c ∈ text, isBlank c = false) :
    ∀ d ∈ text.lower, isBlank d = false :=
  noBlank_lowerAfter h []

end Text

end ClientFacade
