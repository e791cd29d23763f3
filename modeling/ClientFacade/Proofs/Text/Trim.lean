import ClientFacade.Text.Blank
import Mathlib.Data.List.DropRight

/-!
# Trimmed texts

A trimmed text neither starts nor ends with a blank. Trimming gives such a text and keeps it as it
is. What stands between two characters that are not blank survives trimming, whatever it is.
-/

namespace ClientFacade.Text

structure Trimmed (text : Text) : Prop where
  head : ∀ c ∈ text.head?, isBlank c = false
  last : ∀ c ∈ text.getLast?, isBlank c = false

theorem trimLeft_cons {c : Char} (h : isBlank c = false) (rest : Text) :
    trimLeft (c :: rest) = c :: rest :=
  List.dropWhile_cons_of_neg (by simp [h])

theorem trimLeft_append {blanks : Text} (h : ∀ c ∈ blanks, isBlank c = true) (text : Text) :
    trimLeft (blanks ++ text) = trimLeft text :=
  List.dropWhile_append_of_pos h

/-- Trimming at the left does not reach past a character that is not blank. -/
theorem trimLeft_append_cons {c : Char} (h : isBlank c = false) (before rest : Text) :
    trimLeft (before ++ c :: rest) = trimLeft before ++ c :: rest := by
  induction before with
  | nil => exact trimLeft_cons h rest
  | cons d before ih =>
    by_cases hd : isBlank d = true
    · simpa [trimLeft, hd] using ih
    · simp [trimLeft, hd]

theorem trimLeft_suffix (text : Text) : text.trimLeft <:+ text := List.dropWhile_suffix _

theorem trimLeft_head (text : Text) : ∀ c ∈ text.trimLeft.head?, isBlank c = false := by
  intro c hc
  have h := List.head?_dropWhile_not isBlank text
  rw [trimLeft, Option.mem_def] at hc
  simpa [hc] using h

theorem trimRight_prefix_self (text : Text) : text.trimRight <+: text :=
  List.rdropWhile_prefix isBlank text

theorem exists_blanks_of_trimRight (text : Text) :
    ∃ blanks, text = text.trimRight ++ blanks ∧ ∀ c ∈ blanks, isBlank c = true :=
  ⟨text.rtakeWhile isBlank, List.rdropWhile_append_rtakeWhile.symm,
    fun _ hc => List.mem_rtakeWhile_imp hc⟩

theorem trimRight_last (text : Text) : ∀ c ∈ text.trimRight.getLast?, isBlank c = false := by
  intro c hc
  obtain ⟨hne, rfl⟩ := List.mem_getLast?_eq_getLast hc
  have h := List.rdropWhile_last_not isBlank text hne
  rwa [Bool.not_eq_true] at h

/-- Trimming at the right stops at the last character that is not blank, so that it does not touch
what stands before one. -/
theorem trimRight_append {c : Char} (h : isBlank c = false) (before rest : Text) :
    trimRight (before ++ c :: rest) = before ++ c :: trimRight rest := by
  induction rest using List.reverseRecOn with
  | nil => exact List.rdropWhile_concat_neg isBlank before c (by simp [h])
  | append_singleton rest d ih =>
    have hcons : before ++ c :: (rest ++ [d]) = (before ++ c :: rest) ++ [d] := by simp
    by_cases hd : isBlank d = true
    · have hl : trimRight (before ++ c :: rest ++ [d]) = trimRight (before ++ c :: rest) :=
        List.rdropWhile_concat_pos isBlank _ d hd
      have hr : trimRight (rest ++ [d]) = trimRight rest :=
        List.rdropWhile_concat_pos isBlank rest d hd
      rw [hcons, hl, hr, ih]
    · have hl : trimRight (before ++ c :: rest ++ [d]) = before ++ c :: rest ++ [d] :=
        List.rdropWhile_concat_neg isBlank _ d hd
      have hr : trimRight (rest ++ [d]) = rest ++ [d] :=
        List.rdropWhile_concat_neg isBlank rest d hd
      rw [hcons, hl, hr, hcons]

theorem trimRight_cons {c : Char} (h : isBlank c = false) (rest : Text) :
    trimRight (c :: rest) = c :: trimRight rest :=
  trimRight_append h [] rest

theorem trim_cons {c : Char} (h : isBlank c = false) (rest : Text) :
    trim (c :: rest) = c :: trimRight rest := by
  rw [trim, trimLeft_cons h, trimRight_cons h]

theorem trim_append_blanks {blanks : Text} (h : ∀ c ∈ blanks, isBlank c = true) (text : Text) :
    trim (blanks ++ text) = trim text := by
  rw [trim, trimLeft_append h, trim]

theorem trim_append_blank {c : Char} (h : isBlank c = true) (text : Text) :
    trim (text ++ [c]) = trim text := by
  have hleft : trimLeft (text ++ [c]) =
      if text.trimLeft.isEmpty then [] else text.trimLeft ++ [c] := by
    rw [trimLeft, List.dropWhile_append, List.dropWhile_cons_of_pos h, List.dropWhile_nil, trimLeft]
  rw [trim, trim, hleft]
  split_ifs with hempty
  · rw [List.isEmpty_iff.mp hempty]
  · exact List.rdropWhile_concat_pos isBlank _ c h

theorem trim_infix (text : Text) : text.trim <:+: text :=
  (trimRight_prefix_self _).isInfix.trans (trimLeft_suffix _).isInfix

theorem mem_trim {c : Char} (hc : isBlank c = false) {text : Text} (h : c ∈ text) :
    c ∈ text.trim := by
  obtain ⟨before, after, rfl⟩ := List.append_of_mem h
  rw [trim, trimLeft_append_cons hc, trimRight_append hc]
  simp

theorem trimLeft_trimLeft (text : Text) : text.trimLeft.trimLeft = text.trimLeft :=
  List.dropWhile_idempotent isBlank text

theorem trim_trimLeft (text : Text) : text.trimLeft.trim = text.trim := by
  rw [trim, trimLeft_trimLeft, trim]

theorem trimmed_trim (text : Text) : Trimmed text.trim where
  head c hc := by
    obtain ⟨rest, hrest⟩ := trimRight_prefix_self text.trimLeft
    have hne : text.trim ≠ [] := by rintro h; simp [h] at hc
    refine trimLeft_head text c ?_
    have hhead : text.trimLeft.head? = text.trim.head? := by
      rw [← hrest]
      exact List.head?_append_of_ne_nil _ hne
    rwa [hhead]
  last := trimRight_last _

theorem Trimmed.trimLeft_eq {text : Text} (h : Trimmed text) : text.trimLeft = text := by
  cases text with
  | nil => rfl
  | cons c rest => exact trimLeft_cons (h.head c rfl) rest

theorem Trimmed.trimRight_eq {text : Text} (h : Trimmed text) : text.trimRight = text := by
  refine List.rdropWhile_eq_self_iff.mpr fun hne => ?_
  rw [h.last _ (List.getLast?_eq_getLast_of_ne_nil hne)]
  exact Bool.false_ne_true

theorem Trimmed.trim_eq {text : Text} (h : Trimmed text) : text.trim = text := by
  rw [trim, h.trimLeft_eq, h.trimRight_eq]

theorem takeWhile_word {word : Text} (h : ∀ c ∈ word, isBlank c = false) {c : Char}
    (hc : isBlank c = true) (rest : Text) : (word ++ c :: rest).takeWhile (!isBlank ·) = word := by
  have hword : ∀ d ∈ word, (!isBlank d) = true := fun d hd => by simp [h d hd]
  rw [List.takeWhile_append_of_pos hword, List.takeWhile_cons_of_neg (by simp [hc]),
    List.append_nil]

theorem dropWhile_word {word : Text} (h : ∀ c ∈ word, isBlank c = false) {c : Char}
    (hc : isBlank c = true) (rest : Text) :
    (word ++ c :: rest).dropWhile (!isBlank ·) = c :: rest := by
  have hword : ∀ d ∈ word, (!isBlank d) = true := fun d hd => by simp [h d hd]
  rw [List.dropWhile_append_of_pos hword, List.dropWhile_cons_of_neg (by simp [hc])]

end ClientFacade.Text
