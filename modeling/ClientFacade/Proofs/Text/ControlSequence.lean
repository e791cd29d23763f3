import ClientFacade.Text.ControlSequence

/-!
# Texts that survive off the terminal

What does not go to a terminal loses its control sequences, and a text comes out unchanged just if
it has none.
-/

namespace ClientFacade.Text

/-- No escape character in a text begins a control sequence. -/
def SequenceFree (text : Text) : Prop :=
  ∀ before rest, text = before ++ '\x1b' :: rest → afterSequence? rest = none

theorem SequenceFree.cons_iff {c : Char} {rest : Text} :
    SequenceFree (c :: rest) ↔ (c = '\x1b' → afterSequence? rest = none) ∧ SequenceFree rest := by
  constructor
  · intro h
    refine ⟨?_, fun before after hrest => h (c :: before) after (by rw [hrest]; rfl)⟩
    rintro rfl
    exact h [] rest rfl
  · rintro ⟨hhead, htail⟩ before after hsplit
    cases before with
    | nil =>
      obtain ⟨rfl, rfl⟩ := List.cons.inj hsplit
      exact hhead rfl
    | cons d before =>
      obtain ⟨rfl, hrest⟩ := List.cons.inj hsplit
      exact htail before after hrest

@[simp] theorem withoutSequences_nil : withoutSequences [] = [] := by
  rw [withoutSequences]

theorem length_withoutSequences_le (text : Text) :
    text.withoutSequences.length ≤ text.length := by
  fun_induction withoutSequences text with
  | case1 => exact Nat.le_refl _
  | case2 c rest after hsome ih =>
    split at hsome
    · have := afterSequence?_length hsome
      simp only [List.length_cons]
      omega
    · cases hsome
  | case3 c rest hnone ih =>
    simp only [List.length_cons]
    omega

theorem withoutSequences_eq_self_iff (text : Text) :
    text.withoutSequences = text ↔ text.SequenceFree := by
  fun_induction withoutSequences text with
  | case1 => simp [SequenceFree]
  | case2 c rest after hsome ih =>
    split at hsome
    · next hescape =>
      have hshort := afterSequence?_length hsome
      have hle := length_withoutSequences_le after
      refine iff_of_false (fun heq => ?_) fun hfree => ?_
      · have hlength := congrArg List.length heq
        simp only [List.length_cons] at hlength
        omega
      · rw [(SequenceFree.cons_iff.mp hfree).1 hescape] at hsome
        cases hsome
    · cases hsome
  | case3 c rest hnone ih =>
    have hhead : c = '\x1b' → afterSequence? rest = none := by
      rintro rfl
      exact hnone
    rw [List.cons.injEq, ih, SequenceFree.cons_iff]
    exact ⟨fun h => ⟨hhead, h.2⟩, fun h => ⟨rfl, h.2⟩⟩

end ClientFacade.Text
