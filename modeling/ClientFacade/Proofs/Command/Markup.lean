import ClientFacade.Command.Basic
import ClientFacade.Command.Failure
import Mathlib.Data.List.Basic

/-!
# Failures can always be shown

An escaped text has the tags of the text itself, each behind an odd number of backslashes. So the
only tag that a panel for a failure opens is the red one around its message, and the only one it
closes, if a backslash at the end of the message does not make plain text of that too.
-/

namespace ClientFacade

namespace Markup

/-- What ends the message of a failure. -/
def redEnd : Text := "[/red]"

def Renders (styles : List Text) (pieces : List Piece) : Prop :=
  ∃ shown, renderPieces styles pieces = .ok shown

theorem Renders.words {styles : List Text} {pieces : List Piece} (h : Renders styles pieces)
    (text : Text) : Renders styles (.words text :: pieces) := by
  obtain ⟨shown, hshown⟩ := h
  refine ⟨unescape text ++ shown, ?_⟩
  rw [renderPieces, hshown]
  rfl

theorem backslashes_succ (n : Nat) : backslashes (n + 1) = '\\' :: backslashes n := rfl

theorem pieces_backslashes (n : Nat) (words : Text) (slashes position : Nat) (markup : Text) :
    pieces words slashes position (backslashes n ++ markup) =
      pieces words (slashes + n) (position + n) markup := by
  induction n generalizing slashes position with
  | zero => rfl
  | succ n ih =>
    rw [backslashes_succ, List.cons_append, pieces, if_pos rfl, ih]
    congr 1 <;> omega

theorem beforeBracket?_backslashes (n : Nat) (text : Text) :
    beforeBracket? (backslashes n ++ text) = (beforeBracket? text).map (backslashes n ++ ·) := by
  induction n with
  | zero => simp [backslashes]
  | succ n ih =>
    rw [backslashes_succ, List.cons_append, beforeBracket?, if_neg (by decide),
      if_neg (by decide), ih, Option.map_map]
    rfl

theorem beforeBracket?_end (n : Nat) : beforeBracket? (backslashes n ++ redEnd) = none := by
  rw [beforeBracket?_backslashes]
  rfl

theorem tag?_of_ne {c : Char} (h : c ≠ '[') (rest : Text) : tag? (c :: rest) = none := by
  unfold tag?
  split
  · next heq => exact absurd (List.cons.inj heq).1 h
  · rfl

theorem tag?_bracket (c : Char) (rest : Text) :
    tag? ('[' :: c :: rest) =
      if beginsTag c then (beforeBracket? rest).map (c :: ·) else none := rfl

/-- A bracket in the text stays where it is seen from everything before it. -/
theorem beforeBracket?_escapeAfter (slashes n : Nat) (text : Text) :
    beforeBracket? (escapeAfter slashes text ++ (backslashes n ++ redEnd)) =
      beforeBracket? (backslashes slashes ++ text) := by
  induction text generalizing slashes with
  | nil =>
    rw [escapeAfter, beforeBracket?_backslashes, beforeBracket?_end, List.append_nil]
    have hnone := beforeBracket?_backslashes slashes []
    rw [List.append_nil] at hnone
    rw [hnone]
    rfl
  | cons c rest ih =>
    rw [escapeAfter]
    by_cases hslash : c = '\\'
    · subst hslash
      rw [if_pos rfl, ih, backslashes, List.replicate_succ']
      simp [backslashes]
    · rw [if_neg hslash]
      dsimp only
      rw [List.append_assoc, beforeBracket?_backslashes, beforeBracket?_backslashes,
        List.cons_append, beforeBracket?, beforeBracket?]
      by_cases hopen : c = '['
      · simp [hopen]
      · rw [tag?_of_ne hopen, ih]
        simp [backslashes]

theorem escapeAfter_succ (slashes : Nat) (text : Text) :
    ∃ more, escapeAfter (slashes + 1) text = '\\' :: more := by
  induction text generalizing slashes with
  | nil => exact ⟨backslashes slashes, rfl⟩
  | cons c rest ih =>
    rw [escapeAfter]
    split
    · exact ih (slashes + 1)
    · dsimp only
      split
      · exact ⟨_, rfl⟩
      · exact ⟨_, rfl⟩

/-- Escaping makes no tag and loses none. -/
theorem tag?_escapeAfter (c : Char) (rest : Text) (n : Nat) :
    tag? (c :: (escapeAfter 0 rest ++ (backslashes n ++ redEnd))) = tag? (c :: rest) := by
  by_cases hopen : c = '['
  · subst hopen
    cases rest with
    | nil =>
      cases n with
      | zero => rfl
      | succ n => rfl
    | cons d more =>
      rw [tag?_bracket d more]
      by_cases hslash : d = '\\'
      · subst hslash
        obtain ⟨escaped, hescaped⟩ := escapeAfter_succ 0 more
        rw [escapeAfter, if_pos rfl, hescaped, List.cons_append, tag?_bracket]
        rfl
      · rw [escapeAfter, if_neg hslash]
        dsimp only
        by_cases hnext : d = '['
        · subst hnext
          split
          · rfl
          · rfl
        · rw [tag?_of_ne hnext]
          simp only [Option.isSome_none, Bool.false_eq_true, if_false, List.append_assoc,
            List.cons_append]
          rw [show backslashes 0 = [] from rfl, List.nil_append, tag?_bracket,
            beforeBracket?_escapeAfter]
          rfl
  · rw [tag?_of_ne hopen, tag?_of_ne hopen]

theorem eq_of_beforeBracket? {text body : Text} (h : beforeBracket? text = some body) :
    ∃ after, text = body ++ ']' :: after ∧ ∀ c ∈ body, c ≠ '[' := by
  induction text generalizing body with
  | nil => simp [beforeBracket?] at h
  | cons c rest ih =>
    rw [beforeBracket?] at h
    by_cases hclose : c = ']'
    · rw [if_pos hclose] at h
      obtain rfl := Option.some.inj h
      exact ⟨rest, by rw [hclose]; rfl, by simp⟩
    · rw [if_neg hclose] at h
      by_cases hopen : c = '['
      · simp [hopen] at h
      · rw [if_neg hopen] at h
        obtain ⟨body, hbody, rfl⟩ := Option.map_eq_some_iff.mp h
        obtain ⟨after, rfl, hwords⟩ := ih hbody
        refine ⟨after, rfl, fun d hd => ?_⟩
        rcases List.mem_cons.mp hd with rfl | hd
        · exact hopen
        · exact hwords d hd

theorem eq_of_tag? {c : Char} {rest body : Text} (h : tag? (c :: rest) = some body) :
    c = '[' ∧ ∃ after, rest = body ++ ']' :: after ∧ ∀ d ∈ body, d ≠ '[' := by
  by_cases hopen : c = '['
  · subst hopen
    cases rest with
    | nil => simp [tag?] at h
    | cons d more =>
      rw [tag?_bracket] at h
      by_cases hbegins : beginsTag d
      · rw [if_pos hbegins] at h
        obtain ⟨inner, hinner, rfl⟩ := Option.map_eq_some_iff.mp h
        obtain ⟨after, rfl, hwords⟩ := eq_of_beforeBracket? hinner
        refine ⟨rfl, after, rfl, fun e he => ?_⟩
        rcases List.mem_cons.mp he with rfl | he
        · rintro rfl
          exact absurd hbegins (by decide)
        · exact hwords e he
      · simp [hbegins] at h
  · rw [tag?_of_ne hopen] at h
    cases h

/-- The inside of a tag is escaped to itself. -/
theorem escapeAfter_body {body : Text} (h : ∀ c ∈ body, c ≠ '[') (slashes : Nat) (after : Text) :
    escapeAfter slashes (body ++ ']' :: after) =
      backslashes slashes ++ (body ++ ']' :: escapeAfter 0 after) := by
  induction body generalizing slashes with
  | nil =>
    rw [List.nil_append, escapeAfter, if_neg (by decide), tag?_of_ne (by decide)]
    rfl
  | cons c body ih =>
    have hopen : c ≠ '[' := h c (List.mem_cons_self ..)
    have hrest := ih fun d hd => h d (List.mem_cons_of_mem _ hd)
    rw [List.cons_append, escapeAfter]
    by_cases hslash : c = '\\'
    · rw [if_pos hslash, hrest, hslash, backslashes, List.replicate_succ']
      simp [backslashes]
    · rw [if_neg hslash, tag?_of_ne hopen, hrest]
      rfl

theorem pieces_nil (words : Text) (slashes position : Nat) :
    pieces words slashes position [] = [.words (words.reverse ++ backslashes slashes)] := by
  rw [pieces]

theorem renders_end (words : Text) (slashes position : Nat) :
    Renders ["red"] (pieces words slashes position redEnd) := by
  have hend : redEnd = '[' :: ("/red]" : String).toList := rfl
  have htag : tag? redEnd = some ("/red" : String).toList := rfl
  have hdrop : ("/red]" : String).toList.drop (("/red" : String).toList.length + 1) = [] := rfl
  have hrest : ∀ styles place, Renders styles (pieces [] 0 place []) := fun styles place => by
    rw [pieces_nil]
    exact Renders.words ⟨[], rfl⟩ _
  rw [hend] at htag
  rw [hend, pieces, if_neg (by decide), htag]
  dsimp only
  rw [hdrop]
  refine .words (.words ?_ _) _
  by_cases hodd : slashes % 2 = 1
  · rw [if_pos hodd]
    exact (hrest ..).words _
  · rw [if_neg hodd]
    exact hrest [] _

/-- Behind an odd number of backslashes a tag is plain text. -/
theorem pieces_escaped_tag {rest body : Text} (h : tag? ('[' :: rest) = some body)
    (words : Text) (slashes position : Nat) :
    pieces words (2 * slashes + 1) position ('[' :: rest) =
      .words words.reverse :: .words (backslashes slashes) :: .words ('[' :: body ++ [']']) ::
        pieces [] 0 (position + body.length + 2) (rest.drop (body.length + 1)) := by
  rw [pieces, if_neg (by decide), h]
  dsimp only
  rw [if_pos (by omega), show (2 * slashes + 1) / 2 = slashes by omega]

theorem renders_escapeAfter (text : Text) (slashes n : Nat) (words : Text) (position : Nat) :
    Renders ["red"]
      (pieces words 0 position (escapeAfter slashes text ++ (backslashes n ++ redEnd))) := by
  -- a tag is passed over as a whole, so the induction is on the length
  induction hlength : text.length using Nat.strongRecOn
    generalizing text slashes words position with
  | ind length ih =>
    subst hlength
    cases text with
    | nil =>
      rw [escapeAfter, pieces_backslashes, pieces_backslashes]
      exact renders_end ..
    | cons c rest =>
      rw [escapeAfter]
      by_cases hslash : c = '\\'
      · rw [if_pos hslash]
        exact ih _ (by simp) rest _ _ _ rfl
      · rw [if_neg hslash]
        dsimp only
        rw [List.append_assoc, pieces_backslashes, List.cons_append]
        cases htag : tag? (c :: rest) with
        | none =>
          rw [pieces, if_neg hslash, tag?_escapeAfter, htag]
          exact ih _ (by simp) rest _ _ _ rfl
        | some body =>
          obtain ⟨rfl, after, rfl, hwords⟩ := eq_of_tag? htag
          rw [← tag?_escapeAfter _ _ n] at htag
          have hslashes : 0 + (if (some body).isSome = true then 2 * slashes + 1 else slashes) =
              2 * slashes + 1 := by simp
          rw [hslashes, pieces_escaped_tag htag]
          refine .words (.words (.words ?_ _) _) _
          rw [escapeAfter_body hwords]
          have hdrop : ((backslashes 0 ++ (body ++ ']' :: escapeAfter 0 after)) ++
              (backslashes n ++ redEnd)).drop (body.length + 1) =
              escapeAfter 0 after ++ (backslashes n ++ redEnd) := by
            simp [backslashes, List.drop_append]
          rw [hdrop]
          exact ih _ (by simp; omega) after _ _ _ rfl

theorem closeEnd_eq (text : Text) : ∃ n, closeEnd text = text ++ backslashes n := by
  unfold closeEnd
  split
  · exact ⟨1, rfl⟩
  · exact ⟨0, (List.append_nil text).symm⟩

/-- Whatever a text is, it can be shown in red. -/
theorem exists_render_styled (text : Text) :
    ∃ shown, render (styled "red" (escape text)) = .ok shown := by
  obtain ⟨n, hn⟩ := closeEnd_eq (escapeAfter 0 text)
  have hstyled : styled "red" (escape text) =
      '[' :: ("red]" : String).toList ++ (escapeAfter 0 text ++ (backslashes n ++ redEnd)) := by
    rw [styled, escape, hn]
    simp [redEnd]
  have htag : ∀ rest, tag? ('[' :: (("red]" : String).toList ++ rest)) =
      some ("red" : String).toList := fun _ => rfl
  have hpieces : pieces [] 0 0 (styled "red" (escape text)) =
      .words [] :: .words [] :: .tag "red" 0 ::
        pieces [] 0 5 (escapeAfter 0 text ++ (backslashes n ++ redEnd)) := by
    rw [hstyled, List.cons_append, pieces, if_neg (by decide), htag]
    rfl
  rw [render, hpieces]
  exact ((renders_escapeAfter text 0 n [] 5).words []).words []

end Markup

namespace Command

theorem render_title (command : Command) :
    Markup.render ("❌ " ++ command.title) = .ok ("❌ " ++ command.title) := by
  cases command <;> decide +kernel

theorem Failure.exists_panel {κ : Type} (command : Command) (failure : Failure κ) :
    ∃ panel, failure.panel command.title = .ok panel := by
  obtain ⟨shown, hshown⟩ := Markup.exists_render_styled failure.message
  exact ⟨_, by rw [panel, Panel.ofMarkup, render_title, hshown]; rfl⟩

end Command

end ClientFacade
