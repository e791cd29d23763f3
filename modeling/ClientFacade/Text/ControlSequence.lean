import ClientFacade.Text.Basic

/-!
# Control sequences

A control sequence tells a terminal to change colours and the like. It is an escape character, a
bracket, parameters and a letter. What does not go to a terminal is written without them.
-/

namespace ClientFacade.Text

def isParameter (c : Char) : Bool := c.isDigit || c = ';' || c = '?'

/-- What follows a control sequence behind its escape character, if there is one. -/
def afterSequence? : Text → Option Text
  | '[' :: rest =>
    match rest.dropWhile isParameter with
    | c :: after => if c.isAlpha then some after else none
    | [] => none
  | _ => none

theorem afterSequence?_length {text after : Text} (h : afterSequence? text = some after) :
    after.length < text.length := by
  unfold afterSequence? at h
  split at h
  · next rest =>
    have shorter : (rest.dropWhile isParameter).length ≤ rest.length :=
      (List.dropWhile_suffix isParameter).length_le
    split at h
    · next c after' found =>
      split at h
      · simp only [Option.some.injEq] at h
        rw [found] at shorter
        simp only [List.length_cons] at shorter ⊢
        rw [← h]
        omega
      · simp at h
    · simp at h
  · simp at h

def withoutSequences (text : Text) : Text :=
  match text with
  | [] => []
  | c :: rest =>
    match _h : if c = '\x1b' then afterSequence? rest else none with
    | some after => withoutSequences after
    | none => c :: withoutSequences rest
termination_by text.length
decreasing_by
  · split at _h
    · have := afterSequence?_length _h
      simp only [List.length_cons]
      omega
    · simp at _h
  · simp only [List.length_cons]
    omega

end ClientFacade.Text
