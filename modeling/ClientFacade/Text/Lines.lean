import ClientFacade.Text.Basic

/-!
# Lines

A line feed ends a line and nothing else does. A carriage return before it belongs to the line
end, other line separators stay inside the line.
-/

namespace ClientFacade.Text

def dropReturn (line : Text) : Text :=
  match line.reverse with
  | '\r' :: rest => rest.reverse
  | _ => line

/-- The lines of a text. A line feed at the end of the text is followed by one empty line. -/
def lines (text : Text) : List Text := (text.pieces '\n').map dropReturn

def unlines (lines : List Text) : Text := lines.flatMap fun line => line ++ ['\n']

def firstLine (text : Text) : Text := text.takeWhile (· != '\n')

/-- Turns a carriage return, with or without a line feed behind it, into one line feed. -/
def unifyLineEnds : Text → Text
  | [] => []
  | '\r' :: '\n' :: rest => '\n' :: unifyLineEnds rest
  | '\r' :: rest => '\n' :: unifyLineEnds rest
  | c :: rest => c :: unifyLineEnds rest

@[simp] theorem unlines_nil : unlines [] = [] := rfl

@[simp] theorem unlines_cons (line : Text) (rest : List Text) :
    unlines (line :: rest) = line ++ '\n' :: unlines rest := by
  simp [unlines]

theorem unlines_append (first second : List Text) :
    unlines (first ++ second) = unlines first ++ unlines second := by
  simp [unlines]

end ClientFacade.Text
