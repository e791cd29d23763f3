import ClientFacade.Text.Quoted
import ClientFacade.Value.Basic

/-!
# Values as JSON

Every item of a list and every entry of a map stands on a line of its own, two spaces further in
than the brackets around them. Empty ones are a pair of brackets. In a text only quotes, backslashes
and control characters are escaped.
-/

namespace ClientFacade.Json

def escapeLetters : List (Char × Char) :=
  [('"', '"'), ('\\', '\\'), ('\x08', 'b'), ('\t', 't'), ('\n', 'n'), ('\x0c', 'f'), ('\r', 'r')]

def writeChar (c : Char) : Text :=
  match escapeLetters.lookup c with
  | some letter => ['\\', letter]
  | none => if c < ' ' then "\\u" ++ Text.hex 4 c.toNat else [c]

def writeText (text : Text) : Text := '"' :: text.flatMap writeChar ++ ['"']

def writeScalar : Scalar → Text
  | .null => "null"
  | .bool value => if value then "true" else "false"
  | .int value => Text.ofInt value
  | .float value => value.text
  | .text text => writeText text
  | .moment date => writeText date

/-- A key is written as a text. -/
def writeKey : Scalar → Text
  | .text text => writeText text
  | key => writeText (writeScalar key)

def newLine (depth : Nat) : Text := '\n' :: List.replicate (2 * depth) ' '

mutual

def write (depth : Nat) : Value → Text
  | .scalar value => writeScalar value
  | .list [] => "[]"
  | .list (item :: rest) =>
    '[' :: newLine (depth + 1) ++ write (depth + 1) item ++ writeItems (depth + 1) rest ++
      newLine depth ++ [']']
  | .map [] => "\x7b\x7d"
  | .map ((key, value) :: rest) =>
    '\x7b' :: newLine (depth + 1) ++ writeKey key ++ ": " ++ write (depth + 1) value ++
      writeEntries (depth + 1) rest ++ newLine depth ++ ['\x7d']

def writeItems (depth : Nat) : List Value → Text
  | [] => []
  | item :: rest => ',' :: newLine depth ++ write depth item ++ writeItems depth rest

def writeEntries (depth : Nat) : List (Scalar × Value) → Text
  | [] => []
  | (key, value) :: rest =>
    ',' :: newLine depth ++ writeKey key ++ ": " ++ write depth value ++ writeEntries depth rest

end

end ClientFacade.Json
