import ClientFacade.Text.Blank

/-!
# Markup

Text on a terminal is marked up by tags in brackets. An opening tag has a style, and a closing one
ends that style or, without one, the last that is open. Backslashes before a tag come in pairs, each
for one backslash, and one that is left over makes the tag plain text. Escaping makes plain text of
every tag.
-/

namespace ClientFacade.Markup

inductive Fault
  | unopened (body : Text) (position : Nat)
  | nothingOpen (position : Nat)
  deriving DecidableEq, Repr

def Fault.message : Fault → Text
  | .unopened body position =>
    "closing tag '[" ++ body ++ "]' at position " ++ Text.ofNat position ++
      " doesn't match any open tag"
  | .nothingOpen position =>
    "closing tag '[/]' at position " ++ Text.ofNat position ++ " has nothing to close"

/-- Whether a character may stand behind the bracket of a tag. -/
def beginsTag (c : Char) : Bool := ('a' ≤ c && c ≤ 'z') || c = '#' || c = '/' || c = '@'

/-- Everything before the next closing bracket, if no bracket opens before it. -/
def beforeBracket? : Text → Option Text
  | [] => none
  | c :: rest =>
    if c = ']' then some []
    else if c = '[' then none
    else (beforeBracket? rest).map (c :: ·)

def tag? : Text → Option Text
  | '[' :: c :: rest => if beginsTag c then (beforeBracket? rest).map (c :: ·) else none
  | _ => none

def backslashes (n : Nat) : Text := List.replicate n '\\'

def escapeAfter (slashes : Nat) : Text → Text
  | [] => backslashes slashes
  | c :: rest =>
    if c = '\\' then escapeAfter (slashes + 1) rest
    else
      let written := if (tag? (c :: rest)).isSome then 2 * slashes + 1 else slashes
      backslashes written ++ c :: escapeAfter 0 rest

/-- A text that ends in exactly one backslash gets another one. -/
def closeEnd (text : Text) : Text :=
  if text.endsWith ['\\'] && !text.endsWith ['\\', '\\'] then text ++ ['\\'] else text

def escape (text : Text) : Text := closeEnd (escapeAfter 0 text)

inductive Piece
  | words (text : Text)
  | tag (body : Text) (position : Nat)
  deriving DecidableEq, Repr

/-- The pieces of a markup: `words` are the last characters before it that belong to no piece yet,
in reverse, and `slashes` the number of backslashes behind them. -/
def pieces (words : Text) (slashes position : Nat) (markup : Text) : List Piece :=
  match markup with
  | [] => [.words (words.reverse ++ backslashes slashes)]
  | c :: rest =>
    if c = '\\' then pieces words (slashes + 1) (position + 1) rest
    else
      match tag? (c :: rest) with
      | none => pieces (c :: backslashes slashes ++ words) 0 (position + 1) rest
      | some body =>
        let found : Piece :=
          if slashes % 2 = 1 then .words ('[' :: body ++ [']']) else .tag body position
        .words words.reverse :: .words (backslashes (slashes / 2)) :: found ::
          pieces [] 0 (position + body.length + 2) (rest.drop (body.length + 1))
termination_by markup.length
decreasing_by all_goals simp only [List.length_cons, List.length_drop]; omega

/-- A bracket behind a backslash that escapes no tag loses the backslash. -/
def unescape : Text → Text
  | [] => []
  | [c] => [c]
  | c :: d :: rest =>
    if c = '\\' && d = '[' then d :: unescape rest else c :: unescape (d :: rest)

def styleOf (body : Text) : Text :=
  ((Text.trim (body.takeWhile (· ≠ '='))).map Char.toLower)

/-- Closes a style, the last one of its name. -/
def close (style : Text) : List Text → Option (List Text)
  | [] => none
  | last :: others =>
    if last = style then some others else (close style others).map (last :: ·)

/-- The text of pieces, where `styles` are open, the last one first. -/
def renderPieces (styles : List Text) : List Piece → Except Fault Text
  | [] => .ok []
  | .words text :: rest => do return unescape text ++ (← renderPieces styles rest)
  | .tag body position :: rest =>
    match styleOf body with
    | ['/'] =>
      match styles with
      | [] => .error (.nothingOpen position)
      | _ :: others => renderPieces others rest
    | '/' :: style =>
      match close (Text.trim style) styles with
      | none => .error (.unopened body position)
      | some others => renderPieces others rest
    | style => renderPieces (style :: styles) rest

def render (markup : Text) : Except Fault Text := renderPieces [] (pieces [] 0 0 markup)

def styled (style text : Text) : Text :=
  '[' :: style ++ ']' :: text ++ '[' :: '/' :: style ++ [']']

end ClientFacade.Markup
