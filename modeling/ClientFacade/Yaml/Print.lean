import ClientFacade.Text.Quoted
import ClientFacade.Yaml.Cursor
import ClientFacade.Yaml.Tag

/-!
# YAML in print

A document is a block of keys with texts, lists of texts and truth values. A text is written plain
where it reads back as the same text, else between single quotes, and between double quotes where a
character needs an escape or a space stands beside a line break. Past the line limit, plain and
single-quoted text is folded at single spaces, and double-quoted text at spaces and after escapes.
-/

namespace ClientFacade.Yaml.Print

inductive Style
  | plain
  | single
  | double
  deriving DecidableEq, Repr

def isUnescaped (c : Char) : Bool := ' ' ≤ c && c ≤ '~'

def beginsWithSign : Text → Bool
  | [] => false
  | c :: rest =>
    ("#,[]\x7b\x7d&*!|>'\"%@\x60".toList).elem c ||
      (c = '-' || c = '?' || c = ':') && gapNext rest

/-- Whether a text holds a colon before a gap or a number sign behind one. -/
def holdsSign (before : Char) : Text → Bool
  | [] => false
  | c :: rest => c = ':' && gapNext rest || c = '#' && isGap before || holdsSign c rest

def hasSign : Text → Bool
  | [] => false
  | c :: rest => beginsWithSign (c :: rest) || holdsSign c rest

def beginsWithMark (text : Text) : Bool :=
  ("---".toList).isPrefixOf text || ("...".toList).isPrefixOf text

def hasSpacedBreak (text : Text) : Bool :=
  Text.hasPart [' ', '\n'] text || Text.hasPart ['\n', ' '] text

def canBePlain (text : Text) : Bool :=
  Tag.ofPlain text = .text && text.all isUnescaped && !hasSign text && !beginsWithMark text &&
    text.head? ≠ some ' ' && text.getLast? ≠ some ' '

def canBeSingle (text : Text) : Bool :=
  text.all (fun c => c = '\n' || isUnescaped c) && !hasSpacedBreak text

def Style.ofText (text : Text) : Style :=
  if canBePlain text then .plain else if canBeSingle text then .single else .double

def lineLimit : Nat := 80

def margin : Text := [' ', ' ']

def wordNext : Text → Bool
  | [] => false
  | c :: _ => c ≠ ' '

/-- Writes a text without escapes. `before` is the character before it, and a space at its
beginning. In quotes a single quote is doubled. -/
def writeFolded (quoted : Bool) (before : Char) (column : Nat) : Text → Text
  | [] => []
  | c :: rest =>
    if c = ' ' && before ≠ ' ' && lineLimit < column && wordNext rest then
      '\n' :: margin ++ writeFolded quoted c margin.length rest
    else if c = '\n' then
      let breaks : Text := if before = '\n' then ['\n'] else ['\n', '\n']
      if rest.head? = some '\n' then breaks ++ writeFolded quoted c 0 rest
      else breaks ++ margin ++ writeFolded quoted c margin.length rest
    else if c = '\'' && quoted then c :: c :: writeFolded quoted c (column + 2) rest
    else c :: writeFolded quoted c (column + 1) rest

def escapeLetters : List (Char × Char) :=
  [('\x00', '0'), ('\x07', 'a'), ('\x08', 'b'), ('\t', 't'), ('\n', 'n'), ('\x0b', 'v'),
   ('\x0c', 'f'), ('\r', 'r'), ('\x1b', 'e'), ('"', '"'), ('\\', '\\'), ('\u0085', 'N'),
   ('\u00a0', '_'), ('\u2028', 'L'), ('\u2029', 'P')]

def escape (c : Char) : Text :=
  match escapeLetters.lookup c with
  | some letter => ['\\', letter]
  | none =>
    if c.toNat ≤ 0xFF then "\\x" ++ Text.hexUpper 2 c.toNat
    else if c.toNat ≤ 0xFFFF then "\\u" ++ Text.hexUpper 4 c.toNat
    else "\\U" ++ Text.hexUpper 8 c.toNat

def needsEscape (c : Char) : Bool := c = '"' || c = '\\' || !isUnescaped c

/-- The fold inside a double-quoted text. A space behind it is marked. -/
def fold (rest : Text) : Text :=
  '\\' :: '\n' :: margin ++ if rest.head? = some ' ' then ['\\'] else []

def columnAfterFold (rest : Text) : Nat :=
  margin.length + if rest.head? = some ' ' then 1 else 0

/-- Writes a text with escapes. `isFirst` tells whether it is at its beginning, and `escaped`
whether the character before it was escaped. -/
def writeEscaped (isFirst escaped : Bool) (column : Nat) : Text → Text
  | [] => []
  | c :: rest =>
    let inside := !isFirst && rest ≠ []
    if needsEscape c then
      let written := escape c
      let column := column + written.length
      if inside && lineLimit + 1 < column then
        written ++ fold rest ++ writeEscaped false true (columnAfterFold rest) rest
      else written ++ writeEscaped false true column rest
    else if inside && (c = ' ' || escaped) && lineLimit < column then
      fold (c :: rest) ++ c :: writeEscaped false false (columnAfterFold (c :: rest) + 1) rest
    else c :: writeEscaped false false (column + 1) rest

def writeText (column : Nat) (text : Text) : Text :=
  match Style.ofText text with
  | .plain => writeFolded false ' ' column text
  | .single => '\'' :: writeFolded true ' ' (column + 1) text ++ ['\'']
  | .double => '"' :: writeEscaped true false (column + 1) text ++ ['"']

inductive Content
  | text (text : Text)
  | texts (texts : List Text)
  | flag (value : Bool)
  deriving DecidableEq, Repr

def writeItem (text : Text) : Text := "- " ++ writeText 2 text ++ ['\n']

def writeEntry (key : Text) : Content → Text
  | .text text => key ++ ": " ++ writeText (key.length + 2) text ++ ['\n']
  | .texts [] => key ++ ": []\n"
  | .texts (text :: rest) => key ++ ":\n" ++ (text :: rest).flatMap writeItem
  | .flag value => key ++ (if value then (": true\n" : Text) else ": false\n")

def document (entries : List (Text × Content)) : Text :=
  entries.flatMap fun (key, content) => writeEntry key content

end ClientFacade.Yaml.Print
