import ClientFacade.Text.PrintableTable

/-!
# Quoted text

A quoted text stands between single quotes, or between double quotes if it holds a single quote
and no double one. The quote in use, the backslash and characters without a glyph are escaped. The
ASCII form escapes every other character as well.
-/

namespace ClientFacade

def isPrintable (c : Char) : Bool := !inRanges unprintableRanges c.toNat

namespace Text

def hex (width n : Nat) : Text :=
  let digits := Nat.toDigits 16 n
  List.replicate (width - digits.length) '0' ++ digits

def hexUpper (width n : Nat) : Text := (hex width n).map Char.toUpper

def escapeCode (c : Char) : Text :=
  if c.toNat ≤ 0xFF then "\\x" ++ hex 2 c.toNat
  else if c.toNat ≤ 0xFFFF then "\\u" ++ hex 4 c.toNat
  else "\\U" ++ hex 8 c.toNat

/-- How one character is written between the quotes `quote`, where `shown` tells which characters
stand for themselves. -/
def quoteChar (shown : Char → Bool) (quote c : Char) : Text :=
  if c = quote ∨ c = '\\' then ['\\', c]
  else if c = '\n' then "\\n"
  else if c = '\r' then "\\r"
  else if c = '\t' then "\\t"
  else if shown c then [c]
  else escapeCode c

def quoteFor (text : Text) : Char :=
  if text.contains '\'' && !text.contains '"' then '"' else '\''

def quotedBy (shown : Char → Bool) (text : Text) : Text :=
  let quote := quoteFor text
  quote :: text.flatMap (quoteChar shown quote) ++ [quote]

def quoted (text : Text) : Text := quotedBy isPrintable text

def quotedAscii (text : Text) : Text :=
  quotedBy (fun c => isPrintable c && c.toNat < 0x80) text

def quotedList (texts : List Text) : Text := "[" ++ join ", " (texts.map quoted) ++ "]"

end Text

end ClientFacade
