import ClientFacade.Text.Blank

/-!
# Places in a YAML text

A cursor is a place in a text: what is left of it, and the line and column reached. A line ends at
a line feed, a next-line control or one of the two Unicode separators. A byte order mark takes up
no column. Only some characters may stand in a YAML text at all.
-/

namespace ClientFacade.Yaml

/-- What kind of fault keeps a scalar from standing for a value. A reader may also lose itself in
the depth of a text. -/
inductive FaultKind
  | value
  | key
  | type
  | index
  | attribute
  | overflow
  | depth
  deriving DecidableEq, Repr

inductive Fault
  | malformed
  /-- A scalar stands for a value that does not exist. -/
  | impossible (kind : FaultKind) (reason : Text)
  deriving DecidableEq, Repr

def isBreak (c : Char) : Bool := c = '\n' || c = '\u0085' || c = '\u2028' || c = '\u2029'

def isGap (c : Char) : Bool := c = ' ' || c = '\t' || isBreak c

/-- Whether the end of the text comes next, or a character that is a gap. -/
def gapNext : Text → Bool
  | [] => true
  | c :: _ => isGap c

def spaceNext : Text → Bool
  | [] => true
  | c :: _ => c = ' ' || isBreak c

def allowedRanges : List (Nat × Nat) :=
  [(0x9, 0xA), (0xD, 0xD), (0x20, 0x7E), (0x85, 0x85), (0xA0, 0xD7FF), (0xE000, 0xFFFD),
   (0x10000, 0x10FFFF)]

def isAllowed (c : Char) : Bool := inRanges allowedRanges c.toNat

structure Cursor where
  rest : Text
  index : Nat
  line : Nat
  column : Nat

namespace Cursor

def start (text : Text) : Cursor := ⟨text, 0, 0, 0⟩

def next (cursor : Cursor) : Cursor :=
  match cursor.rest with
  | [] => cursor
  | c :: rest =>
    if isBreak c then ⟨rest, cursor.index + 1, cursor.line + 1, 0⟩
    else if c = '\uFEFF' then ⟨rest, cursor.index + 1, cursor.line, cursor.column⟩
    else ⟨rest, cursor.index + 1, cursor.line, cursor.column + 1⟩

def skip (cursor : Cursor) : Nat → Cursor
  | 0 => cursor
  | count + 1 => cursor.next.skip count

def skipWhile (cursor : Cursor) (p : Char → Bool) : Cursor :=
  cursor.skip (cursor.rest.takeWhile p).length

/-- The line break at the cursor, as it counts in a text, and the place behind it. -/
def lineBreak? (cursor : Cursor) : Option (Char × Cursor) :=
  match cursor.rest with
  | [] => none
  | c :: _ => if isBreak c then some (if c = '\u0085' then '\n' else c, cursor.next) else none

def atBoundary (cursor : Cursor) : Bool :=
  match cursor.rest with
  | '-' :: '-' :: '-' :: rest => gapNext rest
  | '.' :: '.' :: '.' :: rest => gapNext rest
  | _ => false

end Cursor

end ClientFacade.Yaml
