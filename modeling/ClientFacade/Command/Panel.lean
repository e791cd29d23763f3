import ClientFacade.Command.Markup

/-!
# Panels

A panel is a title and lines in a frame. Characters that only move the cursor of a terminal are left
out, and a tab reaches to the next column that is a multiple of eight. Spaces at the ends of a line
cannot be told from the padding of the frame.
-/

namespace ClientFacade

structure Panel where
  title : Text
  lines : List Text
  deriving DecidableEq, Repr

namespace Panel

/-- The controls that a terminal is not sent. -/
def droppedControls : List Char := ['\x07', '\x08', '\x0b', '\x0c', '\r']

/-- Characters that take no column: controls, combining marks and joiners. -/
def narrowRanges : List (Nat × Nat) :=
  [(0x0, 0x1F), (0x7F, 0x9F), (0x300, 0x36F), (0x483, 0x489), (0x591, 0x5BD), (0x610, 0x61A),
   (0x64B, 0x65F), (0x1AB0, 0x1AFF), (0x1DC0, 0x1DFF), (0x200B, 0x200F), (0x2028, 0x202E),
   (0x2060, 0x2064), (0x20D0, 0x20F0), (0xFE00, 0xFE0F), (0xFE20, 0xFE2F), (0xE0100, 0xE01EF)]

/-- Characters that take two columns: the scripts of East Asia, wide forms and pictographs. -/
def wideRanges : List (Nat × Nat) :=
  [(0x1100, 0x115F), (0x2E80, 0x303E), (0x3041, 0xA4CF), (0xA960, 0xA97C), (0xAC00, 0xD7A3),
   (0xF900, 0xFAFF), (0xFE30, 0xFE6F), (0xFF01, 0xFF60), (0xFFE0, 0xFFE6), (0x1F300, 0x1F64F),
   (0x1F680, 0x1F6FC), (0x1F900, 0x1FAFF), (0x20000, 0x3FFFD)]

def columns (c : Char) : Nat :=
  if inRanges narrowRanges c.toNat then 0 else if inRanges wideRanges c.toNat then 2 else 1

def tabWidth : Nat := 8

def expandTabs (column : Nat) : Text → Text
  | [] => []
  | c :: rest =>
    if c = '\t' then
      let gap := tabWidth - column % tabWidth
      List.replicate gap ' ' ++ expandTabs (column + gap) rest
    else c :: expandTabs (column + columns c) rest

def withoutControls (text : Text) : Text := text.filter (!droppedControls.elem ·)

def framed (text : Text) : List Text :=
  ((withoutControls text).pieces '\n').map fun line => Text.trimOf [' '] (expandTabs 0 line)

def framedTitle (text : Text) : Text :=
  Text.trimOf [' '] (expandTabs 0 (Text.replaceChar '\n' [' '] (withoutControls text)))

def ofText (title text : Text) : Panel := ⟨framedTitle title, framed text⟩

def ofMarkup (title text : Text) : Except Markup.Fault Panel := do
  let title ← Markup.render title
  let text ← Markup.render text
  return ofText title text

def widthOf (line : Text) : Nat := line.foldr (fun c width => columns c + width) 0

def padded (fill : Char) (width : Nat) (line : Text) : Text :=
  line ++ List.replicate (width - widthOf line) fill

def framedLine (left right : Char) (middle : Text) : Text := left :: middle ++ [right, '\n']

/-- The panel in its frame, as wide as its longest line. -/
def drawn (panel : Panel) : Text :=
  let head : Text := '─' :: ' ' :: panel.title ++ [' ']
  let width := (panel.lines.map widthOf).foldl max (widthOf head)
  framedLine '╭' '╮' ('─' :: padded '─' (width + 1) head) ++
    panel.lines.flatMap (fun line => framedLine '│' '│' (' ' :: padded ' ' (width + 1) line)) ++
    framedLine '╰' '╯' (List.replicate (width + 2) '─')

end Panel

end ClientFacade
