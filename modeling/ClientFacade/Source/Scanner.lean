import ClientFacade.Source.Header

/-!
# Scanning for methods

A source is read line by line. A comment line is kept, a header line takes all comment lines kept
so far, and any other line drops them. So a method carries the comment lines that stand directly
above it, as they are written. The scanner may be fed line by line or text by text; the comment
lines kept at the end of one text still count at the start of the next.
-/

namespace ClientFacade

inductive LineKind
  | comment
  | header
  | other
  deriving DecidableEq, Repr

/-- The kind of a line, by the beginning of its trimmed text. -/
def LineKind.of (line : Text) : LineKind :=
  if ("#" : Text).isPrefixOf line.trim then .comment
  else if ("def " : Text).isPrefixOf line.trim then .header
  else .other

structure Scanner where
  /-- Comment lines waiting for a header, oldest first. -/
  pending : List Text
  deriving DecidableEq, Repr

namespace Scanner

def empty : Scanner := ⟨[]⟩

/-- Takes one line and gives the method that it defines, if it is a header. -/
def feed (scanner : Scanner) (line : Text) : Scanner × Option Method :=
  match LineKind.of line with
  | .comment => (⟨scanner.pending ++ [line]⟩, none)
  | .header => (empty, some ⟨scanner.pending, line.trim⟩)
  | .other => (empty, none)

def feedAll (scanner : Scanner) : List Text → Scanner × List Method
  | [] => (scanner, [])
  | line :: rest =>
    let (next, found) := scanner.feed line
    let (last, others) := next.feedAll rest
    (last, found.toList ++ others)

def scan (scanner : Scanner) (text : Text) : Scanner × List Method := scanner.feedAll text.lines

def methods (text : Text) : List Method := (empty.scan text).2

theorem feedAll_append (scanner : Scanner) (first second : List Text) :
    scanner.feedAll (first ++ second) =
      let (middle, found) := scanner.feedAll first
      let (last, others) := middle.feedAll second
      (last, found ++ others) := by
  induction first generalizing scanner with
  | nil => simp [feedAll]
  | cons line rest ih => simp [feedAll, ih]

end Scanner

end ClientFacade
