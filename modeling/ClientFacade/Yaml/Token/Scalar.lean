import ClientFacade.Yaml.Token.Basic

/-!
# Scalars of a YAML text

A scalar is written plain, between single or double quotes, or as a block of indented lines. A line
break inside a plain or quoted scalar is folded: it becomes a space, unless blank lines follow,
which then stand for the line breaks. Each reader starts at a cursor and gives the text of the
scalar with the place behind it.
-/

namespace ClientFacade.Yaml

open Cursor

/-! ## Line breaks -/

/-- The text that a line break and the blank lines after it are folded into. -/
def folded (first : Char) (others : Text) : Text :=
  if first ≠ '\n' then first :: others
  else if others = [] then [' ']
  else others

/-! ## Quoted scalars -/

def hexValue? (c : Char) : Option Nat :=
  if '0' ≤ c ∧ c ≤ '9' then some (c.toNat - 48)
  else if 'a' ≤ c ∧ c ≤ 'f' then some (c.toNat - 87)
  else if 'A' ≤ c ∧ c ≤ 'F' then some (c.toNat - 55)
  else none

def hexNumber? (value : Nat) : Nat → Text → Option Nat
  | 0, _ => some value
  | _ + 1, [] => none
  | count + 1, c :: rest =>
    match hexValue? c with
    | some digit => hexNumber? (value * 16 + digit) count rest
    | none => none

def escapes : List (Char × Char) :=
  [('0', '\x00'), ('a', '\x07'), ('b', '\x08'), ('t', '\t'), ('\t', '\t'), ('n', '\n'),
   ('v', '\x0b'), ('f', '\x0c'), ('r', '\r'), ('e', '\x1b'), (' ', ' '), ('"', '"'),
   ('\\', '\\'), ('/', '/'), ('N', '\u0085'), ('_', '\u00a0'), ('L', '\u2028'), ('P', '\u2029')]

def codeWidth? : Char → Option Nat
  | 'x' => some 2
  | 'u' => some 4
  | 'U' => some 8
  | _ => none

/-- Blank lines inside a quoted scalar. A document boundary must not stand there. -/
def quotedBreaks : Nat → Cursor → Except Fault (Text × Cursor)
  | 0, cursor => .ok ([], cursor)
  | fuel + 1, cursor =>
    if cursor.atBoundary then .error .malformed
    else
      let cursor := cursor.skipWhile fun c => c = ' ' || c = '\t'
      match cursor.lineBreak? with
      | none => .ok ([], cursor)
      | some (mark, cursor) => do
        let (others, cursor) ← quotedBreaks fuel cursor
        return (mark :: others, cursor)

def escape (fuel : Nat) (cursor : Cursor) : Except Fault (Text × Cursor) :=
  match cursor.rest with
  | [] => .error .malformed
  | c :: rest =>
    match escapes.lookup c with
    | some shown => .ok ([shown], cursor.next)
    | none =>
      match codeWidth? c with
      | some width =>
        match hexNumber? 0 width rest with
        | none => .error .malformed
        | some code =>
          if 0x80000000 ≤ code then
            .error (.impossible .overflow "Python int too large to convert to C int")
          else if 0x110000 ≤ code then
            .error (.impossible .value "chr() arg not in range(0x110000)")
          else .ok ([Char.ofNat code], cursor.skip (width + 1))
      | none =>
        match cursor.lineBreak? with
        | some (_, cursor) => quotedBreaks fuel cursor
        | none => .error .malformed

def quoted (double : Bool) : Nat → Cursor → Except Fault (Text × Cursor)
  | 0, _ => .error .malformed
  | fuel + 1, cursor =>
    match cursor.rest with
    | [] => .error .malformed
    | c :: rest =>
      if c = '\'' && !double then
        match rest with
        | '\'' :: _ => do
          let (text, cursor) ← quoted double fuel (cursor.skip 2)
          return ('\'' :: text, cursor)
        | _ => .ok ([], cursor.next)
      else if c = '"' && double then .ok ([], cursor.next)
      else if c = '\\' && double then do
        let (part, cursor) ← escape fuel cursor.next
        let (text, cursor) ← quoted double fuel cursor
        return (part ++ text, cursor)
      else if c = ' ' || c = '\t' || isBreak c then do
        let spaces := cursor.rest.takeWhile fun c => c = ' ' || c = '\t'
        let after := cursor.skip spaces.length
        match after.lineBreak? with
        | none =>
          if after.rest = [] then throw .malformed
          let (text, cursor) ← quoted double fuel after
          return (spaces ++ text, cursor)
        | some (mark, after) =>
          let (others, after) ← quotedBreaks fuel after
          let (text, cursor) ← quoted double fuel after
          return (folded mark others ++ text, cursor)
      else do
        let (text, cursor) ← quoted double fuel cursor.next
        return (c :: text, cursor)

/-! ## Plain scalars -/

/-- Whether a plain scalar ends before the text. Between brackets more characters end it. -/
def plainEnds (inFlow : Bool) : Text → Bool
  | [] => true
  | c :: rest =>
    isGap c ||
    (c = ':' && (gapNext rest || inFlow && [',', '[', ']', '{', '}'].elem (rest.headD ' '))) ||
    (inFlow && [',', '?', '[', ']', '{', '}'].elem c)

def plainWord (inFlow : Bool) : Text → Text
  | [] => []
  | c :: rest => if plainEnds inFlow (c :: rest) then [] else c :: plainWord inFlow rest

def plainBreaks : Nat → Cursor → Text × Cursor × Bool
  | 0, cursor => ([], cursor, false)
  | fuel + 1, cursor =>
    let cursor := cursor.skipWhile (· = ' ')
    match cursor.lineBreak? with
    | none => ([], cursor, false)
    | some (mark, cursor) =>
      if cursor.atBoundary then ([mark], cursor, true)
      else
        let (others, cursor, boundary) := plainBreaks fuel cursor
        (mark :: others, cursor, boundary)

structure PlainGap where
  /-- The text that the gap counts as. It is empty if the scalar cannot go on. -/
  text : Text
  after : Cursor
  broken : Bool

def plainGap (cursor : Cursor) : PlainGap :=
  let spaces := cursor.rest.takeWhile (· = ' ')
  let after := cursor.skip spaces.length
  match after.lineBreak? with
  | none => ⟨spaces, after, false⟩
  | some (mark, after) =>
    if after.atBoundary then ⟨[], after, true⟩
    else
      let (others, after, boundary) := plainBreaks after.rest.length after
      ⟨if boundary then [] else folded mark others, after, true⟩

/-- A plain scalar, where the lines after the first must be indented by `indent`. The flag tells
whether the text behind it is on a new line. -/
def plain (inFlow : Bool) (indent : Int) : Nat → Cursor → Text × Cursor × Bool
  | 0, cursor => ([], cursor, false)
  | fuel + 1, cursor =>
    let word := plainWord inFlow cursor.rest
    let gap := plainGap (cursor.skip word.length)
    let next := gap.after
    if gap.text = [] || next.rest.head? = some '#' || (!inFlow && decide (next.column < indent)) ||
        plainEnds inFlow next.rest then
      (word, next, gap.broken)
    else
      let (text, last, broken) := plain inFlow indent fuel next
      (word ++ gap.text ++ text, last, broken)

/-! ## Block scalars -/

inductive Chomping
  | strip
  | clip
  | keep
  deriving DecidableEq, Repr

def chomping? : Char → Option Chomping
  | '+' => some .keep
  | '-' => some .strip
  | _ => none

def indentDigit? (c : Char) : Option Nat :=
  if '0' ≤ c ∧ c ≤ '9' then some (c.toNat - 48) else none

/-- The two indicators in the head of a block scalar, in either order. -/
def blockIndicators (cursor : Cursor) :
    Except Fault (Chomping × Option Nat × Cursor) :=
  let (first, cursor) : Option Chomping × Cursor :=
    match cursor.rest with
    | c :: _ => if (chomping? c).isSome then (chomping? c, cursor.next) else (none, cursor)
    | [] => (none, cursor)
  let (increment, cursor) : Option Nat × Cursor :=
    match cursor.rest with
    | c :: _ => if (indentDigit? c).isSome then (indentDigit? c, cursor.next) else (none, cursor)
    | [] => (none, cursor)
  let (second, cursor) : Option Chomping × Cursor :=
    match cursor.rest with
    | c :: _ =>
      if first.isNone && increment.isSome && (chomping? c).isSome then (chomping? c, cursor.next)
      else (none, cursor)
    | [] => (none, cursor)
  if increment = some 0 || !spaceNext cursor.rest then .error .malformed
  else .ok ((first.or second).getD .clip, increment, cursor)

def blockHeadEnd (cursor : Cursor) : Except Fault Cursor :=
  let cursor := cursor.skipWhile (· = ' ')
  let cursor := if cursor.rest.head? = some '#' then cursor.skipWhile (!isBreak ·) else cursor
  match cursor.lineBreak? with
  | some (_, cursor) => .ok cursor
  | none => if cursor.rest = [] then .ok cursor else .error .malformed

/-- The blank lines before the first line of a block, and the widest indentation among them. -/
def blockStart (widest : Nat) : Nat → Cursor → Text × Nat × Cursor
  | 0, cursor => ([], widest, cursor)
  | fuel + 1, cursor =>
    let cursor := cursor.skipWhile (· = ' ')
    let widest := max widest cursor.column
    match cursor.lineBreak? with
    | none => ([], widest, cursor)
    | some (mark, cursor) =>
      let (others, widest, cursor) := blockStart widest fuel cursor
      (mark :: others, widest, cursor)

def toIndent (indent : Nat) (cursor : Cursor) : Cursor :=
  cursor.skip (((cursor.rest.takeWhile (· = ' ')).length).min (indent - cursor.column))

def blockBreaks (indent : Nat) : Nat → Cursor → Text × Cursor
  | 0, cursor => ([], cursor)
  | fuel + 1, cursor =>
    let cursor := toIndent indent cursor
    match cursor.lineBreak? with
    | none => ([], cursor)
    | some (mark, cursor) =>
      let (others, cursor) := blockBreaks indent fuel cursor
      (mark :: others, cursor)

def startsIndented : Text → Bool
  | [] => false
  | c :: _ => c = ' ' || c = '\t'

def blockJoint (folding : Bool) (mark : Option Char) (line next : Text) (breaks : Text) : Text :=
  if folding && mark = some '\n' && !startsIndented line && !startsIndented next then
    if breaks = [] then [' '] else []
  else mark.toList

def blockLines (folding : Bool) (chomping : Chomping) (indent : Nat) :
    Nat → Text → Cursor → Text × Cursor
  | 0, _, cursor => ([], cursor)
  | fuel + 1, breaks, cursor =>
    if cursor.column ≠ indent || cursor.rest = [] then
      (if chomping = .keep then breaks else [], cursor)
    else
      let line := cursor.rest.takeWhile (!isBreak ·)
      let after := cursor.skip line.length
      let (mark, after) : Option Char × Cursor :=
        match after.lineBreak? with
        | some (mark, after) => (some mark, after)
        | none => (none, after)
      let (more, after) := blockBreaks indent (after.rest.length + 1) after
      if after.column = indent && after.rest ≠ [] then
        let (text, last) := blockLines folding chomping indent fuel more after
        (breaks ++ line ++ blockJoint folding mark line after.rest more ++ text, last)
      else
        (breaks ++ line ++ (if chomping = .strip then [] else mark.toList) ++
          (if chomping = .keep then more else []), after)

/-- A block scalar behind its mark, inside a block that is indented by `outer`. -/
def block (folding : Bool) (outer : Int) (cursor : Cursor) : Except Fault (Text × Cursor) := do
  let (chomping, increment, cursor) ← blockIndicators cursor
  let cursor ← blockHeadEnd cursor
  let least := max 1 (outer + 1).toNat
  let fuel := cursor.rest.length + 1
  let (breaks, indent, cursor) :=
    match increment with
    | none =>
      let (breaks, widest, cursor) := blockStart 0 fuel cursor
      (breaks, max least widest, cursor)
    | some increment =>
      let indent := least + increment - 1
      let (breaks, cursor) := blockBreaks indent fuel cursor
      (breaks, indent, cursor)
  return blockLines folding chomping indent fuel breaks cursor

end ClientFacade.Yaml
