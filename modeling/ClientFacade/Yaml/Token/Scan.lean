import ClientFacade.Yaml.Token.Property

/-!
# From text to tokens

The tokens of a text are found from left to right. In block context a deeper column opens a
collection and a smaller one closes it. That something is a key shows only at the colon behind it.
So the place of every token that could start a key is remembered, one for each nesting of brackets,
and the key token is put there afterwards. A key must stand on one line and be short.
-/

namespace ClientFacade.Yaml

open Cursor

/-- A token that may turn out to start a key. -/
structure KeyStart where
  /-- How many tokens stand before it. -/
  place : Nat
  /-- Whether nothing but a key can stand here. -/
  required : Bool
  index : Nat
  line : Nat
  column : Nat

structure Scan where
  cursor : Cursor
  tokens : List Token
  indent : Int
  outer : List Int
  flow : Nat
  keyAllowed : Bool
  /-- The possible keys, by the number of brackets open. -/
  keys : List (Nat × KeyStart)

namespace Scan

def start (text : Text) : Scan where
  cursor := .start text
  tokens := []
  indent := -1
  outer := []
  flow := 0
  keyAllowed := true
  keys := []

def inFlow (scan : Scan) : Bool := scan.flow ≠ 0

def emit (scan : Scan) (token : Token) : Scan := { scan with tokens := token :: scan.tokens }

/-- Puts a token where `place` tokens stand before it. -/
def emitAt (scan : Scan) (place : Nat) (token : Token) : Scan :=
  { scan with tokens := scan.tokens.insertIdx (scan.tokens.length - place) token }

def moveTo (scan : Scan) (cursor : Cursor) : Scan := { scan with cursor }

def keyLimit : Nat := 1024

def isStale (scan : Scan) (key : KeyStart) : Bool :=
  key.line ≠ scan.cursor.line || keyLimit < scan.cursor.index - key.index

def dropStale (scan : Scan) : Except Fault Scan :=
  if scan.keys.any fun (_, key) => scan.isStale key && key.required then .error .malformed
  else .ok { scan with keys := scan.keys.filter fun (_, key) => !scan.isStale key }

def dropKey (scan : Scan) : Except Fault Scan :=
  match scan.keys.lookup scan.flow with
  | none => .ok scan
  | some key =>
    if key.required then .error .malformed
    else .ok { scan with keys := scan.keys.filter fun (flow, _) => flow ≠ scan.flow }

def saveKey (scan : Scan) : Except Fault Scan :=
  if scan.keyAllowed then do
    let scan ← scan.dropKey
    let key : KeyStart :=
      { place := scan.tokens.length
        required := !scan.inFlow && decide (scan.indent = scan.cursor.column)
        index := scan.cursor.index, line := scan.cursor.line, column := scan.cursor.column }
    return { scan with keys := (scan.flow, key) :: scan.keys }
  else .ok scan

def unwindFrom (column : Int) (scan : Scan) : List Int → Scan
  | [] => scan
  | outer :: rest =>
    if column < scan.indent then
      unwindFrom column ({ scan with indent := outer, outer := rest }.emit .blockEnd) rest
    else scan

def unwind (scan : Scan) (column : Int) : Scan :=
  if scan.inFlow then scan else unwindFrom column scan scan.outer

def indentTo (scan : Scan) (column : Nat) : Option Scan :=
  if scan.indent < column then
    some { scan with indent := column, outer := scan.indent :: scan.outer }
  else none

def openAt (scan : Scan) (column : Nat) (token : Token) : Scan :=
  match scan.indentTo column with
  | some deeper => deeper.emit token
  | none => scan

def skipGaps : Nat → Scan → Scan
  | 0, scan => scan
  | fuel + 1, scan =>
    let cursor := scan.cursor.skipWhile (· = ' ')
    let cursor := if cursor.rest.head? = some '#' then cursor.skipWhile (!isBreak ·) else cursor
    match cursor.lineBreak? with
    | none => scan.moveTo cursor
    | some (_, cursor) =>
      skipGaps fuel { scan with cursor, keyAllowed := scan.keyAllowed || !scan.inFlow }

def skipMark (scan : Scan) : Scan :=
  if scan.cursor.index = 0 ∧ scan.cursor.rest.head? = some '\uFEFF' then
    scan.moveTo scan.cursor.next
  else scan

/-- Takes `count` characters as a token that ends all block collections. -/
def boundary (scan : Scan) (token : Token) (count : Nat) : Except Fault Scan := do
  let scan ← (scan.unwind (-1)).dropKey
  return ({ scan with keyAllowed := false }.moveTo (scan.cursor.skip count)).emit token

def directive (scan : Scan) : Except Fault Scan := do
  let scan ← (scan.unwind (-1)).dropKey
  let (found, cursor) ← directiveOf scan.cursor.next
  return ({ scan with keyAllowed := false }.moveTo cursor).emit (.directive found)

def openFlow (scan : Scan) (token : Token) : Except Fault Scan := do
  let scan ← scan.saveKey
  return { scan with flow := scan.flow + 1, keyAllowed := true
                     cursor := scan.cursor.next }.emit token

def closeFlow (scan : Scan) (token : Token) : Except Fault Scan := do
  let scan ← scan.dropKey
  return { scan with flow := scan.flow - 1, keyAllowed := false
                     cursor := scan.cursor.next }.emit token

def flowEntry (scan : Scan) : Except Fault Scan := do
  let scan ← { scan with keyAllowed := true }.dropKey
  return (scan.moveTo scan.cursor.next).emit .flowEntry

/-- Opens a block collection for the mark at the cursor. In block context it must stand where a key
may start. -/
def openBlock (scan : Scan) (token : Token) : Except Fault Scan :=
  if scan.inFlow then .ok scan
  else if scan.keyAllowed then .ok (scan.openAt scan.cursor.column token)
  else .error .malformed

def blockEntry (scan : Scan) : Except Fault Scan := do
  let scan ← scan.openBlock .blockSequenceStart
  let scan ← { scan with keyAllowed := true }.dropKey
  return (scan.moveTo scan.cursor.next).emit .blockEntry

def markedKey (scan : Scan) : Except Fault Scan := do
  let scan ← scan.openBlock .blockMappingStart
  let scan ← { scan with keyAllowed := !scan.inFlow }.dropKey
  return (scan.moveTo scan.cursor.next).emit .key

/-- Turns a possible key into a key, and opens a block mapping with it if it is the first one. -/
def makeKey (scan : Scan) (key : KeyStart) : Scan :=
  let scan := { scan with keys := scan.keys.filter (fun (flow, _) => flow ≠ scan.flow)
                          keyAllowed := false }.emitAt key.place .key
  if scan.inFlow then scan
  else
    match scan.indentTo key.column with
    | some deeper => deeper.emitAt key.place .blockMappingStart
    | none => scan

def valueMark (scan : Scan) : Except Fault Scan := do
  let scan ←
    match scan.keys.lookup scan.flow with
    | some key => pure (scan.makeKey key)
    | none => do
      let scan ← scan.openBlock .blockMappingStart
      { scan with keyAllowed := !scan.inFlow }.dropKey
  return (scan.moveTo scan.cursor.next).emit .value

def take (scan : Scan) (read : Cursor → Except Fault (Token × Cursor)) : Except Fault Scan := do
  let scan ← scan.saveKey
  let (token, cursor) ← read scan.cursor
  return ({ scan with keyAllowed := false }.moveTo cursor).emit token

def anchor (scan : Scan) (token : Text → Token) : Except Fault Scan :=
  scan.take fun cursor => do
    let (name, cursor) ← anchorName cursor.next
    return (token name, cursor)

def quotedScalar (scan : Scan) (double : Bool) : Except Fault Scan :=
  scan.take fun cursor => do
    let (text, cursor) ← quoted double (cursor.rest.length + 1) cursor.next
    return (.scalar text false, cursor)

def blockScalar (scan : Scan) (folding : Bool) : Except Fault Scan := do
  let scan ← { scan with keyAllowed := true }.dropKey
  let (text, cursor) ← block folding scan.indent scan.cursor.next
  return (scan.moveTo cursor).emit (.scalar text false)

def plainScalar (scan : Scan) : Except Fault Scan := do
  let scan ← scan.saveKey
  let (text, cursor, broken) :=
    plain scan.inFlow (scan.indent + 1) (scan.cursor.rest.length + 1) scan.cursor
  return ({ scan with keyAllowed := broken }.moveTo cursor).emit (.scalar text true)

def plainStarts (inFlow : Bool) : Text → Bool
  | [] => false
  | c :: rest =>
    !(isGap c || ("-?:,[]\x7b\x7d#&*!|>'\"%@\x60".toList).elem c) ||
      (!gapNext rest && (c = '-' || (!inFlow && (c = '?' || c = ':'))))

def token (scan : Scan) : Except Fault Scan :=
  let cursor := scan.cursor
  match cursor.rest with
  | [] => scan.boundary .streamEnd 0
  | c :: rest =>
    let marks := scan.inFlow || gapNext rest
    if c = '%' && cursor.column = 0 then scan.directive
    else if cursor.column = 0 && cursor.atBoundary then
      scan.boundary (if c = '-' then .documentStart else .documentEnd) 3
    else if c = '[' then scan.openFlow .flowSequenceStart
    else if c = '{' then scan.openFlow .flowMappingStart
    else if c = ']' then scan.closeFlow .flowSequenceEnd
    else if c = '}' then scan.closeFlow .flowMappingEnd
    else if c = ',' then scan.flowEntry
    else if c = '-' && gapNext rest then scan.blockEntry
    else if c = '?' && marks then scan.markedKey
    else if c = ':' && marks then scan.valueMark
    else if c = '*' then scan.anchor .alias
    else if c = '&' then scan.anchor .anchor
    else if c = '!' then scan.take tagOf
    else if c = '|' && !scan.inFlow then scan.blockScalar false
    else if c = '>' && !scan.inFlow then scan.blockScalar true
    else if c = '\'' then scan.quotedScalar false
    else if c = '"' then scan.quotedScalar true
    else if plainStarts scan.inFlow cursor.rest then scan.plainScalar
    else .error .malformed

/-- One step: over the gaps, out of the collections that end here, and on to the next token. -/
def step (scan : Scan) : Except Fault Scan := do
  let scan := scan.skipMark
  let scan ← (skipGaps (scan.cursor.rest.length + 1) scan).dropStale
  (scan.unwind scan.cursor.column).token

def run : Nat → Scan → List Token
  | 0, scan => scan.tokens.reverse ++ [.fault .malformed]
  | fuel + 1, scan =>
    match scan.step with
    | .error fault => scan.tokens.reverse ++ [.fault fault]
    | .ok next =>
      if next.tokens.head? = some .streamEnd then next.tokens.reverse else run fuel next

end Scan

def tokens (text : Text) : List Token :=
  if text.all isAllowed then Scan.run (text.length + 2) (.start text)
  else [.fault .malformed]

end ClientFacade.Yaml
