import ClientFacade.Text.Utf8
import ClientFacade.Yaml.Token.Scalar

/-!
# Directives and node properties

A directive fills a line at the start of a document. Before its content a node may have an anchor
and a tag, and an alias stands for a node with an anchor. A tag is a handle with a suffix, or a
whole name between angle brackets, or a lone exclamation mark.
-/

namespace ClientFacade.Yaml

open Cursor

/-- The characters of anchors, handles and directive names. -/
def isWordChar (c : Char) : Bool := c.isAlphanum || c = '-' || c = '_'

/-- The characters of the suffix of a tag, escapes apart. -/
def isTagChar (c : Char) : Bool :=
  c.isAlphanum || ("-;/?:@&=+$,_.!~*'()[]".toList).elem c

def anchorName (cursor : Cursor) : Except Fault (Text × Cursor) :=
  let name := cursor.rest.takeWhile isWordChar
  let after := cursor.skip name.length
  if name = [] then .error .malformed
  else
    match after.rest with
    | [] => .ok (name, after)
    | c :: _ =>
      if isGap c || ("?:,]%@\x7d\x60".toList).elem c then .ok (name, after) else .error .malformed

def escapedBytes : Nat → Cursor → Except Fault (Utf8.Bytes × Cursor)
  | 0, cursor => .ok ([], cursor)
  | fuel + 1, cursor =>
    match cursor.rest with
    | '%' :: rest =>
      match hexNumber? 0 2 rest with
      | none => .error .malformed
      | some code => do
        let (bytes, cursor) ← escapedBytes fuel (cursor.skip 3)
        return (code.toUInt8 :: bytes, cursor)
    | _ => .ok ([], cursor)

def tagSuffixFrom : Nat → Cursor → Except Fault (Text × Cursor)
  | 0, cursor => .ok ([], cursor)
  | fuel + 1, cursor =>
    match cursor.rest with
    | [] => .ok ([], cursor)
    | c :: _ =>
      if c = '%' then do
        let (bytes, cursor) ← escapedBytes cursor.rest.length cursor
        match Utf8.decode bytes with
        | .error _ => throw .malformed
        | .ok part =>
          let (text, cursor) ← tagSuffixFrom fuel cursor
          return (part ++ text, cursor)
      else if isTagChar c then do
        let (text, cursor) ← tagSuffixFrom fuel cursor.next
        return (c :: text, cursor)
      else .ok ([], cursor)

def tagSuffix (cursor : Cursor) : Except Fault (Text × Cursor) := do
  let (text, cursor) ← tagSuffixFrom (cursor.rest.length + 1) cursor
  if text = [] then throw .malformed
  return (text, cursor)

/-- The handle of a tag: one exclamation mark, or two with a name between them. -/
def tagHandle (cursor : Cursor) : Except Fault (Text × Cursor) :=
  match cursor.rest with
  | '!' :: ' ' :: _ => .ok (['!'], cursor.next)
  | '!' :: rest =>
    let name := rest.takeWhile isWordChar
    match rest.drop name.length with
    | '!' :: _ => .ok ('!' :: name ++ ['!'], cursor.skip (name.length + 2))
    | _ => .error .malformed
  | _ => .error .malformed

/-- Whether a second exclamation mark follows in the same word. -/
def hasHandle (rest : Text) : Bool :=
  (rest.takeWhile fun c => c ≠ ' ' && !isBreak c).elem '!'

def tagOf (cursor : Cursor) : Except Fault (Token × Cursor) := do
  let (token, cursor) ←
    match cursor.rest.tail with
    | '<' :: _ => do
      let (suffix, cursor) ← tagSuffix (cursor.skip 2)
      if cursor.rest.head? ≠ some '>' then throw .malformed
      pure (Token.tag none suffix, cursor.next)
    | rest =>
      if gapNext rest then pure (Token.tag none ['!'], cursor.next)
      else if hasHandle rest then do
        let (handle, cursor) ← tagHandle cursor
        let (suffix, cursor) ← tagSuffix cursor
        pure (Token.tag (some handle) suffix, cursor)
      else do
        let (suffix, cursor) ← tagSuffix cursor.next
        pure (Token.tag (some ['!']) suffix, cursor)
  if spaceNext cursor.rest then return (token, cursor) else throw .malformed

def directiveNumber (cursor : Cursor) : Except Fault (Nat × Cursor) :=
  let digits := cursor.rest.takeWhile Char.isDigit
  if digits = [] then .error .malformed
  else .ok (digits.foldl (fun n c => n * 10 + (c.toNat - 48)) 0, cursor.skip digits.length)

def versionDirective (cursor : Cursor) : Except Fault (Directive × Cursor) := do
  let (major, cursor) ← directiveNumber (cursor.skipWhile (· = ' '))
  if cursor.rest.head? ≠ some '.' then throw .malformed
  let (_, cursor) ← directiveNumber cursor.next
  if spaceNext cursor.rest then return (.version major, cursor) else throw .malformed

def handleDirective (cursor : Cursor) : Except Fault (Directive × Cursor) := do
  let (handle, cursor) ← tagHandle (cursor.skipWhile (· = ' '))
  if cursor.rest.head? ≠ some ' ' then throw .malformed
  let (expansion, cursor) ← tagSuffix (cursor.skipWhile (· = ' '))
  if spaceNext cursor.rest then return (.handle handle expansion, cursor) else throw .malformed

def directiveOf (cursor : Cursor) : Except Fault (Directive × Cursor) := do
  let name := cursor.rest.takeWhile isWordChar
  let after := cursor.skip name.length
  if name = [] || !spaceNext after.rest then throw .malformed
  let (directive, after) ←
    if name = "YAML".toList then versionDirective after
    else if name = "TAG".toList then handleDirective after
    else pure (Directive.unknown, after.skipWhile (!isBreak ·))
  let after ← blockHeadEnd after
  return (directive, after)

end ClientFacade.Yaml
