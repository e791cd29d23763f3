import ClientFacade.Log.Record
import ClientFacade.Template.Layout

/-!
# Formats of log lines

A handler writes a record by a format: text with fields for the time, the logger, the level and the
message. A field may be padded to a width, on the left unless it is flagged, and cut to a length.
The time is not part of the record and is written as a mark.
-/

namespace ClientFacade.Log

structure FieldLayout where
  leftAligned : Bool
  zeros : Bool
  width : Nat
  precision : Option Nat
  kind : Char
  deriving DecidableEq, Repr

inductive FormatPart
  | literal (c : Char)
  | field (name : Text) (layout : FieldLayout)
  deriving DecidableEq, Repr

abbrev Format := List FormatPart

namespace Format

/-- What stands for the time. -/
def timeMark : Text := "<time>"

def isFlag (c : Char) : Bool := ['#', '0', '+', ' ', '-'].elem c

def isKind (c : Char) : Bool := ("diouxXeEfFgGcCrRsSaAD%".toList).elem c

def isNameChar (c : Char) : Bool := c.isAlphanum || c = '_'

def numberOf (digits : Text) : Nat := digits.foldl (fun n c => n * 10 + (c.toNat - 48)) 0

/-- A field behind its percent sign: its name in brackets, flags, width, precision and kind. -/
def field? : Text → Option (FormatPart × Text)
  | '(' :: rest =>
    let name := rest.takeWhile isNameChar
    match rest.drop name.length with
    | ')' :: rest =>
      let flags := rest.takeWhile isFlag
      let rest := rest.drop flags.length
      let width := rest.takeWhile Char.isDigit
      let rest := rest.drop width.length
      let (precision, rest) : Option Nat × Text :=
        match rest with
        | '.' :: more =>
          (some (numberOf (more.takeWhile Char.isDigit)), more.dropWhile Char.isDigit)
        | rest => (none, rest)
      match rest with
      | kind :: rest =>
        if name ≠ [] && isKind kind then
          some (.field name ⟨flags.elem '-', flags.elem '0', numberOf width, precision, kind⟩, rest)
        else none
      | [] => none
    | _ => none
  | _ => none

def ofTextFuel : Nat → Text → Format
  | 0, _ => []
  | _ + 1, [] => []
  | fuel + 1, '%' :: '%' :: rest => .literal '%' :: ofTextFuel fuel rest
  | fuel + 1, c :: rest =>
    match if c = '%' then field? rest else none with
    | some (part, rest) => part :: ofTextFuel fuel rest
    | none => .literal c :: ofTextFuel fuel rest

def ofText (text : Text) : Format := ofTextFuel (text.length + 1) text

def hasField : Text → Bool
  | [] => false
  | c :: rest => (c = '%' && (field? rest).isSome) || hasField rest

def value (record : Record) (name : Text) : Text :=
  if name = "asctime".toList then timeMark
  else if name = "name".toList then record.logger
  else if name = "levelname".toList then record.level.name
  else if name = "levelno".toList then Text.ofInt record.level.severity
  else if name = "message".toList then record.message
  else []

def lay (layout : FieldLayout) (text : Text) : Text :=
  let text := if layout.kind = 'r' then text.quoted else text
  let text :=
    match layout.precision with
    | some precision => if layout.kind = 'd' then text else text.take precision
    | none => text
  let spare := layout.width - text.length
  if layout.leftAligned then text ++ List.replicate spare ' '
  else List.replicate spare (if layout.zeros && layout.kind = 'd' then '0' else ' ') ++ text

def renderPart (record : Record) : FormatPart → Text
  | .literal c => [c]
  | .field name layout => lay layout (value record name)

def render (format : Format) (record : Record) : Text := format.flatMap (renderPart record)

def messageText : Text := "%(message)s"

def basicText : Text := "%(asctime)s - %(name)s - %(levelname)s - %(message)s"

end Format

end ClientFacade.Log
