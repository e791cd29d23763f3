import ClientFacade.Template.Runtime

/-!
# The layout of a field

The spec of a field says how its text is laid out: a fill character with an alignment, a least
width and a greatest length. The grammar of specs is shared with numbers, so that it also has signs,
separators and other kinds. They are read, and then refused for a text, in a fixed order. The empty
spec leaves the text as it is.
-/

namespace ClientFacade.Template

inductive Alignment
  | left
  | right
  | centre
  | afterSign
  deriving DecidableEq, Repr

def Alignment.ofChar? : Char → Option Alignment
  | '<' => some .left
  | '>' => some .right
  | '^' => some .centre
  | '=' => some .afterSign
  | _ => none

structure Layout where
  fill : Char
  alignment : Alignment
  sign : Option Char
  zeroCoercion : Bool
  alternate : Bool
  width : Option Nat
  precision : Option Nat
  kind : Char
  deriving DecidableEq, Repr

namespace Layout

/-- The fill character and the alignment at the start of a spec. A character before an alignment
mark is a fill character, whatever it is. -/
def readAlignment : Text → Option Char × Option Alignment × Text
  | [] => (none, none, [])
  | [c] =>
    match Alignment.ofChar? c with
    | some alignment => (none, some alignment, [])
    | none => (none, none, [c])
  | c :: d :: rest =>
    match Alignment.ofChar? d with
    | some alignment => (some c, some alignment, rest)
    | none =>
      match Alignment.ofChar? c with
      | some alignment => (none, some alignment, d :: rest)
      | none => (none, none, c :: d :: rest)

def readMark (mark : Char) : Text → Bool × Text
  | [] => (false, [])
  | c :: rest => if c = mark then (true, rest) else (false, c :: rest)

def readSign : Text → Option Char × Text
  | [] => (none, [])
  | c :: rest => if c = ' ' ∨ c = '+' ∨ c = '-' then (some c, rest) else (none, c :: rest)

def readNumber (text : Text) : Except Fault (Option Nat × Text) :=
  match readCounter 0 0 text with
  | none => .error .tooManyDigits
  | some (value, count, rest) => .ok (if count = 0 then none else some value, rest)

/-- The separator of digit groups. Two different ones exclude each other. -/
def readSeparator (text : Text) : Except Fault (Option Char × Text) :=
  let (comma, rest) := readMark ',' text
  let (underscore, rest) := readMark '_' rest
  if comma && underscore || underscore && (readMark ',' rest).1 then .error .twoSeparators
  else .ok (if comma then some ',' else if underscore then some '_' else none, rest)

def readPrecision (text : Text) : Except Fault (Option Nat × Text) :=
  match readMark '.' text with
  | (false, rest) => .ok (none, rest)
  | (true, rest) => do
    match ← readNumber rest with
    | (none, _) => .error .missingPrecision
    | (some value, rest) => .ok (some value, rest)

def groups (separator kind : Char) : Bool :=
  ['d', 'e', 'f', 'g', 'E', 'G', '%', 'F', '\x00'].elem kind ||
    (separator = '_' && ['b', 'o', 'x', 'X'].elem kind)

def checkSeparator (separator : Option Char) (kind : Char) : Except Fault Unit :=
  match separator with
  | none => .ok ()
  | some separator =>
    if groups separator kind then .ok () else .error (.separatorFor separator kind)

/-- The kind is what is left of the spec, one character at most. A text is of kind `s`. -/
def readKind (spec : Text) : Text → Except Fault Char
  | [] => .ok 's'
  | [kind] => .ok kind
  | _ => .error (.invalidSpec spec)

/-- Reads a spec that is not empty. A zero before the width fills with zeros, unless a fill
character is given. -/
def ofSpec (spec : Text) : Except Fault Layout := do
  let (fill, alignment, rest) := readAlignment spec
  let (sign, rest) := readSign rest
  let (zeroCoercion, rest) := readMark 'z' rest
  let (alternate, rest) := readMark '#' rest
  let (zero, rest) := if fill.isNone then readMark '0' rest else (false, rest)
  let (width, rest) ← readNumber rest
  let (separator, rest) ← readSeparator rest
  let (precision, rest) ← readPrecision rest
  let kind ← readKind spec rest
  checkSeparator separator kind
  return {
    fill := fill.getD (if zero then '0' else ' ')
    alignment := alignment.getD .left
    sign, zeroCoercion, alternate, width, precision, kind }

variable [Machine]

/-- What keeps the layout from being used for a text. -/
def refusal? (layout : Layout) : Option Fault :=
  if layout.kind ≠ 's' then some (.unknownKind layout.kind)
  else if layout.sign = some ' ' then some .spaced
  else if layout.sign.isSome then some .signed
  else if layout.zeroCoercion then some .zeroCoercion
  else if layout.alternate then some .alternateForm
  else if layout.alignment = .afterSign then some .signAlignment
  else if layout.width.any (Machine.widthLimit < ·) then some .widthPastMemory
  else none

def cut (layout : Layout) (text : Text) : Text :=
  match layout.precision with
  | none => text
  | some precision => text.take precision

/-- How many fill characters stand before the text, of `spare` in all. -/
def before (layout : Layout) (spare : Nat) : Nat :=
  match layout.alignment with
  | .right => spare
  | .centre => spare / 2
  | _ => 0

def pad (layout : Layout) (text : Text) : Text :=
  let spare := layout.width.getD 0 - text.length
  List.replicate (layout.before spare) layout.fill ++ text ++
    List.replicate (spare - layout.before spare) layout.fill

def lay (layout : Layout) (text : Text) : Except Fault Text :=
  match layout.refusal? with
  | some fault => .error fault
  | none => .ok (layout.pad (layout.cut text))

end Layout

def layOut [Machine] (spec text : Text) : Except Fault Text :=
  if spec = [] then .ok text
  else do (← Layout.ofSpec spec).lay text

end ClientFacade.Template
