import ClientFacade.Text.Digits
import ClientFacade.Text.Lowercase
import ClientFacade.Text.Quoted
import ClientFacade.Value.Binary64
import ClientFacade.Yaml.Token.Scalar
import ClientFacade.Yaml.Tag

/-!
# Numbers

A number is written with a sign, and with underscores wherever one likes. With colons it has parts
to the base sixty, each of them a number. A whole number may say its base. Under a tag of its own a
number may have other forms than those that are taken for one without: digits of any script, more
signs, and blanks around it.
-/

namespace ClientFacade.Yaml

def unmarked (text : Text) : Text := text.filter (· ≠ '_')

def spaceMarks : List Char := [' ', '\t', '\n', '\x0b', '\x0c', '\r']

/-- The text with its blanks and digits as those of ASCII, and without blanks at its ends. -/
def inAscii (text : Text) : Text :=
  Text.trimOf spaceMarks (text.map fun c =>
    if c.toNat < 127 then c
    else if isBlank c then ' '
    else
      match digitValue? c with
      | some digit => Char.ofNat ('0'.toNat + digit)
      | none => c)

def noFirst : Fault := .impossible .index "string index out of range"

/-! ## Whole numbers -/

def digitIn? (base : Nat) (c : Char) : Option Nat := (hexValue? c).filter (· < base)

def numberIn (base : Nat) (digits : Text) : Nat :=
  digits.foldl (fun n c => n * base + (digitIn? base c).getD 0) 0

def baseMark? : Nat → Option Char
  | 2 => some 'b'
  | 8 => some 'o'
  | 16 => some 'x'
  | _ => none

def dropBase (base : Nat) : Text → Text
  | '0' :: c :: rest => if baseMark? base = some c.toLower then rest else '0' :: c :: rest
  | text => text

/-- The most digits that a number to the base ten may have. -/
def digitLimit : Nat := 4300

def tooManyDigits (count : Nat) : Fault :=
  .impossible .value ("Exceeds the limit (4300 digits) for integer string conversion: value has " ++
    Text.ofNat count ++ " digits; use sys.set_int_max_str_digits() to increase the limit")

def noNumber (base : Nat) (text : Text) : Fault :=
  .impossible .value ("invalid literal for int() with base " ++ Text.ofNat base ++ ": " ++
    text.quoted.take 200)

def wholeNumber (base : Nat) (text : Text) : Except Fault Int :=
  let (sign, unsigned) := splitSign (inAscii text)
  let digits := dropBase base unsigned
  if digits = [] ∨ digits.any fun c => (digitIn? base c).isNone then .error (noNumber base text)
  else if base = 10 ∧ digitLimit < digits.length then .error (tooManyDigits digits.length)
  else
    let n : Int := numberIn base digits
    .ok (if sign = some '-' then -n else n)

/-- A whole number without its sign. A leading zero means the base eight. -/
def unsignedInt : Text → Except Fault Int
  | [] => .error noFirst
  | ['0'] => .ok 0
  | '0' :: 'b' :: digits => wholeNumber 2 digits
  | '0' :: 'x' :: digits => wholeNumber 16 digits
  | '0' :: digits => wholeNumber 8 ('0' :: digits)
  | text => do
    let parts ← (text.pieces ':').mapM (wholeNumber 10)
    return parts.foldl (fun n part => n * 60 + part) 0

def intOf (text : Text) : Except Fault Int := do
  let (sign, unsigned) := splitSign (unmarked text)
  let n ← unsignedInt unsigned
  return if sign = some '-' then -n else n

/-! ## Numbers with a point -/

def noDecimal (text : Text) : Fault :=
  .impossible .value ("could not convert string to float: " ++ text.quoted)

/-- The power of ten that an exponent stands for, if the text is empty or an exponent. -/
def powerOf? : Text → Option Int
  | [] => some 0
  | c :: text =>
    let (sign, digits) := splitSign text
    if c.toLower = 'e' ∧ digits ≠ [] ∧ digits.all Char.isDigit then
      let n : Int := numberIn 10 digits
      some (if sign = some '-' then -n else n)
    else none

def unsignedDecimal? (text : Text) : Option Binary64 :=
  if text = "inf" ∨ text = "infinity" then some (.infinite false)
  else if text = "nan" then some .nan
  else
    let whole := text.takeWhile Char.isDigit
    let rest := text.drop whole.length
    let (part, rest) : Text × Text :=
      match rest with
      | '.' :: rest => (rest.takeWhile Char.isDigit, rest.dropWhile Char.isDigit)
      | rest => ([], rest)
    if whole ++ part = [] then none
    else (powerOf? rest).map fun power =>
      .ofDecimal false (numberIn 10 (whole ++ part)) (power - part.length)

def decimal (text : Text) : Except Fault Binary64 :=
  let (sign, unsigned) := splitSign (inAscii text)
  match unsignedDecimal? unsigned with
  | some number => .ok (if sign = some '-' then number.negate else number)
  | none => .error (noDecimal text)

/-- Adds parts to the base sixty, the last one first, where the next has this weight. -/
def addParts (weight : Nat) (sum : Binary64) : List Binary64 → Except Fault Binary64
  | [] => .ok sum
  | part :: rest =>
    match Binary64.ofFraction false weight 1 with
    | .infinite _ => .error (.impossible .overflow "int too large to convert to float")
    | factor => addParts (weight * 60) (sum.add (part.mul factor)) rest

def unsignedFloat (text : Text) : Except Fault Binary64 := do
  if text = ".inf" then return .infinite false
  if text = ".nan" then return .nan
  if text.elem ':' then
    let parts ← (text.pieces ':').mapM decimal
    addParts 1 (.zero false) parts.reverse
  else decimal text

def floatOf (text : Text) : Except Fault Binary64 := do
  let text := (unmarked text).lower
  if text = [] then throw noFirst
  let (sign, unsigned) := splitSign text
  let number ← unsignedFloat unsigned
  return if sign = some '-' then number.negate else number

end ClientFacade.Yaml
