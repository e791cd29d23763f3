import ClientFacade.Text.Basic

/-!
# Double precision numbers

A finite number is a mantissa times a power of two. A decimal is rounded to the nearest such
number, to the even mantissa of two. The text of a number has the fewest digits that lead back to
it, and of those the nearest. It is positional for decimal exponents from -4 up to 15.
-/

namespace ClientFacade

inductive Binary64
  | finite (negative : Bool) (mantissa : Nat) (exponent : Int)
  | infinite (negative : Bool)
  | nan
  deriving DecidableEq, Repr

namespace Binary64

/-- The quotient rounded to the nearest number, a half to the even one. -/
def nearest (num den : Nat) : Nat :=
  let whole := num / den
  let twice := 2 * (num % den)
  if twice < den then whole
  else if twice = den then whole + whole % 2
  else whole + 1

def scaled (base : Nat) (num den : Nat) (exponent : Int) : Nat × Nat :=
  match exponent with
  | .ofNat e => (num * Nat.pow base e, den)
  | .negSucc e => (num, den * Nat.pow base (e + 1))

def mantissaAt (num den : Nat) (exponent : Int) : Nat :=
  let (num, den) := scaled 2 num den (-exponent)
  nearest num den

def mantissaLimit : Nat := 0x20000000000000

def zero (negative : Bool) : Binary64 := .finite negative 0 (-1074)

def ofFraction (negative : Bool) (num den : Nat) : Binary64 :=
  let exponent := max (-1074) ((num.log2 : Int) - den.log2 - 53)
  let mantissa := mantissaAt num den exponent
  let (mantissa, exponent) :=
    if mantissa < mantissaLimit then (mantissa, exponent)
    else (mantissaAt num den (exponent + 1), exponent + 1)
  let (mantissa, exponent) :=
    if mantissa < mantissaLimit then (mantissa, exponent) else (mantissa / 2, exponent + 1)
  if 971 < exponent then .infinite negative else .finite negative mantissa exponent

def ofDecimal (negative : Bool) (digits : Nat) (exponent : Int) : Binary64 :=
  let size := (Nat.toDigits 10 digits).length + exponent
  if digits = 0 ∨ size < -400 then zero negative
  else if 400 < size then .infinite negative
  else
    let (num, den) := scaled 10 digits 1 exponent
    ofFraction negative num den

def isZero : Binary64 → Bool
  | .finite _ mantissa _ => mantissa = 0
  | _ => false

def isInt (n : Int) : Binary64 → Bool
  | .finite negative mantissa exponent =>
    let (num, den) := scaled 2 mantissa 1 exponent
    decide ((if negative then -(num : Int) else num) = n * den)
  | _ => false

def negate : Binary64 → Binary64
  | .finite negative mantissa exponent => .finite (!negative) mantissa exponent
  | .infinite negative => .infinite (!negative)
  | .nan => .nan

def add : Binary64 → Binary64 → Binary64
  | .nan, _ | _, .nan => .nan
  | .infinite a, .infinite b => if a = b then .infinite a else .nan
  | .infinite a, _ | _, .infinite a => .infinite a
  | .finite a m e, .finite b n f =>
    let least := min e f
    let part (negative : Bool) (mantissa : Nat) (exponent : Int) : Int :=
      (if negative then -1 else 1) * (mantissa * Nat.pow 2 (exponent - least).toNat)
    let sum := part a m e + part b n f
    if sum = 0 then zero (a && b)
    else
      let (num, den) := scaled 2 sum.natAbs 1 least
      ofFraction (sum < 0) num den

def mul : Binary64 → Binary64 → Binary64
  | .nan, _ | _, .nan => .nan
  | .infinite a, .infinite b => .infinite (a != b)
  | .infinite a, .finite b n _ | .finite b n _, .infinite a =>
    if n = 0 then .nan else .infinite (a != b)
  | .finite a m e, .finite b n f =>
    if m * n = 0 then zero (a != b)
    else
      let (num, den) := scaled 2 (m * n) 1 (e + f)
      ofFraction (a != b) num den

def reads (mantissa : Nat) (exponent : Int) (digits : Nat) (power : Int) : Bool :=
  ofDecimal false digits power = .finite false mantissa exponent

/-- The digits and the power of ten of the shortest decimal that leads back to a positive number,
with at most `count + tries` digits. Ten to the power `size` is the first power of ten above the
number. -/
def shortest (mantissa : Nat) (exponent : Int) (size : Int) : Nat → Nat → Nat × Int
  | count, 0 => (mantissa, count)
  | count, tries + 1 =>
    let power := size - count
    let (num, den) := scaled 2 mantissa 1 exponent
    let (num, den) := scaled 10 num den (-power)
    let below := num / den
    let above := below + 1
    let low := reads mantissa exponent below power
    let high := reads mantissa exponent above power
    if low && high then (nearest num den, power)
    else if low then (below, power)
    else if high then (above, power)
    else shortest mantissa exponent size (count + 1) tries

/-- The number of digits before the point of a positive fraction, less one for every zero behind
the point. -/
def sizeOfFraction (num den : Nat) : Int :=
  let whole := num / den
  if 0 < whole then (Nat.toDigits 10 whole).length
  else
    let inverse := den / num
    let size : Int := 1 - (Nat.toDigits 10 inverse).length
    let (low, high) := scaled 10 num den (-size)
    if low < high then size else size + 1

def positional (digits : Text) (size : Int) : Text :=
  if size ≤ 0 then "0." ++ List.replicate (-size).toNat '0' ++ digits
  else
    let whole := digits.take size.toNat
    let part := digits.drop size.toNat
    whole ++ List.replicate (size.toNat - digits.length) '0' ++ "." ++
      (if part = [] then ['0'] else part)

def scientific (digits : Text) (power : Int) : Text :=
  let size := Text.ofNat power.natAbs
  let mantissa :=
    match digits with
    | [] => []
    | [digit] => [digit]
    | digit :: rest => digit :: '.' :: rest
  mantissa ++ (if power < 0 then "e-" else "e+") ++ (if size.length < 2 then '0' :: size else size)

def dropZeros (digits : Text) : Text := (digits.reverse.dropWhile (· = '0')).reverse

def text : Binary64 → Text
  | .nan => "nan"
  | .infinite negative => if negative then "-inf" else "inf"
  | .finite negative mantissa exponent =>
    let sign : Text := if negative then ['-'] else []
    if mantissa = 0 then sign ++ "0.0"
    else
      let (num, den) := scaled 2 mantissa 1 exponent
      let size := sizeOfFraction num den
      let (digits, power) := shortest mantissa exponent size 1 17
      let all := Text.ofNat digits
      let size := all.length + power
      let shown := dropZeros all
      sign ++ (if -4 < size ∧ size ≤ 16 then positional shown size else scientific shown (size - 1))

end Binary64

end ClientFacade
