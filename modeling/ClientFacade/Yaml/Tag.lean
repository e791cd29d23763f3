import ClientFacade.Text.Basic

/-!
# Tags

The tag of a node says what it stands for. A plain scalar gets its tag from its form: the words for
null and the truth values, the forms of numbers and dates, the mark of a merge and the mark of a
value. All else is text.
-/

namespace ClientFacade.Yaml

inductive Tag
  | null
  | bool
  | int
  | float
  | timestamp
  | text
  | merge
  | value
  | sequence
  | mapping
  | binary
  | pairs
  | set
  | other
  deriving DecidableEq, Repr

namespace Tag

def space : Text := "tag:yaml.org,2002:"

def names : List (Text × Tag) :=
  [("null", null), ("bool", bool), ("int", int), ("float", float), ("timestamp", timestamp),
   ("str", text), ("merge", merge), ("value", value), ("seq", sequence), ("map", mapping),
   ("binary", binary), ("omap", pairs), ("pairs", pairs), ("set", set)]

def ofName (name : Text) : Tag :=
  match Text.dropBeginning? space name with
  | some short => (names.lookup short).getD other
  | none => other

def isCollection (tag : Tag) : Bool := [sequence, mapping, pairs, set].elem tag

def isScalar (tag : Tag) : Bool := [null, bool, int, float, timestamp, text, binary].elem tag

end Tag

/-! ## Forms of scalars -/

def boolWords : List (Text × Bool) :=
  ["yes", "Yes", "YES", "true", "True", "TRUE", "on", "On", "ON"].map (fun w => (w.toList, true)) ++
    ["no", "No", "NO", "false", "False", "FALSE", "off", "Off", "OFF"].map
      fun w => (w.toList, false)

/-- What the words stand for under a tag of their own, where case does not matter. -/
def truthWords : List (Text × Bool) :=
  [("yes", true), ("true", true), ("on", true), ("no", false), ("false", false),
   ("off", false)].map fun (word, value) => (word.toList, value)

def nullWords : List Text := ["", "~", "null", "Null", "NULL"]

def isDigitMark (c : Char) : Bool := c.isDigit || c = '_'

def splitSign : Text → Option Char × Text
  | [] => (none, [])
  | c :: rest => if c = '+' ∨ c = '-' then (some c, rest) else (none, c :: rest)

/-- Whether a text is empty or an exponent with a sign. -/
def isExponent : Text → Bool
  | [] => true
  | [_] => false
  | c :: d :: digits =>
    (c = 'e' || c = 'E') && (d = '+' || d = '-') && digits ≠ [] && digits.all Char.isDigit

def isSixtieth : Text → Bool
  | [c] => c.isDigit
  | [c, d] => '0' ≤ c && c ≤ '5' && d.isDigit
  | _ => false

def areSixtieths (parts : List Text) : Bool := parts ≠ [] && parts.all isSixtieth

/-- Digits and underscores, a digit first. -/
def isMarkedNumber : Text → Bool
  | [] => false
  | c :: rest => c.isDigit && rest.all isDigitMark

/-- Whether a text without sign has the form of a whole number: decimal, with the mark of another
base, or to the base sixty. -/
def isUnsignedInt : Text → Bool
  | '0' :: 'b' :: rest => rest ≠ [] && rest.all fun c => c = '0' || c = '1' || c = '_'
  | '0' :: 'x' :: rest =>
    rest ≠ [] && rest.all fun c =>
      c.isDigit || ('a' ≤ c && c ≤ 'f') || ('A' ≤ c && c ≤ 'F') || c = '_'
  | '0' :: rest => rest.all fun c => ('0' ≤ c && c ≤ '7') || c = '_'
  | text =>
    match text.pieces ':' with
    | [] => false
    | first :: parts => isMarkedNumber first && (parts = [] || areSixtieths parts)

def isInt (text : Text) : Bool := isUnsignedInt (splitSign text).2

/-- Whether a text has a point behind a number, which may have parts to the base sixty. -/
def isPointed (text : Text) : Bool :=
  match Text.breakAt? '.' text with
  | none => false
  | some (whole, rest) =>
    let marks := rest.takeWhile isDigitMark
    let tail := rest.drop marks.length
    match whole.pieces ':' with
    | [] => false
    | [first] => isMarkedNumber first && isExponent tail
    | first :: parts => isMarkedNumber first && areSixtieths parts && tail = []

def isFraction : Text → Bool
  | '.' :: c :: rest => c.isDigit && isExponent (rest.dropWhile isDigitMark)
  | _ => false

def infinityWords : List Text := [".inf", ".Inf", ".INF"]

def nanWords : List Text := [".nan", ".NaN", ".NAN"]

def isFloat (text : Text) : Bool :=
  let unsigned := (splitSign text).2
  isPointed unsigned || isFraction text || infinityWords.elem unsigned || nanWords.elem text

/-! ## Dates -/

structure Moment where
  year : Nat
  month : Nat
  day : Nat
  time : Option (Nat × Nat × Nat × Text)
  /-- The offset from universal time in minutes. -/
  offset : Option Int
  deriving DecidableEq, Repr

def numberOf (digits : Text) : Nat := digits.foldl (fun n c => n * 10 + (c.toNat - 48)) 0

def digits? (least most : Nat) (text : Text) : Option (Nat × Text) :=
  let found := (text.take most).takeWhile Char.isDigit
  if least ≤ found.length then some (numberOf found, text.drop found.length) else none

def after? (mark : Char) : Text → Option Text
  | [] => none
  | c :: rest => if c = mark then some rest else none

def skipBlanks (text : Text) : Text := text.dropWhile fun c => c = ' ' || c = '\t'

def offset? (text : Text) : Option (Option Int) :=
  match skipBlanks text with
  | [] => if text = [] then some none else none
  | ['Z'] => some (some 0)
  | c :: rest =>
    if c = '+' ∨ c = '-' then do
      let (hours, rest) ← digits? 1 2 rest
      let minutes ←
        match rest with
        | [] => some 0
        | _ => do
          let (minutes, rest) ← digits? 2 2 (← after? ':' rest)
          if rest = [] then some minutes else none
      let offset : Int := hours * 60 + minutes
      return some (if c = '-' then -offset else offset)
    else none

def fullMoment? (text : Text) : Option Moment := do
  let (year, rest) ← digits? 4 4 text
  let (month, rest) ← digits? 1 2 (← after? '-' rest)
  let (day, rest) ← digits? 1 2 (← after? '-' rest)
  let rest ←
    match rest with
    | [] => none
    | c :: more =>
      if c = 'T' ∨ c = 't' then some more
      else if c = ' ' ∨ c = '\t' then some (skipBlanks rest)
      else none
  let (hour, rest) ← digits? 1 2 rest
  let (minute, rest) ← digits? 2 2 (← after? ':' rest)
  let (second, rest) ← digits? 2 2 (← after? ':' rest)
  let (fraction, rest) :=
    match rest with
    | '.' :: more => (more.takeWhile Char.isDigit, more.dropWhile Char.isDigit)
    | rest => ([], rest)
  return ⟨year, month, day, some (hour, minute, second, fraction), ← offset? rest⟩

/-- A date alone, with at least this many digits for month and day. -/
def date? (least : Nat) (text : Text) : Option Moment := do
  let (year, rest) ← digits? 4 4 text
  let (month, rest) ← digits? least 2 (← after? '-' rest)
  let (day, rest) ← digits? least 2 (← after? '-' rest)
  if rest = [] then some ⟨year, month, day, none, none⟩ else none

def moment? (least : Nat) (text : Text) : Option Moment := (date? least text).or (fullMoment? text)

def Tag.ofPlain (text : Text) : Tag :=
  if (boolWords.lookup text).isSome then .bool
  else if isFloat text then .float
  else if isInt text then .int
  else if text = ['<', '<'] then .merge
  else if nullWords.elem text then .null
  else if (moment? 2 text).isSome then .timestamp
  else if text = ['='] then .value
  else .text

end ClientFacade.Yaml
