/-!
# Text

Text is a list of characters. A string literal coerces to it, so that a message is written with
`++` and its parts keep their literal spelling. The operations are those that several parts of the
library share: joining, testing for a beginning or a part, writing a number.
-/

namespace ClientFacade

abbrev Text := List Char

instance : Coe String Text := ⟨String.toList⟩

namespace Text

def join (separator : Text) : List Text → Text
  | [] => []
  | [part] => part
  | part :: next :: rest => part ++ separator ++ join separator (next :: rest)

/-- Whether `part` occurs as a run of consecutive characters. -/
def hasPart (part : Text) : Text → Bool
  | [] => part.isEmpty
  | c :: rest => part.isPrefixOf (c :: rest) || hasPart part rest

def dropBeginning? (beginning text : Text) : Option Text :=
  if beginning.isPrefixOf text then some (text.drop beginning.length) else none

def endsWith (text ending : Text) : Bool := ending.isSuffixOf text

def ofNat (n : Nat) : Text := Nat.toDigits 10 n

def ofInt : Int → Text
  | .ofNat n => ofNat n
  | .negSucc n => '-' :: ofNat (n + 1)

def breakAt? (mark : Char) : Text → Option (Text × Text)
  | [] => none
  | c :: rest =>
    if c = mark then some ([], rest)
    else (breakAt? mark rest).map fun (before, after) => (c :: before, after)

def beforeLast? (mark : Char) : Text → Option Text
  | [] => none
  | c :: rest =>
    match beforeLast? mark rest with
    | some before => some (c :: before)
    | none => if c = mark then some [] else none

/-- The pieces between the marks. There is one more piece than there are marks. -/
def pieces (mark : Char) : Text → List Text
  | [] => [[]]
  | c :: rest =>
    if c = mark then [] :: pieces mark rest
    else
      match pieces mark rest with
      | [] => [[c]]
      | piece :: others => (c :: piece) :: others

def replaceChar (mark : Char) (by_ : Text) (text : Text) : Text :=
  text.flatMap fun c => if c = mark then by_ else [c]

@[simp] theorem join_nil (separator : Text) : join separator [] = [] := rfl

@[simp] theorem join_singleton (separator part : Text) : join separator [part] = part := rfl

theorem pieces_ne_nil (mark : Char) (text : Text) : pieces mark text ≠ [] := by
  cases text with
  | nil => simp [pieces]
  | cons c rest =>
    unfold pieces
    split
    · simp
    · split <;> simp

end Text

end ClientFacade
