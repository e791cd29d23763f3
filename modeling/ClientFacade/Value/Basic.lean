import ClientFacade.Text.Quoted
import ClientFacade.Value.Binary64

/-!
# Values

Settings come in as values of no fixed shape: scalars, lists, and maps whose entries keep their
order. The keys of a map are scalars, and a key that comes twice keeps its first place and its last
value. Numbers that are equal are one key, whatever their kind, and a truth value counts as number.
-/

namespace ClientFacade

inductive Scalar
  | null
  | bool (value : Bool)
  | int (value : Int)
  | float (value : Binary64)
  | text (value : Text)
  | moment (date : Text)
  deriving DecidableEq, Repr

inductive Value
  | scalar (value : Scalar)
  | list (items : List Value)
  | map (entries : List (Scalar × Value))
  deriving Repr

namespace Scalar

def int? : Scalar → Option Int
  | .bool value => some (if value then 1 else 0)
  | .int value => some value
  | _ => none

def sameKey : Scalar → Scalar → Bool
  | .text a, .text b => a = b
  | .float a, .float b =>
    match a, b with
    | .nan, _ | _, .nan => false
    | a, b => a = b || a.isZero && b.isZero
  | .float a, b => (int? b).any a.isInt
  | a, .float b => (int? a).any b.isInt
  | a, b =>
    match int? a, int? b with
    | some m, some n => m = n
    | _, _ => a = b

/-- Whether a scalar counts as false. -/
def isEmpty : Scalar → Bool
  | .null => true
  | .bool value => !value
  | .int value => value = 0
  | .float value => value.isZero
  | .text value => value = []
  | .moment _ => false

def shown : Scalar → Text
  | .null => "None"
  | .bool value => if value then "True" else "False"
  | .int value => Text.ofInt value
  | .float value => value.text
  | .text value => value.quoted
  | .moment date => date

def typeName : Scalar → Text
  | .null => "NoneType"
  | .bool _ => "bool"
  | .int _ => "int"
  | .float _ => "float"
  | .text _ => "str"
  | .moment date => if date.elem ':' then "datetime.datetime" else "datetime.date"

end Scalar

namespace Value

mutual

def decEq : (a b : Value) → Decidable (a = b)
  | .scalar a, .scalar b => decidable_of_iff (a = b) (by rw [scalar.injEq])
  | .list a, .list b => @decidable_of_iff _ (a = b) (by rw [list.injEq]) (decEqItems a b)
  | .map a, .map b => @decidable_of_iff _ (a = b) (by rw [map.injEq]) (decEqEntries a b)
  | .scalar _, .list _ | .scalar _, .map _ | .list _, .scalar _ | .list _, .map _
  | .map _, .scalar _ | .map _, .list _ => .isFalse nofun

def decEqItems : (a b : List Value) → Decidable (a = b)
  | [], [] => .isTrue rfl
  | [], _ :: _ | _ :: _, [] => .isFalse nofun
  | a :: as, b :: bs =>
    @decidable_of_iff _ (a = b ∧ as = bs) (by rw [List.cons.injEq])
      (@instDecidableAnd _ _ (decEq a b) (decEqItems as bs))

def decEqEntries : (a b : List (Scalar × Value)) → Decidable (a = b)
  | [], [] => .isTrue rfl
  | [], _ :: _ | _ :: _, [] => .isFalse nofun
  | (key, a) :: as, (other, b) :: bs =>
    @decidable_of_iff _ (key = other ∧ a = b ∧ as = bs)
      (by rw [List.cons.injEq, Prod.mk.injEq, and_assoc])
      (@instDecidableAnd _ _ _ (@instDecidableAnd _ _ (decEq a b) (decEqEntries as bs)))

end

instance : DecidableEq Value := decEq

def null : Value := .scalar .null

instance : Inhabited Value := ⟨null⟩

def ofText (text : Text) : Value := .scalar (.text text)

def ofBool (value : Bool) : Value := .scalar (.bool value)

def ofTexts (texts : List Text) : Value := .list (texts.map ofText)

def text? : Value → Option Text
  | .scalar (.text text) => some text
  | _ => none

def get? (key : Text) : List (Scalar × Value) → Option Value
  | [] => none
  | (name, value) :: rest => if name = .text key then some value else get? key rest

/-- Sets the value of a key: in its place, or at the end if the key is new. -/
def insert (key : Scalar) (value : Value) : List (Scalar × Value) → List (Scalar × Value)
  | [] => [(key, value)]
  | (name, old) :: rest =>
    if name.sameKey key then (name, value) :: rest else (name, old) :: insert key value rest

end Value

end ClientFacade
