import ClientFacade.Text.Utf8
import ClientFacade.Value.Basic

/-!
# Shared values

A collection may be reached from several places, also from inside itself. It then stands in a cell
of a heap, and wherever it is meant, the number of its cell stands. What is put into a cell is seen
from all places that lead there. Besides lists and maps there are lists of pairs, and sets.
-/

namespace ClientFacade

/-- What has no parts and may be the key of a map. -/
inductive Atom
  | scalar (value : Scalar)
  | bytes (codes : Utf8.Bytes)
  deriving DecidableEq, Repr

inductive Ref
  | atom (value : Atom)
  | cell (id : Nat)
  deriving DecidableEq, Repr

abbrev Entries := List (Atom × Ref)

inductive Cell
  | list (items : List Ref)
  | pairs (items : List (Ref × Ref))
  | map (entries : Entries)
  | set (members : List Atom)
  deriving DecidableEq, Repr

namespace Atom

def ofText (text : Text) : Atom := .scalar (.text text)

def text? : Atom → Option Text
  | .scalar (.text text) => some text
  | _ => none

def int? : Atom → Option Int
  | .scalar value => value.int?
  | .bytes _ => none

def sameKey : Atom → Atom → Bool
  | .scalar a, .scalar b => a.sameKey b
  | .bytes a, .bytes b => a = b
  | _, _ => false

def isEmpty : Atom → Bool
  | .scalar value => value.isEmpty
  | .bytes codes => codes = []

def typeName : Atom → Text
  | .scalar value => value.typeName
  | .bytes _ => "bytes"

/-- Bytes are shown as the characters of their codes, as far as these are in ASCII. -/
def shown : Atom → Text
  | .scalar value => value.shown
  | .bytes codes => 'b' :: Text.quotedAscii (codes.map fun code => Char.ofNat code.toNat)

end Atom

namespace Ref

def ofText (text : Text) : Ref := .atom (.ofText text)

def text? : Ref → Option Text
  | .atom value => value.text?
  | .cell _ => none

def int? : Ref → Option Int
  | .atom value => value.int?
  | .cell _ => none

end Ref

namespace Entries

def get? (key : Text) : Entries → Option Ref
  | [] => none
  | (name, value) :: rest => if name = .ofText key then some value else get? key rest

def insert (key : Atom) (value : Ref) : Entries → Entries
  | [] => [(key, value)]
  | (name, old) :: rest =>
    if name.sameKey key then (name, value) :: rest else (name, old) :: insert key value rest

end Entries

abbrev Heap := List Cell

namespace Heap

variable (heap : Heap)

/-- The cell of a number. A number that is not in use leads to an empty list. -/
def cell (id : Nat) : Cell := heap[id]?.getD (.list [])

def entries? : Ref → Option Entries
  | .atom _ => none
  | .cell id =>
    match heap.cell id with
    | .map entries => some entries
    | _ => none

def values (id : Nat) : List Ref := ((heap.entries? (.cell id)).getD []).map Prod.snd

def get? (key : Text) (map : Ref) : Option Ref := (heap.entries? map).bind (Entries.get? key)

def isEmpty : Ref → Bool
  | .atom value => value.isEmpty
  | .cell id =>
    match heap.cell id with
    | .list items => items.isEmpty
    | .pairs items => items.isEmpty
    | .map entries => entries.isEmpty
    | .set members => members.isEmpty

def typeName : Ref → Text
  | .atom value => value.typeName
  | .cell id =>
    match heap.cell id with
    | .list _ | .pairs _ => "list"
    | .map _ => "dict"
    | .set _ => "set"

def shownCell (show_ : Ref → Text) : Cell → Text
  | .list items => "[" ++ Text.join ", " (items.map show_) ++ "]"
  | .pairs items =>
    let pairs := items.map fun (first, second) =>
      "(" ++ show_ first ++ ", " ++ show_ second ++ ")"
    "[" ++ Text.join ", " pairs ++ "]"
  | .map entries =>
    let pairs := entries.map fun (key, value) => key.shown ++ ": " ++ show_ value
    "\x7b" ++ Text.join ", " pairs ++ "\x7d"
  | .set [] => "set()"
  | .set members => "\x7b" ++ Text.join ", " (members.map Atom.shown) ++ "\x7d"

/-- A value inside others. A collection that stands in itself is only hinted at there. -/
def shownIn : Nat → List Nat → Ref → Text
  | _, _, .atom value => value.shown
  | 0, _, .cell _ => "..."
  | fuel + 1, around, .cell id =>
    if around.elem id then
      match heap.cell id with
      | .map _ => "\x7b...\x7d"
      | _ => "[...]"
    else shownCell (shownIn fuel (id :: around)) (heap.cell id)

def shown (ref : Ref) : Text := heap.shownIn (heap.length + 1) [] ref

def plain : Ref → Text
  | .atom value => value.text?.getD value.shown
  | .cell id => shownCell heap.shown (heap.cell id)

/-- How many collections may stand in each other before a way back is cut. -/
def openDepth : Nat := 4

/-- The value of its own that a reference leads to, with a copy for every way to a collection. Far
inside it is cut where a collection comes to stand in itself. Bytes, pairs and sets have no such
value. -/
def valueIn? : Nat → List Nat → Ref → Option Value
  | _, _, .atom (.scalar value) => some (.scalar value)
  | _, _, .atom (.bytes _) => none
  | 0, _, .cell _ => some .null
  | fuel + 1, around, .cell id =>
    if around.elem id && openDepth ≤ around.length then some .null
    else
      match heap.cell id with
      | .list items => do return .list (← items.mapM (valueIn? fuel (id :: around)))
      | .map entries => do
        return .map (← entries.mapM fun (key, ref) => do
          match key with
          | .scalar key => return (key, ← valueIn? fuel (id :: around) ref)
          | .bytes _ => none)
      | _ => none

end Heap

/-- A value with the heap that it stands in. -/
structure Graph where
  heap : Heap
  root : Ref
  deriving DecidableEq, Repr

namespace Graph

def entries? (graph : Graph) : Option Entries := graph.heap.entries? graph.root

def get? (key : Text) (graph : Graph) : Option Ref := graph.heap.get? key graph.root

def value? (graph : Graph) : Option Value :=
  graph.heap.valueIn? (graph.heap.length + Heap.openDepth) [] graph.root

end Graph

end ClientFacade
