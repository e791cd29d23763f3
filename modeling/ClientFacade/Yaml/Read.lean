import ClientFacade.Value.Heap
import ClientFacade.Yaml.Moment
import ClientFacade.Yaml.Number

/-!
# Reading YAML

A node stands for a value by its tag. Scalars become null, truth values, numbers, dates, bytes and
texts. The pairs of a merge come before the other pairs of its mapping, so that these win. The keys
of a mapping must be scalars. Every collection gets a cell of its own, the outer ones before those
inside. A text without a document is null.
-/

namespace ClientFacade.Yaml

/-- The scalar that a text stands for under a tag. -/
def scalarOf (tag : Tag) (text : Text) : Except Fault Scalar :=
  match tag with
  | .null => .ok .null
  | .text => .ok (.text text)
  | .bool =>
    match truthWords.lookup text.lower with
    | some value => .ok (.bool value)
    | none => .error (.impossible .key text.lower.quoted)
  | .int => (intOf text).map Scalar.int
  | .float => (floatOf text).map Scalar.float
  | .timestamp =>
    match moment? 1 (if text.getLast? = some '\n' then text.dropLast else text) with
    | none => .error (.impossible .attribute "'NoneType' object has no attribute 'groupdict'")
    | some moment =>
      match moment.text? with
      | .ok date => .ok (.moment date)
      | .error reason => .error (.impossible .value reason)
  | _ => .error .malformed

/-! ## Base 64 -/

def alphabet64 : Text := "ABCDEFGHIJKLMNOPQRSTUVWXYZabcdefghijklmnopqrstuvwxyz0123456789+/"

/-- The characters of the alphabet up to the padding, by their places. What is neither of them is
skipped, and so is padding that does not complete four. -/
def sextets? : List Nat → Nat → Text → Option (List Nat)
  | found, _, [] => if found.length % 4 = 0 then some found else none
  | found, pads, '=' :: rest =>
    let place := found.length % 4
    if place < 2 then sextets? found pads rest
    else if place + pads + 1 < 4 then sextets? found (pads + 1) rest
    else some found
  | found, pads, c :: rest =>
    if alphabet64.elem c then sextets? (found ++ [alphabet64.idxOf c]) 0 rest
    else sextets? found pads rest

def bytesOfSextets : List Nat → Utf8.Bytes
  | a :: b :: c :: d :: rest =>
    .ofNat (a * 4 + b / 16) :: .ofNat (b % 16 * 16 + c / 4) :: .ofNat (c % 4 * 64 + d) ::
      bytesOfSextets rest
  | [a, b, c] => [.ofNat (a * 4 + b / 16), .ofNat (b % 16 * 16 + c / 4)]
  | [a, b] => [.ofNat (a * 4 + b / 16)]
  | _ => []

def binaryOf (text : Text) : Except Fault Utf8.Bytes :=
  match if text.all fun c => c.toNat < 0x80 then sextets? [] 0 text else none with
  | some found => .ok (bytesOfSextets found)
  | none => .error .malformed

def atomOf (tag : Tag) (text : Text) : Except Fault Atom :=
  if tag = .binary then (binaryOf text).map Atom.bytes else (scalarOf tag text).map Atom.scalar

/-! ## Collections -/

namespace Table

variable (table : Table)

def form? : Node → Option Form
  | .scalar _ _ => none
  | .collection id => (table.lookup id).map Collection.form

def tag? : Node → Option Tag
  | .scalar tag _ => some tag
  | .collection id => (table.lookup id).map Collection.tag

/-- The text that a scalar is made of. A mapping has the one at its value mark. -/
def textOf : Nat → Node → Except Fault Text
  | _, .scalar _ text => .ok text
  | 0, .collection _ => .error (.impossible .depth "maximum recursion depth exceeded")
  | fuel + 1, .collection id =>
    match table.form? (.collection id) with
    | some (.mapping pairs) =>
      match pairs.find? fun pair => table.tag? pair.1 = some .value with
      | some (_, node) => textOf fuel node
      | none => .error .malformed
    | _ => .error .malformed

/-- The scalar that a mapping stands for under the tag of one. -/
def scalarIn (id : Nat) (tag : Tag) : Except Fault Atom := do
  if !tag.isScalar then throw .malformed
  let text ← table.textOf (table.length + 1) (.collection id)
  if tag = .timestamp then
    throw (.impossible .type "expected string or bytes-like object, got 'list'")
  atomOf tag text

def ref : Node → Except Fault Ref
  | .scalar tag text => (atomOf tag text).map Ref.atom
  | .collection id =>
    match table.tag? (.collection id) with
    | some tag => if tag.isCollection then .ok (.cell id) else (table.scalarIn id tag).map Ref.atom
    | none => .error .malformed

def isMerge : Node → Bool
  | .scalar .merge _ => true
  | _ => false

/-- The mappings that the value of a merge stands for, those that win last. -/
def sources (node : Node) : List Node :=
  match table.form? node with
  | some (.sequence items) => items.reverse
  | _ => [node]

/-- The pairs of a mapping with those that it merges before them. A mapping that merges itself is
taken without its merges there. -/
def merged : Nat → List Nat → Node → Except Fault (List (Node × Node))
  | fuel + 1, around, .collection id =>
    match table.form? (.collection id) with
    | some (.mapping pairs) => do
      let merges := if around.elem id then [] else pairs.filter fun pair => isMerge pair.1
      let found ← (merges.flatMap fun pair => table.sources pair.2).mapM
        (merged fuel (id :: around))
      return found.flatten ++ pairs.filter fun pair => !isMerge pair.1
    | _ => .error .malformed
  | _, _, _ => .error .malformed

/-- The key that a node stands for. The mark of a value is text as a key. -/
def key : Node → Except Fault Atom
  | .scalar .value text => .ok (.ofText text)
  | .scalar tag text => atomOf tag text
  | .collection id =>
    match table.tag? (.collection id) with
    | some tag => table.scalarIn id tag
    | none => .error .malformed

def entries (found : Entries) : List (Node × Node) → Except Fault Entries
  | [] => .ok found
  | (name, node) :: rest => do
    entries (Entries.insert (← table.key name) (← table.ref node) found) rest

def pair (node : Node) : Except Fault (Node × Node) :=
  match table.form? node with
  | some (.mapping [pair]) => .ok pair
  | _ => .error .malformed

def cell (id : Nat) : Except Fault (Cell × List Node) := do
  match table.lookup id with
  | some ⟨.sequence, .sequence items⟩ => return (.list (← items.mapM table.ref), items)
  | some ⟨.pairs, .sequence items⟩ =>
    let pairs ← items.mapM table.pair
    let refs ← pairs.mapM fun (first, second) => do
      return (← table.ref first, ← table.ref second)
    return (.pairs refs, pairs.flatMap fun (first, second) => [first, second])
  | some ⟨.mapping, .mapping _⟩ =>
    let pairs ← table.merged (table.length + 2) [] (.collection id)
    return (.map (← table.entries [] pairs), pairs.map (·.2))
  | some ⟨.set, .mapping _⟩ =>
    let pairs ← table.merged (table.length + 2) [] (.collection id)
    return (.set ((← table.entries [] pairs).map (·.1)), pairs.map (·.2))
  | _ => throw .malformed

def ids (nodes : List Node) : List Nat :=
  nodes.filterMap fun
    | .scalar _ _ => none
    | .collection id => some id

/-- The cells of the collections that wait, and of those that are used in them. -/
def cells : Nat → List Nat → List (Nat × Cell) → Except Fault (List (Nat × Cell))
  | _, [], found => .ok found
  | 0, _, found => .ok found
  | fuel + 1, id :: waiting, found => do
    let (cell, nodes) ← table.cell id
    let found := (id, cell) :: found
    let fresh := (ids nodes).eraseDups.filter fun other =>
      !waiting.elem other && (found.lookup other).isNone
    cells fuel (waiting ++ fresh) found

end Table

def Document.graph (document : Document) : Except Fault Graph := do
  let table := document.table
  let root ← table.ref document.root
  let found ← table.cells table.length (Table.ids [document.root]) []
  let heap := (List.range table.length).map fun id => (found.lookup id).getD (.list [])
  return ⟨heap, root⟩

def load (text : Text) : Except Fault Graph := do
  match ← Node.ofTokens (tokens text) with
  | none => return ⟨[], .atom (.scalar .null)⟩
  | some document => document.graph

/-- The value that a text stands for. Bytes, pairs and sets have no part in it. -/
def read (text : Text) : Except Fault Value := do
  match (← load text).value? with
  | some value => return value
  | none => throw .malformed

end ClientFacade.Yaml
