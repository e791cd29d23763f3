import ClientFacade.Yaml.Tag
import ClientFacade.Yaml.Token.Scan

/-!
# YAML nodes

The tokens of a document make up one node: a scalar, a sequence or a mapping. Sequences and mappings
are numbered in the order of their beginnings. An alias is the node that its anchor was given to,
which may be a collection that has not come to its end. No anchor is given twice. What is left out
between marks is an empty scalar. A text holds one document at most.
-/

namespace ClientFacade.Yaml

inductive Node
  | scalar (tag : Tag) (text : Text)
  | collection (id : Nat)

inductive Form
  | sequence (items : List Node)
  | mapping (pairs : List (Node × Node))

structure Collection where
  tag : Tag
  form : Form

abbrev Table := List (Nat × Collection)

structure Document where
  root : Node
  table : Table

namespace Node

/-- What stands where nothing is written. -/
def empty : Node := .scalar .null []

/-- What is left of a document while it is read, and the collections that have been read. -/
structure Rest where
  tokens : List Token
  handles : List (Text × Text)
  anchors : List (Text × Node)
  next : Nat
  table : Table

abbrev Read (α : Type) := Rest → Except Fault (α × Rest)

structure Properties where
  anchor : Option Text
  tag : Option Text

def resolve (handles : List (Text × Text)) (handle : Option Text) (suffix : Text) :
    Except Fault Text :=
  match handle with
  | none => .ok suffix
  | some handle =>
    match handles.lookup handle with
    | some expansion => .ok (expansion ++ suffix)
    | none => .error .malformed

def properties : Read Properties := fun rest =>
  match rest.tokens with
  | .anchor name :: .tag handle suffix :: tokens => do
    let tag ← resolve rest.handles handle suffix
    return (⟨some name, some tag⟩, { rest with tokens })
  | .tag handle suffix :: .anchor name :: tokens => do
    let tag ← resolve rest.handles handle suffix
    return (⟨some name, some tag⟩, { rest with tokens })
  | .anchor name :: tokens => .ok (⟨some name, none⟩, { rest with tokens })
  | .tag handle suffix :: tokens => do
    let tag ← resolve rest.handles handle suffix
    return (⟨none, some tag⟩, { rest with tokens })
  | _ => .ok (⟨none, none⟩, rest)

/-- The lone exclamation mark asks for the tag of the form. -/
def scalarTag (tag : Option Text) (plain : Bool) (text : Text) : Tag :=
  match tag with
  | none => if plain then Tag.ofPlain text else .text
  | some ['!'] => Tag.ofPlain text
  | some name => Tag.ofName name

def collectionTag (usual : Tag) (tag : Option Text) : Tag :=
  match tag with
  | none | some ['!'] => usual
  | some name => Tag.ofName name

def register (anchor : Option Text) (node : Node) (rest : Rest) : Rest :=
  match anchor with
  | none => rest
  | some name => { rest with anchors := (name, node) :: rest.anchors }

/-- Reads a collection. Its anchor stands for it from its beginning. -/
def numbered (properties : Properties) (usual : Tag) (form : Read Form) : Read Node :=
  fun rest => do
  let found := Node.collection rest.next
  let (form, left) ← form (register properties.anchor found { rest with next := rest.next + 1 })
  let entry := (rest.next, ⟨collectionTag usual properties.tag, form⟩)
  return (found, { left with table := entry :: left.table })

def refuse {α : Type} : Read α := fun rest =>
  match rest.tokens with
  | .fault fault :: _ => .error fault
  | _ => .error .malformed

inductive Style
  | block
  | indentless
  | flow
  deriving DecidableEq, Repr

def endsItem (style : Style) : Token → Bool
  | .blockEntry | .blockEnd => true
  | .key | .value => style = .indentless
  | _ => false

def endsField : Token → Bool
  | .key | .value | .blockEnd => true
  | _ => false

def endsFlowField (close : Token) (token : Token) : Bool := token = .flowEntry || token = close

def nextIs (p : Token → Bool) (rest : Rest) : Bool := rest.tokens.head?.any p

def drop (rest : Rest) : Rest := { rest with tokens := rest.tokens.tail }

mutual

/-- A node. In block context it may be a block collection. Behind a key it may also be a sequence
that is not indented. -/
def node (inBlock indentless : Bool) : Nat → Read Node
  | 0 => refuse
  | fuel + 1 => fun rest =>
    match rest.tokens with
    | .alias name :: _ =>
      match rest.anchors.lookup name with
      | some found => .ok (found, drop rest)
      | none => .error .malformed
    | _ => do
      let (properties, rest) ← properties rest
      if properties.anchor.any fun name => (rest.anchors.lookup name).isSome then
        throw .malformed
      content inBlock indentless fuel properties rest

def content (inBlock indentless : Bool) : Nat → Properties → Read Node
  | 0, _ => refuse
  | fuel + 1, properties => fun rest =>
    let scalar (plain : Bool) (text : Text) (rest : Rest) : Node × Rest :=
      let found := Node.scalar (scalarTag properties.tag plain text) text
      (found, register properties.anchor found rest)
    let sequence (items : Read (List Node)) : Read Node :=
      numbered properties .sequence fun rest => do
        let (items, rest) ← items rest
        return (.sequence items, rest)
    let mapping (pairs : Read (List (Node × Node))) : Read Node :=
      numbered properties .mapping fun rest => do
        let (pairs, rest) ← pairs rest
        return (.mapping pairs, rest)
    match rest.tokens with
    | .scalar text plain :: _ => .ok (scalar plain text (drop rest))
    | .flowSequenceStart :: _ => sequence (flowItems true fuel) (drop rest)
    | .flowMappingStart :: _ => mapping (flowPairs true fuel) (drop rest)
    | token :: _ =>
      if indentless && token = .blockEntry then sequence (blockItems .indentless fuel) rest
      else if inBlock && token = .blockSequenceStart then
        sequence (blockItems .block fuel) (drop rest)
      else if inBlock && token = .blockMappingStart then mapping (blockPairs fuel) (drop rest)
      else if properties.anchor.isSome || properties.tag.isSome then .ok (scalar true [] rest)
      else refuse rest
    | [] => refuse rest

def blockItems (style : Style) : Nat → Read (List Node)
  | 0 => refuse
  | fuel + 1 => fun rest =>
    match rest.tokens with
    | .blockEntry :: _ => do
      let rest := drop rest
      let (item, rest) ←
        if nextIs (endsItem style) rest then pure (empty, rest)
        else node true false fuel rest
      let (items, rest) ← blockItems style fuel rest
      return (item :: items, rest)
    | .blockEnd :: _ => .ok ([], if style = .block then drop rest else rest)
    | _ => if style = .indentless then .ok ([], rest) else refuse rest

def blockPairs : Nat → Read (List (Node × Node))
  | 0 => refuse
  | fuel + 1 => fun rest =>
    match rest.tokens with
    | .blockEnd :: _ => .ok ([], drop rest)
    | .key :: _ => do
      let rest := drop rest
      let (key, rest) ←
        if nextIs endsField rest then pure (empty, rest) else node true true fuel rest
      let (value, rest) ← blockValue fuel rest
      let (pairs, rest) ← blockPairs fuel rest
      return ((key, value) :: pairs, rest)
    | .value :: _ => refuse rest
    | _ => refuse rest

def blockValue : Nat → Read Node
  | 0 => refuse
  | fuel + 1 => fun rest =>
    match rest.tokens with
    | .value :: _ =>
      let rest := drop rest
      if nextIs endsField rest then .ok (empty, rest) else node true true fuel rest
    | _ => .ok (empty, rest)

/-- The items between square brackets, to the closing one. An item with a key is a mapping. -/
def flowItems (first : Bool) : Nat → Read (List Node)
  | 0 => refuse
  | fuel + 1 => fun rest =>
    if nextIs (· = .flowSequenceEnd) rest then .ok ([], drop rest)
    else if !first && !nextIs (· = .flowEntry) rest then refuse rest
    else do
      let rest := if first then rest else drop rest
      if nextIs (· = .flowSequenceEnd) rest then
        return ([], drop rest)
      else if nextIs (· = .key) rest then
        let (item, rest) ← numbered ⟨none, none⟩ .mapping (flowPair fuel) (drop rest)
        let (items, rest) ← flowItems false fuel rest
        return (item :: items, rest)
      else
        let (item, rest) ← node false false fuel rest
        let (items, rest) ← flowItems false fuel rest
        return (item :: items, rest)

def flowPair : Nat → Read Form
  | 0 => refuse
  | fuel + 1 => fun rest => do
    let (key, rest) ← flowField .flowSequenceEnd true fuel rest
    let (value, rest) ← flowValue .flowSequenceEnd fuel rest
    return (.mapping [(key, value)], rest)

def flowPairs (first : Bool) : Nat → Read (List (Node × Node))
  | 0 => refuse
  | fuel + 1 => fun rest =>
    if nextIs (· = .flowMappingEnd) rest then .ok ([], drop rest)
    else if !first && !nextIs (· = .flowEntry) rest then refuse rest
    else do
      let rest := if first then rest else drop rest
      if nextIs (· = .flowMappingEnd) rest then
        return ([], drop rest)
      else if nextIs (· = .key) rest then
        let (key, rest) ← flowField .flowMappingEnd true fuel (drop rest)
        let (value, rest) ← flowValue .flowMappingEnd fuel rest
        let (pairs, rest) ← flowPairs false fuel rest
        return ((key, value) :: pairs, rest)
      else
        let (key, rest) ← node false false fuel rest
        let (pairs, rest) ← flowPairs false fuel rest
        return ((key, empty) :: pairs, rest)

def flowField (close : Token) (isKey : Bool) : Nat → Read Node
  | 0 => refuse
  | fuel + 1 => fun rest =>
    if nextIs (fun token => endsFlowField close token || (isKey && token = .value)) rest then
      .ok (empty, rest)
    else node false false fuel rest

def flowValue (close : Token) : Nat → Read Node
  | 0 => refuse
  | fuel + 1 => fun rest =>
    if nextIs (· = .value) rest then flowField close false fuel (drop rest)
    else .ok (empty, rest)

end

def usualHandles : List (Text × Text) := [(['!'], ['!']), (['!', '!'], Tag.space)]

/-- Reads the directives before a document: one version at most, and every handle once. -/
def directives (hasVersion : Bool) (handles : List (Text × Text)) :
    List Token → Except Fault (List (Text × Text) × List Token)
  | .directive (.version major) :: tokens =>
    if hasVersion || major ≠ 1 then .error .malformed else directives true handles tokens
  | .directive (.handle name expansion) :: tokens =>
    if (handles.lookup name).isSome then .error .malformed
    else directives hasVersion ((name, expansion) :: handles) tokens
  | .directive .unknown :: tokens => directives hasVersion handles tokens
  | tokens => .ok (handles, tokens)

/-- Whether a token cannot start the content of a marked document. -/
def endsDocument : Token → Bool
  | .directive _ | .documentStart | .documentEnd | .streamEnd => true
  | _ => false

def finish (root : Node) (rest : Rest) : Except Fault Document :=
  match rest.tokens.dropWhile (· = .documentEnd) with
  | [.streamEnd] => .ok ⟨root, rest.table⟩
  | tokens => do
    let (_, rest) : Node × Rest ← refuse { rest with tokens }
    return ⟨root, rest.table⟩

def ofTokens (tokens : List Token) : Except Fault (Option Document) := do
  let fuel := 4 * tokens.length + 8
  match tokens with
  | .streamEnd :: _ => return none
  | .directive _ :: _ | .documentStart :: _ =>
    let (handles, tokens) ← directives false [] tokens
    let rest : Rest := ⟨tokens.tail, handles ++ usualHandles, [], 0, []⟩
    match tokens with
    | .documentStart :: next :: _ =>
      let (root, rest) ←
        if endsDocument next then pure (empty, rest) else node true false fuel rest
      return some (← finish root rest)
    | .fault fault :: _ => throw fault
    | _ => throw .malformed
  | tokens =>
    let (root, rest) ← node true false fuel ⟨tokens, usualHandles, [], 0, []⟩
    return some (← finish root rest)

end Node

end ClientFacade.Yaml
