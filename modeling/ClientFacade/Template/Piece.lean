import ClientFacade.Template.Fault
import ClientFacade.Text.Digits

/-!
# Reading a template

A template is a list of pieces: literal text and fields. A doubled brace is a literal brace. A field
stands between braces and has a name with accesses, a conversion and a spec. A spec that holds an
opening brace is itself a template, one level deep. The fault of a malformed template is a piece as
well, the last one: what stands before it is met first.
-/

namespace ClientFacade.Template

inductive Base
  | named (name : Text)
  | position (index : Nat)
  | malformed (fault : Fault)
  deriving DecidableEq, Repr

inductive Access
  | attribute (name : Text)
  | index (index : Nat)
  | key (name : Text)
  | malformed (fault : Fault)
  deriving DecidableEq, Repr

structure Field (σ : Type) where
  base : Base
  accesses : List Access
  conversion : Option Char
  spec : σ

inductive Piece (σ : Type)
  | literal (text : Text)
  | field (field : Field σ)
  | malformed (fault : Fault)

inductive Spec (σ : Type)
  | plain (text : Text)
  | nested (pieces : σ)

/-- The spec of a field inside a spec cannot be nested again. -/
abbrev InnerSpec := Spec Unit

abbrev OuterSpec := Spec (List (Piece InnerSpec))

/-- The number that a text spells, if it consists of digits. A number that passes the limit is a
fault even if other characters follow. -/
def wholeNumber? (text : Text) : Except Fault (Option Nat) :=
  match readCounter 0 0 text with
  | none => .error .tooManyDigits
  | some (value, count, rest) => .ok (if 0 < count ∧ rest = [] then some value else none)

def Base.ofText (text : Text) : Base :=
  if text = [] then .position 0
  else
    match wholeNumber? text with
    | .error fault => .malformed fault
    | .ok (some index) => .position index
    | .ok none => .named text

def inName (c : Char) : Bool := c ≠ '.' && c ≠ '['

theorem breakAt?_length {mark : Char} {text before after : Text}
    (h : Text.breakAt? mark text = some (before, after)) : after.length < text.length := by
  induction text generalizing before with
  | nil => simp [Text.breakAt?] at h
  | cons c rest ih =>
    unfold Text.breakAt? at h
    split at h
    · simp only [Option.some.injEq, Prod.mk.injEq] at h
      simp [← h.2]
    · obtain ⟨⟨b, a⟩, found, shape⟩ := Option.map_eq_some_iff.1 h
      simp only [Prod.mk.injEq] at shape
      have found : Text.breakAt? mark rest = some (b, after) := by rw [found, shape.2]
      have := ih found
      simp only [List.length_cons]
      omega

/-- What stands in brackets: an index if it is a number, else a key. -/
def Access.ofIndex (inside : Text) : Access :=
  match wholeNumber? inside with
  | .error fault => .malformed fault
  | .ok (some place) => .index place
  | .ok none => if inside = [] then .malformed .emptyAccess else .key inside

def accesses : Text → List Access
  | [] => []
  | c :: rest =>
    if c = '.' then
      if rest.takeWhile inName = [] then [.malformed .emptyAccess]
      else .attribute (rest.takeWhile inName) :: accesses (rest.dropWhile inName)
    else if c = '[' then
      match _h : Text.breakAt? ']' rest with
      | none => [.malformed .openIndex]
      | some (inside, after) => Access.ofIndex inside :: accesses after
    else [.malformed .textAfterIndex]
termination_by text => text.length
decreasing_by
  · have := (List.dropWhile_sublist inName : (rest.dropWhile inName).Sublist rest).length_le
    simp only [List.length_cons]
    omega
  · have := breakAt?_length _h
    simp only [List.length_cons]
    omega

/-- The name of a field with its accesses, the mark that ends it, and the rest. Between brackets no
character is a mark. -/
def nameEnd (inIndex : Bool) : Text → Except Fault (Text × Char × Text)
  | [] => .error .openField
  | c :: rest =>
    if inIndex then (nameEnd (c ≠ ']') rest).map fun (name, found) => (c :: name, found)
    else if c = '{' then .error .openingInName
    else if c = '}' ∨ c = ':' ∨ c = '!' then .ok ([], c, rest)
    else (nameEnd (c = '[') rest).map fun (name, found) => (c :: name, found)

/-- The spec up to the brace that closes the field, and the rest, with `depth` braces open. -/
def specEnd (depth : Nat) : Text → Except Fault (Text × Text)
  | [] => .error .openSpec
  | c :: rest =>
    if c = '{' then (specEnd (depth + 1) rest).map fun (spec, found) => (c :: spec, found)
    else if c = '}' then
      match depth with
      | 0 => .ok ([], rest)
      | depth + 1 => (specEnd depth rest).map fun (spec, found) => (c :: spec, found)
    else (specEnd depth rest).map fun (spec, found) => (c :: spec, found)

def tailEnd (mark : Char) (text : Text) : Except Fault (Option Char × Text × Text) :=
  if mark = ':' then (specEnd 0 text).map fun found => (none, found)
  else if mark = '!' then
    match text with
    | [] => .error .endAtConversion
    | [_] => .error .openSpec
    | c :: d :: rest =>
      if d = '}' then .ok (some c, [], rest)
      else if d = ':' then (specEnd 0 rest).map fun found => (some c, found)
      else .error .noColonAfterConversion
  else .ok (none, [], text)

structure FieldText where
  name : Text
  conversion : Option Char
  spec : Text
  deriving DecidableEq, Repr

def fieldEnd (text : Text) : Except Fault (FieldText × Text) :=
  match nameEnd false text with
  | .error fault => .error fault
  | .ok (name, mark, rest) =>
    (tailEnd mark rest).map fun (conversion, spec, rest) => (⟨name, conversion, spec⟩, rest)

/-- The character NUL stands for no conversion. -/
def FieldText.read {σ : Type} (readSpec : Text → σ) (text : FieldText) : Field σ where
  base := Base.ofText (text.name.takeWhile inName)
  accesses := accesses (text.name.dropWhile inName)
  conversion := text.conversion.filter (· ≠ '\x00')
  spec := readSpec text.spec

theorem nameEnd_length {inIndex : Bool} {text name : Text} {mark : Char} {rest : Text}
    (h : nameEnd inIndex text = .ok (name, mark, rest)) : rest.length < text.length := by
  induction text generalizing inIndex name with
  | nil => simp [nameEnd] at h
  | cons c tail ih =>
    have step {flag : Bool} {name : Text}
        (h : (nameEnd flag tail).map (fun (n, found) => (c :: n, found)) = .ok (name, mark, rest)) :
        rest.length < (c :: tail).length := by
      cases hn : nameEnd flag tail with
      | error fault => simp [hn, Except.map] at h
      | ok found =>
        obtain ⟨n, m, r⟩ := found
        simp only [hn, Except.map, Except.ok.injEq, Prod.mk.injEq] at h
        obtain ⟨-, rfl, rfl⟩ := h
        have := ih hn
        simp only [List.length_cons]
        omega
    unfold nameEnd at h
    split at h
    · exact step h
    · split at h
      · simp at h
      · split at h
        · simp only [Except.ok.injEq, Prod.mk.injEq] at h
          simp [h.2.2]
        · exact step h

theorem specEnd_length {depth : Nat} {text spec rest : Text}
    (h : specEnd depth text = .ok (spec, rest)) : rest.length < text.length := by
  induction text generalizing depth spec with
  | nil => simp [specEnd] at h
  | cons c tail ih =>
    have step {depth : Nat} {spec : Text}
        (h : (specEnd depth tail).map (fun (s, found) => (c :: s, found)) = .ok (spec, rest)) :
        rest.length < (c :: tail).length := by
      cases hn : specEnd depth tail with
      | error fault => simp [hn, Except.map] at h
      | ok found =>
        obtain ⟨s, r⟩ := found
        simp only [hn, Except.map, Except.ok.injEq, Prod.mk.injEq] at h
        obtain ⟨-, rfl⟩ := h
        have := ih hn
        simp only [List.length_cons]
        omega
    unfold specEnd at h
    split at h
    · exact step h
    · split at h
      · split at h
        · simp only [Except.ok.injEq, Prod.mk.injEq] at h
          simp [h.2]
        · exact step h
      · exact step h

theorem fieldEnd_length {text : Text} {field : FieldText} {rest : Text}
    (h : fieldEnd text = .ok (field, rest)) : rest.length < text.length := by
  unfold fieldEnd at h
  split at h
  · simp at h
  · rename_i name mark tail hname
    have hlt := nameEnd_length hname
    cases ht : tailEnd mark tail with
    | error fault => simp [ht, Except.map] at h
    | ok found =>
      obtain ⟨conversion, spec, r⟩ := found
      simp only [ht, Except.map, Except.ok.injEq, Prod.mk.injEq] at h
      obtain ⟨-, rfl⟩ := h
      suffices r.length ≤ tail.length by omega
      unfold tailEnd at ht
      split at ht
      · cases hs : specEnd 0 tail with
        | error fault => simp [hs, Except.map] at ht
        | ok found =>
          simp only [hs, Except.map, Except.ok.injEq, Prod.mk.injEq] at ht
          have : found.2.length < _ := specEnd_length hs
          simp only [ht.2] at this
          omega
      · split at ht
        · split at ht
          · simp at ht
          · simp at ht
          · rename_i c d after
            split at ht
            · simp only [Except.ok.injEq, Prod.mk.injEq] at ht
              obtain ⟨-, -, rfl⟩ := ht
              simp only [List.length_cons]
              omega
            · split at ht
              · cases hs : specEnd 0 after with
                | error fault => simp [hs, Except.map] at ht
                | ok found =>
                  simp only [hs, Except.map, Except.ok.injEq, Prod.mk.injEq] at ht
                  have : found.2.length < _ := specEnd_length hs
                  simp only [ht.2] at this
                  simp only [List.length_cons]
                  omega
              · simp at ht
        · simp only [Except.ok.injEq, Prod.mk.injEq] at ht
          obtain ⟨-, -, rfl⟩ := ht
          exact Nat.le_refl _

/-- Reads the pieces of a text, with `readSpec` for the specs of its fields. Literal characters are
pieces of their own. -/
def readPieces {σ : Type} (readSpec : Text → σ) : Text → List (Piece σ)
  | [] => []
  | [c] =>
    if c = '}' then [.malformed .loneClosing]
    else if c = '{' then [.malformed .loneOpening]
    else [.literal [c]]
  | c :: d :: rest =>
    if c = '}' then
      if d = '}' then .literal [c] :: readPieces readSpec rest else [.malformed .loneClosing]
    else if c = '{' then
      if d = '{' then .literal [c] :: readPieces readSpec rest
      else
        match _h : fieldEnd (d :: rest) with
        | .error fault => [.malformed fault]
        | .ok (field, after) => .field (field.read readSpec) :: readPieces readSpec after
    else .literal [c] :: readPieces readSpec (d :: rest)
termination_by text => text.length
decreasing_by
  all_goals simp only [List.length_cons]
  all_goals try omega
  have := fieldEnd_length _h
  simp only [List.length_cons] at this
  omega

def Spec.ofText {σ : Type} (read : Text → σ) (text : Text) : Spec σ :=
  if text.elem '{' then .nested (read text) else .plain text

end ClientFacade.Template
