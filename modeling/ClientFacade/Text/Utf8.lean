import ClientFacade.Text.Basic

/-!
# UTF-8

A character is one to four bytes. The first byte fixes how many follow and which range the second
one has. Reading stops at the first bytes that belong to no character, and the fault tells where
they are: the bytes that could still have begun a character, or the one byte that cannot.
-/

namespace ClientFacade.Utf8

abbrev Bytes := List UInt8

def encodeChar (c : Char) : Bytes :=
  let n := c.toNat
  if n < 0x80 then [n.toUInt8]
  else if n < 0x800 then [(0xC0 + n / 64).toUInt8, (0x80 + n % 64).toUInt8]
  else if n < 0x10000 then
    [(0xE0 + n / 4096).toUInt8, (0x80 + n / 64 % 64).toUInt8, (0x80 + n % 64).toUInt8]
  else
    [(0xF0 + n / 262144).toUInt8, (0x80 + n / 4096 % 64).toUInt8, (0x80 + n / 64 % 64).toUInt8,
     (0x80 + n % 64).toUInt8]

def encode (text : Text) : Bytes := text.flatMap encodeChar

/-- What a first byte stands for: its part of the code, and the least and greatest value of each
byte that follows. -/
def lead (byte : Nat) : Option (Nat × List (Nat × Nat)) :=
  if byte < 0x80 then some (byte, [])
  else if byte < 0xC2 then none
  else if byte < 0xE0 then some (byte - 0xC0, [(0x80, 0xBF)])
  else if byte = 0xE0 then some (0, [(0xA0, 0xBF), (0x80, 0xBF)])
  else if byte = 0xED then some (0xD, [(0x80, 0x9F), (0x80, 0xBF)])
  else if byte < 0xF0 then some (byte - 0xE0, [(0x80, 0xBF), (0x80, 0xBF)])
  else if byte = 0xF0 then some (0, [(0x90, 0xBF), (0x80, 0xBF), (0x80, 0xBF)])
  else if byte < 0xF4 then some (byte - 0xF0, [(0x80, 0xBF), (0x80, 0xBF), (0x80, 0xBF)])
  else if byte = 0xF4 then some (4, [(0x80, 0x8F), (0x80, 0xBF), (0x80, 0xBF)])
  else none

inductive Reason
  | start
  | continuation
  | ending
  deriving DecidableEq, Repr

/-- The bytes of one character: its code and the rest, or how many bytes were good and why the next
one is not. -/
def tail (code good : Nat) : List (Nat × Nat) → Bytes → Except (Nat × Reason) (Nat × Bytes)
  | [], rest => .ok (code, rest)
  | _ :: _, [] => .error (good, .ending)
  | (low, high) :: ranges, byte :: rest =>
    if low ≤ byte.toNat ∧ byte.toNat ≤ high then
      tail (code * 64 + (byte.toNat - 0x80)) (good + 1) ranges rest
    else .error (good, .continuation)

theorem tail_length {code good : Nat} {ranges : List (Nat × Nat)} {bytes rest : Bytes} {found : Nat}
    (h : tail code good ranges bytes = .ok (found, rest)) : rest.length ≤ bytes.length := by
  induction ranges generalizing code good bytes with
  | nil =>
    simp only [tail, Except.ok.injEq, Prod.mk.injEq] at h
    simp [h.2]
  | cons range ranges ih =>
    cases bytes with
    | nil => simp [tail] at h
    | cons byte more =>
      unfold tail at h
      split at h
      · have := ih h
        simp only [List.length_cons]
        omega
      · simp at h

/-- Bytes that belong to no character: how many stand before them, how many they are, and why. -/
structure Fault where
  position : Nat
  size : Nat
  reason : Reason
  deriving DecidableEq, Repr

def decodeFrom (position : Nat) : Bytes → Except Fault Text
  | [] => .ok []
  | byte :: rest =>
    match lead byte.toNat with
    | none => .error ⟨position, 1, .start⟩
    | some (code, ranges) =>
      match _h : tail code 1 ranges rest with
      | .error (good, reason) => .error ⟨position, good, reason⟩
      | .ok (code, after) => do
        let text ← decodeFrom (position + 1 + ranges.length) after
        return Char.ofNat code :: text
termination_by bytes => bytes.length
decreasing_by
  have := tail_length _h
  simp only [List.length_cons]
  omega

def decode (bytes : Bytes) : Except Fault Text := decodeFrom 0 bytes

end ClientFacade.Utf8
