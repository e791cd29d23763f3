import ClientFacade.Text.Lines
import ClientFacade.Text.Quoted
import ClientFacade.Text.Utf8

/-!
# Encodings

A file is bytes, and an encoding reads them as text. A fault names the encoding, the bytes it could
not read and their position. In the encoding with a signature the signature is dropped, and a file
that could still become one is empty.
-/

namespace ClientFacade

open Utf8 (Bytes)

inductive Encoding
  | utf8
  | utf8Signed
  | utf16
  | ascii
  | latin1
  | windows1252
  deriving DecidableEq, Repr

structure DecodeFault where
  codec : Text
  position : Nat
  bytes : Bytes
  reason : Text
  deriving DecidableEq, Repr

def DecodeFault.message (fault : DecodeFault) : Text :=
  let place : Text :=
    match fault.bytes with
    | [byte] => "byte 0x" ++ Text.hex 2 byte.toNat ++ " in position " ++ Text.ofNat fault.position
    | bytes => "bytes in position " ++ Text.ofNat fault.position ++ "-" ++
        Text.ofNat (fault.position + bytes.length - 1)
  "'" ++ fault.codec ++ "' codec can't decode " ++ place ++ ": " ++ fault.reason

namespace Encoding

def utf8Reason : Utf8.Reason → Text
  | .start => "invalid start byte"
  | .continuation => "invalid continuation byte"
  | .ending => "unexpected end of data"

def decodeUtf8 (bytes : Bytes) : Except DecodeFault Text :=
  (Utf8.decode bytes).mapError fun fault =>
    ⟨"utf-8", fault.position, (bytes.drop fault.position).take fault.size, utf8Reason fault.reason⟩

def signature : Bytes := [0xEF, 0xBB, 0xBF]

def decodeSigned (bytes : Bytes) : Except DecodeFault Text :=
  if bytes.length < 3 ∧ bytes.isPrefixOf signature then .ok []
  else if signature.isPrefixOf bytes then decodeUtf8 (bytes.drop 3)
  else decodeUtf8 bytes

/-- Reads 16-bit units, low byte first, where `position` bytes stand before. A unit of a pair that
stands alone is a fault. -/
def decodeUnits (position : Nat) : Bytes → Except DecodeFault Text
  | [] => .ok []
  | [byte] => .error ⟨"utf-16-le", position, [byte], "truncated data"⟩
  | low :: high :: rest =>
    let unit := high.toNat * 256 + low.toNat
    if unit < 0xD800 ∨ 0xDFFF < unit then do
      return Char.ofNat unit :: (← decodeUnits (position + 2) rest)
    else if 0xDC00 ≤ unit then .error ⟨"utf-16-le", position, [low, high], "illegal encoding"⟩
    else
      match rest with
      | low2 :: high2 :: rest =>
        let second := high2.toNat * 256 + low2.toNat
        if second < 0xDC00 ∨ 0xDFFF < second then
          .error ⟨"utf-16-le", position, [low, high], "illegal UTF-16 surrogate"⟩
        else do
          let code := 0x10000 + (unit - 0xD800) * 0x400 + (second - 0xDC00)
          return Char.ofNat code :: (← decodeUnits (position + 4) rest)
      | rest => .error ⟨"utf-16-le", position, low :: high :: rest, "unexpected end of data"⟩

/-- Reads a text whose characters are single bytes, by a table. -/
def decodeSingle (codec reason : Text) (read : Nat → Option Char) (position : Nat) :
    Bytes → Except DecodeFault Text
  | [] => .ok []
  | byte :: rest =>
    match read byte.toNat with
    | none => .error ⟨codec, position, [byte], reason⟩
    | some c => do return c :: (← decodeSingle codec reason read (position + 1) rest)

/-- The characters of the bytes 0x80 to 0x9F, where zero is none. -/
def windowsHigh : List Nat :=
  [0x20AC, 0, 0x201A, 0x192, 0x201E, 0x2026, 0x2020, 0x2021, 0x2C6, 0x2030, 0x160, 0x2039, 0x152,
   0, 0x17D, 0, 0, 0x2018, 0x2019, 0x201C, 0x201D, 0x2022, 0x2013, 0x2014, 0x2DC, 0x2122, 0x161,
   0x203A, 0x153, 0, 0x17E, 0x178]

def windowsChar (byte : Nat) : Option Char :=
  if byte < 0x80 ∨ 0x9F < byte then some (Char.ofNat byte)
  else
    match windowsHigh[byte - 0x80]? with
    | some (code + 1) => some (Char.ofNat (code + 1))
    | _ => none

def decode (encoding : Encoding) (bytes : Bytes) : Except DecodeFault Text :=
  match encoding with
  | .utf8 => decodeUtf8 bytes
  | .utf8Signed => decodeSigned bytes
  | .utf16 => decodeUnits 0 bytes
  | .ascii =>
    decodeSingle "ascii" "ordinal not in range(128)"
      (fun byte => if byte < 0x80 then some (Char.ofNat byte) else none) 0 bytes
  | .latin1 => decodeSingle "latin-1" [] (fun byte => some (Char.ofNat byte)) 0 bytes
  | .windows1252 => decodeSingle "charmap" "character maps to <undefined>" windowsChar 0 bytes

def unitCount (text : Text) : Nat :=
  text.foldr (fun c count => (if c.toNat < 0x10000 then 1 else 2) + count) 0

def size (encoding : Encoding) (text : Text) : Nat :=
  match encoding with
  | .utf8 => (Utf8.encode text).length
  | .utf8Signed => signature.length + (Utf8.encode text).length
  | .utf16 => 2 * unitCount text
  | .ascii | .latin1 | .windows1252 => text.length

/-- The names of an encoding, in lower case, with underscores between the words. -/
def names : List (Text × Encoding) :=
  [("utf_8", utf8), ("utf8", utf8), ("u8", utf8), ("utf", utf8), ("cp65001", utf8),
   ("utf_8_sig", utf8Signed), ("utf_16_le", utf16), ("utf_16le", utf16),
   ("unicodelittleunmarked", utf16), ("ascii", ascii), ("us_ascii", ascii), ("646", ascii),
   ("ansi_x3.4_1968", ascii), ("iso646_us", ascii), ("us", ascii), ("latin_1", latin1),
   ("latin1", latin1), ("latin", latin1), ("l1", latin1), ("iso_8859_1", latin1),
   ("iso8859_1", latin1), ("iso8859", latin1), ("8859", latin1), ("cp819", latin1),
   ("cp1252", windows1252), ("windows_1252", windows1252), ("1252", windows1252)]

def ofName? (name : Text) : Option Encoding :=
  names.lookup (name.map fun c => if c = '-' || c = ' ' then '_' else c.toLower)

end Encoding

end ClientFacade
