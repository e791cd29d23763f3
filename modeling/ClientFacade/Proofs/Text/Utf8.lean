import ClientFacade.Text.Utf8
import Mathlib.Data.List.Basic

/-!
# Decoding what is encoded

The first byte of a character tells how many follow it, and each of those is in the range that the
first byte asks for: a code that has a shorter form, and one that belongs to no character, are never
written. So the characters of a text come back one by one. No other bytes are read as a text.
-/

namespace ClientFacade.Utf8

theorem toNat_toUInt8 {n : Nat} (h : n < 256) : n.toUInt8.toNat = n := by
  simp [Nat.toUInt8, h]

/-- The ranges of the two bytes behind the first one of three. -/
theorem lead_three {n : Nat} (h : n < 16) :
    lead (0xE0 + n) = some (n, [(if n = 0 then 0xA0 else 0x80, if n = 13 then 0x9F else 0xBF),
      (0x80, 0xBF)]) := by
  revert n
  decide

theorem lead_four {n : Nat} (h : n < 5) :
    lead (0xF0 + n) = some (n, [(if n = 0 then 0x90 else 0x80, if n = 4 then 0x8F else 0xBF),
      (0x80, 0xBF), (0x80, 0xBF)]) := by
  revert n
  decide

theorem lead_two {n : Nat} (h : n < 32) (hlow : 2 ≤ n) :
    lead (0xC0 + n) = some (n, [(0x80, 0xBF)]) := by
  rw [lead, if_neg (by omega), if_neg (by omega), if_pos (by omega), Nat.add_sub_cancel_left]

theorem lead_one {n : Nat} (h : n < 0x80) : lead n = some (n, []) := if_pos h

theorem tail_cons {code good low high n : Nat} {ranges : List (Nat × Nat)} {rest : Bytes}
    (hlow : low ≤ 0x80 + n) (hhigh : 0x80 + n ≤ high) (hn : n < 64) :
    tail code good ((low, high) :: ranges) ((0x80 + n).toUInt8 :: rest) =
      tail (code * 64 + n) (good + 1) ranges rest := by
  have hbyte : (0x80 + n).toUInt8.toNat = 0x80 + n := toNat_toUInt8 (by omega)
  rw [tail, hbyte, if_pos ⟨hlow, hhigh⟩, Nat.add_sub_cancel_left]

theorem decodeFrom_cons {position code found : Nat} {byte : UInt8} {ranges : List (Nat × Nat)}
    {rest after : Bytes} (hlead : lead byte.toNat = some (code, ranges))
    (htail : tail code 1 ranges rest = .ok (found, after)) :
    decodeFrom position (byte :: rest) =
      (decodeFrom (position + 1 + ranges.length) after).map (Char.ofNat found :: ·) := by
  rw [decodeFrom, hlead]
  dsimp only
  split
  · next hfault => rw [htail] at hfault; cases hfault
  · next hfound =>
    rw [htail] at hfound
    cases hfound
    cases decodeFrom (position + 1 + ranges.length) after <;> rfl

theorem tail_nil (code good : Nat) (rest : Bytes) : tail code good [] rest = .ok (code, rest) := rfl

theorem tail_encoded_two {n : Nat} (rest : Bytes) :
    tail (n / 64) 1 [(0x80, 0xBF)] ((0x80 + n % 64).toUInt8 :: rest) = .ok (n, rest) := by
  rw [tail_cons (by omega) (by omega) (by omega), tail_nil]
  congr 2
  omega

theorem tail_encoded_three {n : Nat} (hlong : 0x800 ≤ n) (hvalid : n < 0xD800 ∨ 0xDFFF < n)
    (rest : Bytes) :
    tail (n / 4096) 1 [(if n / 4096 = 0 then 0xA0 else 0x80,
        if n / 4096 = 13 then 0x9F else 0xBF), (0x80, 0xBF)]
      ((0x80 + n / 64 % 64).toUInt8 :: (0x80 + n % 64).toUInt8 :: rest) = .ok (n, rest) := by
  rw [tail_cons (by split <;> omega) (by split <;> omega) (by omega),
    tail_cons (by omega) (by omega) (by omega), tail_nil]
  congr 2
  omega

theorem tail_encoded_four {n : Nat} (hlong : 0x10000 ≤ n) (hvalid : n < 0x110000) (rest : Bytes) :
    tail (n / 262144) 1 [(if n / 262144 = 0 then 0x90 else 0x80,
        if n / 262144 = 4 then 0x8F else 0xBF), (0x80, 0xBF), (0x80, 0xBF)]
      ((0x80 + n / 4096 % 64).toUInt8 :: (0x80 + n / 64 % 64).toUInt8 ::
        (0x80 + n % 64).toUInt8 :: rest) = .ok (n, rest) := by
  rw [tail_cons (by split <;> omega) (by split <;> omega) (by omega),
    tail_cons (by omega) (by omega) (by omega), tail_cons (by omega) (by omega) (by omega),
    tail_nil]
  congr 2
  omega

/-- The bytes of a character are a first byte and those that it asks for. -/
theorem exists_lead_encodeChar (c : Char) :
    ∃ byte others code ranges, encodeChar c = byte :: others ∧
      lead byte.toNat = some (code, ranges) ∧
      ∀ rest, tail code 1 ranges (others ++ rest) = .ok (c.toNat, rest) := by
  have hvalid : c.toNat < 0xD800 ∨ 0xDFFF < c.toNat ∧ c.toNat < 0x110000 := c.valid
  generalize hn : c.toNat = n at hvalid
  unfold encodeChar
  rw [hn]
  dsimp only
  by_cases hone : n < 0x80
  · have hbyte : n.toUInt8.toNat = n := toNat_toUInt8 (by omega)
    rw [if_pos hone]
    refine ⟨_, _, _, _, rfl, ?_, tail_nil n 1⟩
    rw [hbyte, lead_one hone]
  rw [if_neg hone]
  by_cases htwo : n < 0x800
  · have hbyte : (0xC0 + n / 64).toUInt8.toNat = 0xC0 + n / 64 := toNat_toUInt8 (by omega)
    rw [if_pos htwo]
    refine ⟨_, _, _, _, rfl, ?_, tail_encoded_two⟩
    rw [hbyte, lead_two (by omega) (by omega)]
  rw [if_neg htwo]
  by_cases hthree : n < 0x10000
  · have hbyte : (0xE0 + n / 4096).toUInt8.toNat = 0xE0 + n / 4096 := toNat_toUInt8 (by omega)
    rw [if_pos hthree]
    refine ⟨_, _, _, _, rfl, ?_, tail_encoded_three (by omega) (by omega)⟩
    rw [hbyte, lead_three (by omega)]
  · have hbyte : (0xF0 + n / 262144).toUInt8.toNat = 0xF0 + n / 262144 := toNat_toUInt8 (by omega)
    rw [if_neg hthree]
    refine ⟨_, _, _, _, rfl, ?_, tail_encoded_four (by omega) (by omega)⟩
    rw [hbyte, lead_four (by omega)]

theorem decodeFrom_encode (text : Text) (position : Nat) :
    decodeFrom position (encode text) = .ok text := by
  induction text generalizing position with
  | nil => rw [encode, List.flatMap_nil, decodeFrom]
  | cons c rest ih =>
    obtain ⟨byte, others, code, ranges, hencode, hlead, htail⟩ := exists_lead_encodeChar c
    rw [encode, List.flatMap_cons, hencode, List.cons_append,
      decodeFrom_cons hlead (htail _), Char.ofNat_toNat]
    rw [encode] at ih
    rw [ih]
    rfl

theorem decode_encode (text : Text) : decode (encode text) = .ok text := decodeFrom_encode text 0

theorem toUInt8_toNat (byte : UInt8) : byte.toNat.toUInt8 = byte := UInt8.ofNat_toNat

theorem toNat_ofNat {n : Nat} (h : n.isValidChar) : (Char.ofNat n).toNat = n := by
  rw [Char.ofNat, dif_pos h]
  rfl

/-- A first byte is one of those of characters with one to four bytes. -/
theorem lead_cases {n code : Nat} {ranges : List (Nat × Nat)} (h : lead n = some (code, ranges)) :
    (n < 0x80 ∧ code = n ∧ ranges = []) ∨
    (2 ≤ code ∧ code < 32 ∧ n = 0xC0 + code ∧ ranges = [(0x80, 0xBF)]) ∨
    (code < 16 ∧ n = 0xE0 + code ∧ ranges = [(if code = 0 then 0xA0 else 0x80,
      if code = 13 then 0x9F else 0xBF), (0x80, 0xBF)]) ∨
    (code < 5 ∧ n = 0xF0 + code ∧ ranges = [(if code = 0 then 0x90 else 0x80,
      if code = 4 then 0x8F else 0xBF), (0x80, 0xBF), (0x80, 0xBF)]) := by
  by_cases hone : n < 0x80
  · rw [lead_one hone, Option.some.injEq, Prod.mk.injEq] at h
    exact Or.inl ⟨hone, h.1.symm, h.2.symm⟩
  by_cases htwo : n < 0xC0
  · rw [lead, if_neg hone, if_pos (by omega)] at h
    cases h
  by_cases hthree : n < 0xE0
  · obtain ⟨k, rfl⟩ := Nat.exists_eq_add_of_le (Nat.le_of_not_lt htwo)
    by_cases hshort : k < 2
    · rw [lead, if_neg hone, if_pos (by omega)] at h
      cases h
    · rw [lead_two (by omega) (by omega), Option.some.injEq, Prod.mk.injEq] at h
      obtain ⟨rfl, rfl⟩ := h
      exact Or.inr (Or.inl ⟨by omega, by omega, rfl, rfl⟩)
  by_cases hfour : n < 0xF0
  · obtain ⟨k, rfl⟩ := Nat.exists_eq_add_of_le (Nat.le_of_not_lt hthree)
    rw [lead_three (by omega), Option.some.injEq, Prod.mk.injEq] at h
    obtain ⟨rfl, rfl⟩ := h
    exact Or.inr (Or.inr (Or.inl ⟨by omega, rfl, rfl⟩))
  by_cases hlast : n < 0xF5
  · obtain ⟨k, rfl⟩ := Nat.exists_eq_add_of_le (Nat.le_of_not_lt hfour)
    rw [lead_four (by omega), Option.some.injEq, Prod.mk.injEq] at h
    obtain ⟨rfl, rfl⟩ := h
    exact Or.inr (Or.inr (Or.inr ⟨by omega, rfl, rfl⟩))
  · have hnone : lead n = none := by
      unfold lead
      repeat rw [if_neg (by omega)]
    rw [hnone] at h
    cases h

theorem tail_cons_eq_ok {code good low high found : Nat} {ranges : List (Nat × Nat)}
    {bytes after : Bytes} (hlow : 0x80 ≤ low)
    (h : tail code good ((low, high) :: ranges) bytes = .ok (found, after)) :
    ∃ n rest, bytes = (0x80 + n).toUInt8 :: rest ∧ low ≤ 0x80 + n ∧ 0x80 + n ≤ high ∧
      tail (code * 64 + n) (good + 1) ranges rest = .ok (found, after) := by
  cases bytes with
  | nil => cases h
  | cons byte rest =>
    rw [tail] at h
    split_ifs at h with hrange
    have hbyte : 0x80 + (byte.toNat - 0x80) = byte.toNat := by omega
    refine ⟨byte.toNat - 0x80, rest, ?_, ?_, ?_, h⟩
    · rw [hbyte, toUInt8_toNat]
    · rw [hbyte]
      exact hrange.1
    · rw [hbyte]
      exact hrange.2

theorem encodeChar_one {n : Nat} (h : n < 0x80) : encodeChar (Char.ofNat n) = [n.toUInt8] := by
  rw [encodeChar, toNat_ofNat (Or.inl (by omega)), if_pos h]

theorem encodeChar_two {k n : Nat} (hlow : 2 ≤ k) (hk : k < 32) (hn : n < 64) :
    encodeChar (Char.ofNat (k * 64 + n)) = [(0xC0 + k).toUInt8, (0x80 + n).toUInt8] := by
  have hfirst : (k * 64 + n) / 64 = k := by omega
  have hlast : (k * 64 + n) % 64 = n := by omega
  rw [encodeChar, toNat_ofNat (Or.inl (by omega))]
  rw [if_neg (by omega), if_pos (by omega), hfirst, hlast]

theorem encodeChar_three {k m n : Nat} (hk : k < 16) (hm : m < 64) (hn : n < 64)
    (hlong : k = 0 → 32 ≤ m) (hvalid : k = 13 → m < 32) :
    encodeChar (Char.ofNat ((k * 64 + m) * 64 + n)) =
      [(0xE0 + k).toUInt8, (0x80 + m).toUInt8, (0x80 + n).toUInt8] := by
  have hfirst : ((k * 64 + m) * 64 + n) / 4096 = k := by omega
  have hsecond : ((k * 64 + m) * 64 + n) / 64 % 64 = m := by omega
  have hlast : ((k * 64 + m) * 64 + n) % 64 = n := by omega
  have hcode : ((k * 64 + m) * 64 + n).isValidChar := by
    rcases Nat.lt_trichotomy k 13 with h | h | h
    · exact Or.inl (by omega)
    · have := hvalid h
      exact Or.inl (by omega)
    · exact Or.inr ⟨by omega, by omega⟩
  rw [encodeChar, toNat_ofNat hcode]
  rw [if_neg (by omega), if_neg (by omega), if_pos (by omega), hfirst, hsecond, hlast]

theorem encodeChar_four {k l m n : Nat} (hk : k < 5) (hl : l < 64) (hm : m < 64) (hn : n < 64)
    (hlong : k = 0 → 16 ≤ l) (hvalid : k = 4 → l < 16) :
    encodeChar (Char.ofNat (((k * 64 + l) * 64 + m) * 64 + n)) =
      [(0xF0 + k).toUInt8, (0x80 + l).toUInt8, (0x80 + m).toUInt8, (0x80 + n).toUInt8] := by
  have hfirst : (((k * 64 + l) * 64 + m) * 64 + n) / 262144 = k := by omega
  have hsecond : (((k * 64 + l) * 64 + m) * 64 + n) / 4096 % 64 = l := by omega
  have hthird : (((k * 64 + l) * 64 + m) * 64 + n) / 64 % 64 = m := by omega
  have hlast : (((k * 64 + l) * 64 + m) * 64 + n) % 64 = n := by omega
  rw [encodeChar, toNat_ofNat (Or.inr ⟨by omega, by omega⟩)]
  rw [if_neg (by omega), if_neg (by omega), if_neg (by omega), hfirst, hsecond, hthird, hlast]

/-- The bytes that are read as a character are those that it is written as. -/
theorem encodeChar_of_tail {byte : UInt8} {code found : Nat} {ranges : List (Nat × Nat)}
    {rest after : Bytes} (hlead : lead byte.toNat = some (code, ranges))
    (htail : tail code 1 ranges rest = .ok (found, after)) :
    byte :: rest = encodeChar (Char.ofNat found) ++ after := by
  have hbyte : ∀ {n : Nat}, byte.toNat = n → byte = n.toUInt8 := by
    rintro _ rfl
    exact (toUInt8_toNat byte).symm
  rcases lead_cases hlead with ⟨hone, rfl, rfl⟩ | ⟨hlow, hcode, hn, rfl⟩ | ⟨hcode, hn, rfl⟩ |
    ⟨hcode, hn, rfl⟩
  · obtain ⟨rfl, rfl⟩ := Prod.mk.inj (Except.ok.inj htail)
    rw [encodeChar_one hone, ← hbyte rfl, List.singleton_append]
  · obtain ⟨n, _, rfl, -, hhigh, hrest⟩ := tail_cons_eq_ok (Nat.le_refl _) htail
    obtain ⟨rfl, rfl⟩ := Prod.mk.inj (Except.ok.inj hrest)
    rw [encodeChar_two hlow hcode (by omega), ← hbyte hn, List.cons_append, List.singleton_append]
  · obtain ⟨m, _, rfl, hm, hm', hrest⟩ := tail_cons_eq_ok (by split <;> omega) htail
    obtain ⟨n, _, rfl, -, hhigh, hlast⟩ := tail_cons_eq_ok (Nat.le_refl _) hrest
    obtain ⟨rfl, rfl⟩ := Prod.mk.inj (Except.ok.inj hlast)
    rw [encodeChar_three hcode (by split at hm' <;> omega) (by omega)
      (fun h => by rw [if_pos h] at hm; omega) (fun h => by rw [if_pos h] at hm'; omega),
      ← hbyte hn]
    rfl
  · obtain ⟨l, _, rfl, hl, hl', hrest⟩ := tail_cons_eq_ok (by split <;> omega) htail
    obtain ⟨m, _, rfl, -, hm, hmore⟩ := tail_cons_eq_ok (Nat.le_refl _) hrest
    obtain ⟨n, _, rfl, -, hhigh, hlast⟩ := tail_cons_eq_ok (Nat.le_refl _) hmore
    obtain ⟨rfl, rfl⟩ := Prod.mk.inj (Except.ok.inj hlast)
    rw [encodeChar_four hcode (by split at hl' <;> omega) (by omega) (by omega)
      (fun h => by rw [if_pos h] at hl; omega) (fun h => by rw [if_pos h] at hl'; omega),
      ← hbyte hn]
    rfl

theorem decodeFrom_cons_eq_ok {position : Nat} {byte : UInt8} {rest : Bytes} {text : Text}
    (h : decodeFrom position (byte :: rest) = .ok text) :
    ∃ code ranges found after others, lead byte.toNat = some (code, ranges) ∧
      tail code 1 ranges rest = .ok (found, after) ∧
      decodeFrom (position + 1 + ranges.length) after = .ok others ∧
      text = Char.ofNat found :: others := by
  cases hlead : lead byte.toNat with
  | none => simp [decodeFrom, hlead] at h
  | some start =>
    obtain ⟨code, ranges⟩ := start
    cases htail : tail code 1 ranges rest with
    | error fault =>
      rw [decodeFrom, hlead] at h
      dsimp only at h
      split at h
      · cases h
      · next hfound => rw [htail] at hfound; cases hfound
    | ok found =>
      obtain ⟨found, after⟩ := found
      rw [decodeFrom_cons hlead htail] at h
      cases hothers : decodeFrom (position + 1 + ranges.length) after with
      | error fault =>
        rw [hothers] at h
        cases h
      | ok others =>
        rw [hothers] at h
        exact ⟨code, ranges, found, after, others, rfl, htail, hothers, (Except.ok.inj h).symm⟩

theorem eq_encode_of_decodeFrom {position : Nat} {bytes : Bytes} {text : Text}
    (h : decodeFrom position bytes = .ok text) : bytes = encode text := by
  induction text generalizing position bytes with
  | nil =>
    cases bytes with
    | nil => rfl
    | cons byte rest =>
      obtain ⟨_, _, _, _, _, -, -, -, htext⟩ := decodeFrom_cons_eq_ok h
      cases htext
  | cons c text ih =>
    cases bytes with
    | nil =>
      rw [decodeFrom] at h
      cases h
    | cons byte rest =>
      obtain ⟨_, _, found, after, others, hlead, htail, hothers, htext⟩ := decodeFrom_cons_eq_ok h
      obtain ⟨rfl, rfl⟩ := List.cons.inj htext
      rw [encodeChar_of_tail hlead htail, ih hothers, encode, encode, List.flatMap_cons]

theorem decode_eq_ok_iff {bytes : Bytes} {text : Text} :
    decode bytes = .ok text ↔ bytes = encode text := by
  refine ⟨eq_encode_of_decodeFrom, ?_⟩
  rintro rfl
  exact decode_encode text

/-- Bytes that are written for no text are faulty. -/
theorem exists_decode_error {bytes : Bytes} (h : ¬ ∃ text, bytes = encode text) :
    ∃ fault, decode bytes = .error fault := by
  cases hdecode : decode bytes with
  | ok text => exact absurd ⟨text, decode_eq_ok_iff.mp hdecode⟩ h
  | error fault => exact ⟨fault, rfl⟩

end ClientFacade.Utf8
