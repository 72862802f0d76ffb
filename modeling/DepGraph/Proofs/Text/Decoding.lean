import DepGraph.Proofs.Text.Encoding

/-!
# What is decoded

A character has one sequence of bytes, and decoding reads no other: bytes that were decoded are
those of the characters (`DepGraph.Utf8.eq_encodeChars_of_decodeFrom`). Together with what is known
of encoding, bytes are decoded to characters if and only if they are theirs
(`DepGraph.Utf8.decode_eq_ok_iff`).
-/

namespace DepGraph

namespace Utf8

variable {cs : List Char} {bs : Bytes} {a b d e : UInt8} {start n : Nat}

/-! ### The bytes of a character -/

/-- The number of a character is the one that it was made of, if that is no surrogate and not too
large. -/
theorem toNat_ofNat (valid : n < 0xD800 ∨ 0xE000 ≤ n ∧ n < 0x110000) :
    (Char.ofNat n).toNat = n := by
  have proper : n.isValidChar := by
    simp only [Nat.isValidChar]
    omega
  rw [Char.ofNat, dif_pos proper]
  rfl

/-- A byte is known by its number. -/
theorem toUInt8_eq (h : n = b.toNat) : n.toUInt8 = b := by
  have bound := b.toNat_lt
  exact UInt8.toNat_inj.mp ((toNat_toUInt8 (by omega)).trans h)

/-- The first byte of a longer character is between these bounds. -/
theorem lead_bounds (proper : ¬(decide (a < 0xC2) || decide (0xF5 ≤ a)) = true) :
    0xC2 ≤ a.toNat ∧ a.toNat < 0xF5 := by
  have bounds : (0xC2 : UInt8).toNat = 0xC2 ∧ (0xF5 : UInt8).toNat = 0xF5 := by decide
  simp only [UInt8.lt_iff_toNat_lt, UInt8.le_iff_toNat_le, Bool.or_eq_true, decide_eq_true_eq]
    at proper
  omega

/-- A character of one byte. -/
theorem encodeChar_one (lead : a < 0x80) : encodeChar (Char.ofNat a.toNat) = [a] := by
  have small : a.toNat < 0x80 := UInt8.lt_iff_toNat_lt.mp lead
  have number := toNat_ofNat (n := a.toNat) (by omega)
  simp only [encodeChar, number, small, if_true]
  rw [toUInt8_eq rfl]

/-- A character of two bytes. -/
theorem encodeChar_two (lead : 0xC2 ≤ a.toNat ∧ a.toNat < 0xE0) (second : isSecond a b = true) :
    encodeChar (Char.ofNat (a.toNat % 0x20 * 0x40 + low6 b)) = [a, b] := by
  obtain ⟨bound, -⟩ := isSecond_iff.mp second
  generalize hn : a.toNat % 0x20 * 0x40 + low6 b = n
  rw [low6] at hn
  have number := toNat_ofNat (n := n) (by omega)
  simp only [encodeChar, number]
  rw [if_neg (by omega), if_pos (by omega), toUInt8_eq (b := a) (by omega),
    toUInt8_eq (b := b) (by omega)]

/-- A character of three bytes. -/
theorem encodeChar_three (lead : 0xE0 ≤ a.toNat ∧ a.toNat < 0xF0) (second : isSecond a b = true)
    (third : isContinuation d = true) :
    encodeChar (Char.ofNat (a.toNat % 0x10 * 0x1000 + low6 b * 0x40 + low6 d)) = [a, b, d] := by
  have bounds := isSecond_iff.mp second
  have bound := isContinuation_iff.mp third
  generalize hn : a.toNat % 0x10 * 0x1000 + low6 b * 0x40 + low6 d = n
  rw [low6, low6] at hn
  have number := toNat_ofNat (n := n) (by omega)
  simp only [encodeChar, number]
  rw [if_neg (by omega), if_neg (by omega), if_pos (by omega), toUInt8_eq (b := a) (by omega),
    toUInt8_eq (b := b) (by omega), toUInt8_eq (b := d) (by omega)]

/-- A character of four bytes. -/
theorem encodeChar_four (lead : 0xF0 ≤ a.toNat ∧ a.toNat < 0xF5) (second : isSecond a b = true)
    (third : isContinuation d = true) (fourth : isContinuation e = true) :
    encodeChar (Char.ofNat
      (a.toNat % 0x08 * 0x40000 + low6 b * 0x1000 + low6 d * 0x40 + low6 e)) = [a, b, d, e] := by
  have bounds := isSecond_iff.mp second
  have bound := isContinuation_iff.mp third
  have last := isContinuation_iff.mp fourth
  generalize hn : a.toNat % 0x08 * 0x40000 + low6 b * 0x1000 + low6 d * 0x40 + low6 e = n
  rw [low6, low6, low6] at hn
  have number := toNat_ofNat (n := n) (by omega)
  simp only [encodeChar, number]
  rw [if_neg (by omega), if_neg (by omega), if_neg (by omega), toUInt8_eq (b := a) (by omega),
    toUInt8_eq (b := b) (by omega), toUInt8_eq (b := d) (by omega),
    toUInt8_eq (b := e) (by omega)]

/-! ### Bytes that are decoded -/

/-- What is decoded to a character and more starts with the bytes of that character. -/
theorem eq_encodeChars_cons {c : Char} {first rest : Bytes} {read : Except Undecodable (List Char)}
    (chars : encodeChar c = first) (more : ∀ {ds}, read = .ok ds → rest = encodeChars ds)
    (h : (c :: ·) <$> read = .ok cs) : first ++ rest = encodeChars cs := by
  cases read with
  | error u => cases h
  | ok ds =>
    obtain rfl : c :: ds = cs := Except.ok.inj h
    rw [encodeChars, List.flatMap_cons, ← encodeChars, chars, ← more rfl]

/-- **Bytes that are decoded are those of the characters.** -/
theorem eq_encodeChars_of_decodeFrom (h : decodeFrom start bs = .ok cs) : bs = encodeChars cs := by
  fun_induction decodeFrom start bs generalizing cs with
  | case1 start =>
    obtain rfl : [] = cs := Except.ok.inj h
    rfl
  | case2 start a rest lead ih => exact eq_encodeChars_cons (encodeChar_one lead) ih h
  | case6 start a long proper b rest second two ih =>
    obtain ⟨low, -⟩ := lead_bounds proper
    have chars := encodeChar_two ⟨low, UInt8.lt_iff_toNat_lt.mp two⟩ (by simpa using second)
    exact eq_encodeChars_cons chars ih h
  | case9 start a long proper b second two d rest third three ih =>
    have high : 0xE0 ≤ a.toNat := Nat.not_lt.mp fun low => two (UInt8.lt_iff_toNat_lt.mpr low)
    have chars := encodeChar_three ⟨high, UInt8.lt_iff_toNat_lt.mp three⟩ (by simpa using second)
      (by simpa using third)
    exact eq_encodeChars_cons chars ih h
  | case12 start a long proper b second two d third three e rest fourth ih =>
    obtain ⟨-, bound⟩ := lead_bounds proper
    have high : 0xF0 ≤ a.toNat := Nat.not_lt.mp fun low => three (UInt8.lt_iff_toNat_lt.mpr low)
    have chars := encodeChar_four ⟨high, bound⟩ (by simpa using second) (by simpa using third)
      (by simpa using fourth)
    exact eq_encodeChars_cons chars ih h
  -- the others are flaws
  | _ => cases h

/-- **Bytes are decoded to characters** if they are theirs, and only then. -/
theorem decode_eq_ok_iff : decode bs = .ok cs ↔ bs = encodeChars cs :=
  ⟨eq_encodeChars_of_decodeFrom, fun h => h ▸ decodeFrom_encodeChars⟩

end Utf8

end DepGraph
