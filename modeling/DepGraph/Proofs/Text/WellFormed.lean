import DepGraph.Proofs.Text.Decoding

/-!
# Well-formed bytes

What bytes are UTF-8 is said here without decoding them. A sequence of one to four bytes *spells* a
number by the bits that its layout leaves free (`DepGraph.Utf8.Spells`), whatever the number. It is
*proper* (`DepGraph.Utf8.Proper`) if no shorter sequence spells the same number, and the number is
neither a surrogate nor larger than the last code point; and bytes are *well-formed*
(`DepGraph.Utf8.WellFormed`) if they are proper sequences, one after the other.

A proper sequence is the one that is written for a character (`DepGraph.Utf8.proper_iff`), and so
the well-formed bytes are those that are decoded (`DepGraph.Utf8.exists_decode_iff`).
-/

namespace DepGraph

namespace Utf8

variable {n : Nat} {s t bs : Bytes}

/-! ### Sequences -/

/-- A byte **continues** a sequence if its first two bits are `10`. -/
def Continues (b : UInt8) : Prop := 0x80 ≤ b.toNat ∧ b.toNat < 0xC0

/-- A sequence of bytes **spells** a number: the first byte tells how many there are, and every
other one has six bits of the number. -/
inductive Spells : Nat → Bytes → Prop
  /-- Seven bits. -/
  | one (a : UInt8) (first : a.toNat < 0x80) : Spells a.toNat [a]
  /-- Eleven bits. -/
  | two (a b : UInt8) (first : 0xC0 ≤ a.toNat ∧ a.toNat < 0xE0) (second : Continues b) :
    Spells ((a.toNat - 0xC0) * 0x40 + (b.toNat - 0x80)) [a, b]
  /-- Sixteen bits. -/
  | three (a b c : UInt8) (first : 0xE0 ≤ a.toNat ∧ a.toNat < 0xF0) (second : Continues b)
    (third : Continues c) :
    Spells ((a.toNat - 0xE0) * 0x1000 + (b.toNat - 0x80) * 0x40 + (c.toNat - 0x80)) [a, b, c]
  /-- Twenty-one bits. -/
  | four (a b c d : UInt8) (first : 0xF0 ≤ a.toNat ∧ a.toNat < 0xF8) (second : Continues b)
    (third : Continues c) (fourth : Continues d) :
    Spells ((a.toNat - 0xF0) * 0x40000 + (b.toNat - 0x80) * 0x1000 + (c.toNat - 0x80) * 0x40 +
      (d.toNat - 0x80)) [a, b, c, d]

/-- A sequence is **proper** if it is the shortest that spells its number, and the number is that of
a character. -/
structure Proper (s : Bytes) (n : Nat) : Prop where
  /-- The sequence spells the number. -/
  spells : Spells n s
  /-- It is not overlong. -/
  shortest : ∀ t, Spells n t → s.length ≤ t.length
  /-- The number is no surrogate. -/
  noSurrogate : ¬(0xD800 ≤ n ∧ n ≤ 0xDFFF)
  /-- The number is not beyond the last code point. -/
  inRange : n ≤ 0x10FFFF

/-- Bytes are **well-formed** if they are proper sequences, none of which is cut off. -/
def WellFormed (bs : Bytes) : Prop :=
  ∃ sequences : List Bytes, bs = sequences.flatten ∧ ∀ s ∈ sequences, ∃ n, Proper s n

/-! ### How long a sequence is -/

/-- A number is bounded by the bits of its spelling. -/
theorem Spells.bounds (h : Spells n s) :
    (s.length = 1 ∧ n < 0x80) ∨ (s.length = 2 ∧ n < 0x800) ∨ (s.length = 3 ∧ n < 0x10000) ∨
      s.length = 4 := by
  cases h with
  | one a first => exact Or.inl ⟨rfl, first⟩
  | two a b first second =>
    simp only [Continues] at second
    exact Or.inr (Or.inl ⟨rfl, by omega⟩)
  | three a b c first second third =>
    simp only [Continues] at second third
    exact Or.inr (Or.inr (Or.inl ⟨rfl, by omega⟩))
  | four => exact Or.inr (Or.inr (Or.inr rfl))

/-- **A number has one spelling of each length.** -/
theorem Spells.eq_of_length_eq (h : Spells n s) (k : Spells n t) (same : s.length = t.length) :
    s = t := by
  have byte {a b : UInt8} (h : a.toNat = b.toNat) : a = b := UInt8.toNat_inj.mp h
  cases h with
  | one a first =>
    generalize hn : a.toNat = n at k
    cases k with
    | one a' =>
      rw [byte hn]
    | _ => cases same
  | two a b first second =>
    generalize hn : (a.toNat - 0xC0) * 0x40 + (b.toNat - 0x80) = n at k
    cases k with
    | two a' b' first' second' =>
      simp only [Continues] at second second'
      rw [byte (show a.toNat = a'.toNat by omega), byte (show b.toNat = b'.toNat by omega)]
    | _ => cases same
  | three a b c first second third =>
    generalize hn :
      (a.toNat - 0xE0) * 0x1000 + (b.toNat - 0x80) * 0x40 + (c.toNat - 0x80) = n at k
    cases k with
    | three a' b' c' first' second' third' =>
      simp only [Continues] at second second' third third'
      rw [byte (show a.toNat = a'.toNat by omega), byte (show b.toNat = b'.toNat by omega),
        byte (show c.toNat = c'.toNat by omega)]
    | _ => cases same
  | four a b c d first second third fourth =>
    generalize hn : (a.toNat - 0xF0) * 0x40000 + (b.toNat - 0x80) * 0x1000 +
      (c.toNat - 0x80) * 0x40 + (d.toNat - 0x80) = n at k
    cases k with
    | four a' b' c' d' first' second' third' fourth' =>
      simp only [Continues] at second second' third third' fourth fourth'
      rw [byte (show a.toNat = a'.toNat by omega), byte (show b.toNat = b'.toNat by omega),
        byte (show c.toNat = c'.toNat by omega), byte (show d.toNat = d'.toNat by omega)]
    | _ => cases same

/-! ### The sequences of characters -/

/-- The bytes of a character spell its number. -/
theorem spells_encodeChar (c : Char) : Spells c.toNat (encodeChar c) := by
  have bounds := toNat_bounds c
  generalize hn : c.toNat = n at bounds
  have value {m : Nat} (h : m < 256) : m.toUInt8.toNat = m := toNat_toUInt8 h
  simp only [encodeChar, hn]
  split
  · have spelt := Spells.one n.toUInt8 (by rw [value (by omega)]; omega)
    rwa [value (by omega)] at spelt
  split
  · have first := value (m := 0xC0 + n / 0x40) (by omega)
    have second := value (m := 0x80 + n % 0x40) (by omega)
    have spelt := Spells.two _ _ (by rw [first]; omega) (by rw [Continues, second]; omega)
    rw [first, second] at spelt
    rwa [show (0xC0 + n / 0x40 - 0xC0) * 0x40 + (0x80 + n % 0x40 - 0x80) = n by omega] at spelt
  split
  · have first := value (m := 0xE0 + n / 0x1000) (by omega)
    have second := value (m := 0x80 + n / 0x40 % 0x40) (by omega)
    have third := value (m := 0x80 + n % 0x40) (by omega)
    have spelt := Spells.three _ _ _ (by rw [first]; omega) (by rw [Continues, second]; omega)
      (by rw [Continues, third]; omega)
    rw [first, second, third] at spelt
    rwa [show (0xE0 + n / 0x1000 - 0xE0) * 0x1000 + (0x80 + n / 0x40 % 0x40 - 0x80) * 0x40 +
      (0x80 + n % 0x40 - 0x80) = n by omega] at spelt
  · have first := value (m := 0xF0 + n / 0x40000) (by omega)
    have second := value (m := 0x80 + n / 0x1000 % 0x40) (by omega)
    have third := value (m := 0x80 + n / 0x40 % 0x40) (by omega)
    have fourth := value (m := 0x80 + n % 0x40) (by omega)
    have spelt := Spells.four _ _ _ _ (by rw [first]; omega) (by rw [Continues, second]; omega)
      (by rw [Continues, third]; omega) (by rw [Continues, fourth]; omega)
    rw [first, second, third, fourth] at spelt
    rwa [show (0xF0 + n / 0x40000 - 0xF0) * 0x40000 + (0x80 + n / 0x1000 % 0x40 - 0x80) * 0x1000 +
      (0x80 + n / 0x40 % 0x40 - 0x80) * 0x40 + (0x80 + n % 0x40 - 0x80) = n by omega] at spelt

/-- How many bytes a character has. -/
theorem length_encodeChar (c : Char) :
    (encodeChar c).length =
      if c.toNat < 0x80 then 1 else if c.toNat < 0x800 then 2 else
        if c.toNat < 0x10000 then 3 else 4 := by
  simp only [encodeChar]
  split <;> try split <;> try split
  all_goals rfl

/-- No sequence that spells the number of a character is shorter than its bytes. -/
theorem length_encodeChar_le {c : Char} (h : Spells c.toNat s) :
    (encodeChar c).length ≤ s.length := by
  have bounds := h.bounds
  rw [length_encodeChar]
  split <;> try split <;> try split
  all_goals omega

/-- The bytes of a character are a proper sequence. -/
theorem proper_encodeChar (c : Char) : Proper (encodeChar c) c.toNat where
  spells := spells_encodeChar c
  shortest _ h := length_encodeChar_le h
  noSurrogate := by
    have bounds := toNat_bounds c
    omega
  inRange := by
    have bounds := toNat_bounds c
    omega

/-- A proper sequence is that of the character with its number. -/
theorem Proper.eq_encodeChar (h : Proper s n) : s = encodeChar (Char.ofNat n) := by
  have number : (Char.ofNat n).toNat = n := by
    have high := h.inRange
    have noSurrogate := h.noSurrogate
    exact toNat_ofNat (by omega)
  have spelt : Spells n (encodeChar (Char.ofNat n)) := by
    simpa only [number] using spells_encodeChar (Char.ofNat n)
  have least : (encodeChar (Char.ofNat n)).length ≤ s.length :=
    length_encodeChar_le (number.symm ▸ h.spells)
  exact h.spells.eq_of_length_eq spelt (Nat.le_antisymm (h.shortest _ spelt) least)

/-- **The proper sequences are those of the characters.** -/
theorem proper_iff : (∃ n, Proper s n) ↔ ∃ c, s = encodeChar c :=
  ⟨fun ⟨_, h⟩ => ⟨_, h.eq_encodeChar⟩, fun ⟨c, h⟩ => ⟨_, h ▸ proper_encodeChar c⟩⟩

/-! ### Well-formed bytes -/

/-- Bytes are well-formed if they are those of some characters. -/
theorem wellFormed_iff : WellFormed bs ↔ ∃ cs, bs = encodeChars cs := by
  constructor
  · rintro ⟨sequences, rfl, proper⟩
    induction sequences with
    | nil => exact ⟨[], rfl⟩
    | cons s sequences ih =>
      obtain ⟨c, rfl⟩ := proper_iff.mp (proper s List.mem_cons_self)
      obtain ⟨cs, rest⟩ := ih fun s h => proper s (List.mem_cons_of_mem _ h)
      exact ⟨c :: cs, by rw [List.flatten_cons, rest, encodeChars, encodeChars, List.flatMap_cons]⟩
  · rintro ⟨cs, rfl⟩
    refine ⟨cs.map encodeChar, by rw [encodeChars, List.flatMap_def], fun s h => ?_⟩
    obtain ⟨c, -, rfl⟩ := List.mem_map.mp h
    exact ⟨_, proper_encodeChar c⟩

/-- **The well-formed bytes are those that are decoded.** -/
theorem exists_decode_iff : (∃ cs, decode bs = .ok cs) ↔ WellFormed bs := by
  rw [wellFormed_iff]
  exact exists_congr fun cs => decode_eq_ok_iff

end Utf8

end DepGraph
