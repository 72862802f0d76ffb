import DepGraph.Text.Utf8
import Mathlib.Data.List.Basic

/-!
# What can be encoded

A text is **whole** (`DepGraph.Text.Whole`) if none of its code points is a surrogate, and these are
the texts that are made of characters (`DepGraph.Text.exists_ofChars_iff`). A whole text is encoded,
and what is encoded is decoded to the same characters (`DepGraph.Utf8.exists_encode_of_whole`); any
other text is refused for its first surrogates (`DepGraph.Utf8.encode_of_not_whole`).
-/

namespace DepGraph

/-! ### Whole texts -/

namespace CodePoint

/-- What is no surrogate is the code point of a character. -/
theorem ofChar_ofNat {p : CodePoint} (h : p.isSurrogate = false) :
    ofChar (Char.ofNat p.val) = p := by
  have valid : p.val.isValidChar := by
    have bound := p.val_lt
    simp only [isSurrogate, Bool.and_eq_false_iff, decide_eq_false_iff_not] at h
    simp only [Nat.isValidChar]
    omega
  have same : (Char.ofNat p.val).toNat = p.val := by
    rw [Char.ofNat, dif_pos valid]
    rfl
  obtain ⟨val, bound⟩ := p
  simpa [ofChar] using same

end CodePoint

namespace Text

variable {t : Text}

/-- A text is **whole** if it holds no half of a surrogate pair. -/
def Whole (t : Text) : Prop := ∀ p ∈ t, p.isSurrogate = false

/-- The text of some characters is whole. -/
theorem whole_ofChars (cs : List Char) : (ofChars cs).Whole := by
  intro p hp
  obtain ⟨c, -, rfl⟩ := List.mem_map.mp hp
  exact CodePoint.isSurrogate_ofChar c

/-- **A whole text is the text of some characters.** -/
theorem exists_ofChars_iff : (∃ cs, t = ofChars cs) ↔ t.Whole := by
  constructor
  · rintro ⟨cs, rfl⟩
    exact whole_ofChars cs
  · intro whole
    refine ⟨t.map fun p => Char.ofNat p.val, ?_⟩
    have same : t.map (fun p => CodePoint.ofChar (Char.ofNat p.val)) = t.map id :=
      List.map_congr_left fun p hp => CodePoint.ofChar_ofNat (whole p hp)
    rw [ofChars, List.map_map]
    exact (same.trans (List.map_id t)).symm

/-- A text that is not whole has no characters. -/
theorem chars?_of_not_whole (h : ¬t.Whole) : t.chars? = none := by
  induction t with
  | nil => exact absurd (List.forall_mem_nil _) h
  | cons p t ih =>
    cases half : p.isSurrogate with
    | true => simp [chars?, CodePoint.char?, half]
    | false =>
      have rest : ¬Whole t := fun whole => h (List.forall_mem_cons.mpr ⟨half, whole⟩)
      simp [chars?, ih rest]

/-- What a whole text starts with is whole. -/
theorem Whole.of_prefix {start : Text} (whole : t.Whole) (h : start <+: t) : start.Whole :=
  fun p hp => whole p (h.subset hp)

end Text

namespace Utf8

variable {cs : List Char} {t : Text} {a b d e : UInt8} {rest : Bytes} {start : Nat}

/-! ### Decoding by width -/

/-- A number below 256 is a byte. -/
theorem toNat_toUInt8 {n : Nat} (h : n < 256) : n.toUInt8.toNat = n := by
  simpa using h

/-- A byte that continues a character is between these bounds. -/
theorem isContinuation_iff : isContinuation b = true ↔ 0x80 ≤ b.toNat ∧ b.toNat < 0xC0 := by
  simp [isContinuation, UInt8.le_iff_toNat_le, UInt8.lt_iff_toNat_lt]

/-- A second byte is between bounds that depend on the first one. -/
theorem isSecond_iff :
    isSecond a b = true ↔ (0x80 ≤ b.toNat ∧ b.toNat < 0xC0) ∧
      (a.toNat = 0xE0 → 0xA0 ≤ b.toNat) ∧ (a.toNat = 0xED → b.toNat < 0xA0) ∧
      (a.toNat = 0xF0 → 0x90 ≤ b.toNat) ∧ (a.toNat = 0xF4 → b.toNat < 0x90) := by
  have other (n : UInt8) : (a != n) = true ↔ ¬a.toNat = n.toNat := by
    rw [bne_iff_ne, ne_eq, UInt8.toNat_inj]
  simp only [isSecond, Bool.and_eq_true, Bool.or_eq_true, isContinuation_iff, other,
    decide_eq_true_eq, UInt8.le_iff_toNat_le, UInt8.lt_iff_toNat_lt, ← imp_iff_not_or, and_assoc]
  rfl

/-- A byte below `0x80` is a character of its own. -/
theorem decodeFrom_one (lead : a.toNat < 0x80) :
    decodeFrom start (a :: rest) =
      (Char.ofNat a.toNat :: ·) <$> decodeFrom (start + 1) rest := by
  have short : a < 0x80 := UInt8.lt_iff_toNat_lt.mpr lead
  rw [decodeFrom.eq_def]
  simp only [short, if_true]

/-- A byte from `0xC2` to `0xF4` starts a longer character. -/
theorem starts_of_lead (lead : 0xC2 ≤ a.toNat ∧ a.toNat < 0xF5) :
    ¬a < 0x80 ∧ (decide (a < 0xC2) || decide (0xF5 ≤ a)) = false := by
  have bounds : (0x80 : UInt8).toNat = 0x80 ∧ (0xC2 : UInt8).toNat = 0xC2 ∧
      (0xF5 : UInt8).toNat = 0xF5 := by decide
  simp only [UInt8.lt_iff_toNat_lt, UInt8.le_iff_toNat_le, Bool.or_eq_false_iff,
    decide_eq_false_iff_not]
  omega

/-- A character of two bytes. -/
theorem decodeFrom_two (lead : 0xC2 ≤ a.toNat ∧ a.toNat < 0xE0) (second : isSecond a b = true) :
    decodeFrom start (a :: b :: rest) =
      (Char.ofNat (a.toNat % 0x20 * 0x40 + low6 b) :: ·) <$> decodeFrom (start + 2) rest := by
  obtain ⟨long, proper⟩ := starts_of_lead (a := a) (by omega)
  have two : a < 0xE0 := UInt8.lt_iff_toNat_lt.mpr lead.2
  rw [decodeFrom.eq_def]
  simp only [long, proper, second, two, if_true, if_false, Bool.not_true, Bool.false_eq_true]

/-- A character of three bytes. -/
theorem decodeFrom_three (lead : 0xE0 ≤ a.toNat ∧ a.toNat < 0xF0)
    (second : isSecond a b = true) (third : isContinuation d = true) :
    decodeFrom start (a :: b :: d :: rest) =
      (Char.ofNat (a.toNat % 0x10 * 0x1000 + low6 b * 0x40 + low6 d) :: ·) <$>
        decodeFrom (start + 3) rest := by
  obtain ⟨long, proper⟩ := starts_of_lead (a := a) (by omega)
  have two : ¬a < 0xE0 := fun h => absurd (UInt8.lt_iff_toNat_lt.mp h) (Nat.not_lt.mpr lead.1)
  have three : a < 0xF0 := UInt8.lt_iff_toNat_lt.mpr lead.2
  rw [decodeFrom.eq_def]
  simp only [long, proper, second, third, two, three, if_true, if_false, Bool.not_true,
    Bool.false_eq_true]

/-- A character of four bytes. -/
theorem decodeFrom_four (lead : 0xF0 ≤ a.toNat ∧ a.toNat < 0xF5)
    (second : isSecond a b = true) (third : isContinuation d = true)
    (fourth : isContinuation e = true) :
    decodeFrom start (a :: b :: d :: e :: rest) =
      (Char.ofNat (a.toNat % 0x08 * 0x40000 + low6 b * 0x1000 + low6 d * 0x40 + low6 e) :: ·) <$>
        decodeFrom (start + 4) rest := by
  obtain ⟨long, proper⟩ := starts_of_lead (a := a) (by omega)
  have two : ¬a < 0xE0 := fun h => by
    have below : a.toNat < 0xE0 := UInt8.lt_iff_toNat_lt.mp h
    omega
  have three : ¬a < 0xF0 := fun h => absurd (UInt8.lt_iff_toNat_lt.mp h) (Nat.not_lt.mpr lead.1)
  rw [decodeFrom.eq_def]
  simp only [long, proper, second, third, fourth, two, three, if_false, Bool.not_true,
    Bool.false_eq_true]

/-! ### Decoding what was encoded -/

/-- The code point of a character is below `0x110000`, and no surrogate. -/
theorem toNat_bounds (c : Char) :
    c.toNat < 0xD800 ∨ 0xE000 ≤ c.toNat ∧ c.toNat < 0x110000 := by
  have valid := c.valid
  simp only [UInt32.isValidChar, Nat.isValidChar] at valid
  have same : c.val.toNat = c.toNat := rfl
  omega

/-- **The bytes of a character are decoded to that character.** -/
theorem decodeFrom_encodeChar (c : Char) :
    ∃ width, decodeFrom start (encodeChar c ++ rest) =
      (c :: ·) <$> decodeFrom (start + width) rest := by
  have bounds := toNat_bounds c
  have itself : Char.ofNat c.toNat = c := Char.ofNat_toNat c
  generalize hn : c.toNat = n at bounds itself
  simp only [encodeChar, hn]
  split
  · refine ⟨1, ?_⟩
    have first : n.toUInt8.toNat = n := toNat_toUInt8 (by omega)
    rw [List.singleton_append, decodeFrom_one (by omega), first, itself]
  split
  · refine ⟨2, ?_⟩
    have first : (0xC0 + n / 0x40).toUInt8.toNat = 0xC0 + n / 0x40 := toNat_toUInt8 (by omega)
    have second : (0x80 + n % 0x40).toUInt8.toNat = 0x80 + n % 0x40 := toNat_toUInt8 (by omega)
    have whole : (0xC0 + n / 0x40) % 0x20 * 0x40 + (0x80 + n % 0x40) % 0x40 = n := by omega
    rw [List.cons_append, List.cons_append, List.nil_append, decodeFrom_two (by omega)
      (isSecond_iff.mpr (by omega)), low6, first, second, whole, itself]
  split
  · refine ⟨3, ?_⟩
    have first : (0xE0 + n / 0x1000).toUInt8.toNat = 0xE0 + n / 0x1000 := toNat_toUInt8 (by omega)
    have second : (0x80 + n / 0x40 % 0x40).toUInt8.toNat = 0x80 + n / 0x40 % 0x40 :=
      toNat_toUInt8 (by omega)
    have third : (0x80 + n % 0x40).toUInt8.toNat = 0x80 + n % 0x40 := toNat_toUInt8 (by omega)
    have whole : (0xE0 + n / 0x1000) % 0x10 * 0x1000 + (0x80 + n / 0x40 % 0x40) % 0x40 * 0x40 +
        (0x80 + n % 0x40) % 0x40 = n := by omega
    rw [List.cons_append, List.cons_append, List.cons_append, List.nil_append,
      decodeFrom_three (by omega) (isSecond_iff.mpr (by omega)) (isContinuation_iff.mpr (by omega)),
      low6, low6, first, second, third, whole, itself]
  · refine ⟨4, ?_⟩
    have first : (0xF0 + n / 0x40000).toUInt8.toNat = 0xF0 + n / 0x40000 :=
      toNat_toUInt8 (by omega)
    have second : (0x80 + n / 0x1000 % 0x40).toUInt8.toNat = 0x80 + n / 0x1000 % 0x40 :=
      toNat_toUInt8 (by omega)
    have third : (0x80 + n / 0x40 % 0x40).toUInt8.toNat = 0x80 + n / 0x40 % 0x40 :=
      toNat_toUInt8 (by omega)
    have fourth : (0x80 + n % 0x40).toUInt8.toNat = 0x80 + n % 0x40 := toNat_toUInt8 (by omega)
    have whole : (0xF0 + n / 0x40000) % 0x08 * 0x40000 +
        (0x80 + n / 0x1000 % 0x40) % 0x40 * 0x1000 + (0x80 + n / 0x40 % 0x40) % 0x40 * 0x40 +
        (0x80 + n % 0x40) % 0x40 = n := by omega
    rw [List.cons_append, List.cons_append, List.cons_append, List.cons_append, List.nil_append,
      decodeFrom_four (by omega) (isSecond_iff.mpr (by omega)) (isContinuation_iff.mpr (by omega))
        (isContinuation_iff.mpr (by omega)),
      low6, low6, low6, first, second, third, fourth, whole, itself]

/-- **Characters are decoded from their bytes.** -/
theorem decodeFrom_encodeChars : decodeFrom start (encodeChars cs) = .ok cs := by
  induction cs generalizing start with
  | nil => rw [encodeChars, List.flatMap_nil, decodeFrom.eq_def]
  | cons c cs ih =>
    obtain ⟨width, eq⟩ : ∃ width, decodeFrom start (encodeChar c ++ encodeChars cs) =
        (c :: ·) <$> decodeFrom (start + width) (encodeChars cs) := decodeFrom_encodeChar c
    rw [encodeChars, List.flatMap_cons, ← encodeChars, eq, ih]
    rfl

/-- **A whole text is encoded**, and decoded to the characters that it is made of. -/
theorem exists_encode_of_whole (whole : t.Whole) :
    ∃ cs bytes, t = Text.ofChars cs ∧ encode t = .ok bytes ∧ decode bytes = .ok cs := by
  obtain ⟨cs, rfl⟩ := Text.exists_ofChars_iff.mpr whole
  exact ⟨cs, encodeChars cs, rfl, by rw [encode, Text.chars?_ofChars], decodeFrom_encodeChars⟩

/-- **A text that is not whole is refused** for its first surrogates. -/
theorem encode_of_not_whole (h : ¬t.Whole) : encode t = .error (firstSurrogates t) := by
  rw [encode, Text.chars?_of_not_whole h]

end Utf8

end DepGraph
