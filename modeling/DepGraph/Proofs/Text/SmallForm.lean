import DepGraph.Text.Case
import Mathlib.Data.List.Basic

/-!
# What a small form keeps

The small form of a text is made character by character, and only for the capital sigma does it
matter what is around the character. Three things follow, whatever the text is:

* it ends with a small form of every end of the text (`DepGraph.Text.exists_smallFrom_append`);
* as far as it is ASCII, what came before makes no difference
  (`DepGraph.Text.smallFrom_eq_of_ascii`);
* no character becomes one of the marks and digits that come before the letters in ASCII, and these
  stay what they are (`DepGraph.Text.mem_smallFrom_iff`).

The last of it is a fact about the table of small forms: the sign for kelvin, for one, becomes an
ASCII letter, but nothing in the table becomes a dot or a slash.
-/

namespace DepGraph.Text

variable {before cs ds : List Char} {c m : Char}

/-! ### The small form of a character -/

/-- Of a capital, the small letter is 32 places on. -/
theorem toNat_toLower (c : Char) :
    c.toLower.toNat = if 65 ≤ c.toNat ∧ c.toNat ≤ 90 then c.toNat + 32 else c.toNat := by
  split
  next capital =>
    have there : c.val ≥ 'A'.val ∧ c.val ≤ 'Z'.val := capital
    have lower : c.toLower.val = c.val + 32 := congrArg Char.val (dif_pos there)
    have sum : (c.val + 32).toNat = (c.val.toNat + 32) % 2 ^ 32 := UInt32.toNat_add c.val 32
    have number : c.val.toNat = c.toNat := rfl
    calc c.toLower.toNat
      _ = (c.val + 32).toNat := congrArg UInt32.toNat lower
      _ = c.toNat + 32 := by omega
  next other =>
    have elsewhere : ¬(c.val ≥ 'A'.val ∧ c.val ≤ 'Z'.val) := other
    exact congrArg Char.toNat (dif_neg elsewhere)

/-- The small form of a character **between** what came before it, last character first, and what
follows it. -/
def smallBetween (before : List Char) (c : Char) (after : List Char) : List Char :=
  if c.toNat == 0x3A3 then
    [if meetsCased before && !meetsCased after then Char.ofNat 0x3C2 else Char.ofNat 0x3C3]
  else smallChar c

theorem smallFrom_cons (before : List Char) (c : Char) (cs : List Char) :
    smallFrom before (c :: cs) = smallBetween before c cs ++ smallFrom (c :: before) cs := rfl

/-- What is around a character does not matter, unless it is the capital sigma. -/
theorem smallBetween_of_ne (other : c.toNat ≠ 0x3A3) : smallBetween before c cs = smallChar c :=
  if_neg (by simpa using other)

/-- The small form of the capital sigma is one of two characters beyond ASCII. -/
theorem smallBetween_sigma (sigma : c.toNat = 0x3A3) (before cs : List Char) :
    ∃ d, smallBetween before c cs = [d] ∧ 0x80 ≤ d.toNat := by
  refine ⟨_, if_pos (by simpa using sigma), ?_⟩
  split
  · decide
  · decide

theorem smallChar_of_ascii (ascii : c.toNat < 0x80) : smallChar c = [c.toLower] := by
  simp [smallChar, ascii]

/-- The characters of the table have small forms behind the capitals of ASCII. -/
theorem le_of_mem_smallRuns : ∀ r ∈ smallRuns, (97 : Int) ≤ r.first + r.delta := by
  decide +kernel

/-- A character made of a number has that number, or none at all. -/
theorem toNat_ofNat_eq_or (n : Nat) : (Char.ofNat n).toNat = n ∨ (Char.ofNat n).toNat = 0 := by
  by_cases valid : n.isValidChar
  · left
    rw [Char.ofNat, dif_pos valid]
    rfl
  · right
    rw [Char.ofNat, dif_neg valid]
    rfl

/-- **Beyond ASCII, no character becomes a mark or a digit**: what comes before the letters of ASCII
is in no small form. -/
theorem not_mem_smallChar (wide : 0x80 ≤ c.toNat) (pos : 0 < m.toNat) (low : m.toNat < 65) :
    m ∉ smallChar c := by
  have narrow : ¬c.toNat < 0x80 := Nat.not_lt.mpr wide
  simp only [smallChar, narrow, if_false]
  split
  next dotted =>
    intro member
    have letters : (Char.ofNat 0x307).toNat = 0x307 ∧ 'i'.toNat = 105 := by decide
    rcases List.mem_pair.mp member with rfl | rfl <;> omega
  next other =>
    split
    next r found =>
      intro member
      obtain rfl := List.mem_singleton.mp member
      have bound := le_of_mem_smallRuns r (List.mem_of_find?_eq_some found)
      have covers := List.find?_some found
      simp only [Bool.and_eq_true, decide_eq_true_eq] at covers
      rcases toNat_ofNat_eq_or ((c.toNat : Int) + r.delta).toNat with number | number <;> omega
    next none =>
      intro member
      obtain rfl := List.mem_singleton.mp member
      omega

/-- **A mark or a digit is in the small form of itself only.** -/
theorem mem_smallBetween_iff (pos : 0 < m.toNat) (low : m.toNat < 65) :
    m ∈ smallBetween before c cs ↔ m = c := by
  rcases eq_or_ne c.toNat 0x3A3 with sigma | other
  · obtain ⟨d, small, wide⟩ := smallBetween_sigma sigma before cs
    rw [small, List.mem_singleton]
    constructor
    · rintro rfl
      omega
    · rintro rfl
      omega
  rw [smallBetween_of_ne other]
  rcases Nat.lt_or_ge c.toNat 0x80 with ascii | wide
  · rw [smallChar_of_ascii ascii, List.mem_singleton]
    have place := toNat_toLower c
    constructor
    · rintro rfl
      refine Char.toNat_inj.mp ?_
      split at place <;> omega
    · rintro rfl
      refine Char.toNat_inj.mp ?_
      rw [place, if_neg (by omega)]
  · refine iff_of_false (not_mem_smallChar wide pos low) ?_
    rintro rfl
    omega

/-! ### The small form of a text -/

/-- **A small form ends with a small form of every end of the text**, which has what came before it
in front. -/
theorem exists_smallFrom_append (before cs ds : List Char) :
    ∃ front, smallFrom before (cs ++ ds) = front ++ smallFrom (cs.reverse ++ before) ds := by
  induction cs generalizing before with
  | nil => exact ⟨[], rfl⟩
  | cons c cs ih =>
    obtain ⟨front, same⟩ := ih (c :: before)
    refine ⟨smallBetween before c (cs ++ ds) ++ front, ?_⟩
    rw [List.cons_append, smallFrom_cons, same]
    simp

/-- **A mark or a digit is in a small form exactly if it is in the text.** -/
theorem mem_smallFrom_iff (pos : 0 < m.toNat) (low : m.toNat < 65) :
    m ∈ smallFrom before cs ↔ m ∈ cs := by
  induction cs generalizing before with
  | nil => exact Iff.rfl
  | cons c cs ih =>
    rw [smallFrom_cons, List.mem_append, mem_smallBetween_iff pos low, ih, List.mem_cons]

/-- **A small form in ASCII does not depend on what came before**, as no capital sigma is in the
text. -/
theorem smallFrom_eq_of_ascii (ascii : ∀ d ∈ smallFrom before cs, d.toNat < 0x80)
    (before' : List Char) : smallFrom before' cs = smallFrom before cs := by
  induction cs generalizing before before' with
  | nil => rfl
  | cons c cs ih =>
    rw [smallFrom_cons] at ascii
    obtain ⟨first, rest⟩ := List.forall_mem_append.mp ascii
    have other : c.toNat ≠ 0x3A3 := by
      intro sigma
      obtain ⟨d, small, wide⟩ := smallBetween_sigma sigma before cs
      exact absurd (first d (by simp [small])) (Nat.not_lt.mpr wide)
    rw [smallFrom_cons, smallFrom_cons, smallBetween_of_ne other, smallBetween_of_ne other,
      ih rest (c :: before')]

/-- A text in ASCII without capitals is its own small form. -/
theorem smallFrom_self (ascii : ∀ c ∈ cs, c.toNat < 0x80) (small : ∀ c ∈ cs, c.toLower = c) :
    smallFrom before cs = cs := by
  induction cs generalizing before with
  | nil => rfl
  | cons c cs ih =>
    obtain ⟨narrow, ascii⟩ := List.forall_mem_cons.mp ascii
    obtain ⟨same, small⟩ := List.forall_mem_cons.mp small
    rw [smallFrom_cons, smallBetween_of_ne (by omega), smallChar_of_ascii narrow, same,
      ih ascii small, List.singleton_append]

end DepGraph.Text
