import DepGraph.Proofs.Number.NotANumber
import DepGraph.Settings.Numeral
import Mathlib.Data.List.Basic

/-!
# Texts that spell no number

A text for a number is read as a number that is none if it spells one
(`DepGraph.Settings.SpellsNaN`): without the padding at its ends or without its underscores, it is a
word of the letters `nan` in any case, with one sign in front or without. No other text is
(`DepGraph.Settings.isNaN_of_readNumber`), as digits are read as numbers and the words for infinity
are none of these.

The two ways to read a text do not get in each other's way: what is read with its underscores has
none or has a digit (`DepGraph.Settings.not_mem_underscore_of_number?`), and so it is no such word
without them unless it is one as it stands.
-/

namespace DepGraph.Settings

/-- A **word for no number**: the letters `nan` in any case, with or without a sign in front. -/
def IsNaNWord (cs : List Char) : Prop := (splitSign cs).2.map Char.toLower = "nan".toList

/-- A text **spells no number** if it is a word for one without the padding at its ends, or without
the underscores in it. -/
def SpellsNaN (cs : List Char) : Prop :=
  IsNaNWord (trimPadding cs) ∨ ∃ bare ∈ dropUnderscores cs, IsNaNWord bare

instance (cs : List Char) : Decidable (IsNaNWord cs) :=
  inferInstanceAs (Decidable ((splitSign cs).2.map Char.toLower = "nan".toList))

instance (cs : List Char) : Decidable (SpellsNaN cs) := inferInstanceAs (Decidable (_ ∨ _))

section Words

variable {cs bare : List Char} {c : Char} {x : Float}

/-! ### Signs and letters -/

/-- A character of a text is a sign in front or stands behind it. -/
theorem mem_splitSign (h : c ∈ cs) : c = '-' ∨ c = '+' ∨ c ∈ (splitSign cs).2 := by
  unfold splitSign
  split
  · exact (List.mem_cons.mp h).imp_right .inr
  · exact .inr (List.mem_cons.mp h)
  · exact .inr (.inr h)

/-- What stands behind the sign is in the text. -/
theorem mem_of_mem_splitSign (h : c ∈ (splitSign cs).2) : c ∈ cs := by
  unfold splitSign at h
  split at h
  · exact List.mem_cons_of_mem _ h
  · exact List.mem_cons_of_mem _ h
  · exact h

/-- A character whose small form is a small letter is a letter. -/
theorem isAlpha_of_toLower (h : c.toLower.isLower = true) : c.isAlpha = true := by
  refine Bool.or_eq_true_iff.mpr ?_
  by_cases capital : c.val ≥ 'A'.val ∧ c.val ≤ 'Z'.val
  · exact .inl (decide_eq_true capital)
  · rw [show c.toLower = c from dif_neg capital] at h
    exact .inr h

/-- Letters are in two ranges. -/
theorem toNat_of_isAlpha (h : c.isAlpha = true) :
    65 ≤ c.toNat ∧ c.toNat ≤ 90 ∨ 97 ≤ c.toNat ∧ c.toNat ≤ 122 := by
  rcases Bool.or_eq_true_iff.mp h with capital | small
  · exact .inl (of_decide_eq_true capital)
  · obtain ⟨low, high⟩ := Bool.and_eq_true_iff.mp small
    exact .inr ⟨of_decide_eq_true low, of_decide_eq_true high⟩

/-- Nothing between the first capital and the last small letter is blank. -/
theorem not_isBlank_of_toNat (h : 65 ≤ c.toNat ∧ c.toNat ≤ 122) : Text.isBlank c = false := by
  rw [Bool.eq_false_iff, Text.isBlank, Ne, inRanges_iff]
  rintro ⟨range, member, low, high⟩
  have apart : ∀ r ∈ Text.blankRanges, r.2 < 65 ∨ 122 < r.1 := by decide
  have := apart range member
  omega

/-- Letters are no padding, no digits and no underscores. -/
theorem plain_of_isAlpha (h : c.isAlpha = true) :
    isPadding c = false ∧ c.isDigit = false ∧ c ≠ '_' := by
  have range := toNat_of_isAlpha h
  refine ⟨?_, ?_, ?_⟩
  · rw [isPadding, not_isBlank_of_toNat (by omega), Bool.false_and]
  · rw [Char.isDigit, Bool.and_eq_false_iff]
    refine .inr (decide_eq_false fun digit => ?_)
    have : c.toNat ≤ 57 := digit
    omega
  · rintro rfl
    exact absurd h (by decide)

/-- The characters of a word for no number are letters, but for the sign. -/
theorem IsNaNWord.isAlpha (word : IsNaNWord cs) (h : c ∈ cs) :
    c = '-' ∨ c = '+' ∨ c.isAlpha = true := by
  refine (mem_splitSign h).imp_right (Or.imp_right fun behind => isAlpha_of_toLower ?_)
  have small : c.toLower ∈ "nan".toList := word ▸ List.mem_map_of_mem behind
  exact List.all_eq_true.mp (by decide : "nan".toList.all Char.isLower = true) _ small

/-- No character of such a word is padding, a digit or an underscore. -/
theorem IsNaNWord.plain (word : IsNaNWord cs) (h : c ∈ cs) :
    isPadding c = false ∧ c.isDigit = false ∧ c ≠ '_' := by
  rcases word.isAlpha h with rfl | rfl | letter
  · decide
  · decide
  · exact plain_of_isAlpha letter

/-! ### What is read -/

/-- The words that stand for numbers, small: those for infinity, which is a number, and the one for
no number. -/
theorem special?_eq_some (h : special? cs = some x) :
    (cs.map Char.toLower ∈ ["inf".toList, "infinity".toList] ∧ x.isNaN = false) ∨
      (cs.map Char.toLower = "nan".toList ∧ x.isNaN = true) := by
  have small {word : String} (same : String.ofList (cs.map Char.toLower) = word) :
      cs.map Char.toLower = word.toList := by rw [← same, String.toList_ofList]
  unfold special? at h
  split at h
  next same =>
    obtain rfl := Option.some.inj h
    exact .inl ⟨by rw [small same]; decide, by decide⟩
  next same =>
    obtain rfl := Option.some.inj h
    exact .inl ⟨by rw [small same]; decide, by decide⟩
  next same =>
    obtain rfl := Option.some.inj h
    exact .inr ⟨small same, by decide⟩
  next => contradiction

/-- The word for no number stands for one. -/
theorem special?_isSome (h : cs.map Char.toLower = "nan".toList) : (special? cs).isSome = true := by
  rw [special?, h]
  rfl

/-- What digits and an exponent spell is a number. -/
theorem isNaN_of_unsigned? (h : unsigned? cs = some x) : x.isNaN = false := by
  unfold unsigned? at h
  dsimp only at h
  split at h
  all_goals
    split at h
    · contradiction
    · obtain ⟨e, -, rfl⟩ := Option.map_eq_some_iff.mp h
      exact Decimal.isNaN_toFloat _

/-- Without digits nothing is spelled. -/
theorem unsigned?_eq_none (h : ∀ c ∈ cs, c.isDigit = false) : unsigned? cs = none := by
  have noDigits (ds : List Char) (sub : ds ⊆ cs) : ds.takeWhile Char.isDigit = [] := by
    cases ds with
    | nil => rfl
    | cons d ds => exact List.takeWhile_cons_of_neg (by simp [h d (sub List.mem_cons_self)])
  unfold unsigned?
  dsimp only
  rw [noDigits cs (List.Subset.refl cs)]
  simp only [List.length_nil, List.drop_zero, BEq.rfl, Bool.true_and]
  split
  next rest =>
    rw [noDigits rest (List.subset_cons_self _ rest)]
    rfl
  next => rfl

/-- A sign stands in front of a word or of digits. -/
theorem number?_eq (cs : List Char) :
    number? cs = (special? (splitSign cs).2 <|> unsigned? (splitSign cs).2).map fun x =>
      if (splitSign cs).1 then -x else x := rfl

/-- Behind the sign stands a word or digits. -/
theorem number?_eq_some (h : number? cs = some x) :
    ∃ y, x.isNaN = y.isNaN ∧ (special? (splitSign cs).2 = some y ∨
      special? (splitSign cs).2 = none ∧ unsigned? (splitSign cs).2 = some y) := by
  rw [number?_eq, Option.map_eq_some_iff] at h
  obtain ⟨y, read, same⟩ := h
  refine ⟨y, ?_, ?_⟩
  · rw [← same]
    by_cases negative : (splitSign cs).1 = true
    · rw [if_pos negative, Binary.isNaN_neg]
    · rw [if_neg negative]
  · cases word : special? (splitSign cs).2 with
    | some z => exact .inl (by rwa [word] at read)
    | none => exact .inr ⟨rfl, by rwa [word] at read⟩

/-- What is read is no number if it is a word for none. -/
theorem isNaN_of_number? (h : number? cs = some x) : x.isNaN = true ↔ IsNaNWord cs := by
  obtain ⟨y, same, word | ⟨noWord, digits⟩⟩ := number?_eq_some h
  · rw [same, IsNaNWord]
    rcases special?_eq_some word with ⟨infinite, number⟩ | ⟨nan, none⟩
    · refine iff_of_false (by rw [number]; decide) fun nan => ?_
      rw [nan] at infinite
      exact absurd infinite (by decide)
    · exact iff_of_true none nan
  · rw [same, isNaN_of_unsigned? digits]
    refine iff_of_false (by decide) fun nan => ?_
    rw [IsNaNWord] at nan
    simpa [noWord] using special?_isSome nan

/-- A word for no number is read. -/
theorem number?_isSome (word : IsNaNWord cs) : (number? cs).isSome = true := by
  obtain ⟨y, read⟩ := Option.isSome_iff_exists.mp (special?_isSome word)
  simp [number?, read]

/-- What is read without digits in it has no underscores. -/
theorem not_mem_underscore_of_number? (h : number? cs = some x)
    (noDigits : ∀ c ∈ cs, c.isDigit = false) : '_' ∉ cs := by
  intro underscore
  have behind : '_' ∈ (splitSign cs).2 := by
    rcases mem_splitSign underscore with minus | plus | behind
    · exact absurd minus (by decide)
    · exact absurd plus (by decide)
    · exact behind
  obtain ⟨y, -, word | ⟨-, digits⟩⟩ := number?_eq_some h
  · have small : '_' ∈ (splitSign cs).2.map Char.toLower := List.mem_map_of_mem behind
    rcases special?_eq_some word with ⟨infinite, -⟩ | ⟨nan, -⟩
    · have none : ∀ word ∈ ["inf".toList, "infinity".toList], '_' ∉ word := by decide
      exact none _ infinite small
    · rw [nan] at small
      exact absurd small (by decide)
  · rw [unsigned?_eq_none fun c inside => noDigits c (mem_of_mem_splitSign inside)] at digits
    contradiction

/-! ### Padding and underscores -/

/-- What has no padding is left as it is. -/
theorem trimPadding_eq_self (h : ∀ c ∈ cs, isPadding c = false) : trimPadding cs = cs := by
  have drop (ds : List Char) (sub : ds ⊆ cs) : ds.dropWhile isPadding = ds := by
    cases ds with
    | nil => rfl
    | cons d ds => exact List.dropWhile_cons_of_neg (by simp [h d (sub List.mem_cons_self)])
  rw [trimPadding, drop cs (List.Subset.refl cs),
    drop cs.reverse fun c inside => List.mem_reverse.mp inside, List.reverse_reverse]

/-- Underscores are all that is dropped. -/
theorem dropUnderscores_eq_some (h : dropUnderscores cs = some bare) :
    bare = cs.filter (· != '_') := by
  unfold dropUnderscores at h
  split at h
  · contradiction
  · exact (Option.some.inj h).symm

/-- What is read with its underscores is a word for no number as it stands, if it is one without
them. -/
theorem IsNaNWord.of_dropUnderscores (word : IsNaNWord bare)
    (dropped : dropUnderscores cs = some bare) (read : number? (trimPadding cs) = some x) :
    IsNaNWord (trimPadding cs) := by
  obtain rfl := dropUnderscores_eq_some dropped
  -- what is left has no padding and no digits, and underscores are neither
  have plain (c : Char) (h : c ∈ cs) : isPadding c = false ∧ c.isDigit = false := by
    by_cases underscore : c = '_'
    · rw [underscore]
      decide
    · have kept : c ∈ cs.filter (· != '_') := List.mem_filter.mpr ⟨h, by simpa using underscore⟩
      exact ⟨(word.plain kept).1, (word.plain kept).2.1⟩
  rw [trimPadding_eq_self fun c h => (plain c h).1] at read ⊢
  have none := not_mem_underscore_of_number? read fun c h => (plain c h).2
  rwa [List.filter_eq_self.mpr fun c h => by simpa using ne_of_mem_of_not_mem h none] at word

/-- A number is read with the underscores in the text, or else without them. -/
theorem readNumber_eq_passed (h : readNumber cs = .passed x) :
    number? (trimPadding cs) = some x ∨
      number? (trimPadding cs) = none ∧
        ∃ bare, dropUnderscores cs = some bare ∧ number? bare = some x := by
  unfold readNumber at h
  split at h
  next y read =>
    obtain rfl : y = x := Checked.passed.inj h
    cases padded : number? (trimPadding cs) with
    | some z => exact .inl (by rwa [padded] at read)
    | none => exact .inr ⟨rfl, Option.bind_eq_some_iff.mp (by rwa [padded] at read)⟩
  next => contradiction

/-- **A text is read as no number if it spells none.** -/
theorem isNaN_of_readNumber (h : readNumber cs = .passed x) : x.isNaN = true ↔ SpellsNaN cs := by
  rcases readNumber_eq_passed h with padded | ⟨unread, bare, dropped, read⟩
  · rw [isNaN_of_number? padded]
    refine ⟨.inl, fun spells => ?_⟩
    rcases spells with word | ⟨bare, dropped, word⟩
    · exact word
    · exact word.of_dropUnderscores dropped padded
  · rw [isNaN_of_number? read]
    refine ⟨fun word => .inr ⟨bare, dropped, word⟩, fun spells => ?_⟩
    rcases spells with word | ⟨_, same, word⟩
    · simpa [unread] using number?_isSome word
    · rw [dropped] at same
      exact Option.some.inj same ▸ word

example : SpellsNaN " -NaN".toList ∧ SpellsNaN "n_a_n".toList ∧ ¬SpellsNaN "n_a_n ".toList := by
  decide

end Words

end DepGraph.Settings
