import DepGraph.Proofs.Text.Replaced
import DepGraph.Proofs.Text.SmallForm
import DepGraph.Redaction
import Mathlib.Data.List.Infix
import Mathlib.Data.List.TakeWhile

/-!
# Secrets in messages

A **secret** is a word for one, an equals sign and a value (`DepGraph.Redaction.IsSecret`). Secrets
are found from left to right, each with the rest of its run, up to the next blank
(`DepGraph.Redaction.finds_secret`): what its value is replaced by ends the run.

So messages that differ in the value of a secret only are redacted alike
(`DepGraph.Redaction.redact_value`). The load-bearing fact is that where a secret starts is decided
by what is in front of its value (`DepGraph.Redaction.StartsSecret.of_value`): no sign of a value is
in a word, and a secret that starts earlier in the run takes in the value as a whole.
-/

namespace DepGraph.Redaction

/-! ### Runs -/

/-- Characters of which none is blank. -/
def IsInk (cs : List Char) : Prop := ∀ c ∈ cs, Text.isBlank c = false

-- by the characters of the list, not by all there are
instance (cs : List Char) : Decidable (IsInk cs) :=
  List.decidableBAll (Text.isBlank · = false) cs

/-- What **ends a run** of such characters: nothing more, or a blank. -/
def EndsRun (rest : List Char) : Prop := ∀ c ∈ rest.head?, Text.isBlank c = true

instance (rest : List Char) : Decidable (EndsRun rest) :=
  Option.decidableForallMem (p := (Text.isBlank · = true)) rest.head?

section Runs

variable {run run' rest rest' x y : List Char} {b : Char}

/-- What is blank is not among such characters. -/
theorem IsInk.not_mem (ink : IsInk run) (blank : Text.isBlank b = true) : b ∉ run := fun hb => by
  rw [ink b hb] at blank
  cases blank

/-- Nothing is blank on either side of an equals sign, so nothing is in the whole. -/
theorem IsInk.append_equals (ink : IsInk run) (ink' : IsInk run') : IsInk (run ++ '=' :: run') :=
  List.forall_mem_append.mpr ⟨ink, List.forall_mem_cons.mpr ⟨by decide, ink'⟩⟩

/-- A character ends a run if it is blank. -/
@[simp] theorem endsRun_cons : EndsRun (b :: rest) ↔ Text.isBlank b = true := by
  simp [EndsRun]

/-- A text starts with a run, which may be empty. -/
theorem exists_run (t : List Char) : ∃ run rest, t = run ++ rest ∧ IsInk run ∧ EndsRun rest := by
  refine ⟨t.takeWhile (!Text.isBlank ·), t.dropWhile (!Text.isBlank ·),
    List.takeWhile_append_dropWhile.symm, fun c hc => ?_, fun c hc => ?_⟩
  · simpa using List.mem_takeWhile_imp hc
  · obtain ⟨more, same⟩ := List.head?_eq_some_iff.mp (Option.mem_def.mp hc)
    have := List.head?_dropWhile_not (!Text.isBlank ·) t
    rw [same] at this
    simpa using this

/-- A run is what is taken up to the first blank. -/
theorem takeWhile_run (ink : IsInk run) (ends : EndsRun rest) :
    (run ++ rest).takeWhile (!Text.isBlank ·) = run := by
  have kept (c : Char) (hc : c ∈ run) : (!Text.isBlank c) = true := by simp [ink c hc]
  cases rest with
  | nil => rw [List.append_nil, List.takeWhile_eq_self_iff.mpr kept]
  | cons b rest =>
    have blank : Text.isBlank b = true := ends b rfl
    exact Text.takeWhile_append_cons rest kept (by simp [blank])

/-- A text is split in one way behind its first run. -/
theorem eq_of_append_ends (ink : IsInk run) (ink' : IsInk run') (ends : EndsRun rest)
    (ends' : EndsRun rest') (same : run ++ rest = run' ++ rest') : run = run' ∧ rest = rest' := by
  have runs : run = run' := by rw [← takeWhile_run ink ends, same, takeWhile_run ink' ends']
  subst runs
  exact ⟨rfl, List.append_cancel_left same⟩

/-- What has no blanks and starts a text is in its first run. -/
theorem IsInk.prefix_of_append (ink : IsInk x) (ends : EndsRun rest) (start : x <+: run ++ rest) :
    x <+: run := by
  rcases List.prefix_or_prefix_of_prefix start (List.prefix_append run rest) with within | beyond
  · exact within
  · obtain ⟨more, rfl⟩ := beyond
    rw [List.prefix_append_right_inj] at start
    cases more with
    | nil => simp
    | cons b more =>
      obtain ⟨rest, rfl⟩ := start
      exact absurd (by simp) (ink.not_mem (ends b rfl))

/-- What has no blanks and ends a text is in its last run. -/
theorem IsInk.suffix_append_cons (ink : IsInk run) (blank : Text.isBlank b = true) :
    run <:+ x ++ b :: y ↔ run <:+ b :: y := by
  refine ⟨fun suffix => ?_, fun suffix => suffix.trans (List.suffix_append x _)⟩
  rcases List.suffix_or_suffix_of_suffix suffix (List.suffix_append x (b :: y)) with within | beyond
  · exact within
  · exact absurd (beyond.subset List.mem_cons_self) (ink.not_mem blank)

end Runs

/-! ### Words, values and secrets -/

/-- The **small** letter of a letter. The long s and the sign for kelvin have one too. -/
def small (c : Char) : Char :=
  if c = '\u017f' then 's' else if c = '\u212a' then 'k' else c.toLower

/-- A **word** for a secret, in small or capital letters or both. -/
def IsWord (word : List Char) : Prop := word.map small ∈ words

instance (word : List Char) : Decidable (IsWord word) :=
  inferInstanceAs (Decidable (word.map small ∈ words))

/-- A **value** of a secret: something in which nothing is blank. -/
structure IsValue (value : List Char) : Prop where
  /-- There is something. -/
  ne_nil : value ≠ []
  /-- None of it is blank. -/
  ink : IsInk value

instance (value : List Char) : Decidable (IsValue value) :=
  decidable_of_iff (value ≠ [] ∧ IsInk value) ⟨fun h => ⟨h.1, h.2⟩, fun h => ⟨h.1, h.2⟩⟩

/-- A **secret** is a word and a value, with an equals sign between them. -/
def IsSecret (t : List Char) : Prop :=
  ∃ word value, IsWord word ∧ IsValue value ∧ t = word ++ '=' :: value

/-- The part of a text that a secret is: all of its run from the word on, of which the value is
replaced. -/
def secretPart : Text.PartKind Char := fun old new rest =>
  ∃ word value, IsWord word ∧ IsValue value ∧ EndsRun rest ∧ old = word ++ '=' :: value ∧
    new = word ++ '=' :: mark

/-- A text **starts** with a secret. -/
def StartsSecret (t : List Char) : Prop := ∃ s, IsSecret s ∧ s <+: t

section Words

variable {letter c : Char} {word w cs : List Char}

/-- What is found of all letters of words holds of each. -/
theorem forall_mem_words {p : Char → Prop} [DecidablePred p]
    (all : words.flatten.all (p ·) = true) : ∀ letter ∈ words.flatten, p letter :=
  fun letter h => of_decide_eq_true (List.all_eq_true.mp all letter h)

/-- Letters of words are small, and their capitals are 32 places back. -/
theorem toNat_of_mem_words : ∀ letter ∈ words.flatten,
    97 ≤ letter.toNat ∧ letter.toNat ≤ 122 ∧ letter.toUpper.toNat + 32 = letter.toNat :=
  forall_mem_words (by decide)

/-- **A character is a letter of a word** if that is its small letter. -/
theorem isLetter_iff (h : letter ∈ words.flatten) : isLetter letter c = true ↔ small c = letter := by
  -- the two signs that are no capitals are tried on each letter
  have signs : ∀ letter ∈ words.flatten,
      (isLetter letter '\u017f' = true ↔ small '\u017f' = letter) ∧
        (isLetter letter '\u212a' = true ↔ small '\u212a' = letter) :=
    forall_mem_words (by decide)
  by_cases longS : c = '\u017f'
  · rw [longS]
    exact (signs letter h).1
  by_cases kelvin : c = '\u212a'
  · rw [kelvin]
    exact (signs letter h).2
  obtain ⟨low, high, capital⟩ := toNat_of_mem_words letter h
  have place := Text.toNat_toLower c
  simp only [isLetter, small, longS, kelvin, if_false, Bool.or_eq_true, Bool.and_eq_true,
    beq_iff_eq, and_false, or_false, ← Char.toNat_inj]
  split at place <;> omega

/-- A word is spelled by what has its small letters. -/
theorem spells_iff (h : ∀ letter ∈ w, letter ∈ words.flatten) :
    spells w cs = true ↔ cs.map small = w := by
  induction w generalizing cs with
  | nil => cases cs <;> simp [spells]
  | cons letter w ih =>
    obtain ⟨first, others⟩ := List.forall_mem_cons.mp h
    cases cs with
    | nil => simp [spells]
    | cons c cs => simp [spells, isLetter_iff first, ih others]

/-- The letters of a word are those that words have. -/
theorem letter_mem_of_mem_words (h : w ∈ words) : ∀ letter ∈ w, letter ∈ words.flatten :=
  fun _ hl => List.mem_flatten.mpr ⟨w, h, hl⟩

/-- Two words do not start with the same letter. -/
theorem eq_of_head?_eq : ∀ w ∈ words, ∀ w' ∈ words, w.head? = w'.head? → w = w' := by
  decide

/-- **The word that a text starts with** is found. -/
theorem wordOf?_eq_some_iff : wordOf? cs = some word ↔ IsWord word ∧ word <+: cs := by
  have spelled {w : List Char} (h : w ∈ words) :
      spells w (cs.take w.length) = true ↔ (cs.take w.length).map small = w :=
    spells_iff (letter_mem_of_mem_words h)
  constructor
  · intro h
    obtain ⟨w, found, rfl⟩ := Option.map_eq_some_iff.mp h
    have known := List.mem_of_find?_eq_some found
    have good := List.find?_some found
    refine ⟨?_, List.take_prefix _ _⟩
    rw [IsWord, (spelled known).mp good]
    exact known
  · rintro ⟨known, rest, rfl⟩
    have lengths : (word.map small).length = word.length := List.length_map _
    have good : spells (word.map small) ((word ++ rest).take (word.map small).length) = true := by
      rw [spelled known, lengths, List.take_left]
    have there : (words.find? fun w => spells w ((word ++ rest).take w.length)).isSome = true :=
      List.find?_isSome.mpr ⟨_, known, good⟩
    obtain ⟨w, found⟩ := Option.isSome_iff_exists.mp there
    have known' := List.mem_of_find?_eq_some found
    have good' := List.find?_some found
    -- what is found is no other word, as its first letter is the same
    have same : w = word.map small := by
      have filled : ∀ w ∈ words, w ≠ [] := by decide
      refine eq_of_head?_eq w known' _ known ?_
      rw [← (spelled known').mp good', List.head?_map, List.head?_take,
        if_neg (by simpa using filled w known'),
        List.head?_append_of_ne_nil _ (by simpa using filled _ known), List.head?_map]
    rw [wordOf?, found, Option.map_some, same, lengths, List.take_left]

/-- What is in a word is neither blank nor one of the signs in secrets and addresses. -/
theorem IsWord.apart (inner : IsWord word) (hc : c ∈ word) :
    Text.isBlank c = false ∧ c ∉ ['=', '@', ':', '/'] := by
  have letter : small c ∈ words.flatten :=
    letter_mem_of_mem_words inner _ (List.mem_map_of_mem hc)
  have small_apart : ∀ letter ∈ words.flatten, (Text.isBlank letter = false ∧
      letter ∉ ['=', '@', ':', '/']) ∧ Text.isBlank letter.toUpper = false ∧
      letter.toUpper ∉ ['=', '@', ':', '/'] :=
    forall_mem_words (by decide)
  have cases := (isLetter_iff letter).mpr rfl
  simp only [isLetter, Bool.or_eq_true, Bool.and_eq_true, beq_iff_eq] at cases
  rcases cases with ((same | same) | ⟨-, same⟩) | ⟨-, same⟩
  · rw [same]
    exact (small_apart _ letter).1
  · rw [same]
    exact (small_apart _ letter).2
  · rw [same]
    decide
  · rw [same]
    decide

/-- There is no blank in a word. -/
theorem IsWord.ink (inner : IsWord word) : IsInk word := fun _ hc => (inner.apart hc).1

/-- There is something in a word. -/
theorem IsWord.ne_nil (inner : IsWord word) : word ≠ [] := by
  rintro rfl
  exact absurd inner (by decide)

end Words

section Secrets

variable {word value rest t : List Char}

/-- In a secret nothing is blank. -/
theorem IsSecret.ink (secret : IsSecret t) : IsInk t := by
  obtain ⟨word, value, inner, inner', rfl⟩ := secret
  exact inner.ink.append_equals inner'.ink

/-- **What starts with a secret** goes on with the rest of its run. -/
theorem startsPart_secretPart : Text.StartsPart secretPart t ↔ StartsSecret t := by
  constructor
  · rintro ⟨_, _, rest, ⟨word, value, inner, inner', -, rfl, rfl⟩, rfl⟩
    exact ⟨_, ⟨word, value, inner, inner', rfl⟩, List.prefix_append _ _⟩
  · rintro ⟨_, ⟨word, value, inner, inner', rfl⟩, rest, rfl⟩
    obtain ⟨run, rest, rfl, ink, ends⟩ := exists_run rest
    have whole : IsValue (value ++ run) :=
      ⟨by simp [inner'.ne_nil], List.forall_mem_append.mpr ⟨inner'.ink, ink⟩⟩
    exact ⟨_, _, rest, ⟨word, value ++ run, inner, whole, ends, rfl, rfl⟩, by simp⟩

/-- One character of the value is enough to tell. -/
theorem startsSecret_iff : StartsSecret t ↔
    ∃ word c rest, IsWord word ∧ Text.isBlank c = false ∧ t = word ++ '=' :: c :: rest := by
  constructor
  · rintro ⟨_, ⟨word, value, inner, inner', rfl⟩, rest, rfl⟩
    obtain ⟨c, more, rfl⟩ := List.exists_cons_of_ne_nil inner'.ne_nil
    exact ⟨word, c, more ++ rest, inner, inner'.ink c List.mem_cons_self, by simp⟩
  · rintro ⟨word, c, rest, inner, ink, rfl⟩
    exact ⟨_, ⟨word, [c], inner, ⟨by simp, by simpa [IsInk] using ink⟩, rfl⟩, rest, by simp⟩

/-- **Secrets are found**, up to the ends of their runs. -/
theorem finds_secret : Text.Finds secret secretPart where
  ne_nil := by
    rintro _ _ _ ⟨word, value, inner, -, -, rfl, rfl⟩
    simp
  found := by
    rintro _ _ rest ⟨word, value, inner, inner', ends, rfl, rfl⟩
    have found : wordOf? (word ++ '=' :: (value ++ rest)) = some word :=
      wordOf?_eq_some_iff.mpr ⟨inner, List.prefix_append _ _⟩
    rw [List.append_assoc, List.cons_append, secret, found]
    simp only [List.drop_left, takeWhile_run inner'.ink ends]
    rw [if_neg (by simpa using inner'.ne_nil)]
    simp
  missed := by
    intro t apart
    rw [startsPart_secretPart] at apart
    rw [secret]
    cases found : wordOf? t with
    | none => rfl
    | some word =>
      obtain ⟨inner, rest, rfl⟩ := wordOf?_eq_some_iff.mp found
      simp only [List.drop_left]
      split
      next rest =>
        refine if_pos ?_
        by_contra filled
        rw [beq_iff_eq] at filled
        refine apart ⟨_, ⟨word, _, inner, ⟨filled, fun c hc => ?_⟩, rfl⟩, ?_⟩
        · simpa using List.mem_takeWhile_imp hc
        · rw [List.prefix_append_right_inj, List.cons_prefix_cons]
          exact ⟨rfl, List.takeWhile_prefix _⟩
      · rfl

end Secrets

/-! ### Values make no difference -/

/-- A text that **ends with a word**. -/
def EndsWord (t : List Char) : Prop := ∃ word, IsWord word ∧ word <:+ t

section Values

variable {word value value' rest t' : List Char}

/-- An equals sign behind a word is the first one, whatever is in front of another one. -/
theorem IsWord.append_equals (inner : IsWord word) {x after after' : List Char}
    (same : word ++ '=' :: after = x ++ '=' :: after') :
    word = x ∧ after = after' ∨ ∃ y, x = word ++ '=' :: y ∧ after = y ++ '=' :: after' := by
  rcases List.append_eq_append_iff.mp same with ⟨a, rfl, tails⟩ | ⟨a, rfl, tails⟩
  · cases a with
    | nil => exact Or.inl ⟨by simp, by simpa using tails⟩
    | cons b y =>
      obtain ⟨rfl, rfl⟩ := List.cons.inj tails
      exact Or.inr ⟨y, rfl, rfl⟩
  · cases a with
    | nil => exact Or.inl ⟨by simp, by simpa using tails.symm⟩
    | cons b y =>
      obtain ⟨rfl, -⟩ := List.cons.inj tails
      exact absurd List.mem_cons_self (inner.apart (c := '=') (by simp)).2

/-- **A secret that starts no later than another one** is that one, or takes it in at the end of its
value, or is over at a blank in front of it. -/
theorem IsWord.meets {w v x rest' : List Char} (inner : IsWord w) (taken : IsInk v)
    (ends' : EndsRun rest') (ink : IsInk value) (ends : EndsRun rest)
    (same : w ++ '=' :: (v ++ rest') = x ++ '=' :: (value ++ rest)) :
    (w = x ∧ v = value ∧ rest' = rest) ∨
      (∃ run, IsInk run ∧ x = w ++ '=' :: run ∧ v = run ++ '=' :: value ∧ rest' = rest) ∨
      ∃ b y, Text.isBlank b = true ∧ x = w ++ '=' :: (v ++ b :: y) ∧
        rest' = b :: (y ++ '=' :: (value ++ rest)) := by
  rcases inner.append_equals same with ⟨rfl, tails⟩ | ⟨y, rfl, tails⟩
  · obtain ⟨rfl, rfl⟩ := eq_of_append_ends taken ink ends' ends tails
    exact Or.inl ⟨rfl, rfl, rfl⟩
  · obtain ⟨run, more, rfl, within, ends''⟩ := exists_run y
    refine Or.inr ?_
    cases more with
    | nil =>
      rw [List.append_nil, ← List.cons_append, ← List.append_assoc] at tails
      obtain ⟨rfl, rfl⟩ := eq_of_append_ends taken (within.append_equals ink) ends' ends tails
      exact Or.inl ⟨run, within, by simp, rfl, rfl⟩
    | cons b y =>
      have blank : Text.isBlank b = true := ends'' b rfl
      rw [List.append_assoc] at tails
      obtain ⟨rfl, rfl⟩ :=
        eq_of_append_ends taken within ends' (endsRun_cons.mpr blank) tails
      exact Or.inr ⟨b, y, blank, rfl, rfl⟩

/-- Whether a secret starts in front of an equals sign does not depend on the value behind it. -/
theorem StartsSecret.of_value {x : List Char} (old : IsValue value)
    (starts : StartsSecret (x ++ '=' :: (value' ++ rest))) :
    StartsSecret (x ++ '=' :: (value ++ rest)) := by
  obtain ⟨word, c, more, inner, ink, same⟩ := startsSecret_iff.mp starts
  rcases inner.append_equals same.symm with ⟨rfl, -⟩ | ⟨y, rfl, tails⟩
  · exact ⟨_, ⟨word, value, inner, old, rfl⟩, rest, by simp⟩
  · refine startsSecret_iff.mpr ⟨word, c, ?_⟩
    cases y with
    | nil =>
      obtain ⟨rfl, -⟩ := List.cons.inj tails
      exact ⟨value ++ rest, inner, ink, by simp⟩
    | cons b y =>
      obtain ⟨rfl, -⟩ := List.cons.inj tails
      exact ⟨y ++ '=' :: (value ++ rest), inner, ink, by simp⟩

/-- A text that ends with a word does so behind a blank. -/
theorem EndsWord.of_append_cons {front y : List Char} {b : Char} (blank : Text.isBlank b = true)
    (ends : EndsWord (front ++ b :: y)) : EndsWord (b :: y) := by
  obtain ⟨word, inner, suffix⟩ := ends
  exact ⟨word, inner, (inner.ink.suffix_append_cons blank).mp suffix⟩

/-- **Secrets are replaced alike whatever the value of one of them is.** -/
theorem replaced_of_value {x : List Char} (word : EndsWord x) (old : IsValue value)
    (new : IsValue value') (ends : EndsRun rest)
    (replaced : Text.Replaced secretPart (x ++ '=' :: (value ++ rest)) t') :
    Text.Replaced secretPart (x ++ '=' :: (value' ++ rest)) t' := by
  generalize same : x ++ '=' :: (value ++ rest) = t at replaced
  -- a secret that is found before the one whose value changes takes in all of it, or none of it
  induction replaced generalizing x with
  | nil => simp at same
  | part found after ih =>
    obtain ⟨w, v, inner, inner', ends', rfl, rfl⟩ := found
    rw [List.append_assoc, List.cons_append] at same
    rcases inner.meets inner'.ink ends' old.ink ends same.symm with
      ⟨rfl, rfl, rfl⟩ | ⟨run, ink, rfl, rfl, rfl⟩ | ⟨b, y, blank, rfl, rfl⟩
    · have part := Text.Replaced.part ⟨w, value', inner, new, ends, rfl, rfl⟩ after
      simpa using part
    · have whole : IsValue (run ++ '=' :: value') := ⟨by simp, ink.append_equals new.ink⟩
      have part := Text.Replaced.part ⟨w, _, inner, whole, ends, rfl, rfl⟩ after
      simpa using part
    · have ends'' : EndsRun (b :: y ++ '=' :: (value' ++ rest)) := endsRun_cons.mpr blank
      rw [← List.cons_append, ← List.append_assoc] at word
      have part := Text.Replaced.part ⟨w, v, inner, inner', ends'', rfl, rfl⟩
        (ih (word.of_append_cons blank) rfl)
      simpa using part
  | other apart after ih =>
    rw [startsPart_secretPart] at apart
    cases x with
    | nil =>
      obtain ⟨_, inner, nothing⟩ := word
      exact absurd (List.suffix_nil.mp nothing) inner.ne_nil
    | cons b x =>
      obtain ⟨rfl, rfl⟩ := List.cons.inj same
      have apart' : ¬StartsSecret (b :: x ++ '=' :: (value' ++ rest)) := fun starts =>
        apart (starts.of_value old)
      refine .other (mt startsPart_secretPart.mp apart') (ih ?_ rfl)
      obtain ⟨w, inner, suffix⟩ := word
      rcases List.suffix_cons_iff.mp suffix with rfl | suffix
      · exact absurd ⟨_, ⟨_, value, inner, old, rfl⟩, rest, by simp⟩ apart
      · exact ⟨w, inner, suffix⟩

/-- **The value of a secret makes no difference to what is shown of a message**, whatever comes
before its word, even if that is another secret or an address, and whatever the values have in them,
even words, equals signs and addresses. -/
theorem redact_value {before word value value' after : String} (inner : IsWord word.toList)
    (old : IsValue value.toList) (new : IsValue value'.toList) (ends : EndsRun after.toList) :
    redact (before ++ word ++ "=" ++ value ++ after) =
      redact (before ++ word ++ "=" ++ value' ++ after) := by
  have ending : EndsWord (before ++ word).toList := by
    rw [String.toList_append]
    exact ⟨_, inner, List.suffix_append _ _⟩
  have hidden := (Text.replaced_iff finds_secret).mp
    (replaced_of_value ending old new ends ((Text.replaced_iff finds_secret).mpr rfl))
  have chars (v : String) : (before ++ word ++ "=" ++ v ++ after).toList =
      (before ++ word).toList ++ '=' :: (v.toList ++ after.toList) := by
    simp
  rw [redact, redact, chars, chars, hidden]

/-- A password in a message that has other words and another secret around it. -/
theorem redact_value_passWord :
    IsWord "PassWord".toList ∧ IsValue "p@h/secret=x".toList ∧ IsValue "q".toList ∧
      EndsRun " refused".toList ∧
      redact ("token= at http://u:key" ++ "PassWord" ++ "=" ++ "p@h/secret=x" ++ " refused") =
        redact ("token= at http://u:key" ++ "PassWord" ++ "=" ++ "q" ++ " refused") :=
  ⟨by decide, by decide, by decide, by decide,
    redact_value (by decide) (by decide) (by decide) (by decide)⟩

end Values

end DepGraph.Redaction
