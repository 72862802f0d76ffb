import DepGraph.Proofs.Redaction.Logins

/-!
# Messages that are redacted already

A message is **redacted** (`DepGraph.Redaction.IsRedacted`) if the value of each secret in it is the
mark, and no address in it opens with a pair. What redacting a message comes to is redacted, and a
message that is redacted stays as it is. So redacting is a projection: to redact twice is to redact
once (`DepGraph.Redaction.redact_redact`).

Either pass might undo what was gained. In a text whose secrets were replaced, a secret does not
start where none started before (`DepGraph.Redaction.startsSecret_of_replaced`), as a word is kept
with the equals sign behind it. Replacing the openings of addresses then leaves the secrets as they
are (`DepGraph.Redaction.value_eq_mark_of_replaced`): it keeps all that is in front of a colon, and
neither a word nor the mark has a colon in it.
-/

namespace DepGraph.Redaction

variable {user word value more rest x y t t' : List Char} {c : Char}

/-! ### Redacted texts -/

/-- In a text the secrets are **marked** if the value of each is the mark. -/
def IsMarked (t : List Char) : Prop :=
  ∀ word value rest, IsWord word → IsValue value → EndsRun rest →
    word ++ '=' :: (value ++ rest) <:+ t → value = mark

/-- A text is **redacted** if its secrets are marked and no address in it opens with a pair. -/
structure IsRedacted (t : List Char) : Prop where
  /-- The secrets are marked. -/
  marked : IsMarked t
  /-- No address opens with a pair. -/
  noPair : ∀ user, IsUser user → IsPair user → ¬opening user <:+: t

/-- The mark is no pair. -/
theorem not_isPair_mark : ¬IsPair mark := by
  rintro ⟨name, password, -, -, -, same⟩
  have colon : ':' ∈ mark := by
    rw [same]
    simp
  exact absurd colon (by decide)

/-- The mark is a value. -/
theorem isValue_mark : IsValue mark := by decide

/-- The last character of a text is in everything that ends it. -/
theorem mem_of_suffix (there : y ≠ []) (suffix : y <:+ x) (last : x.getLast? = some c) : c ∈ y := by
  obtain ⟨front, rfl⟩ := suffix
  rw [List.getLast?_append_of_ne_nil front there] at last
  exact List.mem_of_getLast? last

/-- In the end of a marked text the secrets are marked. -/
theorem IsMarked.of_suffix (marked : IsMarked t) (suffix : t' <:+ t) : IsMarked t' :=
  fun _ _ _ inner inner' ends within => marked _ _ _ inner inner' ends (within.trans suffix)

/-- What has a bracket or an at sign in it, but no equals sign, is not in front of a secret's
value. -/
theorem IsWord.not_append (inner : IsWord word) (plain : '=' ∉ x) (hc : c ∈ x)
    (sign : c ∈ [']', '@']) : word ++ '=' :: more ≠ x ++ rest := by
  intro same
  have noSign : c ∉ word := fun within => by
    have letter : small c ∈ words.flatten :=
      letter_mem_of_mem_words inner _ (List.mem_map_of_mem within)
    have apart : [']', '@'].all (small · ∉ words.flatten) = true := by decide
    exact of_decide_eq_true (List.all_eq_true.mp apart c sign) letter
  rcases List.append_eq_append_iff.mp same with ⟨a, rfl, tails⟩ | ⟨a, rfl, -⟩
  · cases a with
    | nil => exact noSign (by simpa using hc)
    | cons b a =>
      obtain ⟨rfl, -⟩ := List.cons.inj tails
      exact plain (by simp)
  · exact noSign (List.mem_append_left a hc)

/-- What ends a text in two parts is in the second part, or starts in the first one. -/
theorem suffix_append_cases (within : t <:+ x ++ rest) :
    t <:+ rest ∨ ∃ y, y ≠ [] ∧ y <:+ x ∧ t = y ++ rest := by
  rcases List.suffix_or_suffix_of_suffix within (List.suffix_append x rest) with inside | beyond
  · exact .inl inside
  · obtain ⟨y, rfl⟩ := beyond
    cases y with
    | nil => exact .inl List.suffix_rfl
    | cons b y =>
      obtain ⟨front, same⟩ := within
      rw [← List.append_assoc, List.append_cancel_right_eq] at same
      exact .inr ⟨b :: y, by simp, ⟨front, same⟩, rfl⟩

/-! ### Secrets that were replaced -/

/-- There is no equals sign in a word. -/
theorem IsWord.noEquals (inner : IsWord word) : '=' ∉ word := fun within =>
  (inner.apart within).2 (by simp)

/-- A value is no end of a run. -/
theorem IsValue.not_endsRun (inner : IsValue value) : ¬EndsRun (value ++ rest) := by
  obtain ⟨c, value, rfl⟩ := List.exists_cons_of_ne_nil inner.ne_nil
  rw [List.cons_append, endsRun_cons, inner.ink c List.mem_cons_self]
  decide

/-- Replacing secrets keeps an equals sign, what is in front of it, and that something is behind
it. -/
theorem exists_equals_of_replaced (plain : '=' ∉ x) (filled : ¬EndsRun more)
    (replaced : Text.Replaced secretPart t (x ++ '=' :: more)) :
    ∃ rest, ¬EndsRun rest ∧ t = x ++ '=' :: rest := by
  generalize same : x ++ '=' :: more = t' at replaced
  induction replaced generalizing x with
  | nil => simp at same
  | part found after ih =>
    obtain ⟨word, value, inner, inner', ends, rfl, rfl⟩ := found
    rw [List.append_assoc, List.cons_append] at same
    rcases inner.append_equals same.symm with ⟨rfl, -⟩ | ⟨y, rfl, -⟩
    · exact ⟨_, inner'.not_endsRun, List.append_assoc _ _ _⟩
    · simp at plain
  | @other c t t' apart after ih =>
    cases x with
    | nil =>
      obtain ⟨rfl, rfl⟩ := List.cons.inj same
      exact ⟨t, fun ends => filled (endsRun_of_replaced after ends), rfl⟩
    | cons b x =>
      obtain ⟨rfl, tails⟩ := List.cons.inj same
      obtain ⟨rest, filled', rfl⟩ := ih (fun within => plain (List.mem_cons_of_mem _ within)) tails
      exact ⟨rest, filled', rfl⟩

/-- **No secret starts where none started before.** -/
theorem startsSecret_of_replaced (replaced : Text.Replaced secretPart t t')
    (starts : StartsSecret t') : StartsSecret t := by
  obtain ⟨_, ⟨word, value, inner, inner', rfl⟩, rest, rfl⟩ := starts
  rw [List.append_assoc, List.cons_append] at replaced
  obtain ⟨more, filled, rfl⟩ := exists_equals_of_replaced inner.noEquals inner'.not_endsRun replaced
  obtain ⟨run, rest, rfl, ink, ends⟩ := exists_run more
  have there : run ≠ [] := by
    rintro rfl
    exact filled ends
  exact ⟨_, ⟨word, run, inner, ⟨there, ink⟩, rfl⟩, rest, by simp⟩

/-- **Where secrets were replaced, they are marked.** -/
theorem isMarked_of_replaced (replaced : Text.Replaced secretPart t t') : IsMarked t' := by
  induction replaced with
  | nil =>
    intro word value rest inner _ _ within
    simp at within
  | part found after ih =>
    intro word value rest inner inner' ends within
    obtain ⟨word', value', known, -, ends', rfl, rfl⟩ := found
    rcases suffix_append_cases within with within | ⟨y, there, suffix, same⟩
    · exact ih word value rest inner inner' ends within
    · -- a secret that starts within the one that was replaced does so in the word of that
      rcases suffix_append_cases suffix with behind | ⟨z, -, front, rfl⟩
      · rcases List.suffix_cons_iff.mp behind with rfl | behind
        · obtain ⟨c, word, rfl⟩ := List.exists_cons_of_ne_nil inner.ne_nil
          obtain ⟨rfl, -⟩ := List.cons.inj same
          exact absurd List.mem_cons_self inner.noEquals
        · have plain : '=' ∉ y := fun equals => absurd (behind.subset equals) (by decide)
          have bracket : ']' ∈ y := mem_of_suffix there behind rfl
          exact absurd same (inner.not_append plain bracket (by simp))
      · rw [List.append_assoc, List.cons_append] at same
        rcases inner.append_equals same with ⟨rfl, tails⟩ | ⟨y, rfl, -⟩
        · have ends'' := endsRun_of_replaced after ends'
          exact (eq_of_append_ends inner'.ink isValue_mark.ink ends ends'' tails).1
        · exact absurd (front.subset (List.mem_append_right _ List.mem_cons_self)) known.noEquals
  | other apart after ih =>
    intro word value rest inner inner' ends within
    rcases List.suffix_cons_iff.mp within with same | within
    · have starts : StartsSecret (word ++ '=' :: (value ++ rest)) :=
        ⟨_, ⟨word, value, inner, inner', rfl⟩, rest, by simp⟩
      rw [same] at starts
      exact absurd (startsPart_secretPart.mpr
        (startsSecret_of_replaced (.other apart after) starts)) apart
    · exact ih word value rest inner inner' ends within

/-! ### Addresses that were replaced -/

/-- Replacing openings keeps the first character, so that a run ends in front of it or not. -/
theorem endsRun_iff_of_replaced (replaced : Text.Replaced loginPart t t') :
    EndsRun t' ↔ EndsRun t := by
  cases replaced with
  | nil => rfl
  | part found after =>
    obtain ⟨user, -, -, rfl, rfl⟩ := found
    rfl
  | other apart after => rfl

/-- A character other than a colon stays where it is. -/
theorem replaced_cons_iff (plain : c ≠ ':') :
    Text.Replaced loginPart (c :: t) (c :: t') ↔ Text.Replaced loginPart t t' := by
  have apart : ¬Text.StartsPart loginPart (c :: t) := by
    rintro ⟨_, _, rest, ⟨user, -, -, rfl, rfl⟩, same⟩
    exact plain (List.cons.inj same).1
  refine ⟨fun replaced => ?_, .other apart⟩
  generalize same : c :: t = s at replaced
  generalize same' : c :: t' = s' at replaced
  cases replaced with
  | nil => cases same
  | part found after =>
    obtain ⟨user, -, -, rfl, rfl⟩ := found
    exact absurd (List.cons.inj same).1 plain
  | other _ after =>
    obtain ⟨rfl, rfl⟩ := List.cons.inj same
    obtain ⟨-, rfl⟩ := List.cons.inj same'
    exact after

/-- Characters other than colons stay where they are. -/
theorem replaced_append_iff (plain : ':' ∉ x) :
    Text.Replaced loginPart (x ++ t) (x ++ t') ↔ Text.Replaced loginPart t t' := by
  induction x with
  | nil => rfl
  | cons c x ih =>
    rw [List.mem_cons, not_or] at plain
    rw [List.cons_append, List.cons_append, replaced_cons_iff (Ne.symm plain.1), ih plain.2]

/-- What is in front of a colon is in both texts if it is in one of them. -/
theorem prefix_of_replaced (plain : ':' ∉ x) (replaced : Text.Replaced loginPart t t') :
    x <+: t' ↔ x <+: t := by
  induction x generalizing t t' with
  | nil => simp
  | cons c x ih =>
    rw [List.mem_cons, not_or] at plain
    cases replaced with
    | nil => rfl
    | part found after =>
      obtain ⟨user, -, -, rfl, rfl⟩ := found
      refine iff_of_false (fun start => ?_) fun start => ?_
      · exact plain.1 (List.cons_prefix_cons.mp start).1.symm
      · exact plain.1 (List.cons_prefix_cons.mp start).1.symm
    | other apart after => rw [List.cons_prefix_cons, List.cons_prefix_cons, ih plain.2 after]

/-- **A secret in a text whose addresses were replaced was there before**, with a value that is the
mark if the other one is. -/
theorem value_eq_mark_of_replaced (marked : IsMarked t) (inner : IsWord word)
    (inner' : IsValue value) (ends : EndsRun rest)
    (replaced : Text.Replaced loginPart t (word ++ '=' :: (value ++ rest))) : value = mark := by
  have noColon : ':' ∉ word ++ ['='] := by
    simpa using fun within => (inner.apart within).2 (by simp)
  have noColon' : ':' ∉ mark := by decide
  obtain ⟨more, rfl⟩ : word ++ ['='] <+: t := by
    rw [← prefix_of_replaced noColon replaced]
    exact ⟨value ++ rest, by simp⟩
  have values : Text.Replaced loginPart more (value ++ rest) := by
    rw [← replaced_append_iff noColon]
    simpa using replaced
  -- what was there before is a value too, and therefore the mark
  obtain ⟨run, rest', rfl, ink, ends'⟩ := exists_run more
  have there : run ≠ [] := by
    rintro rfl
    exact inner'.not_endsRun ((endsRun_iff_of_replaced values).mpr ends')
  obtain rfl : run = mark := marked word run rest' inner ⟨there, ink⟩ ends' (by simp)
  obtain ⟨rest'', same⟩ := (prefix_of_replaced noColon' values).mpr (List.prefix_append _ _)
  rw [← same, replaced_append_iff noColon'] at values
  have ends'' := (endsRun_iff_of_replaced values).mpr ends'
  exact (eq_of_append_ends inner'.ink isValue_mark.ink ends ends'' same.symm).1

/-- **Where addresses are replaced, secrets stay marked.** -/
theorem IsMarked.of_replaced (marked : IsMarked t) (replaced : Text.Replaced loginPart t t') :
    IsMarked t' := by
  induction replaced with
  | nil => exact marked
  | part found after ih =>
    intro word value rest inner inner' ends within
    obtain ⟨user, -, -, rfl, rfl⟩ := found
    rcases suffix_append_cases within with within | ⟨y, there, suffix, same⟩
    · exact ih (marked.of_suffix (List.suffix_append _ _)) word value rest inner inner' ends within
    · have plain : '=' ∉ y := fun equals => absurd (suffix.subset equals) (by decide)
      have sign : '@' ∈ y := mem_of_suffix there suffix rfl
      exact absurd same (inner.not_append plain sign (by simp))
  | @other c t t' apart after ih =>
    intro word value rest inner inner' ends within
    rcases List.suffix_cons_iff.mp within with same | within
    · exact value_eq_mark_of_replaced marked inner inner' ends (same ▸ .other apart after)
    · exact ih (marked.of_suffix (List.suffix_cons c t)) word value rest inner inner' ends within

/-! ### Messages -/

/-- Marked secrets are replaced by themselves. -/
theorem IsMarked.replaced (marked : IsMarked t) : Text.Replaced secretPart t t := by
  refine Text.replaced_self finds_secret ?_
  rintro _ _ rest ⟨word, value, inner, inner', ends, rfl, rfl⟩ suffix
  rw [List.append_assoc, List.cons_append] at suffix
  rw [marked word value rest inner inner' ends suffix]

/-- Where no address opens with a pair, none is replaced. -/
theorem IsRedacted.replaced (redacted : IsRedacted t) : Text.Replaced loginPart t t := by
  refine Text.replaced_self finds_login ?_
  rintro _ _ rest ⟨user, inner, pair, rfl, rfl⟩ suffix
  exact absurd ((List.prefix_append _ _).isInfix.trans suffix.isInfix)
    (redacted.noPair user inner pair)

/-- **What redacting a message comes to is redacted.** -/
theorem isRedacted_redact (message : String) : IsRedacted (redact message).toList := by
  obtain ⟨t, secrets, logins⟩ := exists_replaced message
  refine ⟨(isMarked_of_replaced secrets).of_replaced logins, fun user inner pair opens => ?_⟩
  have other : user ≠ mark := by
    rintro rfl
    exact not_isPair_mark pair
  exact ((opening_infix_iff_of_replaced inner other logins).mp opens).2 pair

/-- **A message that is redacted stays as it is.** -/
theorem redact_of_isRedacted {message : String} (redacted : IsRedacted message.toList) :
    redact message = message := by
  rw [redact, ← (Text.replaced_iff finds_secret).mp redacted.marked.replaced,
    ← (Text.replaced_iff finds_login).mp redacted.replaced, String.ofList_toList]

/-- **To redact a message twice is to redact it once.** The messages that stay as they are when they
are redacted are those in which each secret has the mark for its value and no address opens with a
pair. -/
theorem redact_redact (message : String) :
    redact (redact message) = redact message ∧
      (redact message = message ↔ IsRedacted message.toList) := by
  refine ⟨redact_of_isRedacted (isRedacted_redact message), fun same => ?_, redact_of_isRedacted⟩
  rw [← same]
  exact isRedacted_redact message

end DepGraph.Redaction
