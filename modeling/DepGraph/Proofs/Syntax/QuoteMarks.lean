import DepGraph.Proofs.Syntax.Spelling
import Mathlib.Data.List.Infix

/-!
# Quote marks at both ends

Trimming a text is meant to take a quote mark off either end (`DepGraph.Syntax.betweenMarks`) and to
touch nothing else (`DepGraph.Syntax.TouchesEnds`): what is left is a stretch of the text, at most
two characters shorter, and a text without a mark at its ends is left alone.

It does so exactly if the text does not **hide** a mark (`DepGraph.Syntax.HidesMark`): a mark right
in front of a line break at the end is taken out although it is not the last character, unless it is
the first one (`DepGraph.Syntax.touchesEnds_trimQuotes_iff`).
-/

namespace DepGraph.Syntax

variable {cs ts front : List Char} {c q : Char}

/-! ### What is between the marks -/

/-- A text without its first character, if that is a quote mark. -/
def dropMark : List Char → List Char
  | [] => []
  | c :: cs => if isQuoteMark c then cs else c :: cs

/-- A text without its last character, if that is a quote mark. -/
def dropLastMark (cs : List Char) : List Char := (dropMark cs.reverse).reverse

/-- What is **between** the quote marks at the ends of a text; between a single mark and itself
there is nothing. -/
def betweenMarks (cs : List Char) : List Char := dropLastMark (dropMark cs)

/-- What is left of a text **touches the ends** only. -/
structure TouchesEnds (cs ts : List Char) : Prop where
  /-- The first character is gone if it is a quote mark, and the last one if it is one. -/
  eq_between : ts = betweenMarks cs
  /-- What is left is a stretch of the text. -/
  stretch : ts <:+: cs
  /-- At most two characters are gone. -/
  length_le : cs.length ≤ ts.length + 2
  /-- Nothing is gone if there is a quote mark at neither end. -/
  bare : (∀ q ∈ cs.head?, isQuoteMark q = false) → (∀ q ∈ cs.getLast?, isQuoteMark q = false) →
    ts = cs

/-- A text **hides** a quote mark if there is one right in front of a line break at its end, other
than its first character. -/
def HidesMark (cs : List Char) : Prop :=
  ∃ c front q, isQuoteMark q = true ∧ cs = c :: (front ++ [q, '\n'])

/-- What follows a mark at the start is the end of the text. -/
theorem dropMark_suffix_self (cs : List Char) : dropMark cs <:+ cs := by
  cases cs with
  | nil => exact List.suffix_rfl
  | cons c cs =>
    rw [dropMark]
    split
    · exact List.suffix_cons c cs
    · exact List.suffix_rfl

theorem length_dropMark_le (cs : List Char) : cs.length ≤ (dropMark cs).length + 1 := by
  cases cs with
  | nil => exact Nat.zero_le _
  | cons c cs =>
    rw [dropMark]
    split
    · exact Nat.le_refl _
    · exact Nat.le_succ _

/-- Nothing is dropped from a text that starts otherwise. -/
theorem dropMark_of_bare (bare : ∀ q ∈ cs.head?, isQuoteMark q = false) : dropMark cs = cs := by
  cases cs with
  | nil => rfl
  | cons c cs => simp [dropMark, bare c rfl]

/-- What is in front of a mark at the end is the start of the text. -/
theorem dropLastMark_prefix_self (cs : List Char) : dropLastMark cs <+: cs := by
  rw [← List.reverse_suffix, dropLastMark, List.reverse_reverse]
  exact dropMark_suffix_self cs.reverse

theorem length_dropLastMark_le (cs : List Char) : cs.length ≤ (dropLastMark cs).length + 1 := by
  simpa [dropLastMark] using length_dropMark_le cs.reverse

/-- Nothing is dropped from a text that ends otherwise. -/
theorem dropLastMark_of_bare (bare : ∀ q ∈ cs.getLast?, isQuoteMark q = false) :
    dropLastMark cs = cs := by
  rw [dropLastMark, dropMark_of_bare (by simpa using bare), List.reverse_reverse]

@[simp] theorem dropLastMark_concat :
    dropLastMark (front ++ [q]) = if isQuoteMark q then front else front ++ [q] := by
  rw [dropLastMark, List.reverse_append, List.reverse_singleton, List.singleton_append, dropMark]
  split <;> simp

/-- **Taking out what is between the marks touches the ends only.** -/
theorem touchesEnds_iff : TouchesEnds cs ts ↔ ts = betweenMarks cs := by
  refine ⟨TouchesEnds.eq_between, ?_⟩
  rintro rfl
  refine ⟨rfl, ?_, ?_, fun first last => ?_⟩
  · exact (dropLastMark_prefix_self _).isInfix.trans (dropMark_suffix_self cs).isInfix
  · have front := length_dropMark_le cs
    have back := length_dropLastMark_le (dropMark cs)
    rw [betweenMarks]
    omega
  · rw [betweenMarks, dropMark_of_bare first, dropLastMark_of_bare last]

/-! ### What trimming takes out -/

/-- A text is trimmed at its end when a mark was dropped from its start. -/
theorem trimQuotes_eq (cs : List Char) : trimQuotes cs = dropEndQuote (dropMark cs) := by
  cases cs with
  | nil => rfl
  | cons c cs =>
    rw [trimQuotes, dropMark]
    split <;> rfl

/-- The end of a text is trimmed of its last mark exactly if there is none for a line break. -/
theorem dropEndQuote_eq_iff : dropEndQuote cs = dropLastMark cs ↔
    ∀ front q, cs = front ++ [q, '\n'] → isQuoteMark q = false := by
  rcases eq_append_cases cs with rfl | rfl | ⟨front, q, rfl⟩ | ⟨front, q, other, rfl⟩
  · exact iff_of_true rfl (by simp)
  · refine iff_of_true (by decide) fun front q same => ?_
    simpa using congrArg List.length same
  · have kept : dropLastMark (front ++ [q, '\n']) = front ++ [q, '\n'] :=
      dropLastMark_of_bare (by simpa using (by decide : isQuoteMark '\n' = false))
    rw [dropEndQuote_beforeBreak, kept]
    split
    next mark =>
      refine iff_of_false (fun same => ?_) fun other => ?_
      · simpa using congrArg List.length same
      · simp [other front q rfl] at mark
    next other =>
      refine iff_of_true rfl fun front' q' same => ?_
      obtain ⟨-, ends⟩ := List.append_inj' same rfl
      obtain ⟨rfl, -⟩ := List.cons.inj ends
      simpa using other
  · rw [dropEndQuote_last front other, dropLastMark_concat]
    refine iff_of_true rfl fun front' q' same => ?_
    have last : q = '\n' := by simpa using congrArg List.getLast? same
    exact absurd last other

/-- A mark is hidden exactly if it is in front of a line break when a mark was dropped from the
start. -/
theorem hidesMark_iff : HidesMark cs ↔
    ∃ front q, isQuoteMark q = true ∧ dropMark cs = front ++ [q, '\n'] := by
  constructor
  · rintro ⟨c, front, q, mark, rfl⟩
    rw [dropMark]
    split
    · exact ⟨front, q, mark, rfl⟩
    · exact ⟨c :: front, q, mark, rfl⟩
  · rintro ⟨front, q, mark, left⟩
    cases cs with
    | nil => simp [dropMark] at left
    | cons c cs =>
      rw [dropMark] at left
      split at left
      next first => exact ⟨c, front, q, mark, by rw [left]⟩
      next other =>
        cases front with
        | nil =>
          obtain ⟨rfl, -⟩ := List.cons.inj left
          exact absurd mark other
        | cons d front =>
          obtain ⟨rfl, rfl⟩ := List.cons.inj left
          exact ⟨c, front, q, mark, rfl⟩

/-- **A text is trimmed to what is between its marks exactly if it hides none.** -/
theorem trimQuotes_eq_betweenMarks_iff : trimQuotes cs = betweenMarks cs ↔ ¬HidesMark cs := by
  rw [trimQuotes_eq, betweenMarks, dropEndQuote_eq_iff, hidesMark_iff]
  constructor
  · rintro bare ⟨front, q, mark, left⟩
    simp [bare front q left] at mark
  · intro bare front q left
    by_contra mark
    exact bare ⟨front, q, by simpa using mark, left⟩

/-- **Trimming touches the ends of a text only, exactly if the text hides no quote mark.** The last
character in front of a line break is taken for the last one of the text: it is left out if it is a
mark, and the line break stays. -/
theorem touchesEnds_trimQuotes_iff (cs : List Char) :
    (TouchesEnds cs (trimQuotes cs) ↔ ¬HidesMark cs) ∧
      ∀ c front q, trimQuotes (c :: (front ++ [q, '\n'])) =
        dropMark (c :: (front ++ if isQuoteMark q then ['\n'] else [q, '\n'])) := by
  refine ⟨touchesEnds_iff.trans trimQuotes_eq_betweenMarks_iff, fun c front q => ?_⟩
  rw [trimQuotes, dropMark]
  split
  · rw [dropEndQuote_beforeBreak]
    split <;> rfl
  · rw [← List.cons_append, dropEndQuote_beforeBreak]
    split <;> rfl

/-- **Not every text is touched at its ends only**: a mark in front of a line break is taken out of
the middle. -/
theorem not_forall_touchesEnds : ¬∀ cs, TouchesEnds cs (trimQuotes cs) := by
  intro all
  have same : trimQuotes ['a', '\'', '\n'] = betweenMarks ['a', '\'', '\n'] :=
    (all _).eq_between
  exact absurd same (by decide)

end DepGraph.Syntax
