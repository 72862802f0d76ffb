import DepGraph.Ignore.Rules
import DepGraph.Proofs.Ignore.Below
import Mathlib.Data.List.Induction

/-!
# What ignore rules say

Of the patterns that match a path the last one decides (`DepGraph.Ignore.Rules.verdict_eq`), so that
what an operator adds is asked first, and the fixed patterns only where nothing that was added
matches (`DepGraph.Ignore.Rules.verdict_append`).

The fixed patterns ignore what lies below a directory of a fixed name
(`DepGraph.Ignore.verdict_fixed`), but only if the directory is **in sight** from the root, which
it is not if there is a line break in the names above it (`DepGraph.Ignore.InSight`). Together this
tells what passes the rules (`DepGraph.Ignore.Passes`).
-/

namespace DepGraph

/-! ### Slashes at the end -/

namespace Path

/-- A path that ends in something else keeps its end. -/
theorem dropEndSlashes_append {front rest : List Char} (ne : rest ≠ []) (plain : '/' ∉ rest) :
    dropEndSlashes (front ++ rest) = front ++ rest := by
  rcases List.eq_nil_or_concat rest with rfl | ⟨rest, a, rfl⟩
  · exact absurd rfl ne
  · have other : a ≠ '/' := by
      rintro rfl
      exact plain (by simp)
    simp [dropEndSlashes, other]

/-- The path of a directory, with the slash that tells that it is one, has an empty last name. -/
theorem dropEndSlashes_ofNames {dirs : List String} (ne : dirs ≠ [])
    (proper : ∀ n ∈ dirs, IsName n) :
    dropEndSlashes (ofNames dirs).toList ++ ['/'] = (ofNames (dirs ++ [""])).toList := by
  have ends : dropEndSlashes (ofNames dirs).toList = (ofNames dirs).toList := by
    rcases List.eq_nil_or_concat dirs with rfl | ⟨front, last, rfl⟩
    · exact absurd rfl ne
    · have name := proper last (by simp)
      have filled : last.toList ≠ [] := by simpa using name.ne_empty
      obtain ⟨before, chars⟩ : ∃ before, (ofNames (front.concat last)).toList =
          before ++ last.toList := by
        rcases eq_or_ne front [] with rfl | more
        · exact ⟨[], by simp [ofNames, joined]⟩
        · have chars : front.map String.toList ≠ [] := by simpa using more
          exact ⟨joined (front.map String.toList) ++ ['/'], by simp [ofNames, joined_concat chars]⟩
      rw [chars, dropEndSlashes_append filled name.noSlash]
  have chars : dirs.map String.toList ≠ [] := by simpa using ne
  rw [ends]
  simp [ofNames, joined_concat chars]

end Path

namespace Ignore

open DepGraph.Path (IsName joined ofNames)

/-! ### The last pattern that matches -/

section LastMatch

variable {ps qs : List Pattern} {p : Pattern} {path : List Char}

/-- The **last** of some patterns that matches a path. -/
def lastMatch? (ps : List Pattern) (path : List Char) : Option Pattern :=
  ps.reverse.find? (·.holds path)

/-- What matches among the later patterns comes after all that does among the earlier ones. -/
theorem lastMatch?_append :
    lastMatch? (ps ++ qs) path = (lastMatch? qs path).or (lastMatch? ps path) := by
  rw [lastMatch?, List.reverse_append, List.find?_append]
  rfl

/-- A pattern at the end is the last one if it matches. -/
theorem lastMatch?_concat :
    lastMatch? (ps ++ [p]) path = if p.holds path then some p else lastMatch? ps path := by
  rw [lastMatch?_append]
  cases h : p.holds path <;> simp [lastMatch?, h]

/-- Nothing matches where no pattern does. -/
theorem lastMatch?_eq_none : lastMatch? ps path = none ↔ ∀ p ∈ ps, p.holds path = false := by
  simp [lastMatch?]

/-- The last pattern that matches is one of the patterns. -/
theorem mem_of_lastMatch?_eq_some (h : lastMatch? ps path = some p) : p ∈ ps :=
  List.mem_reverse.mp (List.mem_of_find?_eq_some h)

/-- The last pattern that matches does match. -/
theorem holds_of_lastMatch?_eq_some (h : lastMatch? ps path = some p) : p.holds path = true := by
  simpa using List.find?_some h

/-- **The last pattern that matches decides.** -/
theorem Rules.verdict_eq :
    (⟨ps⟩ : Rules).verdict path = (lastMatch? ps path).elim false (!·.negated) := by
  induction ps using List.reverseRecOn with
  | nil => rfl
  | append_singleton ps p ih =>
    have before : (⟨ps ++ [p]⟩ : Rules).verdict path =
        if p.holds path then !p.negated else (⟨ps⟩ : Rules).verdict path := by
      simp only [Rules.verdict, List.foldl_append, List.foldl_cons, List.foldl_nil]
    rw [before, ih, lastMatch?_concat]
    split <;> rfl

/-- **The earlier patterns decide only where no later one matches.** -/
theorem Rules.verdict_append :
    (⟨ps ++ qs⟩ : Rules).verdict path =
      (lastMatch? qs path).elim ((⟨ps⟩ : Rules).verdict path) (!·.negated) := by
  rw [Rules.verdict_eq, Rules.verdict_eq, lastMatch?_append]
  cases lastMatch? qs path <;> rfl

/-- Patterns of which none is negated ignore what one of them matches. -/
theorem Rules.verdict_eq_true_iff (ps : List Pattern) (plain : ∀ p ∈ ps, p.negated = false) :
    (⟨ps⟩ : Rules).verdict path = true ↔ ∃ p ∈ ps, p.holds path = true := by
  rw [Rules.verdict_eq]
  cases h : lastMatch? ps path with
  | none => simpa using lastMatch?_eq_none.mp h
  | some p =>
    have holds : p.holds path = true := holds_of_lastMatch?_eq_some h
    have mem := mem_of_lastMatch?_eq_some h
    simpa [plain p mem] using ⟨p, mem, holds⟩

end LastMatch

/-! ### The fixed patterns -/

section Fixed

variable {dirs : List String} {last : String}

/-- The **names** of the directories that are left out of every walk. -/
def fixedNames : List String := [".git", "node_modules"]

/-- The fixed lines are the patterns of the fixed names. -/
theorem ofLines_defaultLines : ofLines defaultLines = .ok (fixedNames.map Pattern.below) := by
  decide +kernel

/-- A directory of a fixed name is **in sight** from the root: there is no line break in the names
above it. -/
def InSight (dirs : List String) : Prop :=
  ∃ above name more, dirs = above ++ name :: more ∧ name ∈ fixedNames ∧
    ∀ n ∈ above, '\n' ∉ n.toList

/-- The directory that stands for itself hides nothing. -/
theorem inSight_cons_here : InSight ("." :: dirs) ↔ InSight dirs := by
  constructor
  · rintro ⟨above, name, more, split, fixed, line⟩
    cases above with
    | nil =>
      obtain ⟨rfl, -⟩ := List.cons.inj split
      exact absurd fixed (by decide)
    | cons n above =>
      obtain ⟨-, split⟩ := List.cons.inj split
      exact ⟨above, name, more, split, fixed, fun m hm => line m (List.mem_cons_of_mem _ hm)⟩
  · rintro ⟨above, name, more, rfl, fixed, line⟩
    exact ⟨"." :: above, name, more, rfl, fixed, List.forall_mem_cons.mpr ⟨by decide, line⟩⟩

/-- What starts with a component that leads somewhere counts as it is. -/
theorem relative_append {cs rest : List Char} (ne : cs ≠ []) (plain : '/' ∉ cs)
    (other : cs ≠ Path.here) : Rules.relative (cs ++ rest) = cs ++ rest := by
  match cs with
  | [a] =>
    unfold Rules.relative
    split <;> simp_all [Path.here]
  | a :: b :: cs =>
    unfold Rules.relative
    split <;> simp_all

/-- At the front of a path only the directory that stands for itself does not count. -/
theorem relative_ofNames (proper : ∀ n ∈ dirs, IsName n) (plain : '/' ∉ last.toList) :
    ∃ kept, (kept = dirs ∨ dirs = "." :: kept) ∧
      Rules.relative (ofNames (dirs ++ [last])).toList = (ofNames (kept ++ [last])).toList := by
  cases dirs with
  | nil =>
    refine ⟨[], Or.inl rfl, ?_⟩
    simp only [ofNames, List.nil_append, List.map_cons, List.map_nil, joined, String.toList_ofList]
    unfold Rules.relative
    split <;> simp_all
  | cons d dirs =>
    have first := proper d List.mem_cons_self
    rcases eq_or_ne d "." with rfl | other
    · exact ⟨dirs, Or.inr rfl, by simp [ofNames, Path.joined_cons, Rules.relative]⟩
    · refine ⟨d :: dirs, Or.inl rfl, ?_⟩
      have chars : (ofNames (d :: dirs ++ [last])).toList =
          d.toList ++ '/' :: (ofNames (dirs ++ [last])).toList := by
        simp [ofNames, Path.joined_cons]
      rw [chars]
      refine relative_append ?_ first.noSlash ?_
      · simpa using first.ne_empty
      · exact fun same => other (String.toList_inj.mp same)

/-- **The fixed patterns ignore what lies below a directory of a fixed name that is in sight.** -/
theorem verdict_fixed (proper : ∀ n ∈ dirs, IsName n) (plain : '/' ∉ last.toList) :
    (⟨fixedNames.map Pattern.below⟩ : Rules).verdict
        (Rules.relative (ofNames (dirs ++ [last])).toList) = true ↔ InSight dirs := by
  -- the path may have lost a first name that stands for the root itself, which hides nothing
  obtain ⟨kept, from?, text⟩ := relative_ofNames proper plain
  have inner : ∀ n ∈ kept, IsName n := fun n hn => by
    rcases from? with rfl | rfl
    · exact proper n hn
    · exact proper n (List.mem_cons_of_mem _ hn)
  have sight : InSight dirs ↔ InSight kept := by
    rcases from? with rfl | rfl
    · rfl
    · exact inSight_cons_here
  have slashFree : ∀ name ∈ fixedNames, '/' ∉ name.toList := by decide
  rw [text, sight, Rules.verdict_eq_true_iff _ (by decide)]
  constructor
  · rintro ⟨_, hp, holds⟩
    obtain ⟨name, fixed, rfl⟩ := List.mem_map.mp hp
    obtain ⟨above, more, split, line⟩ :=
      (Pattern.holds_below_ofNames inner plain (slashFree name fixed)).mp holds
    exact ⟨above, name, more, split, fixed, line⟩
  · rintro ⟨above, name, more, split, fixed, line⟩
    refine ⟨_, List.mem_map_of_mem fixed, ?_⟩
    exact (Pattern.holds_below_ofNames inner plain (slashFree name fixed)).mpr
      ⟨above, more, split, line⟩

end Fixed

/-! ### Extra patterns -/

section Extra

variable {lines lines' : List String} {ps extra : List Pattern} {dirs : List String} {name : String}

/-- The patterns of lines come one after the other. -/
theorem ofLines_append (first : ofLines lines = .ok ps) :
    ofLines (lines ++ lines') = (ps ++ ·) <$> ofLines lines' := by
  induction lines generalizing ps with
  | nil =>
    obtain rfl := Except.ok.inj first
    cases h : ofLines lines' <;> simp [h, Functor.map, Except.map]
  | cons line lines ih =>
    rw [List.cons_append, ofLines]
    rw [ofLines] at first
    cases hl : ofLine line with
    | error refusal => simp [hl] at first
    | ok pattern? =>
      cases pattern? with
      | none =>
        simp only [hl] at first ⊢
        exact ih first
      | some p =>
        simp only [hl] at first ⊢
        cases hr : ofLines lines with
        | error refusal => simp [hr, Functor.map, Except.map] at first
        | ok rest =>
          obtain rfl : p :: rest = ps := by simpa [hr, Functor.map, Except.map] using first
          rw [ih hr]
          cases h : ofLines lines' <;> simp [Functor.map, Except.map]

/-- The **rules with extra patterns**, which come after the fixed ones. -/
def Rules.extended (extra : List Pattern) : Rules := ⟨fixedNames.map Pattern.below ++ extra⟩

/-- Lines that are patterns make rules. -/
theorem Rules.ofExtra_eq_ok (valid : ofLines lines = .ok extra) :
    Rules.ofExtra lines = .ok (.extended extra) := by
  rw [Rules.ofExtra, ofLines_append ofLines_defaultLines, valid]
  rfl

/-- Lines make no other rules. -/
theorem Rules.eq_extended {rules : Rules} (valid : ofLines lines = .ok extra)
    (compiled : Rules.ofExtra lines = .ok rules) : rules = .extended extra :=
  Except.ok.inj (compiled.symm.trans (Rules.ofExtra_eq_ok valid))

/-- Directories and what has this name in the last of them **pass** some extra patterns: the last
extra pattern that matches takes them back in, or none matches and no directory of a fixed name is
in sight. The last directory itself passes with an empty name. -/
def Passes (extra : List Pattern) (dirs : List String) (name : String) : Prop :=
  match lastMatch? extra (Rules.relative (ofNames (dirs ++ [name])).toList) with
  | some p => p.negated = true
  | none => ¬InSight dirs

/-- **Below a directory of a fixed name that is in sight only what a pattern takes back in passes.**
-/
theorem Passes.exists_negated (passes : Passes extra dirs name) (sight : InSight dirs) :
    ∃ p ∈ extra, p.negated = true ∧
      p.holds (Rules.relative (ofNames (dirs ++ [name])).toList) = true := by
  rw [Passes] at passes
  split at passes
  next p last => exact ⟨p, mem_of_lastMatch?_eq_some last, passes, holds_of_lastMatch?_eq_some last⟩
  next => exact absurd sight passes

/-- The rules do not ignore what passes. -/
theorem Rules.verdict_extended_eq_false (proper : ∀ n ∈ dirs, IsName n)
    (plain : '/' ∉ name.toList) :
    (Rules.extended extra).verdict (Rules.relative (ofNames (dirs ++ [name])).toList) = false ↔
      Passes extra dirs name := by
  rw [Rules.extended, Rules.verdict_append, Passes]
  cases lastMatch? extra (Rules.relative (ofNames (dirs ++ [name])).toList) with
  | none => simp [← verdict_fixed proper plain]
  | some p => simp

/-- **A file is not ignored if it passes.** -/
theorem Rules.ignoresFile_eq_false (proper : ∀ n ∈ dirs ++ [name], IsName n) :
    (Rules.extended extra).ignoresFile (ofNames (dirs ++ [name])) = false ↔
      Passes extra dirs name := by
  obtain ⟨proper, last⟩ := List.forall_mem_append.mp proper
  exact Rules.verdict_extended_eq_false proper (last name (List.mem_singleton_self _)).noSlash

/-- **A directory is not ignored if it passes.** -/
theorem Rules.ignoresDirectory_eq_false (ne : dirs ≠ []) (proper : ∀ n ∈ dirs, IsName n) :
    (Rules.extended extra).ignoresDirectory (ofNames dirs) = false ↔ Passes extra dirs "" := by
  rw [Rules.ignoresDirectory, Path.dropEndSlashes_ofNames ne proper]
  exact Rules.verdict_extended_eq_false proper (by decide)

end Extra

end Ignore

end DepGraph
