import DepGraph.Proofs.Ignore.Verdict

/-!
# The fixed rules

Rules to which nothing is added ignore a directory if one of the names on the way to it, its own
included, is a fixed one, and a file if one of the names above it is. A name has to be the fixed one
as it stands: whatever else is in the names makes no difference, with one exception. If there is a
line break above the first fixed name, it is **out of sight** (`DepGraph.Ignore.OutOfSight`), and
neither the directory of this name nor anything below it is ignored.

So the fixed rules ignore nothing but what they should, and all of it that is not out of sight
(`DepGraph.Ignore.ignores_fixed_iff`).
-/

namespace DepGraph

namespace Ignore

open DepGraph.Path (IsName names ofNames)

section Fixed

variable {dirs : List String} {path : String}

/-- One of some names is a **fixed** one. -/
def HasFixed (dirs : List String) : Prop := ∃ n ∈ dirs, n ∈ fixedNames

/-- The first fixed name among some names is **out of sight** if there is a line break above it. -/
def OutOfSight (dirs : List String) : Prop :=
  ∃ above name more, dirs = above ++ name :: more ∧ name ∈ fixedNames ∧
    (∀ n ∈ above, n ∉ fixedNames) ∧ ∃ n ∈ above, '\n' ∈ n.toList

/-- Where there are fixed names one of them is the first. -/
theorem HasFixed.exists_first (fixed : HasFixed dirs) :
    ∃ above name more, dirs = above ++ name :: more ∧ name ∈ fixedNames ∧
      ∀ n ∈ above, n ∉ fixedNames := by
  have found : (dirs.find? fun n => decide (n ∈ fixedNames)).isSome := by
    obtain ⟨n, hn, fixed⟩ := fixed
    exact List.find?_isSome.mpr ⟨n, hn, decide_eq_true fixed⟩
  obtain ⟨name, first⟩ := Option.isSome_iff_exists.mp found
  obtain ⟨fixed, above, more, split, others⟩ := List.find?_eq_some_iff_append.mp first
  exact ⟨above, name, more, split, of_decide_eq_true fixed, fun n hn => by simpa using others n hn⟩

/-- **A fixed name is in sight exactly if there is one and the first is not out of sight.** -/
theorem inSight_iff : InSight dirs ↔ HasFixed dirs ∧ ¬OutOfSight dirs := by
  constructor
  · rintro ⟨above, name, more, rfl, fixed, line⟩
    refine ⟨⟨name, by simp, fixed⟩, ?_⟩
    rintro ⟨above', name', more', split, -, others, n, hn, broken⟩
    -- the first fixed name comes before the one that is in sight, or is that one
    rcases List.append_eq_append_iff.mp split with ⟨between, rfl, rest⟩ | ⟨between, rfl, -⟩
    · cases between with
      | nil => exact line n (by simpa using hn) broken
      | cons m between =>
        obtain ⟨rfl, -⟩ := List.cons.inj rest
        exact others name (by simp) fixed
    · exact line n (List.mem_append_left _ hn) broken
  · rintro ⟨fixed, seen⟩
    obtain ⟨above, name, more, split, first, others⟩ := fixed.exists_first
    exact ⟨above, name, more, split, first, fun n hn broken =>
      seen ⟨above, name, more, split, first, others, n, hn, broken⟩⟩

/-- Where names have no line break nothing is out of sight. -/
theorem not_outOfSight (line : ∀ n ∈ dirs, '\n' ∉ n.toList) : ¬OutOfSight dirs := by
  rintro ⟨above, name, more, rfl, -, -, n, hn, broken⟩
  exact line n (List.mem_append_left _ hn) broken

/-- The components of a path are names if none of them is empty. -/
theorem isName_of_mem_names (filled : ∀ n ∈ names path, n ≠ "") : ∀ n ∈ names path, IsName n := by
  intro n hn
  refine ⟨filled n hn, ?_⟩
  obtain ⟨c, hc, rfl⟩ := List.mem_map.mp hn
  simpa using Path.slash_not_mem_of_mem_components hc

/-- Without extra patterns a directory is ignored if a fixed name on the way to it is in sight. -/
theorem ignoresDirectory_extended_nil (ne : dirs ≠ []) (proper : ∀ n ∈ dirs, IsName n) :
    (Rules.extended []).ignoresDirectory (ofNames dirs) = true ↔ InSight dirs := by
  rw [← Bool.not_eq_false, Rules.ignoresDirectory_eq_false ne proper]
  exact not_not

/-- Without extra patterns a file is ignored if a fixed name above it is in sight. -/
theorem ignoresFile_extended_nil {name : String} (proper : ∀ n ∈ dirs ++ [name], IsName n) :
    (Rules.extended []).ignoresFile (ofNames (dirs ++ [name])) = true ↔ InSight dirs := by
  rw [← Bool.not_eq_false, Rules.ignoresFile_eq_false proper]
  exact not_not

/-- **The fixed rules ignore what the fixed names say, unless it is out of sight.** A directory is
ignored if and only if one of the components of its path is a fixed name, and a file if and only if
one of the components but the last is, where in either case the first of them is not out of sight.
-/
theorem ignores_fixed_iff (filled : ∀ n ∈ names path, n ≠ "") :
    ∃ rules, Rules.ofExtra [] = .ok rules ∧
      (rules.ignoresDirectory path = true ↔ HasFixed (names path) ∧ ¬OutOfSight (names path)) ∧
      (rules.ignoresFile path = true ↔
        HasFixed (names path).dropLast ∧ ¬OutOfSight (names path).dropLast) := by
  have proper := isName_of_mem_names filled
  have ne : names path ≠ [] := by
    simpa [Path.names] using Path.components_ne_nil path.toList
  refine ⟨_, Rules.ofExtra_eq_ok rfl, ?_⟩
  rw [← inSight_iff, ← inSight_iff]
  constructor
  · conv_lhs => rw [← Path.ofNames_names path]
    exact ignoresDirectory_extended_nil ne proper
  · conv_lhs => rw [← Path.ofNames_names path, ← List.dropLast_append_getLast ne]
    rw [← List.dropLast_append_getLast ne] at proper
    exact ignoresFile_extended_nil proper

/-- A directory of installed packages below a name with a line break. -/
def brokenPath : String := "a\nb/node_modules"

/-- Its names. -/
theorem names_brokenPath : names brokenPath = ["a\nb", "node_modules"] := by decide +kernel

/-- The fixed name in it is out of sight. -/
theorem outOfSight_brokenPath : OutOfSight (names brokenPath) := by
  rw [names_brokenPath]
  exact ⟨["a\nb"], "node_modules", [], rfl, by decide, by decide, "a\nb", by decide, by decide⟩

/-- What is out of sight is not ignored, nor is a file that only has a fixed name itself. Where
there is no line break a directory of a fixed name is ignored. -/
theorem ignores_fixed_iff_brokenPath :
    (∀ n ∈ names brokenPath, n ≠ "") ∧ (∀ n ∈ names "src/.git", n ≠ "") ∧
      HasFixed (names brokenPath) ∧
      ∃ rules, Rules.ofExtra [] = .ok rules ∧ rules.ignoresDirectory brokenPath = false ∧
        rules.ignoresDirectory "src/.git" = true ∧ rules.ignoresFile "src/.git" = false := by
  have parts : names "src/.git" = ["src", ".git"] := by decide +kernel
  have filled : ∀ n ∈ names "src/.git", n ≠ "" := by rw [parts]; decide
  have filled' : ∀ n ∈ names brokenPath, n ≠ "" := by rw [names_brokenPath]; decide
  obtain ⟨rules, compiled, directory, file⟩ := ignores_fixed_iff filled
  obtain ⟨rules', compiled', broken, -⟩ := ignores_fixed_iff filled'
  obtain rfl : rules = rules' := Except.ok.inj (compiled.symm.trans compiled')
  rw [parts] at directory file
  refine ⟨filled', filled, ?_, rules, compiled, Bool.eq_false_iff.mpr fun ignored => ?_, ?_,
    Bool.eq_false_iff.mpr fun ignored => ?_⟩
  · exact ⟨"node_modules", by rw [names_brokenPath]; decide, by decide⟩
  · exact (broken.mp ignored).2 outOfSight_brokenPath
  · exact directory.mpr ⟨⟨".git", by decide, by decide⟩, not_outOfSight (by decide)⟩
  · obtain ⟨n, hn, fixed⟩ := (file.mp ignored).1
    obtain rfl : n = "src" := by simpa using hn
    exact absurd fixed (by decide)

/-- **Not every directory of a fixed name is ignored.** -/
theorem not_forall_ignores_fixed :
    ¬∀ (rules : Rules) (path : String), Rules.ofExtra [] = .ok rules →
        (∀ n ∈ names path, n ≠ "") →
        (rules.ignoresDirectory path = true ↔ HasFixed (names path)) := by
  intro all
  have fixed : HasFixed (names brokenPath) := by
    rw [names_brokenPath]
    exact ⟨"node_modules", by decide, by decide⟩
  have filled : ∀ n ∈ names brokenPath, n ≠ "" := by rw [names_brokenPath]; decide
  have ignored := (all _ brokenPath (Rules.ofExtra_eq_ok rfl) filled).mpr fixed
  exact absurd ignored (by decide +kernel)

end Fixed

end Ignore

end DepGraph
