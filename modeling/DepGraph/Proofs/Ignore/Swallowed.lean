import DepGraph.Proofs.Ignore.Segment
import DepGraph.Proofs.Ignore.Verdict

/-!
# Directories that rules ignore

A directory is tested as its path with a slash at the end (`DepGraph.Ignore.directoryText`), and the
path of what is in it has that text in front. So rules of which none is negated ignore all that is
below a directory that they ignore, but for one kind of pattern: a list between brackets can take
the slash at the end like any other character. The pattern `a[!b]` matches `a/`, and not `a/x.js`.

Such a directory is **swallowed** (`DepGraph.Ignore.IsSwallowed`). Nothing else makes a difference:
where rules ignore a directory that is not swallowed, they ignore all that is below it
(`DepGraph.Ignore.Rules.ignoresFile_or_isSwallowed`).
-/

namespace DepGraph

namespace Ignore

open DepGraph.Path (IsName joined ofNames)

/-! ### The path of a directory -/

section Directories

variable {dirs more : List String} {cs rest : List Char}

/-- At the front of a path some characters do not count. -/
theorem exists_relative (cs : List Char) : ∃ front, cs = front ++ Rules.relative cs := by
  unfold Rules.relative
  split
  · exact ⟨['/'], rfl⟩
  · exact ⟨['.', '/'], rfl⟩
  · exact ⟨[], rfl⟩

/-- What does not count at the front of a path is told by its first two characters. -/
theorem relative_append_of_length (two : 2 ≤ cs.length) (rest : List Char) :
    Rules.relative (cs ++ rest) = Rules.relative cs ++ rest := by
  match cs with
  | a :: b :: cs =>
    unfold Rules.relative
    split <;> simp_all

/-- The path of a directory ends in a slash, and comes before the names of what is in it. -/
theorem toList_ofNames_append (ne : dirs ≠ []) (ne' : more ≠ []) :
    (ofNames (dirs ++ more)).toList = (ofNames (dirs ++ [""])).toList ++ (ofNames more).toList := by
  have first : dirs.map String.toList ≠ [] := by simpa using ne
  have second : more.map String.toList ≠ [] := by simpa using ne'
  simp [ofNames, Path.joined_append first second, Path.joined_concat first]

/-- The path of a directory with names, as patterns see it. -/
def directoryText (dirs : List String) : List Char :=
  Rules.relative (ofNames (dirs ++ [""])).toList

/-- There is a slash at the end of the path of a directory, and something before. -/
theorem exists_toList_ofNames (ne : dirs ≠ []) (proper : ∀ n ∈ dirs, IsName n) :
    ∃ text, text ≠ [] ∧ (ofNames (dirs ++ [""])).toList = text ++ ['/'] := by
  have chars : dirs.map String.toList ≠ [] := by simpa using ne
  refine ⟨(ofNames dirs).toList, ?_, by simp [ofNames, Path.joined_concat chars]⟩
  simpa using Path.ofNames_ne_empty ne proper

/-- The path of a directory ends in a slash when patterns see it. -/
theorem endsInSlash_directoryText (ne : dirs ≠ []) (proper : ∀ n ∈ dirs, IsName n) :
    EndsInSlash (directoryText dirs) := by
  obtain ⟨text, -, same⟩ := exists_toList_ofNames ne proper
  obtain ⟨front, split⟩ := exists_relative (ofNames (dirs ++ [""])).toList
  have whole : EndsInSlash (front ++ directoryText dirs) :=
    Or.inr ⟨text, by rw [directoryText, ← split, same]⟩
  exact whole.of_append

/-- What is in a directory has its path in front. -/
theorem relative_ofNames_append (ne : dirs ≠ []) (proper : ∀ n ∈ dirs, IsName n) (ne' : more ≠ []) :
    Rules.relative (ofNames (dirs ++ more)).toList =
      directoryText dirs ++ (ofNames more).toList := by
  obtain ⟨text, some, same⟩ := exists_toList_ofNames ne proper
  have two : 2 ≤ (ofNames (dirs ++ [""])).toList.length := by
    have filled := List.length_pos_iff.mpr some
    rw [same, List.length_append, List.length_singleton]
    omega
  rw [toList_ofNames_append ne ne', relative_append_of_length two, directoryText]

/-- A directory is tested as its path with a slash at the end. -/
theorem Rules.ignoresDirectory_ofNames (rules : Rules) (ne : dirs ≠ [])
    (proper : ∀ n ∈ dirs, IsName n) :
    rules.ignoresDirectory (ofNames dirs) = rules.verdict (directoryText dirs) := by
  rw [Rules.ignoresDirectory, Path.dropEndSlashes_ofNames ne proper, directoryText]

end Directories

/-! ### Swallowed directories -/

section Swallowed

variable {extra : List Pattern} {dirs more : List String} {lines : List String}

/-- A directory is **swallowed** if an extra pattern swallows the slash at the end of its path. -/
def IsSwallowed (extra : List Pattern) (dirs : List String) : Prop :=
  ∃ p ∈ extra, ∃ text, directoryText dirs = text ++ ['/'] ∧ p.Swallows text

/-- The pattern of what lies below a directory does not look at the end of a path. -/
theorem Pattern.isClosed_below (name : String) : (Pattern.below name).IsClosed := by
  intro pieces shape
  obtain rfl : _ = pieces := Shape.glob.inj shape
  exact ⟨_, by simp, Or.inl rfl⟩

/-- It swallows no slash either, as it ends in a slash itself. -/
theorem Pattern.not_swallows_below {name : String} {path : List Char} :
    ¬(Pattern.below name).Swallows path := by
  rintro ⟨front, negated, listed, shape, -⟩
  have same : (.leading :: name.toList.map .letter) ++ [.slash] =
      (front ++ [.oneOf negated listed]) ++ [.boundary] := by simpa using Shape.glob.inj shape
  exact absurd (List.append_inj' same rfl).2 (by decide)

/-- Rules of which none is negated ignore what a pattern matches. -/
theorem Rules.verdict_extended_eq_true_iff (plain : ∀ p ∈ extra, p.negated = false)
    {path : List Char} :
    (Rules.extended extra).verdict path = true ↔
      ∃ p ∈ fixedNames.map Pattern.below ++ extra, p.holds path = true := by
  refine Rules.verdict_eq_true_iff _ (List.forall_mem_append.mpr ⟨fun p hp => ?_, plain⟩)
  obtain ⟨name, -, rfl⟩ := List.mem_map.mp hp
  rfl

/-- **Where rules ignore a directory, they ignore a file below it or the directory is swallowed.**
-/
theorem Rules.ignoresFile_or_isSwallowed (plain : ∀ p ∈ extra, p.negated = false)
    (closed : ∀ p ∈ extra, p.IsClosed) (ne : dirs ≠ []) (proper : ∀ n ∈ dirs, IsName n)
    (ne' : more ≠ []) (ignored : (Rules.extended extra).ignoresDirectory (ofNames dirs) = true) :
    (Rules.extended extra).ignoresFile (ofNames (dirs ++ more)) = true ∨
      IsSwallowed extra dirs := by
  rw [ignoresDirectory_ofNames _ ne proper, verdict_extended_eq_true_iff plain] at ignored
  obtain ⟨p, hp, holds⟩ := ignored
  have closed : p.IsClosed := by
    rcases List.mem_append.mp hp with fixed | hp
    · obtain ⟨name, -, rfl⟩ := List.mem_map.mp fixed
      exact Pattern.isClosed_below name
    · exact closed p hp
  rw [ignoresFile, relative_ofNames_append ne proper ne', verdict_extended_eq_true_iff plain]
  rcases Pattern.holds_append_or_swallows closed (endsInSlash_directoryText ne proper) holds with
    longer | ⟨text, same, swallows⟩
  · exact Or.inl ⟨p, hp, longer _⟩
  · rcases List.mem_append.mp hp with fixed | hp
    · obtain ⟨name, -, rfl⟩ := List.mem_map.mp fixed
      exact absurd swallows Pattern.not_swallows_below
    · exact Or.inr ⟨p, hp, text, same, swallows⟩

/-- Rules ignore a directory that is swallowed. -/
theorem IsSwallowed.ignoresDirectory (swallowed : IsSwallowed extra dirs)
    (plain : ∀ p ∈ extra, p.negated = false) (ne : dirs ≠ []) (proper : ∀ n ∈ dirs, IsName n) :
    (Rules.extended extra).ignoresDirectory (ofNames dirs) = true := by
  obtain ⟨p, hp, text, same, swallows⟩ := swallowed
  rw [Rules.ignoresDirectory_ofNames _ ne proper, Rules.verdict_extended_eq_true_iff plain, same]
  exact ⟨p, List.mem_append_right _ hp, swallows.holds⟩

/-- The patterns of lines that take nothing back are closed, and not negated. -/
theorem closed_of_ofLines (valid : ofLines lines = .ok extra)
    (plain : ∀ line ∈ lines, ¬TakesBack line) :
    (∀ p ∈ extra, p.negated = false) ∧ ∀ p ∈ extra, p.IsClosed := by
  refine ⟨fun p hp => ?_, fun p hp => ?_⟩
  · obtain ⟨line, hl, read⟩ := (mem_ofLines valid).mp hp
    exact Bool.eq_false_iff.mpr fun negated =>
      plain line hl ((isClosed_of_ofLine read).2 negated)
  · obtain ⟨line, -, read⟩ := (mem_ofLines valid).mp hp
    exact (isClosed_of_ofLine read).1

end Swallowed

end Ignore

end DepGraph
