import DepGraph.Proofs.Ignore.Swallowed
import DepGraph.Proofs.Survey.Listing
import Mathlib.Data.List.Flatten

/-!
# More rules, fewer files

The more a filter leaves out, the fewer files a walk finds, and those that are left come in the same
order (`DepGraph.Survey.visit_sublist`): below an entry that is left out there is nothing any more,
and below any other one the walk goes on by the same names.

Where no pattern takes anything back, a path is ignored if any of the patterns matches it. Lines
that are added can only ignore more then, and it makes no difference in which order the lines stand
and how often each of them does (`DepGraph.Survey.sublist_take_append`).
-/

namespace DepGraph

namespace Survey

open DepGraph.Ignore (Pattern Rules TakesBack)

/-! ### Filters that leave out more -/

/-- A filter **covers** another one if it leaves out all that the other one does. -/
structure Filter.Covers (wide narrow : Filter) : Prop where
  /-- Directories that are left out stay so. -/
  directory : ∀ path, narrow.directory path = true → wide.directory path = true
  /-- Files that are left out stay so. -/
  file : ∀ path, narrow.file path = true → wide.file path = true

section Walks

variable {wide narrow : Filter} {root : String} {tree : Except PlaceFlaw Entry}
variable {files : List SourceFile} {limit : Int}

mutual

/-- **What a filter leaves of an entry, one that it covers leaves as well**, in the same order. -/
theorem visit_sublist (covers : wide.Covers narrow) :
    (path name : String) → (e : Entry) →
      (visit wide root path name e).Sublist (visit narrow root path name e)
  | path, name, .file bytes => by
    simp only [visit]
    split
    next kept =>
      have kept' : (isEligible name && !narrow.file path) = true := by
        obtain ⟨source, kept⟩ := Bool.and_eq_true_iff.mp kept
        have stays : narrow.file path = false := Bool.eq_false_iff.mpr fun ignored => by
          simp [covers.file path ignored] at kept
        simp [source, stays]
      rw [if_pos kept']
    next => exact List.nil_sublist _
  | path, name, .link target => by simp only [visit, List.Sublist.refl]
  | path, name, .directory entries => by
    simp only [visit]
    split
    · exact List.nil_sublist _
    next entered =>
      have entered' : ¬narrow.directory path = true := fun ignored =>
        entered (covers.directory path ignored)
      rw [if_neg entered', flatMap_visitAll, flatMap_visitAll]
      exact List.Sublist.flatMap_right _ fun x hx =>
        visitAll_sublist covers path entries x (List.mem_mergeSort.mp hx)

/-- So it is for each entry of a directory. -/
theorem visitAll_sublist (covers : wide.Covers narrow) :
    (path : String) → (entries : List (String × Entry)) → (x : String × Entry) → x ∈ entries →
      (visit wide root (below path x.1) x.1 x.2).Sublist
        (visit narrow root (below path x.1) x.1 x.2)
  | path, (name, e) :: rest, x, h => by
    rcases List.mem_cons.mp h with rfl | h
    · exact visit_sublist covers (below path name) name e
    · exact visitAll_sublist covers path rest x h

end

mutual

/-- A filter does not make a walk go deeper than one that it covers. -/
theorem nesting_le (covers : wide.Covers narrow) :
    (path : String) → (e : Entry) → nesting wide path e ≤ nesting narrow path e
  | path, .file bytes => by simp only [nesting, le_refl]
  | path, .link target => by simp only [nesting, le_refl]
  | path, .directory entries => by
    simp only [nesting]
    split
    · exact Nat.zero_le _
    next entered =>
      rw [if_neg fun ignored => entered (covers.directory path ignored)]
      exact Nat.add_le_add_right (nestingAll_le covers path entries) 1

theorem nestingAll_le (covers : wide.Covers narrow) :
    (path : String) → (entries : List (String × Entry)) →
      nestingAll wide path entries ≤ nestingAll narrow path entries
  | path, [] => by simp only [nestingAll, le_refl]
  | path, (name, e) :: rest => by
    simp only [nestingAll]
    exact max_le_max (nesting_le covers (below path name) e) (nestingAll_le covers path rest)

end

/-- Of the files in a directory a filter leaves some of those that one that it covers leaves. -/
theorem filesIn_sublist (covers : wide.Covers narrow) (entries : List (String × Entry)) :
    (filesIn wide root entries).Sublist (filesIn narrow root entries) := by
  rw [filesIn, filesIn, flatMap_visitAll, flatMap_visitAll]
  exact List.Sublist.flatMap_right _ fun x hx =>
    visitAll_sublist covers "" entries x (List.mem_mergeSort.mp hx)

/-- A survey succeeds on a directory that is not nested too deeply and does not have too many
files. -/
theorem take_eq_ok_iff {filter : Filter} :
    take filter limit root tree = .ok files ↔
      ∃ entries, tree = .ok (.directory entries) ∧ nestingAll filter "" entries ≤ nestingLimit ∧
        files = filesIn filter root entries ∧ (files.length : Int) ≤ limit := by
  unfold take ofTree
  constructor
  · intro h
    split at h
    next entries =>
      split at h
      · cases h
      next shallow =>
        simp only [bind, Except.bind] at h
        split at h
        · cases h
        next few =>
          obtain rfl := Except.ok.inj h
          exact ⟨entries, rfl, Nat.not_lt.mp shallow, rfl, Int.not_lt.mp few⟩
    · cases h
    · cases h
  · rintro ⟨entries, rfl, shallow, rfl, few⟩
    simp only [if_neg (Nat.not_lt.mpr shallow), bind, Except.bind, if_neg (Int.not_lt.mpr few)]
    rfl

/-- **A survey that succeeds still does so with a filter that leaves out more**, and lists some of
the files in the same order. -/
theorem exists_take_sublist (covers : wide.Covers narrow)
    (taken : take narrow limit root tree = .ok files) :
    ∃ fewer, take wide limit root tree = .ok fewer ∧ fewer.Sublist files := by
  obtain ⟨entries, rfl, shallow, rfl, few⟩ := take_eq_ok_iff.mp taken
  have fewer : (filesIn wide root entries).Sublist (filesIn narrow root entries) :=
    filesIn_sublist covers entries
  refine ⟨_, take_eq_ok_iff.mpr ⟨entries, rfl, ?_, rfl, ?_⟩, fewer⟩
  · exact (nestingAll_le covers "" entries).trans shallow
  · exact le_trans (Int.ofNat_le.mpr fewer.length_le) few

end Walks

/-! ### Lines that are added -/

section Lines

variable {lines more : List String} {extra added : List Pattern}

/-- Among patterns of which none is negated, more patterns ignore more. -/
theorem covers_extended (within : ∀ p ∈ extra, p ∈ added) (plain : ∀ p ∈ added, p.negated = false) :
    (Filter.ofRules (.extended added)).Covers (.ofRules (.extended extra)) := by
  have plain' : ∀ p ∈ extra, p.negated = false := fun p hp => plain p (within p hp)
  have verdict {path : List Char} (ignored : (Rules.extended extra).verdict path = true) :
      (Rules.extended added).verdict path = true := by
    rw [Rules.verdict_extended_eq_true_iff plain'] at ignored
    obtain ⟨p, hp, holds⟩ := ignored
    rw [Rules.verdict_extended_eq_true_iff plain]
    refine ⟨p, ?_, holds⟩
    exact List.mem_append.mpr ((List.mem_append.mp hp).imp_right (within p))
  refine ⟨fun path ignored => ?_, fun path ignored => ?_⟩
  · rw [Filter.ofRules_directory, Rules.ignoresDirectory] at ignored ⊢
    exact verdict ignored
  · rw [Filter.ofRules_file, Rules.ignoresFile] at ignored ⊢
    exact verdict ignored

/-- Filters that cover each other are the same. -/
theorem Filter.Covers.antisymm {filter filter' : Filter} (covers : filter.Covers filter')
    (covers' : filter'.Covers filter) : filter = filter' := by
  have directory : filter.directory = filter'.directory := funext fun path =>
    Bool.eq_iff_iff.mpr ⟨covers'.directory path, covers.directory path⟩
  have file : filter.file = filter'.file := funext fun path =>
    Bool.eq_iff_iff.mpr ⟨covers'.file path, covers.file path⟩
  cases filter
  cases filter'
  exact congr (congrArg Filter.mk directory) file

/-- **Lines that are added only remove files, and their order does not matter**, if none of them
takes anything back. Whatever is found with the first lines, some of it is found with all of them,
in the same order; and the same is found with any lines that are the same but for their order and
how often each of them stands there. -/
theorem sublist_take_append (valid : Ignore.ofLines (lines ++ more) = .ok added)
    (plain : ∀ line ∈ lines ++ more, ¬TakesBack line) :
    ∃ rules fewer, Rules.ofExtra lines = .ok rules ∧ Rules.ofExtra (lines ++ more) = .ok fewer ∧
      (∀ limit root tree files, take (.ofRules rules) limit root tree = .ok files →
        ∃ kept, take (.ofRules fewer) limit root tree = .ok kept ∧ kept.Sublist files) ∧
      ∀ others, (∀ line, line ∈ others ↔ line ∈ lines) →
        ∃ rules', Rules.ofExtra others = .ok rules' ∧ ∀ limit root tree,
          take (.ofRules rules') limit root tree = take (.ofRules rules) limit root tree := by
  obtain ⟨unnegated, -⟩ := Ignore.closed_of_ofLines valid plain
  obtain ⟨extra, first, within⟩ :=
    Ignore.exists_ofLines_of_subset (fun line hl => List.mem_append_left more hl) valid
  refine ⟨_, _, Rules.ofExtra_eq_ok first, Rules.ofExtra_eq_ok valid, fun limit root tree files =>
    exists_take_sublist (covers_extended within unnegated), fun others same => ?_⟩
  obtain ⟨ps, read, there⟩ :=
    Ignore.exists_ofLines_of_subset (fun line hl => (same line).mp hl) first
  obtain ⟨qs, again, back⟩ :=
    Ignore.exists_ofLines_of_subset (fun line hl => (same line).mpr hl) read
  obtain rfl : qs = extra := Except.ok.inj (again.symm.trans first)
  have plain' : ∀ p ∈ qs, p.negated = false := fun p hp => unnegated p (within p hp)
  have filters : Filter.ofRules (.extended ps) = Filter.ofRules (.extended qs) :=
    (covers_extended back fun p hp => plain' p (there p hp)).antisymm (covers_extended there plain')
  exact ⟨_, Rules.ofExtra_eq_ok read, fun limit root tree => by rw [filters]⟩

end Lines

/-! ### Lines of a build -/

/-- A script, its minified form and what was built of them, in no particular order. -/
def builtEntries : List (String × Entry) :=
  [("a.min.js", .file []), ("dist", .directory [("b.js", .file [])]), ("a.js", .file [])]

/-- The pattern of `*.min.js`. -/
def minified : Pattern :=
  ⟨false, .glob (.leading :: .run :: ".min.js".toList.map .letter ++ [.boundary])⟩

/-- A remark and the line of a directory, and these with a line for minified scripts: both are
patterns, and nothing is taken back. -/
theorem ofLines_built :
    Ignore.ofLines ["# notes", "dist/"] = .ok [.below "dist"] ∧
      Ignore.ofLines (["# notes", "dist/"] ++ ["*.min.js"]) = .ok [.below "dist", minified] ∧
      ∀ line ∈ ["# notes", "dist/"] ++ ["*.min.js"], ¬TakesBack line := by
  decide +kernel

/-- A filter that leaves out what was built, and not the script, finds the script and perhaps its
minified form. -/
theorem exists_take_builtEntries (filter : Filter) (built : filter.directory "dist" = true)
    (script : filter.file "a.js" = false) :
    ∃ files, take filter 500 "/r" (.ok (.directory builtEntries)) = .ok files ∧
      files.map (·.path) = if filter.file "a.min.js" then ["a.js"] else ["a.js", "a.min.js"] := by
  have listed : (filesIn filter "/r" builtEntries).map (·.path) =
      if filter.file "a.min.js" then ["a.js"] else ["a.js", "a.min.js"] := by
    cases h : filter.file "a.min.js" <;>
    simp +decide [filesIn, builtEntries, visitAll, visit, below, built, script, h, List.mergeSort,
      List.MergeSort.Internal.splitInTwo, List.splitAt, List.splitAt.go, byName,
      -String.lt_iff_ltb]
  refine ⟨_, take_eq_ok_iff.mpr ⟨_, rfl, ?_, rfl, ?_⟩, listed⟩
  · simp [builtEntries, nestingAll, nesting, nestingLimit, below, built]
  · rw [← List.length_map (·.path), listed]
    split <;> decide

/-- With a line for minified scripts a survey lists one file less, and with the first lines in
another order, and one of them twice, it lists the same files. -/
theorem sublist_take_append_built :
    Ignore.ofLines (["# notes", "dist/"] ++ ["*.min.js"]) = .ok [.below "dist", minified] ∧
      (∀ line ∈ ["# notes", "dist/"] ++ ["*.min.js"], ¬TakesBack line) ∧
      ∃ rules fewer rules' files kept, Rules.ofExtra ["# notes", "dist/"] = .ok rules ∧
        Rules.ofExtra (["# notes", "dist/"] ++ ["*.min.js"]) = .ok fewer ∧
        Rules.ofExtra ["dist/", "# notes", "dist/"] = .ok rules' ∧
        take (.ofRules rules) 500 "/r" (.ok (.directory builtEntries)) = .ok files ∧
        take (.ofRules fewer) 500 "/r" (.ok (.directory builtEntries)) = .ok kept ∧
        take (.ofRules rules') 500 "/r" (.ok (.directory builtEntries)) = .ok files ∧
        files.map (·.path) = ["a.js", "a.min.js"] ∧ kept.map (·.path) = ["a.js"] ∧
        kept.Sublist files := by
  obtain ⟨first, valid, plain⟩ := ofLines_built
  obtain ⟨rules, fewer, compiled, compiled', narrows, reorders⟩ := sublist_take_append valid plain
  obtain rfl := Rules.eq_extended first compiled
  obtain rfl := Rules.eq_extended valid compiled'
  obtain ⟨rules', again, same⟩ := reorders ["dist/", "# notes", "dist/"] (by simp)
  obtain ⟨files, taken, paths⟩ := exists_take_builtEntries (.ofRules (.extended [.below "dist"]))
    (by decide +kernel) (by decide +kernel)
  obtain ⟨left, taken', paths'⟩ :=
    exists_take_builtEntries (.ofRules (.extended [.below "dist", minified])) (by decide +kernel)
      (by decide +kernel)
  obtain ⟨kept, narrowed, sublist⟩ := narrows 500 "/r" _ files taken
  obtain rfl : left = kept := Except.ok.inj (taken'.symm.trans narrowed)
  refine ⟨valid, plain, _, _, rules', files, left, compiled, compiled', again, taken, taken',
    (same _ _ _).trans taken, ?_, ?_, sublist⟩
  · exact paths.trans (if_neg (by decide +kernel))
  · exact paths'.trans (if_pos (by decide +kernel))

end Survey

end DepGraph
