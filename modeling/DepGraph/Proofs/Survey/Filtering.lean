import DepGraph.Proofs.Ignore.Swallowed
import DepGraph.Proofs.Survey.Listing

/-!
# Pruning and filtering

A walk does not go into a directory that the rules ignore. It could as well go everywhere and ask
about each file alone (`DepGraph.Survey.Filter.unpruned`), if only the rules ignored every file
below a directory that they ignore.

Rules of which none is negated do so unless the directory is swallowed, and what is below a
swallowed directory is **hidden** from the walk (`DepGraph.Survey.IsHidden`) even if no rule ignores
it. A walk finds what it would without pruning exactly if nothing is hidden
(`DepGraph.Survey.prunes_iff`).
-/

namespace DepGraph

namespace Survey

open DepGraph.Path (IsName names ofNames)
open DepGraph.Ignore (IsSwallowed Pattern Rules TakesBack)

/-! ### A walk that goes everywhere -/

/-- A filter that leaves out the same files, and no directory as such. -/
def Filter.unpruned (filter : Filter) : Filter := { filter with directory := fun _ => false }

/-- A file is **hidden** if an extra pattern swallows a directory above it. -/
def IsHidden (extra : List Pattern) (path : String) : Prop :=
  ∃ above more, names path = above ++ more ∧ above ≠ [] ∧ more ≠ [] ∧ IsSwallowed extra above

section Trees

variable {filter filter' : Filter} {tree : Entry} {path root : String} {files : List SourceFile}
variable {extra : List Pattern}

/-- What is eligible in the eyes of a filter is so without pruning. -/
theorem Eligible.unpruned (eligible : Eligible filter tree path) :
    Eligible filter.unpruned tree path :=
  ⟨eligible.regular, eligible.ending,
    fun above more split ne ne' => ⟨(eligible.ancestors above more split ne ne').1, rfl⟩,
    eligible.unignored⟩

/-- **What rules let in is what they let in without pruning, and is not hidden.** -/
theorem eligible_iff_not_isHidden (plain : ∀ p ∈ extra, p.negated = false)
    (closed : ∀ p ∈ extra, p.IsClosed) (sound : tree.Sound) :
    Eligible (.ofRules (.extended extra)) tree path ↔
      Eligible (Filter.ofRules (.extended extra)).unpruned tree path ∧ ¬IsHidden extra path := by
  have proper (eligible : Eligible (Filter.ofRules (.extended extra)).unpruned tree path) :
      ∀ n ∈ names path, IsName n := by
    obtain ⟨bytes, there⟩ := eligible.regular
    exact sound.isName_of_descend there
  constructor
  · intro eligible
    refine ⟨eligible.unpruned, ?_⟩
    rintro ⟨above, more, split, ne, ne', swallowed⟩
    have names : ∀ n ∈ above, IsName n := fun n hn =>
      proper eligible.unpruned n (split ▸ List.mem_append_left _ hn)
    have entered := (eligible.ancestors above more split ne ne').2
    rw [Filter.ofRules_directory] at entered
    exact absurd (swallowed.ignoresDirectory plain ne names) (Bool.eq_false_iff.mp entered)
  · rintro ⟨eligible, seen⟩
    refine ⟨eligible.regular, eligible.ending, fun above more split ne ne' => ?_,
      eligible.unignored⟩
    refine ⟨(eligible.ancestors above more split ne ne').1, ?_⟩
    rw [Filter.ofRules_directory, Bool.eq_false_iff]
    intro ignored
    have names : ∀ n ∈ above, IsName n := fun n hn =>
      proper eligible n (split ▸ List.mem_append_left _ hn)
    -- the file would be ignored as well, or it is hidden
    rcases Rules.ignoresFile_or_isSwallowed plain closed ne names ne' ignored with file | swallowed
    · have kept : (Rules.extended extra).ignoresFile path = false := eligible.unignored
      rw [← split, Path.ofNames_names] at file
      exact absurd file (Bool.eq_false_iff.mp kept)
    · exact seen ⟨above, more, split, ne, ne', swallowed⟩

/-- A listing for one filter is one for another just if the same files are eligible. -/
theorem Lists.iff_eligible (lists : Lists filter root tree files) :
    Lists filter' root tree files ↔
      ∀ path, Eligible filter' tree path ↔ Eligible filter tree path := by
  constructor
  · exact fun lists' path => (lists'.mem_iff path).symm.trans (lists.mem_iff path)
  · intro same
    exact ⟨fun path => (lists.mem_iff path).trans (same path).symm, lists.found, lists.increasing,
      lists.nodup⟩

end Trees

/-- **Pruning agrees with filtering exactly if nothing is hidden.** Where lines take nothing back,
rules ignore a file below a directory that they ignore unless the directory is swallowed, and a
survey lists what it would without pruning unless a file that no rule ignores is below a swallowed
directory. -/
theorem prunes_iff {lines : List String} {extra : List Pattern}
    (valid : Ignore.ofLines lines = .ok extra) (plain : ∀ line ∈ lines, ¬TakesBack line) :
    ∃ rules, Rules.ofExtra lines = .ok rules ∧
      (∀ dirs more, dirs ≠ [] → more ≠ [] → (∀ n ∈ dirs ++ more, IsName n) →
        ((rules.ignoresDirectory (ofNames dirs) = true →
            rules.ignoresFile (ofNames (dirs ++ more)) = true) ↔
          (IsSwallowed extra dirs → rules.ignoresFile (ofNames (dirs ++ more)) = true))) ∧
      ∀ entries limit root, (Entry.directory entries).Sound →
        nestingAll (.ofRules rules) "" entries ≤ nestingLimit →
        ∃ files, ofTree (.ofRules rules) root (.ok (.directory entries)) = .ok files ∧
          take (.ofRules rules) limit root (.ok (.directory entries)) =
            (if limit < files.length then .error (.tooManyFiles files.length limit)
              else .ok files) ∧
          (Lists (Filter.ofRules rules).unpruned root (.directory entries) files ↔
            ∀ path, Eligible (Filter.ofRules rules).unpruned (.directory entries) path →
              ¬IsHidden extra path) := by
  obtain ⟨plain, closed⟩ := Ignore.closed_of_ofLines valid plain
  refine ⟨_, Ignore.Rules.ofExtra_eq_ok valid, fun dirs more ne ne' proper => ?_,
    fun entries limit root sound shallow => ?_⟩
  · have names := (List.forall_mem_append.mp proper).1
    refine ⟨fun prunes swallowed => prunes (swallowed.ignoresDirectory plain ne names), ?_⟩
    intro hides ignored
    exact (Rules.ignoresFile_or_isSwallowed plain closed ne names ne' ignored).elim id hides
  · have walked : ofTree (.ofRules (.extended extra)) root (.ok (.directory entries)) =
        .ok (filesIn (.ofRules (.extended extra)) root entries) := by
      rw [ofTree, if_neg (Nat.not_lt.mpr shallow)]
    refine ⟨_, walked, ?_, (lists_filesIn sound).iff_eligible.trans ?_⟩
    · rw [take, walked]
      simp only [bind, Except.bind]
      split <;> rfl
    · simp only [eligible_iff_not_isHidden plain closed sound]
      exact forall_congr' fun path => iff_self_and

/-! ### A list between brackets -/

/-- The line of a pattern that ends in a list between brackets, which has the slash in it. -/
def bracketLine : String := "a[!b]"

/-- Its pattern. -/
def bracketPattern : Pattern :=
  ⟨false, .glob [.leading, .letter 'a', .oneOf true ['b'], .boundary]⟩

/-- The line has this pattern, and takes nothing back. -/
theorem ofLines_bracketLine :
    Ignore.ofLines [bracketLine] = .ok [bracketPattern] ∧
      ∀ line ∈ [bracketLine], ¬TakesBack line := by
  decide +kernel

/-- The rules of the line ignore the directory, and not a file in it. -/
theorem ignores_bracketLine :
    (Rules.extended [bracketPattern]).ignoresDirectory (ofNames ["a"]) = true ∧
      (Rules.extended [bracketPattern]).ignoresFile (ofNames ["a", "x.js"]) = false := by
  decide +kernel

/-- A file in a directory of this name. -/
def oneDeep : List (String × Entry) := [("a", .directory [("x.js", .file [])])]

/-- The tree is sound. -/
theorem sound_oneDeep : (Entry.directory oneDeep).Sound := by
  have inner : (Entry.directory [("x.js", .file [])]).Sound :=
    .directory (by decide) (by decide) (List.forall_mem_singleton.mpr (.file _))
  exact .directory (by decide) (by decide) (List.forall_mem_singleton.mpr inner)

/-- Without pruning the file is found. -/
theorem eligible_oneDeep :
    Eligible (Filter.ofRules (.extended [bracketPattern])).unpruned (.directory oneDeep)
      (ofNames ["a", "x.js"]) := by
  have parts : names (ofNames ["a", "x.js"]) = ["a", "x.js"] := by decide +kernel
  refine ⟨⟨[], by rw [parts]; rfl⟩, ⟨["a"], "x.js", parts, by decide⟩, ?_, ignores_bracketLine.2⟩
  intro above more split ne ne'
  rw [parts] at split
  have there : Entry.descend (above ++ more) (.directory oneDeep) = some (.file []) := by
    rw [← split]
    rfl
  exact ⟨Entry.exists_directory_of_descend_append there ne', rfl⟩

/-- With the pattern of `a[!b]` a survey does not list a file that no rule ignores. -/
theorem prunes_iff_bracket :
    Ignore.ofLines [bracketLine] = .ok [bracketPattern] ∧
      (∀ line ∈ [bracketLine], ¬TakesBack line) ∧
      IsHidden [bracketPattern] (ofNames ["a", "x.js"]) ∧
      ∃ rules, Rules.ofExtra [bracketLine] = .ok rules ∧ ∃ files,
        ofTree (.ofRules rules) "/r" (.ok (.directory oneDeep)) = .ok files ∧
          ¬Lists (Filter.ofRules rules).unpruned "/r" (.directory oneDeep) files := by
  obtain ⟨valid, plain⟩ := ofLines_bracketLine
  obtain ⟨rules, compiled, pointwise, walks⟩ := prunes_iff valid plain
  obtain rfl := Rules.eq_extended valid compiled
  obtain ⟨directory, file⟩ := ignores_bracketLine
  have swallowed : IsSwallowed [bracketPattern] ["a"] := by
    by_contra apart
    have ignored := (pointwise ["a"] ["x.js"] (by decide) (by decide) (by decide)).mpr
      (fun swallowed => absurd swallowed apart) directory
    exact absurd ignored (Bool.eq_false_iff.mp file)
  have hidden : IsHidden [bracketPattern] (ofNames ["a", "x.js"]) :=
    ⟨["a"], ["x.js"], by decide +kernel, by decide, by decide, swallowed⟩
  have shallow : nestingAll (.ofRules (.extended [bracketPattern])) "" oneDeep ≤ nestingLimit := by
    decide +kernel
  obtain ⟨files, walked, -, exactly⟩ := walks oneDeep 500 "/r" sound_oneDeep shallow
  exact ⟨valid, plain, hidden, _, compiled, files, walked, fun lists =>
    exactly.mp lists _ eligible_oneDeep hidden⟩

/-- **Rules do not always ignore what is below a directory that they ignore**, even if no line takes
anything back. -/
theorem not_forall_prunes :
    ¬∀ (lines : List String) (rules : Rules) (dirs more : List String),
      (∀ line ∈ lines, ¬TakesBack line) → Rules.ofExtra lines = .ok rules → dirs ≠ [] → more ≠ [] →
        (∀ n ∈ dirs ++ more, IsName n) → rules.ignoresDirectory (ofNames dirs) = true →
        rules.ignoresFile (ofNames (dirs ++ more)) = true := by
  intro all
  obtain ⟨valid, plain⟩ := ofLines_bracketLine
  obtain ⟨directory, file⟩ := ignores_bracketLine
  have ignored := all [bracketLine] _ ["a"] ["x.js"] plain (Ignore.Rules.ofExtra_eq_ok valid)
    (by decide) (by decide) (by decide) directory
  exact absurd ignored (Bool.eq_false_iff.mp file)

end Survey

end DepGraph
