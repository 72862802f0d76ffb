import DepGraph.Proofs.Ignore.Verdict
import DepGraph.Proofs.Ingestion.Stages
import DepGraph.Proofs.Survey.Listing

/-!
# What a survey leaves out

Version control data and installed packages are in directories of fixed names, and nothing below
them (`DepGraph.Survey.IsBelowFixed`) should be surveyed. What is surveyed are the sources of a tree
that the ignore rules let in (`DepGraph.Survey.eligible_iff`): each directory on the way to such a
file passes the rules, and so does the file (`DepGraph.Survey.LetsIn`).

Where nothing is taken back in and no path has a line break, all that is below the fixed names is
left out (`DepGraph.Survey.spares_take_of_plain`). Otherwise it need not be: an operator can take
such directories back in, and a line break hides them. What is surveyed below them is exactly what
is let in so (`DepGraph.Survey.spares_take_iff`).
-/

namespace DepGraph

namespace Survey

open DepGraph.Path (IsName names ofNames)
open DepGraph.Ignore (InSight Passes Pattern Rules fixedNames)

/-! ### What is let in -/

/-- The path of a **source** of a tree: of a regular file whose name ends as that of a source
does. -/
structure IsSource (tree : Entry) (path : String) : Prop where
  /-- The path leads to a regular file. -/
  regular : ∃ bytes, tree.descend (names path) = some (.file bytes)
  /-- The name of the file ends as that of a source does. -/
  ending : ∃ front name, names path = front ++ [name] ∧ isEligible name = true

/-- Extra patterns **let in** the file at a path. -/
structure LetsIn (extra : List Pattern) (path : String) : Prop where
  /-- Each directory above the file passes. -/
  directories : ∀ above more, names path = above ++ more → above ≠ [] → more ≠ [] →
    Passes extra above ""
  /-- The file passes. -/
  file : ∀ above name, names path = above ++ [name] → Passes extra above name

/-- A path lies **below a directory of a fixed name**. -/
def IsBelowFixed (path : String) : Prop :=
  ∃ above name more, names path = above ++ name :: more ∧ name ∈ fixedNames ∧ more ≠ []

section Trees

variable {tree : Entry} {extra : List Pattern} {path : String}

/-- **The eligible files are the sources that are let in.** -/
theorem eligible_iff (sound : tree.Sound) :
    Eligible (.ofRules (.extended extra)) tree path ↔ IsSource tree path ∧ LetsIn extra path := by
  have proper (source : IsSource tree path) : ∀ n ∈ names path, IsName n := by
    obtain ⟨bytes, there⟩ := source.regular
    exact sound.isName_of_descend there
  have above? (source : IsSource tree path) {above more : List String}
      (split : names path = above ++ more) (ne : above ≠ []) :
      (Filter.ofRules (.extended extra)).directory (ofNames above) = false ↔
        Passes extra above "" := by
    rw [Filter.ofRules_directory]
    refine Rules.ignoresDirectory_eq_false ne fun n hn => proper source n ?_
    exact split ▸ List.mem_append_left _ hn
  have file? (source : IsSource tree path) {above : List String} {name : String}
      (split : names path = above ++ [name]) :
      (Filter.ofRules (.extended extra)).file path = false ↔ Passes extra above name := by
    have text : path = ofNames (above ++ [name]) := by rw [← split, Path.ofNames_names]
    rw [Filter.ofRules_file, text]
    exact Rules.ignoresFile_eq_false (split ▸ proper source)
  constructor
  · intro h
    have source : IsSource tree path := ⟨h.regular, h.ending⟩
    refine ⟨source, fun above more split ne rest => ?_, fun above name split => ?_⟩
    · exact (above? source split ne).mp (h.ancestors above more split ne rest).2
    · exact (file? source split).mp h.unignored
  · rintro ⟨source, lets⟩
    refine ⟨source.regular, source.ending, fun above more split ne rest => ⟨?_, ?_⟩, ?_⟩
    · obtain ⟨bytes, there⟩ := source.regular
      exact Entry.exists_directory_of_descend_append (split ▸ there) rest
    · exact (above? source split ne).mpr (lets.directories above more split ne rest)
    · obtain ⟨front, name, split, -⟩ := source.ending
      exact (file? source split).mpr (lets.file front name split)

/-- **Below a directory of a fixed name nothing is let in** unless an extra pattern takes something
back in or the path has a line break. -/
theorem not_letsIn_of_plain (plain : ∀ p ∈ extra, p.negated = false)
    (line : '\n' ∉ path.toList) (fixed : IsBelowFixed path) : ¬LetsIn extra path := by
  obtain ⟨above, name, more, split, fixed, ne⟩ := fixed
  intro lets
  have lines : ∀ n ∈ names path, '\n' ∉ n.toList := fun n hn ends => by
    obtain ⟨c, hc, rfl⟩ := List.mem_map.mp hn
    rw [← Path.joined_components path.toList] at line
    exact line ((Path.mem_joined (by decide)).mpr ⟨c, hc, by simpa using ends⟩)
  -- the directory of the fixed name is on the way, and there it is in sight
  have passes : Passes extra (above ++ [name]) "" :=
    lets.directories (above ++ [name]) more (by simpa using split) (by simp) ne
  have sight : InSight (above ++ [name]) :=
    ⟨above, name, [], rfl, fixed, fun n hn => lines n (split ▸ List.mem_append_left _ hn)⟩
  obtain ⟨p, hp, negated, -⟩ := passes.exists_negated sight
  rw [plain p hp] at negated
  cases negated

end Trees

/-! ### What is surveyed -/

section Surveys

variable {entries : List (String × Entry)} {extra : List Pattern} {limit : Int} {root : String}
variable {files : List SourceFile} {path : String}

/-- The files of a survey are the sources that are let in. -/
theorem mem_paths_take (sound : (Entry.directory entries).Sound)
    (taken : take (.ofRules (.extended extra)) limit root (.ok (.directory entries)) = .ok files) :
    path ∈ files.map (·.path) ↔ IsSource (.directory entries) path ∧ LetsIn extra path := by
  obtain ⟨found, same, rfl⟩ := ofTree_eq_ok (take_eq_ok taken)
  obtain rfl : entries = found := by simpa using same
  exact ((lists_filesIn sound).mem_iff path).trans (eligible_iff sound)

/-- A survey **spares** the directories of fixed names if it lists no file below them. -/
def Spares (files : List SourceFile) : Prop := ∀ file ∈ files, ¬IsBelowFixed file.path

/-- **A survey spares the directories of fixed names if nothing is taken back in** and no file that
it lists has a line break in its path. -/
theorem spares_take_of_plain (sound : (Entry.directory entries).Sound)
    (taken : take (.ofRules (.extended extra)) limit root (.ok (.directory entries)) = .ok files)
    (plain : ∀ p ∈ extra, p.negated = false) (line : ∀ file ∈ files, '\n' ∉ file.path.toList) :
    Spares files := by
  intro file hf fixed
  obtain ⟨-, lets⟩ := (mem_paths_take sound taken).mp (List.mem_map_of_mem hf)
  exact not_letsIn_of_plain plain (line file hf) fixed lets

/-- **A survey spares the directories of fixed names exactly if no source below them is let in**,
whatever patterns an operator adds. A source is let in there by a pattern that takes directories
back in, or by a line break in a name above. -/
theorem spares_take_iff {lines : List String} (sound : (Entry.directory entries).Sound)
    (valid : Ignore.ofLines lines = .ok extra) :
    ∃ rules, Rules.ofExtra lines = .ok rules ∧ ∀ limit root files,
      take (.ofRules rules) limit root (.ok (.directory entries)) = .ok files →
        (Spares files ↔ ∀ path, IsSource (.directory entries) path → IsBelowFixed path →
          ¬LetsIn extra path) := by
  refine ⟨_, Rules.ofExtra_eq_ok valid, fun limit root files taken => ⟨?_, ?_⟩⟩
  · intro spares path source fixed lets
    obtain ⟨file, hf, rfl⟩ := List.mem_map.mp ((mem_paths_take sound taken).mpr ⟨source, lets⟩)
    exact spares file hf fixed
  · intro none file hf fixed
    obtain ⟨source, lets⟩ := (mem_paths_take sound taken).mp (List.mem_map_of_mem hf)
    exact none file.path source fixed lets

end Surveys

/-! ### Two ways below -/

section TwoDeep

variable {outer inner : String}

/-- A tree with one file, below two directories. -/
def twoDeep (outer inner : String) : List (String × Entry) :=
  [(outer, .directory [(inner, .directory [("x.js", .file [])])])]

/-- The path of the file. -/
def twoDeepPath (outer inner : String) : String := outer ++ "/" ++ inner ++ "/" ++ "x.js"

/-- With proper names such a tree is sound. -/
theorem sound_twoDeep (first : IsName outer) (second : IsName inner) :
    (Entry.directory (twoDeep outer inner)).Sound := by
  have file : (Entry.directory [("x.js", .file [])]).Sound :=
    .directory (by decide) (by decide) (List.forall_mem_singleton.mpr (.file _))
  have below : (Entry.directory [(inner, .directory [("x.js", .file [])])]).Sound :=
    .directory (by simpa using second) (by simp) (List.forall_mem_singleton.mpr file)
  exact .directory (by simpa [twoDeep] using first) (by simp [twoDeep])
    (List.forall_mem_singleton.mpr below)

/-- Where nothing on the way is left out, the file is surveyed. -/
theorem exists_take_twoDeep {filter : Filter} (named : outer ≠ "")
    (first : filter.directory outer = false)
    (second : filter.directory (outer ++ "/" ++ inner) = false)
    (file : filter.file (twoDeepPath outer inner) = false) :
    ∃ files, take filter 500 "/r" (.ok (.directory (twoDeep outer inner))) = .ok files ∧
      twoDeepPath outer inner ∈ files.map (·.path) := by
  have shallow : ¬nestingLimit < nestingAll filter "" (twoDeep outer inner) := by
    simp [twoDeep, nestingAll, nesting, nestingLimit, below, named, first, second]
  have source : isEligible "x.js" = true := by decide
  have found : filesIn filter "/r" (twoDeep outer inner) =
      [{ path := twoDeepPath outer inner
         place := "/r" ++ "/" ++ twoDeepPath outer inner
         bytes := some [] }] := by
    rw [twoDeepPath] at file ⊢
    simp [filesIn, twoDeep, visitAll, visit, below, named, first, second, file, source]
  exact ⟨_, by rw [take, ofTree, if_neg shallow, found]; rfl, List.mem_singleton_self _⟩

end TwoDeep

/-- The pattern of `dist/` has nothing to do with installed packages, and with it a survey spares
none that are below a name with a line break. -/
theorem spares_take_iff_lineBreak :
    (Entry.directory (twoDeep "a\nb" "node_modules")).Sound ∧
      Ignore.ofLines ["dist/"] = .ok [.below "dist"] ∧
      ∃ rules, Rules.ofExtra ["dist/"] = .ok rules ∧ ∃ files,
        take (.ofRules rules) 500 "/r" (.ok (.directory (twoDeep "a\nb" "node_modules"))) =
          .ok files ∧ ¬Spares files := by
  have sound : (Entry.directory (twoDeep "a\nb" "node_modules")).Sound :=
    sound_twoDeep (by decide) (by decide)
  have valid : Ignore.ofLines ["dist/"] = .ok [.below "dist"] := by decide +kernel
  obtain ⟨rules, compiled, exactly⟩ := spares_take_iff sound valid
  obtain rfl : .extended [.below "dist"] = rules :=
    Except.ok.inj ((Rules.ofExtra_eq_ok valid).symm.trans compiled)
  obtain ⟨files, taken, listed⟩ : ∃ files,
      take (.ofRules (.extended [.below "dist"])) 500 "/r"
        (.ok (.directory (twoDeep "a\nb" "node_modules"))) = .ok files ∧
        twoDeepPath "a\nb" "node_modules" ∈ files.map (·.path) :=
    exists_take_twoDeep (by decide) (by decide +kernel) (by decide +kernel) (by decide +kernel)
  obtain ⟨source, lets⟩ := (mem_paths_take sound taken).mp listed
  have fixed : IsBelowFixed (twoDeepPath "a\nb" "node_modules") :=
    ⟨["a\nb"], "node_modules", ["x.js"], by decide +kernel, by decide, by decide⟩
  exact ⟨sound, valid, _, compiled, files, taken, fun spares =>
    (exactly 500 "/r" files taken).mp spares _ source fixed lets⟩

/-- The pattern of `!node_modules/`, which takes back in what the fixed pattern ignores. -/
def takenBack : Pattern := { Pattern.below "node_modules" with negated := true }

/-- **Not every survey spares the directories of fixed names**: a pattern takes them back in. -/
theorem not_forall_spares_take :
    ¬∀ (entries : List (String × Entry)) (lines : List String) (rules : Rules) (limit : Int)
      (root : String) (files : List SourceFile), (Entry.directory entries).Sound →
        Rules.ofExtra lines = .ok rules →
        take (.ofRules rules) limit root (.ok (.directory entries)) = .ok files →
        Spares files := by
  intro all
  have valid : Ignore.ofLines ["!node_modules/"] = .ok [takenBack] := by decide +kernel
  have sound : (Entry.directory (twoDeep "node_modules" "lib")).Sound :=
    sound_twoDeep (by decide) (by decide)
  obtain ⟨files, taken, listed⟩ : ∃ files,
      take (.ofRules (.extended [takenBack])) 500 "/r"
        (.ok (.directory (twoDeep "node_modules" "lib"))) = .ok files ∧
        twoDeepPath "node_modules" "lib" ∈ files.map (·.path) :=
    exists_take_twoDeep (by decide) (by decide +kernel) (by decide +kernel) (by decide +kernel)
  obtain ⟨file, hf, same⟩ := List.mem_map.mp listed
  refine all _ _ _ _ _ files sound (Rules.ofExtra_eq_ok valid) taken file hf ?_
  rw [same]
  exact ⟨[], "node_modules", ["lib", "x.js"], by decide +kernel, by decide, by decide⟩

end Survey

end DepGraph
