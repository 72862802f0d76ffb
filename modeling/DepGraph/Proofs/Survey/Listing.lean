import DepGraph.Proofs.Survey.Names
import DepGraph.Survey
import Mathlib.Data.Set.Card

/-!
# What a survey lists

A file of a tree is **eligible** (`DepGraph.Survey.Eligible`) if it is a regular file whose name
ends as that of a source does, if it is not ignored, and if none of the directories above it is a
symbolic link or ignored. This says nothing of a walk, which finds the same files from the root
down: what a walk keeps below an entry (`DepGraph.Survey.Kept`) is what it keeps below the entries
of that directory, so that `DepGraph.Survey.mem_visit` follows by induction on the tree.

In each directory the walk goes by name, so that the files that it lists come in the order of their
paths, component by component (`DepGraph.Survey.pairwise_visit`). This is not the order of paths as
strings, in which `a-b.js` and `a.js` come before `a/x.js`: by components, whatever is in `a` comes
before both.

The survey returns all that is listed, unless that is more than the limit
(`DepGraph.Survey.lists_take`).
-/

namespace DepGraph

namespace Survey

open DepGraph.Path (IsName ofNames names)

/-! ### Eligible files -/

/-- The path of a file that is **eligible** in a tree. -/
structure Eligible (filter : Filter) (tree : Entry) (path : String) : Prop where
  /-- The path leads to a regular file. -/
  regular : ∃ bytes, tree.descend (names path) = some (.file bytes)
  /-- The name of the file ends as that of a source does. -/
  ending : ∃ front name, names path = front ++ [name] ∧ isEligible name = true
  /-- What is above the file and below the root is a directory that is not ignored. -/
  ancestors : ∀ above more, names path = above ++ more → above ≠ [] → more ≠ [] →
    (∃ entries, tree.descend above = some (.directory entries)) ∧
      filter.directory (ofNames above) = false
  /-- The file is not ignored. -/
  unignored : filter.file path = false

/-- The files of a tree that stands at a root are **listed**: those that are eligible, each with
its place and what is in it, in the order of their paths component by component. -/
structure Lists (filter : Filter) (root : String) (tree : Entry) (files : List SourceFile) :
    Prop where
  /-- The eligible files are listed, and no others. -/
  mem_iff : ∀ path, path ∈ files.map (·.path) ↔ Eligible filter tree path
  /-- A file is listed as it is found in the tree. -/
  found : ∀ file ∈ files, ∃ bytes, tree.descend (names file.path) = some (.file bytes) ∧
    file = { path := file.path, place := root ++ "/" ++ file.path, bytes := some bytes }
  /-- The components of the paths increase. -/
  increasing : (files.map fun file => Path.components file.path.toList).Pairwise (· < ·)
  /-- No path is listed twice. -/
  nodup : (files.map (·.path)).Nodup

/-! ### What a walk keeps -/

/-- A walk at a place keeps the file with these bytes that is at some names below an entry. The
root itself, which is at no names, is not looked up in the filter. -/
structure Kept (filter : Filter) (place : List String) (e : Entry) (below : List String)
    (bytes : Bytes) : Prop where
  /-- The names lead to the file. -/
  there : e.descend below = some (.file bytes)
  /-- The last name ends as that of a source does. -/
  ending : isEligible ((place ++ below).getLastD "") = true
  /-- No directory on the way is ignored. -/
  entered : ∀ above more, below = above ++ more → more ≠ [] → place ++ above ≠ [] →
    filter.directory (ofNames (place ++ above)) = false
  /-- The file is not ignored. -/
  unignored : filter.file (ofNames (place ++ below)) = false

/-- A file is **kept** by a walk below an entry. -/
def IsKept (filter : Filter) (root : String) (place : List String) (e : Entry)
    (file : SourceFile) : Prop :=
  ∃ below bytes, Kept filter place e below bytes ∧
    file =
      { path := ofNames (place ++ below)
        place := root ++ "/" ++ ofNames (place ++ below)
        bytes := some bytes }

section Kept

variable {filter : Filter} {place : List String} {below : List String} {bytes : Bytes}

/-- Of a file itself is kept. -/
theorem kept_file {there : Bytes} :
    Kept filter place (.file there) below bytes ↔
      below = [] ∧ bytes = there ∧ isEligible (place.getLastD "") = true ∧
        filter.file (ofNames place) = false := by
  constructor
  · intro h
    cases below with
    | nil =>
      have same : there = bytes := by simpa [Entry.descend] using h.there
      exact ⟨rfl, same.symm, by simpa using h.ending, by simpa using h.unignored⟩
    | cons name below => cases h.there
  · rintro ⟨rfl, rfl, ending, unignored⟩
    refine ⟨rfl, by simpa using ending, fun above more h hm => ?_, by simpa using unignored⟩
    exact absurd (List.append_eq_nil_iff.mp h.symm).2 hm

/-- Behind a symbolic link nothing is kept. -/
theorem not_kept_link {target : String} : ¬Kept filter place (.link target) below bytes := by
  intro h
  cases below with
  | nil => cases h.there
  | cons name below => cases h.there

/-- In a directory that is not ignored is kept what is kept in its entries. -/
theorem kept_directory {entries : List (String × Entry)} (apart : (entries.map (·.1)).Nodup) :
    Kept filter place (.directory entries) below bytes ↔
      (place ≠ [] → filter.directory (ofNames place) = false) ∧
        ∃ name rest e, below = name :: rest ∧ (name, e) ∈ entries ∧
          Kept filter (place ++ [name]) e rest bytes := by
  constructor
  · intro h
    cases below with
    | nil => cases h.there
    | cons name rest =>
      obtain ⟨e, he, there⟩ := (Entry.descend_directory_cons apart).mp h.there
      refine ⟨fun placed => ?_, name, rest, e, rfl, he, there, ?_, ?_, ?_⟩
      · simpa using h.entered [] (name :: rest) rfl (List.cons_ne_nil _ _) (by simpa using placed)
      · simpa using h.ending
      · intro above more hr hm _
        simpa using h.entered (name :: above) more (by rw [hr]; rfl) hm (by simp)
      · simpa using h.unignored
  · rintro ⟨outer, name, rest, e, rfl, he, h⟩
    refine ⟨(Entry.descend_directory_cons apart).mpr ⟨e, he, h.there⟩, by simpa using h.ending,
      fun above more hb hm placed => ?_, by simpa using h.unignored⟩
    cases above with
    | nil => simpa using outer (by simpa using placed)
    | cons first above =>
      obtain ⟨rfl, rfl⟩ := List.cons.inj hb
      simpa using h.entered above more rfl hm (by simp)

end Kept

/-! ### What a walk finds -/

section Walk

variable {filter : Filter} {root : String} {place : List String} {name : String} {e : Entry}
variable {entries : List (String × Entry)} {file : SourceFile}

/-- The path of an entry is made of one more name. -/
theorem below_ofNames (proper : ∀ n ∈ place, IsName n) (name : String) :
    below (ofNames place) name = ofNames (place ++ [name]) := by
  rcases eq_or_ne place [] with rfl | more
  · simp [below, ofNames, Path.joined]
  · have chars : place.map String.toList ≠ [] := by simpa using more
    rw [below, if_neg (by simpa using Path.ofNames_ne_empty more proper)]
    refine String.toList_inj.mp ?_
    simp [ofNames, Path.joined_concat chars]

/-- Each entry is visited, with its path. -/
theorem visitAll_eq (filter : Filter) (root path : String) (entries : List (String × Entry)) :
    visitAll filter root path entries =
      entries.map fun x => (x.1, visit filter root (below path x.1) x.1 x.2) := by
  induction entries with
  | nil => simp only [visitAll, List.map_nil]
  | cons x entries ih => simp only [visitAll, List.map_cons, ih]

/-- What is found in a directory is found entry by entry, by name. -/
theorem flatMap_visitAll (filter : Filter) (root path : String)
    (entries : List (String × Entry)) :
    ((visitAll filter root path entries).mergeSort byName).flatMap (·.2) =
      (entries.mergeSort byName).flatMap fun x =>
        visit filter root (below path x.1) x.1 x.2 := by
  -- the order is by name alone
  have sorted := List.map_mergeSort (l := entries) (r := byName) (s := byName)
    (f := fun x => (x.1, visit filter root (below path x.1) x.1 x.2)) fun _ _ _ _ => rfl
  rw [visitAll_eq, ← sorted, List.flatMap_map]

/-- If a walk finds in each entry what it should, it does so in the directory. -/
theorem mem_flatMap_visit (proper : ∀ n ∈ place, IsName n) (apart : (entries.map (·.1)).Nodup)
    (outer : place ≠ [] → filter.directory (ofNames place) = false)
    (inner : ∀ x ∈ entries, file ∈ visit filter root (ofNames (place ++ [x.1])) x.1 x.2 ↔
      IsKept filter root (place ++ [x.1]) x.2 file) :
    file ∈ ((visitAll filter root (ofNames place) entries).mergeSort byName).flatMap (·.2) ↔
      IsKept filter root place (.directory entries) file := by
  simp only [flatMap_visitAll, List.mem_flatMap, List.mem_mergeSort, below_ofNames proper]
  constructor
  · rintro ⟨x, hx, hf⟩
    obtain ⟨rest, bytes, kept, rfl⟩ := (inner x hx).mp hf
    refine ⟨x.1 :: rest, bytes, (kept_directory apart).mpr ?_, by simp⟩
    exact ⟨outer, x.1, rest, x.2, rfl, hx, kept⟩
  · rintro ⟨below, bytes, kept, rfl⟩
    obtain ⟨-, name, rest, e, rfl, he, kept⟩ := (kept_directory apart).mp kept
    exact ⟨(name, e), he, (inner _ he).mpr ⟨rest, bytes, kept, by simp⟩⟩

/-- **A walk finds what it should** at or below an entry. -/
theorem mem_visit (sound : e.Sound) (proper : ∀ n ∈ place ++ [name], IsName n) :
    file ∈ visit filter root (ofNames (place ++ [name])) name e ↔
      IsKept filter root (place ++ [name]) e file := by
  induction sound generalizing place name with
  | file bytes =>
    simp only [visit, IsKept, kept_file]
    constructor
    · intro h
      split at h
      · obtain rfl := List.mem_singleton.mp h
        refine ⟨[], bytes, ⟨rfl, rfl, ?_⟩, by simp⟩
        simp_all
      · cases h
    · rintro ⟨_, _, ⟨rfl, rfl, ending, unignored⟩, rfl⟩
      have both : (isEligible name && !filter.file (ofNames (place ++ [name]))) = true := by
        simp_all
      simp [both]
  | link target => simp [visit, IsKept, not_kept_link]
  | @directory entries names apart inner ih =>
    have within (x) (hx : x ∈ entries) : ∀ n ∈ (place ++ [name]) ++ [x.1], IsName n :=
      fun n hn => (List.mem_append.mp hn).elim (proper n) fun h =>
        List.mem_singleton.mp h ▸ names x hx
    simp only [visit]
    split
    next ignored =>
      -- the directory is on the way to whatever is below it
      have nothing : ¬IsKept filter root (place ++ [name]) (.directory entries) file := by
        rintro ⟨below, bytes, kept, -⟩
        have entered := ((kept_directory apart).mp kept).1 (by simp)
        exact absurd ignored (by simp [entered])
      simpa using nothing
    next entered =>
      exact mem_flatMap_visit proper apart (fun _ => by simpa using entered)
        fun x hx => ih x hx (within x hx)

/-! ### The order of a walk -/

/-- The order by name is that of names. -/
theorem byName_iff {α : Type} {a b : String × α} : byName a b = true ↔ a.1 ≤ b.1 := by
  simp only [byName, Bool.not_eq_true', decide_eq_false_iff_not, String.not_lt]

/-- Entries with distinct names are sorted by name. -/
theorem pairwise_mergeSort_byName (apart : (entries.map (·.1)).Nodup) :
    (entries.mergeSort byName).Pairwise fun a b => a.1 < b.1 := by
  have sorted : (entries.mergeSort byName).Pairwise fun a b => byName a b = true := by
    refine List.pairwise_mergeSort (fun a b c hab hbc => ?_) (fun a b => ?_) entries
    · exact byName_iff.mpr ((byName_iff.mp hab).trans (byName_iff.mp hbc))
    · simpa [byName_iff] using le_total a.1 b.1
  have distinct : (entries.mergeSort byName).Pairwise fun a b => a.1 ≠ b.1 :=
    List.pairwise_map.mp (((List.mergeSort_perm entries byName).map _).nodup_iff.mpr apart)
  exact sorted.imp₂ (fun a b hab hne => lt_of_le_of_ne (byName_iff.mp hab) hne) distinct

/-- A file comes **before** another one if the components of its path do. -/
def Before (f g : SourceFile) : Prop :=
  Path.components f.path.toList < Path.components g.path.toList

/-- What is kept below an entry is at proper names that begin with those of the place. -/
theorem IsKept.exists_names (kept : IsKept filter root place e file) (sound : e.Sound)
    (proper : ∀ n ∈ place, IsName n) :
    ∃ below, file.path = ofNames (place ++ below) ∧ ∀ n ∈ place ++ below, IsName n := by
  obtain ⟨below, bytes, kept, rfl⟩ := kept
  exact ⟨below, rfl, List.forall_mem_append.mpr ⟨proper, sound.isName_of_descend kept.there⟩⟩

/-- If a walk goes in order through each entry, it does so through the directory. -/
theorem pairwise_flatMap_visit (proper : ∀ n ∈ place, IsName n)
    (sound : (Entry.directory entries).Sound)
    (inner : ∀ x ∈ entries,
      (visit filter root (ofNames (place ++ [x.1])) x.1 x.2).Pairwise Before) :
    (((visitAll filter root (ofNames place) entries).mergeSort byName).flatMap (·.2)).Pairwise
      Before := by
  obtain - | - | ⟨names, apart, sounds⟩ := sound
  have within (x) (hx : x ∈ entries) : ∀ n ∈ place ++ [x.1], IsName n :=
    List.forall_mem_append.mpr ⟨proper, by simpa using names x hx⟩
  rw [flatMap_visitAll, List.pairwise_flatMap]
  simp only [below_ofNames proper]
  refine ⟨fun x hx => inner x (List.mem_mergeSort.mp hx), ?_⟩
  refine (pairwise_mergeSort_byName apart).imp_of_mem fun {x y} hx hy first f hf g hg => ?_
  -- the paths of two files part at the names of the entries
  have hx := List.mem_mergeSort.mp hx
  have hy := List.mem_mergeSort.mp hy
  obtain ⟨rest, hf, properf⟩ :=
    ((mem_visit (sounds x hx) (within x hx)).mp hf).exists_names (sounds x hx) (within x hx)
  obtain ⟨rest', hg, properg⟩ :=
    ((mem_visit (sounds y hy) (within y hy)).mp hg).exists_names (sounds y hy) (within y hy)
  rw [List.append_assoc] at hf hg properf properg
  rw [Before, hf, hg]
  exact Path.components_lt first properf properg

/-- **A walk goes through the files in the order of their paths**, component by component. -/
theorem pairwise_visit (sound : e.Sound) (proper : ∀ n ∈ place ++ [name], IsName n) :
    (visit filter root (ofNames (place ++ [name])) name e).Pairwise Before := by
  induction sound generalizing place name with
  | file bytes =>
    simp only [visit]
    split
    · exact List.pairwise_singleton _ _
    · exact List.Pairwise.nil
  | link target => simp [visit]
  | directory names apart inner ih =>
    simp only [visit]
    split
    · exact List.Pairwise.nil
    · refine pairwise_flatMap_visit proper (.directory names apart inner) fun x hx => ih x hx ?_
      exact List.forall_mem_append.mpr ⟨proper, by simpa using names x hx⟩

end Walk

/-! ### What a tree lists -/

section Tree

variable {filter : Filter} {root path : String} {tree : Entry} {below : List String}
variable {bytes : Bytes} {entries : List (String × Entry)} {files files' : List SourceFile}

/-- What is eligible is kept by a walk from the root. -/
theorem Eligible.exists_kept (h : Eligible filter tree path) :
    ∃ bytes, Kept filter [] tree (names path) bytes := by
  obtain ⟨bytes, there⟩ := h.regular
  refine ⟨bytes, there, ?_, fun above more hp hm ha => (h.ancestors above more hp ha hm).2, ?_⟩
  · obtain ⟨front, name, hn, ending⟩ := h.ending
    simpa [hn] using ending
  · simpa [Path.ofNames_names] using h.unignored

/-- What is kept by a walk from the root of a sound tree is eligible. -/
theorem Kept.eligible (kept : Kept filter [] tree below bytes) (sound : tree.Sound)
    (more : below ≠ []) : Eligible filter tree (ofNames below) := by
  have itself : names (ofNames below) = below :=
    Path.names_ofNames more (sound.isName_of_descend kept.there)
  refine ⟨⟨bytes, by rw [itself, kept.there]⟩, ?_, fun above rest hb ha hr => ?_, kept.unignored⟩
  · rcases List.eq_nil_or_concat below with rfl | ⟨front, name, rfl⟩
    · exact absurd rfl more
    · exact ⟨front, name, by rw [itself, List.concat_eq_append], by simpa using kept.ending⟩
  · rw [itself] at hb
    exact ⟨Entry.exists_directory_of_descend_append (hb ▸ kept.there) hr,
      kept.entered above rest hb hr ha⟩

/-- The files in a tree are what a walk keeps. -/
theorem mem_filesIn (sound : (Entry.directory entries).Sound) {file : SourceFile} :
    file ∈ filesIn filter root entries ↔ IsKept filter root [] (.directory entries) file := by
  obtain - | - | ⟨proper, apart, inner⟩ := sound
  refine mem_flatMap_visit (List.forall_mem_nil _) apart (absurd rfl) fun x hx => ?_
  exact mem_visit (inner x hx) (List.forall_mem_singleton.mpr (proper x hx))

/-- The files in a tree are in order. -/
theorem pairwise_filesIn (sound : (Entry.directory entries).Sound) :
    (filesIn filter root entries).Pairwise Before := by
  refine pairwise_flatMap_visit (List.forall_mem_nil _) sound fun x hx => ?_
  obtain - | - | ⟨proper, apart, inner⟩ := sound
  exact pairwise_visit (inner x hx) (List.forall_mem_singleton.mpr (proper x hx))

/-- Files in order are at distinct paths. -/
theorem nodup_of_pairwise (ordered : files.Pairwise Before) : (files.map (·.path)).Nodup := by
  refine List.pairwise_map.mpr (ordered.imp fun {f g} first same => ?_)
  rw [Before, same] at first
  exact lt_irrefl _ first

/-- **The files in a sound tree are those that are listed.** -/
theorem lists_filesIn (sound : (Entry.directory entries).Sound) :
    Lists filter root (.directory entries) (filesIn filter root entries) where
  mem_iff path := by
    constructor
    · intro h
      obtain ⟨file, hf, rfl⟩ := List.mem_map.mp h
      obtain ⟨below, bytes, kept, rfl⟩ := (mem_filesIn sound).mp hf
      refine kept.eligible sound ?_
      rintro rfl
      cases kept.there
    · intro h
      obtain ⟨bytes, kept⟩ := h.exists_kept
      refine List.mem_map.mpr ⟨_, (mem_filesIn sound).mpr ⟨names path, bytes, kept, rfl⟩, ?_⟩
      exact Path.ofNames_names path
  found file hf := by
    obtain ⟨below, bytes, kept, rfl⟩ := (mem_filesIn sound).mp hf
    have more : below ≠ [] := by
      rintro rfl
      cases kept.there
    refine ⟨bytes, ?_, rfl⟩
    simp only [List.nil_append]
    rw [Path.names_ofNames more (sound.isName_of_descend kept.there)]
    exact kept.there
  increasing := List.pairwise_map.mpr (pairwise_filesIn sound)
  nodup := nodup_of_pairwise (pairwise_filesIn sound)

/-- A listing has as many files as are eligible. -/
theorem Lists.ncard_eligible (lists : Lists filter root tree files) :
    {path | Eligible filter tree path}.ncard = files.length := by
  have set : {path | Eligible filter tree path} = (files.map (·.path)).toFinset :=
    Set.ext fun path => by simpa using (lists.mem_iff path).symm
  rw [set, Set.ncard_coe_finset, List.toFinset_card_of_nodup lists.nodup, List.length_map]

/-- In a listing a file is found at its path. -/
theorem Lists.mem_iff_of_eligible (lists : Lists filter root tree files) {file : SourceFile} :
    file ∈ files ↔ Eligible filter tree file.path ∧
      ∃ bytes, tree.descend (names file.path) = some (.file bytes) ∧
        file = { path := file.path, place := root ++ "/" ++ file.path, bytes := some bytes } := by
  constructor
  · exact fun hf => ⟨(lists.mem_iff _).mp (List.mem_map_of_mem hf), lists.found file hf⟩
  · rintro ⟨eligible, bytes, there, itself⟩
    obtain ⟨file', hf, same⟩ := List.mem_map.mp ((lists.mem_iff _).mpr eligible)
    obtain ⟨bytes', there', itself'⟩ := lists.found file' hf
    rw [same] at there' itself'
    obtain rfl : bytes' = bytes := by simpa [there] using there'.symm
    rwa [itself, ← itself']

/-- The files in a listing come one before the other. -/
theorem Lists.before (lists : Lists filter root tree files) : files.Pairwise Before :=
  List.pairwise_map (f := fun file : SourceFile => Path.components file.path.toList)
    |>.mp lists.increasing

/-- **There is one listing of a tree.** -/
theorem Lists.unique (lists : Lists filter root tree files)
    (lists' : Lists filter root tree files') : files = files' := by
  have perm : files.Perm files' := by
    refine (List.perm_ext_iff_of_nodup lists.nodup.of_map lists'.nodup.of_map).mpr fun file => ?_
    rw [lists.mem_iff_of_eligible, lists'.mem_iff_of_eligible]
  refine perm.eq_of_pairwise (fun f g _ _ first second => ?_) lists.before lists'.before
  exact absurd (lt_trans first second) (lt_irrefl (Path.components f.path.toList))

/-- **A walk does not depend on the order in which directories list their entries**, but only on the
files that are found by going down the tree. -/
theorem filesIn_congr {entries' : List (String × Entry)}
    (sound : (Entry.directory entries).Sound) (sound' : (Entry.directory entries').Sound)
    (same : ∀ below bytes, Entry.descend below (.directory entries) = some (.file bytes) ↔
      Entry.descend below (.directory entries') = some (.file bytes)) :
    filesIn filter root entries = filesIn filter root entries' := by
  have carry {es es' : List (String × Entry)} {path : String}
      (same : ∀ bytes, Entry.descend (names path) (.directory es) = some (.file bytes) →
        Entry.descend (names path) (.directory es') = some (.file bytes))
      (h : Eligible filter (.directory es) path) : Eligible filter (.directory es') path := by
    obtain ⟨bytes, there⟩ := h.regular
    refine ⟨⟨bytes, same bytes there⟩, h.ending, fun above more hp ha hm => ?_, h.unignored⟩
    exact ⟨Entry.exists_directory_of_descend_append (hp ▸ same bytes there) hm,
      (h.ancestors above more hp ha hm).2⟩
  have lists : Lists filter root (.directory entries') (filesIn filter root entries') :=
    lists_filesIn sound'
  refine (lists_filesIn sound).unique ⟨fun path => (lists.mem_iff path).trans ?_, fun file hf => ?_,
    lists.increasing, lists.nodup⟩
  · exact ⟨carry fun bytes => (same _ bytes).mpr, carry fun bytes => (same _ bytes).mp⟩
  · obtain ⟨bytes, there, itself⟩ := lists.found file hf
    exact ⟨bytes, (same _ bytes).mpr there, itself⟩

end Tree

/-- **A survey lists the eligible files of a tree, in the order of their components, if they are not
more than the limit**, and otherwise says how many they are. The entries of each directory of the
tree may be in any order. -/
theorem lists_take (filter : Filter) (limit : Int) (root : String)
    (entries : List (String × Entry)) (sound : (Entry.directory entries).Sound)
    (shallow : nestingAll filter "" entries ≤ nestingLimit) :
    ∃ files, ofTree filter root (.ok (.directory entries)) = .ok files ∧
      Lists filter root (.directory entries) files ∧
      take filter limit root (.ok (.directory entries)) =
        if limit < {path | Eligible filter (.directory entries) path}.ncard then
          .error (.tooManyFiles {path | Eligible filter (.directory entries) path}.ncard limit)
        else .ok files := by
  have walked : ofTree filter root (.ok (.directory entries)) =
      .ok (filesIn filter root entries) := by
    rw [ofTree, if_neg (Nat.not_lt.mpr shallow)]
  have lists : Lists filter root (.directory entries) (filesIn filter root entries) :=
    lists_filesIn sound
  refine ⟨_, walked, lists, ?_⟩
  rw [lists.ncard_eligible, take, walked]
  simp only [bind, Except.bind]
  split
  · rfl
  · rfl

/-- A directory, a link, a file that is no source and two that are, in no particular order, beside a
directory and a file that are ignored. -/
def mixedEntries : List (String × Entry) :=
  [("skip.py", .file []), ("a.js", .file []), ("vendor", .directory [("v.js", .file [])]),
    ("l.js", .link "a.js"), ("a", .directory [("y.txt", .file []), ("x.js", .file [])]),
    ("a-b.js", .file [])]

/-- The filter that leaves out what is to be ignored of the mixed entries. -/
def mixedFilter : Filter := ⟨(· == "vendor"), (· == "skip.py")⟩

/-- Three of the mixed entries are listed, and they are too many if two are allowed. -/
theorem lists_take_mixedEntries :
    (Entry.directory mixedEntries).Sound ∧ nestingAll mixedFilter "" mixedEntries ≤ nestingLimit ∧
      ∃ files, Lists mixedFilter "/r" (.directory mixedEntries) files ∧
        files.map (·.path) = ["a/x.js", "a-b.js", "a.js"] ∧
        take mixedFilter 3 "/r" (.ok (.directory mixedEntries)) = .ok files ∧
        take mixedFilter 2 "/r" (.ok (.directory mixedEntries)) = .error (.tooManyFiles 3 2) := by
  have sound : (Entry.directory mixedEntries).Sound := by
    refine .directory (by decide) (by decide) ?_
    simp only [mixedEntries, List.forall_mem_cons]
    refine ⟨.file _, .file _, .directory (by decide) (by decide) ?_, .link _,
      .directory (by decide) (by decide) ?_, .file _, List.forall_mem_nil _⟩
    · exact List.forall_mem_singleton.mpr (.file _)
    · exact List.forall_mem_cons.mpr ⟨.file _, List.forall_mem_singleton.mpr (.file _)⟩
  have shallow : nestingAll mixedFilter "" mixedEntries ≤ nestingLimit := by decide +kernel
  have listed : (filesIn mixedFilter "/r" mixedEntries).map (·.path) =
      ["a/x.js", "a-b.js", "a.js"] := by
    simp +decide [filesIn, mixedEntries, visitAll, visit, mixedFilter, below, List.mergeSort,
      List.MergeSort.Internal.splitInTwo, List.splitAt, List.splitAt.go, byName,
      -String.lt_iff_ltb]
  obtain ⟨files, -, lists, all⟩ := lists_take mixedFilter 3 "/r" mixedEntries sound shallow
  obtain ⟨_, -, -, tooMany⟩ := lists_take mixedFilter 2 "/r" mixedEntries sound shallow
  obtain rfl : files = filesIn mixedFilter "/r" mixedEntries := lists.unique (lists_filesIn sound)
  have count : {path | Eligible mixedFilter (.directory mixedEntries) path}.ncard = 3 := by
    rw [lists.ncard_eligible, ← List.length_map (·.path), listed]
    rfl
  rw [count] at all tooMany
  exact ⟨sound, shallow, _, lists, listed, all, tooMany⟩

end Survey

end DepGraph
