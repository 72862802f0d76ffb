import DepGraph.Proofs.Path.Route
import DepGraph.Proofs.Resolution.Denotation

/-!
# The way that a specifier goes

A specifier is read as **steps** (`DepGraph.Resolution.stepsOf`), with slashes and backslashes
between them. They are taken from the folders of the importing file, one after the other, and the
base of the specifier is where they lead (`DepGraph.Resolution.base_leads`).

So a specifier can be found for every file: the way between the folders of one file and another
file, written after `./`, leads there (`DepGraph.Resolution.baseChars_wayBetween`). As the file
itself is the first of the candidates, no other file that is known can take its place
(`DepGraph.Resolution.target?_wayBetween`).
-/

namespace DepGraph

namespace Resolution

open DepGraph.Path (Settled LeadDown IsNormal proceed folders between components joined written
  above here)

/-! ### The first candidate -/

section Bases

variable {known : String → Bool} {importer spec : String}

/-- The base is the first candidate. -/
theorem head?_candidates : (candidates importer spec).head? = some (base importer spec) := by
  rw [candidates, endings, List.cons_append, List.map_cons, List.append_nil]
  rfl

/-- A base that is known is the target. -/
theorem target?_of_known (isKnown : known (base importer spec) = true) :
    target? known importer spec = some (base importer spec) := by
  obtain ⟨rest, first⟩ := List.head?_eq_some_iff.mp head?_candidates
  rw [target?, first, List.find?_cons_of_pos isKnown]

end Bases

variable {importer spec target way : List Char} {steps : List (List Char)}

/-! ### Steps -/

/-- Whether a character stands between two steps of a specifier. -/
def isSeparator (c : Char) : Bool := c == '/' || c == '\\'

/-- The **steps** of a specifier: what stands between separators, but for those at its start. -/
def stepsOf (spec : List Char) : List (List Char) :=
  (spec.dropWhile isSeparator).splitOnP isSeparator

/-- Where the steps of a specifier lead from the folders of the importing file. The folders are
taken from the root in the same way. -/
def destination (importer spec : List Char) : List (List Char) :=
  (stepsOf spec).foldl proceed ((folders importer).foldl proceed [])

/-- A specifier with slashes for its backslashes. -/
def replaceBackslashes (spec : List Char) : List Char :=
  spec.map fun c => if c = '\\' then '/' else c

/-- Where no backslash is none is replaced. -/
theorem replaceBackslashes_eq_self_iff : replaceBackslashes spec = spec ↔ '\\' ∉ spec := by
  rw [replaceBackslashes]
  nth_rewrite 2 [← List.map_id spec]
  rw [List.map_inj_left]
  constructor
  · intro same back
    exact absurd (same '\\' back) (by decide)
  · intro none c hc
    rw [if_neg, id]
    rintro rfl
    exact none hc

/-- What stands between separators are the components, once the separators are slashes. -/
theorem components_replaceBackslashes :
    components (replaceBackslashes spec) = spec.splitOnP isSeparator := by
  induction spec with
  | nil => rfl
  | cons c spec ih =>
    rw [replaceBackslashes, List.map_cons, components, ← replaceBackslashes, ih,
      List.splitOnP_cons_eq_if_modifyHead]
    by_cases back : c = '\\'
    · simp [back, isSeparator]
    by_cases slash : c = '/'
    · simp [slash, isSeparator]
    · obtain ⟨d, ds, parts⟩ :=
        List.exists_cons_of_ne_nil (List.splitOnP_ne_nil isSeparator spec)
      simp [back, slash, isSeparator, parts]

/-- **The steps of a specifier** are the components of its slashed form. -/
theorem components_slashed : components (slashed spec) = stepsOf spec := by
  have separates : ((· == '/') ∘ fun c => if c = '\\' then '/' else c) = isSeparator := by
    funext c
    by_cases back : c = '\\' <;> simp [back, isSeparator]
  rw [slashed, List.dropWhile_map, separates, ← replaceBackslashes, components_replaceBackslashes,
    stepsOf]

/-- Where a specifier leads is settled. -/
theorem settled_destination : Settled (destination importer spec) :=
  (Path.settled_nil.foldl_proceed _).foldl_proceed _

/-- **The base of a specifier** is written from where its steps lead. -/
theorem baseChars_eq_destination (relative : importer.head? ≠ some '/')
    (unmarked : rootMarker.isPrefixOf spec = false) :
    baseChars importer spec = written (destination importer spec) := by
  rw [baseChars, unmarked, if_neg Bool.false_ne_true,
    Path.normalize_eq_written_foldl (head?_join_directory relative),
    Path.foldl_join_directory relative head?_slashed, components_slashed, destination]

/-- No slash is left in where a specifier leads. -/
theorem slash_not_mem_of_mem_destination {c : List Char} (h : c ∈ destination importer spec) :
    '/' ∉ c := by
  rw [destination, ← List.foldl_append, ← Path.walk_eq_foldl_proceed] at h
  rcases List.mem_append.mp (Path.mem_of_mem_walk h) with folder | step
  · exact Path.slash_not_mem_of_mem_components (List.dropLast_subset _ folder)
  · rw [← components_slashed] at step
    exact Path.slash_not_mem_of_mem_components step

/-- **The base of a specifier is where its steps lead**, one after the other, from the folders of
the importing file: what is empty or `.` leads nowhere, and `..` takes back the last component, or
is kept if there is none to take back. The folders of a file whose directory is written without
detours are the place where this begins. The base is normal. -/
theorem base_leads (importer spec : String) (relative : importer.toList.head? ≠ some '/')
    (unmarked : rootMarker.isPrefixOf spec.toList = false) :
    base importer spec =
        String.ofList (written (destination importer.toList spec.toList)) ∧
      (Settled (folders importer.toList) →
        destination importer.toList spec.toList =
          (stepsOf spec.toList).foldl proceed (folders importer.toList)) ∧
      IsNormal (base importer spec).toList := by
  have leads := baseChars_eq_destination relative unmarked
  refine ⟨by rw [base, leads], fun settled => ?_, ?_⟩
  · rw [destination, Path.foldl_proceed_of_settled settled]
  · rw [base, String.toList_ofList, leads]
    exact Path.isNormal_written settled_destination fun _ => slash_not_mem_of_mem_destination

/-- A specifier with separators of both kinds and with detours, out of a directory and past the
root. -/
theorem base_leads_pastRoot :
    base "src/pages/home.js" "\\.\\..//../..\\../lib\\x/" = "../../lib/x" ∧
      IsNormal "../../lib/x".toList := by
  obtain ⟨leads, -, normal⟩ :=
    base_leads "src/pages/home.js" "\\.\\..//../..\\../lib\\x/" (by decide) (by decide)
  have written : base "src/pages/home.js" "\\.\\..//../..\\../lib\\x/" = "../../lib/x" :=
    leads.trans (by decide +kernel)
  exact ⟨written, written ▸ normal⟩

/-! ### The way to a file -/

/-- The **way** from a file to another: up from its folders as far as is needed, and down. -/
def wayBetween (importer target : List Char) : List (List Char) :=
  between (folders importer) (components target)

/-- Without backslashes a specifier has the steps of its path. -/
theorem stepsOf_eq_components (slashes : '\\' ∉ spec) (relative : spec.head? ≠ some '/') :
    stepsOf spec = components spec := by
  have same : slashed spec = spec := by
    rw [slashed, ← replaceBackslashes, replaceBackslashes_eq_self_iff.mpr slashes]
    cases spec with
    | nil => rfl
    | cons c spec =>
      have first : c ≠ '/' := by simpa using relative
      simp [first]
  rw [← components_slashed, same]

/-- The steps that are written after `./`, if they have no separators in them. None at all are
written as nothing or as the directory itself. -/
theorem foldl_stepsOf_here {place : List (List Char)} (slashes : ∀ c ∈ steps, '/' ∉ c)
    (backslashes : ∀ c ∈ steps, '\\' ∉ c) (written : way = joined steps ∨ way = written steps) :
    (stepsOf ("./".toList ++ way)).foldl proceed place = steps.foldl proceed place := by
  rcases eq_or_ne steps [] with rfl | more
  · rcases written with rfl | rfl <;> rfl
  · have way : way = joined steps := written.elim id (·.trans (Path.written_of_ne_nil more))
    have noBackslash : '\\' ∉ "./".toList ++ joined steps := by
      rw [List.mem_append, Path.mem_joined (by decide)]
      rintro (front | ⟨c, hc, back⟩)
      · exact absurd front (by decide)
      · exact backslashes c hc back
    have parts : components ("./".toList ++ joined steps) = here :: steps := by
      have front : components (here ++ '/' :: joined steps) = here :: components (joined steps) :=
        Path.components_append_slash (by decide) _
      rw [Path.components_joined more slashes] at front
      exact front
    rw [way, stepsOf_eq_components noBackslash (by simp), parts, List.foldl_cons,
      Path.proceed_of_isIdle (c := here) rfl]

/-- A component of the way between two files leads up or is one of the file where it leads. -/
theorem mem_wayBetween {c : List Char} (h : c ∈ wayBetween importer target) :
    c = above ∨ c ∈ components target := by
  obtain ⟨shared, up, down, -, parts, way⟩ :=
    Path.exists_between (folders importer) (components target)
  rw [wayBetween, way] at h
  rcases List.mem_append.mp h with h | h
  · exact Or.inl (List.eq_of_mem_replicate h)
  · exact Or.inr (parts ▸ List.mem_append_right _ h)

/-- **The way between two files**, written after `./`, has the second one as its base. -/
theorem baseChars_wayBetween (fromFile : LeadDown (components importer))
    (toFile : LeadDown (components target)) (slashes : '\\' ∉ target)
    (written : way = joined (wayBetween importer target) ∨
      way = written (wayBetween importer target)) :
    baseChars importer ("./".toList ++ way) = target := by
  have filled : components target ≠ [] := Path.components_ne_nil target
  have relative : importer.head? ≠ some '/' := by
    rw [← Path.joined_components importer, Path.head?_joined fromFile.settled.moves]
    intro slash
    obtain ⟨c, hc, first⟩ := Option.bind_eq_some_iff.mp slash
    exact Path.slash_not_mem_of_mem_components (List.mem_of_head? hc) (List.mem_of_head? first)
  have fromFolders : LeadDown (folders importer) := fun c hc =>
    fromFile c (List.dropLast_subset _ hc)
  have noSlash : ∀ c ∈ wayBetween importer target, '/' ∉ c := fun c hc => by
    rcases mem_wayBetween hc with rfl | hc
    · decide
    · exact Path.slash_not_mem_of_mem_components hc
  have noBackslash : ∀ c ∈ wayBetween importer target, '\\' ∉ c := fun c hc back => by
    rcases mem_wayBetween hc with rfl | hc
    · exact absurd back (by decide)
    · refine slashes ?_
      rw [← Path.joined_components target]
      exact (Path.mem_joined (by decide)).mpr ⟨c, hc, back⟩
  have leads : destination importer ("./".toList ++ way) = components target := by
    rw [destination, Path.foldl_proceed_of_settled fromFolders.settled,
      foldl_stepsOf_here noSlash noBackslash written, wayBetween,
      Path.foldl_proceed_between fromFolders toFile]
  have unmarked : rootMarker.isPrefixOf ("./".toList ++ way) = false := rfl
  rw [baseChars_eq_destination relative unmarked, leads, Path.written_of_ne_nil filled,
    Path.joined_components]

/-- **A specifier for every file**: the way from one file to another, written after `./`, resolves
to that file if it is known, whatever else is. Where there is nothing to write, as the folder of one
file is the path of the other, it may be spelled out as `.`, or left out. -/
theorem target?_wayBetween (known : String → Bool) (importer target : String)
    (fromFile : LeadDown (components importer.toList))
    (toFile : LeadDown (components target.toList)) (slashes : '\\' ∉ target.toList)
    (isKnown : known target = true) :
    target? known importer
        ("./" ++ String.ofList (joined (wayBetween importer.toList target.toList))) =
          some target ∧
      target? known importer
        ("./" ++ String.ofList (written (wayBetween importer.toList target.toList))) =
          some target := by
  have leads (way : List Char)
      (written : way = joined (wayBetween importer.toList target.toList) ∨
        way = written (wayBetween importer.toList target.toList)) :
      target? known importer ("./" ++ String.ofList way) = some target := by
    have itself : base importer ("./" ++ String.ofList way) = target := by
      rw [base, String.toList_append, String.toList_ofList (l := way),
        baseChars_wayBetween fromFile toFile slashes written, String.ofList_toList]
    rw [target?_of_known (by rwa [itself]), itself]
  exact ⟨leads _ (Or.inl rfl), leads _ (Or.inr rfl)⟩

/-- The way goes up past the folders that are not shared, and down again, through a folder that is
called like the root of the sources; everything is known. -/
theorem target?_wayBetween_src :
    String.ofList (joined (wayBetween "app/pages/home.js".toList "app/src/lib/x.py".toList)) =
        "../src/lib/x.py" ∧
      target? (fun _ => true) "app/pages/home.js" "./../src/lib/x.py" =
        some "app/src/lib/x.py" := by
  have way : String.ofList
      (joined (wayBetween "app/pages/home.js".toList "app/src/lib/x.py".toList)) =
        "../src/lib/x.py" := by decide +kernel
  have leads := (target?_wayBetween (fun _ => true) "app/pages/home.js" "app/src/lib/x.py"
    (by decide) (by decide) (by decide) rfl).1
  rw [way] at leads
  exact ⟨way, leads⟩

end Resolution

end DepGraph
