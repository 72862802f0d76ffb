import DepGraph.Proofs.Rebuild.Draft
import DepGraph.Proofs.Reading
import DepGraph.Survey
import Mathlib.Data.List.Basic

/-!
# Where a tree is surveyed

The place of a tree on disk goes into a survey only as the place of each file
(`DepGraph.Survey.filesIn_eq_map`), and all the files are found there
(`DepGraph.Survey.isSome_bytes_of_mem_filesIn`). As a reader does not care where a file is that it
finds, the graph of the files in a tree is the same wherever the tree stands
(`DepGraph.Survey.ofFiles_filesIn`).
-/

namespace DepGraph

namespace Survey

/-! ### The files of a walk -/

/-- A file **as found** in the tree that stands at a root. -/
def foundAt (root : String) (file : SourceFile) : SourceFile :=
  { file with place := root ++ "/" ++ file.path }

/-- Sorting by name and listing what was found under each name does not look at what was found. -/
theorem flatMap_mergeSort_map (f : SourceFile → SourceFile)
    (found : List (String × List SourceFile)) :
    ((found.map fun x => (x.1, x.2.map f)).mergeSort byName).flatMap (·.2) =
      ((found.mergeSort byName).flatMap (·.2)).map f := by
  -- the order is by name alone, and the names stay
  have sorted : (found.mergeSort byName).map (fun x => (x.1, x.2.map f)) =
      (found.map fun x => (x.1, x.2.map f)).mergeSort byName :=
    List.map_mergeSort fun _ _ _ _ => rfl
  rw [← sorted, List.flatMap_map, List.map_flatMap]

mutual

/-- What a walk finds at or below an entry, it finds wherever the tree stands. -/
theorem visit_eq_map (filter : Filter) (root : String) :
    (path name : String) → (e : Entry) →
      visit filter root path name e = (visit filter "" path name e).map (foundAt root)
  | path, name, .file bytes => by
    simp only [visit]
    split
    · rfl
    · rfl
  | path, name, .link target => by simp only [visit, List.map_nil]
  | path, name, .directory entries => by
    simp only [visit]
    split
    · rfl
    · rw [visitAll_eq_map filter root path entries, flatMap_mergeSort_map]

/-- What a walk finds in the entries of a directory, it finds wherever the tree stands. -/
theorem visitAll_eq_map (filter : Filter) (root : String) :
    (path : String) → (entries : List (String × Entry)) →
      visitAll filter root path entries =
        (visitAll filter "" path entries).map fun x => (x.1, x.2.map (foundAt root))
  | path, [] => by simp only [visitAll, List.map_nil]
  | path, (name, e) :: rest => by
    simp only [visitAll, List.map_cons, visit_eq_map filter root (below path name) name e,
      visitAll_eq_map filter root path rest]

end

/-- **The files of a tree are the same wherever it stands**, but for where they are found. -/
theorem filesIn_eq_map (filter : Filter) (root : String) (entries : List (String × Entry)) :
    filesIn filter root entries = (filesIn filter "" entries).map (foundAt root) := by
  rw [filesIn, visitAll_eq_map, flatMap_mergeSort_map, filesIn]

mutual

theorem isSome_bytes_of_mem_visit {filter : Filter} {root : String} {file : SourceFile} :
    (path name : String) → (e : Entry) → file ∈ visit filter root path name e →
      file.bytes.isSome = true
  | path, name, .file bytes, h => by
    simp only [visit] at h
    split at h
    · obtain rfl := List.mem_singleton.mp h
      rfl
    · cases h
  | path, name, .link target, h => by simp [visit] at h
  | path, name, .directory entries, h => by
    simp only [visit] at h
    split at h
    · cases h
    · obtain ⟨x, hx, hf⟩ := List.mem_flatMap.mp h
      exact isSome_bytes_of_mem_visitAll path entries x (List.mem_mergeSort.mp hx) hf

theorem isSome_bytes_of_mem_visitAll {filter : Filter} {root : String} {file : SourceFile} :
    (path : String) → (entries : List (String × Entry)) → (x : String × List SourceFile) →
      x ∈ visitAll filter root path entries → file ∈ x.2 → file.bytes.isSome = true
  | path, [], x, h, hf => by simp [visitAll] at h
  | path, (name, e) :: rest, x, h, hf => by
    rcases List.mem_cons.mp h with rfl | h
    · exact isSome_bytes_of_mem_visit (below path name) name e hf
    · exact isSome_bytes_of_mem_visitAll path rest x h hf

end

/-- **Every file of a tree is found** where the walk says. -/
theorem isSome_bytes_of_mem_filesIn {filter : Filter} {root : String}
    {entries : List (String × Entry)} {file : SourceFile}
    (h : file ∈ filesIn filter root entries) : file.bytes.isSome = true := by
  obtain ⟨x, hx, hf⟩ := List.mem_flatMap.mp h
  exact isSome_bytes_of_mem_visitAll "" entries x (List.mem_mergeSort.mp hx) hf

/-! ### The graph of a tree -/

section Graph

variable {n : Int} {read : FileReader} {files : List SourceFile} {f : SourceFile → SourceFile}

/-- Files that are read alike at the same paths have the same graph. -/
theorem ofFiles_map (path : ∀ file ∈ files, (f file).path = file.path)
    (alike : ∀ file ∈ files, read (f file) = read file) :
    Graph.ofFiles n read (files.map f) = Graph.ofFiles n read files := by
  have parsed : Rebuild.parsedFiles read (files.map f) = Rebuild.parsedFiles read files := by
    rw [Rebuild.parsedFiles, List.filterMap_map]
    exact List.filterMap_congr fun file hf => by simp only [Function.comp_apply, alike file hf]
  have known : Rebuild.knows (files.map f) = Rebuild.knows files := by
    funext p
    have paths : (files.map f).map (·.path) = files.map (·.path) := by
      rw [List.map_map]
      exact List.map_congr_left path
    simp only [Rebuild.knows, paths]
  simp only [Graph.ofFiles, parsed, known]

/-- **The graph of a tree is the same wherever it stands.** -/
theorem ofFiles_filesIn (r : Syntax.Registry) (filter : Filter) (root : String)
    (entries : List (String × Entry)) :
    Graph.ofFiles n r.fileReader (filesIn filter root entries) =
      Graph.ofFiles n r.fileReader (filesIn filter "" entries) := by
  rw [filesIn_eq_map]
  refine ofFiles_map (fun _ _ => rfl) fun file hf => ?_
  exact Reading.fileReader_relocate _ (isSome_bytes_of_mem_filesIn hf)

end Graph

end Survey

end DepGraph
