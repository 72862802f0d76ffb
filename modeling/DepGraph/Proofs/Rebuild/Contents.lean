import DepGraph.Proofs.Rebuild.Draft
import DepGraph.Proofs.Rebuild.Ending
import Mathlib.Data.List.Perm.Basic

/-!
# What a rebuild stores

A rebuild stores all or nothing: one that fails leaves the graph as it was
(`DepGraph.Rebuild.graph_of_outcome_error`), and one that returns stores the graph of its files,
whatever was stored before (`DepGraph.Rebuild.returned_of_outcome_ok`).

What the graph of some files is, is also said member by member (`DepGraph.Graph.Depicts`): which
nodes there are and in which order, which edges, and that they come in the order in which they are
first mentioned. These properties leave no choice (`DepGraph.Graph.Depicts.unique`), and so
rebuilding from the same files again changes nothing.
-/

namespace DepGraph

open Rebuild

namespace Rebuild

section Outcome

variable {failures : Failures} {n : Int} {read : FileReader} {files : List SourceFile}
variable {run : Option Run} {store : Store}

/-- **A rebuild that fails leaves the graph alone.** -/
theorem graph_of_outcome_error {f : Fault}
    (failed : (rebuild failures n read files run store).outcome = .error f) :
    (rebuild failures n read files run store).store.graph = store.graph := by
  generalize hb : rebuild failures n read files run store = b at failed
  have ending := hb ▸ ending_rebuild
  cases ending with
  | refused => rfl
  | unopened => rfl
  | unbegun => rfl
  | undone => rfl
  | abandoned => rfl
  | committed => cases failed

/-- **A rebuild that returns stores the graph of its files.** It asked all the queries of its
script, its reader read all the files, and its summary is that of its plan. -/
theorem returned_of_outcome_ok {stats : RebuildSummary}
    (returned : (rebuild failures n read files run store).outcome = .ok stats) :
    (rebuild failures n read files run store).store.graph = Graph.ofFiles n read files ∧
      (rebuild failures n read files run store).queries =
        queriesOf (script n read files).steps ∧
      stats = (script n read files).summary files.length ∧ read.ReadsAll files := by
  obtain ⟨calm, summary, done⟩ := committed_of_outcome_ok returned
  refine ⟨?_, ?_, summary, (hazards_script_eq_nil_iff.mp calm).1⟩
  · simp [done, performed, committedStore, perform_of_calm calm, applyAll_script]
  · simp [done, performed, perform_of_calm calm]

end Outcome

/-! ### Parsed and skipped files -/

section Files

variable {read : FileReader} {files : List SourceFile}

/-- The paths of the parsed files are paths of files, in the same order. -/
theorem paths_parsedFiles_sublist (own : read.KeepsPath files) :
    ((parsedFiles read files).map (·.path)).Sublist (files.map (·.path)) := by
  induction files with
  | nil => exact List.Sublist.refl _
  | cons file files ih =>
    have rest := ih fun file' hf => own file' (List.mem_cons_of_mem _ hf)
    match h : read file with
    | .error f => simpa [parsedFiles, h] using rest.cons file.path
    | .ok (none, events) => simpa [parsedFiles, h] using rest.cons file.path
    | .ok (some p, events) =>
      have path := own file List.mem_cons_self p events h
      simpa [parsedFiles, h, path] using rest.cons_cons file.path

/-- **Every file is parsed or left out**, if all can be read. -/
theorem length_parsedFiles_add_length_skippedPaths (readable : read.ReadsAll files) :
    (parsedFiles read files).length + (skippedPaths read files).length = files.length := by
  induction files with
  | nil => rfl
  | cons file files ih =>
    have rest := ih fun file' hf => readable file' (List.mem_cons_of_mem _ hf)
    obtain ⟨⟨parsed, events⟩, h⟩ := readable file List.mem_cons_self
    simp only [parsedFiles, skippedPaths] at rest
    cases parsed with
    | none =>
      simp only [parsedFiles, skippedPaths, List.filterMap_cons, h, List.length_cons]
      omega
    | some p =>
      simp only [parsedFiles, skippedPaths, List.filterMap_cons, h, List.length_cons]
      omega

end Files

end Rebuild

/-! ### What a graph depicts -/

/-- A graph **depicts** some files if it is the graph that they are meant to have. -/
structure Graph.Depicts (n : Nat) (read : FileReader) (files : List SourceFile) (g : Graph) :
    Prop where
  /-- The nodes are the parsed files, in order, each with the first characters of its content. -/
  nodes : g.nodes = (parsedFiles read files).map fun p => ⟨p.path, p.content.take n⟩
  /-- There is an edge where a specifier of a parsed file resolves, among all the files, to a parsed
  one. -/
  edges : ∀ d, d ∈ g.edges ↔
    (∃ p ∈ parsedFiles read files, p.path = d.source ∧
      ∃ s ∈ p.specifiers, Resolution.target? (knows files) p.path s = some d.target) ∧
    ∃ p ∈ parsedFiles read files, p.path = d.target
  /-- No edge is there twice. -/
  nodup : g.edges.Nodup
  /-- The edges come in the order in which they are first mentioned. -/
  order : g.edges.Pairwise fun d e =>
    (mentions (knows files) (parsedFiles read files)).idxOf d <
      (mentions (knows files) (parsedFiles read files)).idxOf e

namespace Graph

variable {n : Nat} {read : FileReader} {files : List SourceFile}

/-- **Only one graph depicts some files.** -/
theorem Depicts.unique {g h : Graph} (hg : g.Depicts n read files) (hh : h.Depicts n read files) :
    g = h := by
  have perm : g.edges.Perm h.edges :=
    (List.perm_ext_iff_of_nodup hg.nodup hh.nodup).mpr fun d =>
      (hg.edges d).trans (hh.edges d).symm
  have edges : g.edges = h.edges :=
    -- two edges first mentioned before each other would be at odds, so the order is the same
    perm.eq_of_pairwise (fun d e _ _ hde hed => absurd hed (by omega)) hg.order hh.order
  have nodes : g.nodes = h.nodes := hg.nodes.trans hh.nodes.symm
  obtain ⟨gn, ge⟩ := g
  obtain ⟨hn, he⟩ := h
  obtain rfl : gn = hn := nodes
  obtain rfl : ge = he := edges
  rfl

/-- **The graph of files at distinct paths depicts them.** -/
theorem depicts_ofFiles (distinct : (files.map (·.path)).Nodup) (own : read.KeepsPath files) :
    (Graph.ofFiles n read files).Depicts n read files where
  nodes := by
    have apart := distinct.sublist (paths_parsedFiles_sublist own)
    simp [Graph.ofFiles, putFiles_eq_map apart, nodeOf, snippetOf]
  edges _ := mem_edges_ofFiles
  nodup := nodup_edges_ofFiles
  order := (pairwise_idxOf_eraseDups _).filter _

end Graph

namespace Rebuild

/-! ### Edges never make nodes -/

section Edges

variable {n : Int} {read : FileReader} {files : List SourceFile}
variable {before after : List Query} {d : Dependency}

/-- What comes before an edge in the queries of a script: all the files, and the edges before it. -/
theorem exists_edges_before
    (h : queriesOf (script n read files).steps = before ++ .mergeDependency d :: after) :
    ∃ ds, ds ++ [d] <+: (Graph.ofFiles n read files).edges ∧
      before = .clear :: ((parsedFiles read files).map (putFile n) ++ ds.map .mergeDependency) := by
  rw [queriesOf_script, edges_script, ← List.cons_append] at h
  -- the edge can only stand among the edges, as what comes before them is no edge
  have notFile : .mergeDependency d ∉ .clear :: (parsedFiles read files).map (putFile n) := by
    simp [putFile]
  rcases List.append_eq_append_iff.mp h with ⟨rest, hb, he⟩ | ⟨rest, hl, he⟩
  · obtain ⟨ds, later, hds, rfl, hlater⟩ := List.map_eq_append_iff.mp he
    obtain ⟨d', ds', rfl, hd, -⟩ := List.map_eq_cons_iff.mp hlater
    obtain rfl := Query.mergeDependency.inj hd
    exact ⟨ds, ⟨ds', by simp [hds]⟩, by simp [hb]⟩
  · cases rest with
    | nil =>
      obtain ⟨d', ds', hds, hd, -⟩ := List.map_eq_cons_iff.mp he.symm
      obtain rfl := Query.mergeDependency.inj hd
      exact ⟨[], ⟨ds', by simp [hds]⟩, by simpa using hl.symm⟩
    | cons q rest =>
      obtain ⟨rfl, -⟩ := List.cons.inj he
      exact absurd (by simp [hl]) notFile

/-- **An edge makes no node**: where a script puts one, both its ends are nodes already. -/
theorem nodes_applyAll_mergeDependency
    (h : queriesOf (script n read files).steps = before ++ .mergeDependency d :: after)
    (g : Graph) :
    (applyAll (before ++ [.mergeDependency d]) g).nodes = (applyAll before g).nodes := by
  obtain ⟨ds, hds, rfl⟩ := exists_edges_before h
  have earlier : ds <+: (Graph.ofFiles n read files).edges := (List.prefix_append ds [d]).trans hds
  have upTo := applyAll_prefix hds g
  rw [List.map_append, ← List.append_assoc, ← List.cons_append, List.map_singleton] at upTo
  rw [upTo, applyAll_prefix earlier]

end Edges

/-! ### The whole account -/

/-- **The summary of a script counts the graph of its files**, where the paths of the parsed files
are distinct. -/
theorem summary_script {n : Int} {read : FileReader} {files : List SourceFile}
    (apart : ((parsedFiles read files).map (·.path)).Nodup) :
    (script n read files).summary files.length =
      { discovered := files.length
        nodesWritten := (Graph.ofFiles n read files).nodes.length
        edgesWritten := (Graph.ofFiles n read files).edges.length
        skipped := skippedPaths read files } := by
  have written : (script n read files).written.length = (parsedFiles read files).length := by
    simp [script, eraseDups_eq_self apart]
  have nodes : (Graph.ofFiles n read files).nodes.length = (parsedFiles read files).length := by
    simp [Graph.ofFiles, putFiles_eq_map apart]
  have skipped : (script n read files).skipped = skippedPaths read files := rfl
  rw [Plan.summary, written, edges_script, skipped, nodes]

/-- **What a rebuild stores, asks and sums up** when it returns: the stored graph depicts the files,
no edge that was put made a node, the summary counts what is stored, and rebuilding from the same
files again changes nothing. -/
theorem depicts_rebuild (failures : Failures) (n : Nat) (read : FileReader)
    (files : List SourceFile) (run : Option Run) (store : Store) (stats : RebuildSummary)
    (distinct : (files.map (·.path)).Nodup) (own : read.KeepsPath files)
    (returned : (rebuild failures n read files run store).outcome = .ok stats) :
    let b := rebuild failures n read files run store
    b.store.graph.Depicts n read files ∧
    (∀ before d after, b.queries = before ++ .mergeDependency d :: after →
      (applyAll (before ++ [.mergeDependency d]) store.graph).nodes =
        (applyAll before store.graph).nodes) ∧
    stats =
      { discovered := files.length
        nodesWritten := b.store.graph.nodes.length
        edgesWritten := b.store.graph.edges.length
        skipped := skippedPaths read files } ∧
    stats.discovered = stats.nodesWritten + stats.skipped.length ∧
    ∀ failures' run' again, (rebuild failures' n read files run' b.store).outcome = .ok again →
      (rebuild failures' n read files run' b.store).store.graph = b.store.graph := by
  intro b
  obtain ⟨graph, queries, summary, readable⟩ := returned_of_outcome_ok returned
  have depicts : (Graph.ofFiles n read files).Depicts n read files :=
    Graph.depicts_ofFiles distinct own
  have counts : stats =
      { discovered := files.length
        nodesWritten := (Graph.ofFiles n read files).nodes.length
        edgesWritten := (Graph.ofFiles n read files).edges.length
        skipped := skippedPaths read files } :=
    summary.trans (summary_script (distinct.sublist (paths_parsedFiles_sublist own)))
  refine ⟨graph ▸ depicts, fun before d after h => ?_, graph ▸ counts, ?_, ?_⟩
  · exact nodes_applyAll_mergeDependency (queries.symm.trans h) store.graph
  · rw [counts, depicts.nodes, List.length_map]
    exact (length_parsedFiles_add_length_skippedPaths readable).symm
  · intro failures' run' again returnedAgain
    have graphAgain := (returned_of_outcome_ok returnedAgain).1
    exact (graphAgain ▸ depicts).unique (graph ▸ depicts)

/-- What returns something is known by what it returns. -/
theorem eq_ok_of_toOption {α : Type} {x : Except Fault α} {a : α} (h : x.toOption = some a) :
    x = .ok a := by
  cases x with
  | error f => cases h
  | ok b => exact congrArg _ (Option.some.inj h)

/-- Three files, the last of which cannot be parsed. -/
def threeFiles : List SourceFile :=
  ["a.js", "b.js", "c.py"].map fun path => { path, place := "/" ++ path, bytes := none }

/-- The first of the files names the second one twice, and the third one, and a package. -/
def threeFilesReader : FileReader := fun file =>
  if file.path = "c.py" then .ok (none, [])
  else if file.path = "b.js" then
    .ok (some { path := file.path, content := [], specifiers := [] }, [])
  else
    .ok (some
      { path := file.path
        content := Text.ofString "import"
        specifiers := ["./b", "./c", "react", "./b.js"] }, [])

/-- Of the three files two are stored, with one edge, in place of the file that was there. -/
theorem depicts_rebuild_threeFiles :
    (threeFiles.map (·.path)).Nodup ∧ threeFilesReader.KeepsPath threeFiles ∧
      (rebuild {} 3 threeFilesReader threeFiles none
        { graph := { nodes := [⟨"old.js", []⟩] } }).outcome = .ok ⟨3, 2, 1, ["c.py"]⟩ ∧
      (rebuild {} 3 threeFilesReader threeFiles none
        { graph := { nodes := [⟨"old.js", []⟩] } }).store.graph.Depicts 3 threeFilesReader
          threeFiles := by
  have distinct : (threeFiles.map (·.path)).Nodup := by decide
  have own : threeFilesReader.KeepsPath threeFiles := by
    intro file _ p events h
    unfold threeFilesReader at h
    split at h
    · simp at h
    · split at h
      all_goals
        obtain ⟨rfl, -⟩ := by simpa using h
        rfl
  have returned : (rebuild {} 3 threeFilesReader threeFiles none
      { graph := { nodes := [⟨"old.js", []⟩] } }).outcome = .ok ⟨3, 2, 1, ["c.py"]⟩ := by rfl
  exact ⟨distinct, own, returned, (depicts_rebuild {} 3 _ _ _ _ _ distinct own returned).1⟩

end Rebuild

end DepGraph
