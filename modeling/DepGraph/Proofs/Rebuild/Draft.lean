import DepGraph.Proofs.FirstOccurrence
import DepGraph.Proofs.Rebuild.Script

/-!
# What a script makes of a graph

The graph **of** some files (`DepGraph.Graph.ofFiles`) is said without a transaction: a node for
each file that can be parsed, and the dependencies among these files, each once and in the order in
which they are first mentioned. The main statement is that the queries of a script make this graph
out of any other one (`DepGraph.Rebuild.applyAll_script`).

Two things have to be seen to. Putting a file at a path that is taken replaces the node there, so
that the nodes are the parsed files one by one only where their paths are distinct
(`DepGraph.Rebuild.putFiles_eq_map`). And putting an edge makes a node of its target where there is
none; in a script this never happens, as the edges come after all nodes and only between them
(`DepGraph.Rebuild.applyAll_mergeDependency`).
-/

namespace DepGraph

namespace Graph

variable {path : String} {snippet : Text} {nodes : List FileNode}

/-- Putting a node adds its path, if it is new. -/
theorem mem_paths_putNode {p : String} :
    p ∈ (putNode path snippet nodes).map (·.path) ↔ p = path ∨ p ∈ nodes.map (·.path) := by
  induction nodes with
  | nil => simp [putNode]
  | cons n nodes ih =>
    by_cases h : n.path = path
    · simp [putNode, h]
    · rw [putNode, if_neg h, List.map_cons, List.mem_cons, ih, List.map_cons, List.mem_cons]
      exact or_left_comm

/-- Putting a node adds its path at the end, if it is new. -/
theorem paths_putNode :
    (putNode path snippet nodes).map (·.path) = insertNew path (nodes.map (·.path)) := by
  induction nodes with
  | nil => rfl
  | cons n nodes ih =>
    by_cases h : n.path = path
    · simp [putNode, insertNew, h]
    · rw [putNode, if_neg h, List.map_cons, ih]
      simp only [insertNew, List.map_cons, List.mem_cons, Ne.symm h, false_or]
      split
      · rfl
      · rfl

/-- A node at a new path comes last. -/
theorem putNode_of_notMem (h : path ∉ nodes.map (·.path)) :
    putNode path snippet nodes = nodes ++ [⟨path, snippet⟩] := by
  induction nodes with
  | nil => rfl
  | cons n nodes ih =>
    simp only [List.map_cons, List.mem_cons, not_or] at h
    simp [putNode, Ne.symm h.1, ih h.2]

/-- **An edge between nodes makes no node.** -/
theorem link_of_mem {g : Graph} {d : Dependency} (hs : d.source ∈ g.paths)
    (ht : d.target ∈ g.paths) :
    g.link d = { g with edges := insertNew d g.edges } := by
  simp [link, hs, ht]

end Graph

namespace Rebuild

/-! ### Putting files -/

variable {n : Int} {read : FileReader} {files : List SourceFile}

/-- The node of a parsed file. -/
def nodeOf (n : Int) (p : ReadFile) : FileNode := ⟨p.path, snippetOf n p.content⟩

/-- Nodes with some parsed files put at their paths, one after the other. -/
def putFiles (n : Int) (parsed : List ReadFile) (nodes : List FileNode) : List FileNode :=
  parsed.foldl (fun nodes p => Graph.putNode p.path (snippetOf n p.content) nodes) nodes

theorem mem_paths_putFiles {parsed : List ReadFile} {nodes : List FileNode} {path : String} :
    path ∈ (putFiles n parsed nodes).map (·.path) ↔
      path ∈ parsed.map (·.path) ∨ path ∈ nodes.map (·.path) := by
  induction parsed generalizing nodes with
  | nil => simp [putFiles]
  | cons p parsed ih =>
    rw [putFiles, List.foldl_cons, ← putFiles, ih, Graph.mem_paths_putNode, List.map_cons,
      List.mem_cons, or_assoc, or_left_comm]

/-- **The paths of the nodes** are those of the files, each where it first occurs. -/
theorem paths_putFiles (parsed : List ReadFile) :
    (putFiles n parsed []).map (·.path) = (parsed.map (·.path)).eraseDups := by
  induction parsed using List.reverseRecOn with
  | nil => rfl
  | append_singleton parsed p ih =>
    have last : putFiles n (parsed ++ [p]) [] =
        Graph.putNode p.path (snippetOf n p.content) (putFiles n parsed []) := by
      simp [putFiles]
    rw [last, Graph.paths_putNode, ih, List.map_append, List.map_singleton, eraseDups_concat,
      Graph.insertNew]
    simp only [List.mem_eraseDups, List.elem_iff]

/-- **Files at distinct paths** become one node each, in order. -/
theorem putFiles_append {parsed : List ReadFile} {nodes : List FileNode}
    (distinct : (nodes.map (·.path) ++ parsed.map (·.path)).Nodup) :
    putFiles n parsed nodes = nodes ++ parsed.map (nodeOf n) := by
  induction parsed generalizing nodes with
  | nil => simp [putFiles]
  | cons p parsed ih =>
    have new : p.path ∉ nodes.map (·.path) := fun h =>
      (List.nodup_append.mp distinct).2.2 _ h _ (by simp) rfl
    -- the new node comes last, and then it is one more path that the other files must avoid
    have step : putFiles n (p :: parsed) nodes = putFiles n parsed (nodes ++ [nodeOf n p]) := by
      simp [putFiles, Graph.putNode_of_notMem new, nodeOf]
    rw [step, ih (by simpa [nodeOf] using distinct)]
    simp

theorem putFiles_eq_map {parsed : List ReadFile} (distinct : (parsed.map (·.path)).Nodup) :
    putFiles n parsed [] = parsed.map (nodeOf n) := by
  have append : putFiles n parsed [] = [] ++ parsed.map (nodeOf n) :=
    putFiles_append (by simpa using distinct)
  simpa using append

/-! ### Mentions -/

/-- The dependencies that some parsed files **mention**, specifier by specifier. -/
def mentions (known : String → Bool) (parsed : List ReadFile) : List Dependency :=
  parsed.flatMap fun p => p.specifiers.filterMap (Resolution.dependency? known p.path)

/-- A dependency is mentioned where a specifier of its source resolves to its target. -/
theorem mem_mentions {known : String → Bool} {parsed : List ReadFile} {d : Dependency} :
    d ∈ mentions known parsed ↔
      ∃ p ∈ parsed, p.path = d.source ∧
        ∃ s ∈ p.specifiers, Resolution.target? known p.path s = some d.target := by
  simp only [mentions, List.mem_flatMap, List.mem_filterMap, Resolution.dependency?,
    Option.map_eq_some_iff]
  constructor
  · rintro ⟨p, hp, s, hs, t, ht, rfl⟩
    exact ⟨p, hp, rfl, s, hs, ht⟩
  · rintro ⟨p, hp, hd, s, hs, ht⟩
    exact ⟨p, hp, s, hs, d.target, ht, by rw [hd]⟩

/-! ### The graph of some files -/

end Rebuild

/-- The **graph of** some files: the parsed ones with their snippets, and the dependencies among
them, each once, in the order in which they are first mentioned. -/
def Graph.ofFiles (n : Int) (read : FileReader) (files : List SourceFile) : Graph where
  nodes := Rebuild.putFiles n (Rebuild.parsedFiles read files) []
  edges :=
    (Rebuild.mentions (Rebuild.knows files) (Rebuild.parsedFiles read files)).eraseDups.filter
      fun d => d.target ∈ (Rebuild.parsedFiles read files).map (·.path)

namespace Rebuild

variable {n : Int} {read : FileReader} {files : List SourceFile}

/-- The edges that a script writes are those of the graph of its files. -/
theorem edges_script : (script n read files).edges = (Graph.ofFiles n read files).edges := by
  simp only [script, Graph.ofFiles, List.mem_eraseDups]
  rfl

/-- **The edges of some files**: a specifier of a parsed one resolves, among all the files, to a
parsed one. -/
theorem mem_edges_ofFiles {d : Dependency} :
    d ∈ (Graph.ofFiles n read files).edges ↔
      (∃ p ∈ parsedFiles read files, p.path = d.source ∧
        ∃ s ∈ p.specifiers, Resolution.target? (knows files) p.path s = some d.target) ∧
      ∃ p ∈ parsedFiles read files, p.path = d.target := by
  simp [Graph.ofFiles, List.mem_eraseDups, mem_mentions]

/-- Both ends of an edge are parsed. -/
theorem ends_mem_of_mem_edges {d : Dependency} (h : d ∈ (Graph.ofFiles n read files).edges) :
    d.source ∈ (parsedFiles read files).map (·.path) ∧
      d.target ∈ (parsedFiles read files).map (·.path) := by
  simp only [Graph.ofFiles, List.mem_filter, List.mem_eraseDups, decide_eq_true_eq] at h
  obtain ⟨p, hp, hd, -⟩ := mem_mentions.mp h.1
  exact ⟨List.mem_map.mpr ⟨p, hp, hd⟩, h.2⟩

theorem nodup_edges_ofFiles : (Graph.ofFiles n read files).edges.Nodup :=
  (nodup_eraseDups _).filter _

/-! ### The queries of a script -/

/-- Putting files changes the nodes alone. -/
theorem applyAll_putFile (parsed : List ReadFile) (g : Graph) :
    applyAll (parsed.map (putFile n)) g = { g with nodes := putFiles n parsed g.nodes } := by
  induction parsed generalizing g with
  | nil => rfl
  | cons p parsed ih => exact ih _

/-- **Putting edges between nodes** leaves the nodes as they are, and the new edges come last. -/
theorem applyAll_mergeDependency {ds : List Dependency} {g : Graph}
    (ends : ∀ d ∈ ds, d.source ∈ g.paths ∧ d.target ∈ g.paths) (new : (g.edges ++ ds).Nodup) :
    applyAll (ds.map .mergeDependency) g = { g with edges := g.edges ++ ds } := by
  induction ds generalizing g with
  | nil => simp [applyAll]
  | cons d ds ih =>
    obtain ⟨hs, ht⟩ := ends d List.mem_cons_self
    -- both ends are nodes and the edge is new, so that putting it only appends it
    have fresh : d ∉ g.edges := fun h => (List.nodup_append.mp new).2.2 _ h _ (by simp) rfl
    have step : Query.apply (.mergeDependency d) g = { g with edges := g.edges ++ [d] } := by
      simp [Query.apply, Graph.link_of_mem hs ht, Graph.insertNew, fresh]
    have rest := ih (g := { g with edges := g.edges ++ [d] })
      (fun e he => ends e (List.mem_cons_of_mem _ he)) (by simpa using new)
    simpa [applyAll, step] using rest

theorem applyAll_append (qs rs : List Query) (g : Graph) :
    applyAll (qs ++ rs) g = applyAll rs (applyAll qs g) :=
  List.foldl_append

/-- The draft once all files are put, and some of the edges. -/
theorem applyAll_prefix {ds : List Dependency} (h : ds <+: (Graph.ofFiles n read files).edges)
    (g : Graph) :
    applyAll (.clear :: ((parsedFiles read files).map (putFile n) ++ ds.map .mergeDependency)) g =
      ⟨(Graph.ofFiles n read files).nodes, ds⟩ := by
  -- from here on nothing is left of the graph that was there before
  have cleared : ∀ qs, applyAll (.clear :: qs) g = applyAll qs {} := fun qs => rfl
  rw [cleared, applyAll_append, applyAll_putFile, applyAll_mergeDependency]
  · rfl
  · intro d hd
    obtain ⟨hs, ht⟩ := ends_mem_of_mem_edges (h.subset hd)
    exact ⟨mem_paths_putFiles.mpr (Or.inl hs), mem_paths_putFiles.mpr (Or.inl ht)⟩
  · simpa using nodup_edges_ofFiles.sublist h.sublist

/-- **A script makes the graph of its files**, whatever graph it starts from. -/
theorem applyAll_script (g : Graph) :
    applyAll (queriesOf (script n read files).steps) g = Graph.ofFiles n read files := by
  rw [queriesOf_script, edges_script, applyAll_prefix List.prefix_rfl]

end Rebuild

end DepGraph
