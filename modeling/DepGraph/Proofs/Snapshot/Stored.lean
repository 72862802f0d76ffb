import DepGraph.Health
import DepGraph.Proofs.Ingestion.Ending
import DepGraph.Proofs.Rebuild.Contents
import DepGraph.Proofs.Snapshot.Window
import Mathlib.Algebra.GroupWithZero.Nat

/-!
# What was written is what is read

Three parts of the service count files and dependencies: a rebuild sums up what it wrote, a snapshot
shows what it read, and a report on the health of the store tells how large the graph is. After a
rebuild or an ingestion that returned they agree (`DepGraph.Store.readsBack_of_returned`): a
window that is wide enough for all rows (`DepGraph.Graph.rowCount`) shows every stored node and
every stored edge once and nothing else (`DepGraph.Snapshot.Pictures`), and all the numbers are the
same (`DepGraph.Store.ReadsBack`).

The graph has to be **proper** (`DepGraph.Graph.Proper`), which that of any files is: then its rows
have the edges one by one, sorted by the nodes that they leave, and mention its nodes and no others.
In which order a store answers with its rows, and how it tells its nodes apart, does not matter
(`DepGraph.Graph.Answers`), neither to a snapshot nor to the counts of a report
(`DepGraph.Graph.Proper.sizeRow_of_answers`).
-/

namespace DepGraph

/-! ### Proper graphs and their rows -/

/-- A node at a path, as the rows of a graph have it. -/
def RowNode.ofPath (path : String) : RowNode := ⟨path, some (.ofString path)⟩

/-- A dependency, as a snapshot shows it. -/
def Link.ofDependency (d : Dependency) : Link where
  source := .ofString d.source
  target := .ofString d.target
  type := .ofString dependsOn

namespace Graph

/-- A graph is **proper** if its nodes are at distinct paths, and its edges are distinct and lead
from nodes to nodes. -/
structure Proper (g : Graph) : Prop where
  /-- No path is there twice. -/
  paths : g.paths.Nodup
  /-- No edge is there twice. -/
  edges : g.edges.Nodup
  /-- Both ends of an edge are nodes. -/
  ends : ∀ d ∈ g.edges, d.source ∈ g.paths ∧ d.target ∈ g.paths

/-- How many edges leave a path. -/
def outDegree (g : Graph) (path : String) : Nat := g.edges.countP fun d => d.source = path

/-- **How many rows** a graph has: one for each edge, and one for each node that no edge leaves. -/
def rowCount (g : Graph) : Nat := (g.nodes.map fun n => max 1 (g.outDegree n.path)).sum

/-- The edges that leave a path. -/
def edgesFrom (g : Graph) (path : String) : List Dependency :=
  g.edges.filter fun d => d.source = path

end Graph

namespace Row

variable {g : Graph} {path : String}

/-- The rows of a node are those of the edges that leave it, or it is alone in its row. -/
theorem ofNode_eq (g : Graph) (path : String) :
    (g.edgesFrom path = [] ∧ ofNode g path = [⟨.ofPath path, none, none⟩]) ∨
      (g.edgesFrom path ≠ [] ∧ ofNode g path = (g.edgesFrom path).map fun d =>
        ⟨.ofPath path, some (.ofString dependsOn), some (.ofPath d.target)⟩) := by
  unfold ofNode
  split
  · rename_i alone
    exact Or.inl ⟨alone, rfl⟩
  · rename_i left
    exact Or.inr ⟨left, rfl⟩

/-- A node has a row for each edge that leaves it, and one if there is none. -/
theorem length_ofNode : (ofNode g path).length = max 1 (g.outDegree path) := by
  have degree : g.outDegree path = (g.edgesFrom path).length := List.countP_eq_length_filter
  rcases ofNode_eq g path with ⟨alone, rows⟩ | ⟨left, rows⟩
  · rw [rows, degree, alone]
    rfl
  · have := List.length_pos_iff.mpr left
    rw [rows, degree, List.length_map]
    omega

/-- **A graph has as many rows** as are counted. -/
theorem length_ofGraph (g : Graph) : (ofGraph g).length = g.rowCount := by
  rw [ofGraph, List.length_flatMap, Graph.rowCount, Graph.paths, List.map_map]
  exact congrArg List.sum (List.map_congr_left fun n _ => length_ofNode)

/-- The links of the rows of a node are the edges that leave it. -/
theorem filterMap_link?_ofNode :
    (ofNode g path).filterMap link? = (g.edgesFrom path).map .ofDependency := by
  rcases ofNode_eq g path with ⟨alone, rows⟩ | ⟨-, rows⟩
  · rw [rows, alone]
    rfl
  · rw [rows, List.filterMap_map, ← List.filterMap_eq_map]
    refine List.filterMap_congr fun d hd => ?_
    have source : d.source = path := by simpa using (List.mem_filter.mp hd).2
    subst source
    rfl

/-- The rows of a node have as many edges as leave it. -/
theorem countP_link_ofNode :
    (ofNode g path).countP (·.link.isSome) = (g.edgesFrom path).length := by
  rcases ofNode_eq g path with ⟨alone, rows⟩ | ⟨-, rows⟩
  · rw [rows, alone]
    rfl
  · rw [rows, List.countP_map]
    exact List.countP_eq_length.mpr fun _ _ => rfl

/-- The rows of a node are of this node. -/
theorem mem_map_node_ofNode {a : RowNode} : a ∈ (ofNode g path).map node ↔ a = .ofPath path := by
  rcases ofNode_eq g path with ⟨-, rows⟩ | ⟨left, rows⟩
  · simp [rows]
  · obtain ⟨d, hd⟩ := List.exists_mem_of_ne_nil _ left
    rw [rows, List.map_map, List.mem_map]
    constructor
    · rintro ⟨e, -, rfl⟩
      rfl
    · rintro rfl
      exact ⟨d, hd, rfl⟩

/-- **The rows of a graph are of its nodes**, of each of them and of no others. -/
theorem mem_map_node_ofGraph {a : RowNode} :
    a ∈ (ofGraph g).map node ↔ ∃ path ∈ g.paths, a = .ofPath path := by
  simp only [ofGraph, List.map_flatMap, List.mem_flatMap, mem_map_node_ofNode]

/-- **The rows of a node mention** it and the nodes that its edges lead to. -/
theorem mem_mentions_ofNode {a : RowNode} :
    a ∈ (ofNode g path).flatMap mentions ↔
      a = .ofPath path ∨ ∃ d ∈ g.edgesFrom path, a = .ofPath d.target := by
  rcases ofNode_eq g path with ⟨alone, rows⟩ | ⟨left, rows⟩
  · simp [rows, alone, mentions]
  · obtain ⟨d, hd⟩ := List.exists_mem_of_ne_nil _ left
    simp only [rows, List.flatMap_map, List.mem_flatMap, mentions, List.mem_cons,
      List.not_mem_nil, or_false]
    constructor
    · rintro ⟨e, he, rfl | rfl⟩
      · exact Or.inl rfl
      · exact Or.inr ⟨e, he, rfl⟩
    · rintro (rfl | ⟨e, he, rfl⟩)
      · exact ⟨d, hd, Or.inl rfl⟩
      · exact ⟨e, he, Or.inr rfl⟩

end Row

namespace Graph.Proper

variable {g : Graph}

/-- **The rows of a proper graph mention** its nodes and no others. -/
theorem mem_mentions (proper : g.Proper) {a : RowNode} :
    a ∈ (Row.ofGraph g).flatMap Row.mentions ↔ ∃ path ∈ g.paths, a = .ofPath path := by
  rw [Row.ofGraph, List.flatMap_assoc, List.mem_flatMap]
  constructor
  · rintro ⟨path, hp, ha⟩
    rcases Row.mem_mentions_ofNode.mp ha with rfl | ⟨d, hd, rfl⟩
    · exact ⟨path, hp, rfl⟩
    · exact ⟨d.target, (proper.ends d (List.mem_filter.mp hd).1).2, rfl⟩
  · rintro ⟨path, hp, rfl⟩
    exact ⟨path, hp, Row.mem_mentions_ofNode.mpr (Or.inl rfl)⟩

/-- **Sorted by the nodes that they leave** the edges of a proper graph are the same ones. -/
theorem flatMap_edgesFrom (proper : g.Proper) : (g.paths.flatMap g.edgesFrom).Perm g.edges := by
  have apart : (g.paths.flatMap g.edgesFrom).Nodup := by
    refine List.nodup_flatMap.mpr ⟨fun path _ => proper.edges.filter _, proper.paths.imp ?_⟩
    intro path other different d hd hd'
    have source : d.source = path := by simpa using (List.mem_filter.mp hd).2
    have source' : d.source = other := by simpa using (List.mem_filter.mp hd').2
    exact different (source.symm.trans source')
  refine (List.perm_ext_iff_of_nodup apart proper.edges).mpr fun d => ?_
  simp only [List.mem_flatMap, edgesFrom, List.mem_filter, decide_eq_true_eq]
  constructor
  · rintro ⟨path, -, hd, -⟩
    exact hd
  · intro hd
    exact ⟨d.source, (proper.ends d hd).1, hd, rfl⟩

/-- **The links of the rows of a proper graph** are its edges. -/
theorem filterMap_link? (proper : g.Proper) :
    ((Row.ofGraph g).filterMap Row.link?).Perm (g.edges.map .ofDependency) := by
  have links : (Row.ofGraph g).filterMap Row.link? =
      (g.paths.flatMap g.edgesFrom).map .ofDependency := by
    rw [Row.ofGraph, List.filterMap_flatMap, List.map_flatMap]
    exact List.flatMap_congr fun path _ => Row.filterMap_link?_ofNode
  rw [links]
  exact proper.flatMap_edgesFrom.map _

/-- **The rows of a proper graph have as many edges** as the graph. -/
theorem countP_link (proper : g.Proper) :
    (Row.ofGraph g).countP (·.link.isSome) = g.edges.length := by
  rw [Row.ofGraph, List.countP_flatMap, ← proper.flatMap_edgesFrom.length_eq, List.length_flatMap]
  exact congrArg List.sum (List.map_congr_left fun _ _ => Row.countP_link_ofNode)

end Graph.Proper

/-! ### What a store answers -/

/-- A node that is told from others in another way. -/
def RowNode.relabel (f : String → String) (a : RowNode) : RowNode :=
  { a with identity := f a.identity }

namespace Row

/-- A row whose nodes are told from others in another way. -/
def relabel (f : String → String) (row : Row) : Row :=
  { row with node := row.node.relabel f, neighbor := row.neighbor.map (·.relabel f) }

variable {f : String → String} {row : Row}

@[simp] theorem mentions_relabel : (row.relabel f).mentions = row.mentions.map (·.relabel f) := by
  obtain ⟨node, link, neighbor⟩ := row
  cases link <;> cases neighbor <;> rfl

@[simp] theorem link?_relabel : (row.relabel f).link? = row.link? := by
  obtain ⟨node, link, neighbor⟩ := row
  cases link <;> cases neighbor <;> rfl

theorem relabel_id : row.relabel id = row := by
  obtain ⟨node, link, neighbor⟩ := row
  cases neighbor <;> rfl

end Row

/-- What a store may **answer** when it is asked for the rows of a graph: they come in any order,
and it is left to the store how it tells the nodes apart. -/
def Graph.Answers (g : Graph) (rows : List Row) : Prop :=
  ∃ f : String → String, Function.Injective f ∧ rows.Perm ((Row.ofGraph g).map (·.relabel f))

/-- The rows of a graph as they are may be answered. -/
theorem Graph.answers_ofGraph (g : Graph) : g.Answers (Row.ofGraph g) := by
  refine ⟨id, Function.injective_id, List.Perm.of_eq ?_⟩
  exact ((List.map_congr_left fun _ _ => Row.relabel_id).trans (List.map_id _)).symm

/-- A snapshot **pictures** a graph if it shows each node and each edge once, and nothing else. -/
structure Snapshot.Pictures (g : Graph) (s : Snapshot) : Prop where
  /-- The paths are those of the nodes. -/
  paths : s.paths.Perm (g.paths.map .ofString)
  /-- No path is there twice. -/
  nodup_paths : s.paths.Nodup
  /-- The links are the edges. -/
  links : s.links.Perm (g.edges.map .ofDependency)
  /-- No link is there twice. -/
  nodup_links : s.links.Nodup

namespace Graph.Proper

variable {g : Graph} {rows : List Row}

/-- **What an answer mentions**: a node for each path, by what the store calls it. -/
theorem mem_mentions_relabel (proper : g.Proper) {f : String → String}
    (answered : rows.Perm ((Row.ofGraph g).map (·.relabel f))) {a : RowNode} :
    a ∈ rows.flatMap Row.mentions ↔
      ∃ path ∈ g.paths, a = { identity := f path, path := some (.ofString path) } := by
  have mentioned : ((Row.ofGraph g).map (·.relabel f)).flatMap Row.mentions =
      ((Row.ofGraph g).flatMap Row.mentions).map (·.relabel f) := by
    rw [List.flatMap_map, List.map_flatMap]
    exact List.flatMap_congr fun row _ => Row.mentions_relabel
  rw [(answered.flatMap_right _).mem_iff, mentioned, List.mem_map]
  constructor
  · rintro ⟨b, hb, rfl⟩
    obtain ⟨path, hp, rfl⟩ := proper.mem_mentions.mp hb
    exact ⟨path, hp, rfl⟩
  · rintro ⟨path, hp, rfl⟩
    exact ⟨.ofPath path, proper.mem_mentions.mpr ⟨path, hp, rfl⟩, rfl⟩

/-- **An answer is coherent**, as the store tells its nodes apart. -/
theorem coherent_of_answers (proper : g.Proper) (answers : g.Answers rows) :
    Coherent (rows.flatMap Row.mentions) := by
  obtain ⟨f, injective, answered⟩ := answers
  constructor
  · intro a ha
    obtain ⟨path, -, rfl⟩ := (proper.mem_mentions_relabel answered).mp ha
    exact ⟨_, rfl⟩
  · intro a ha b hb
    obtain ⟨path, -, rfl⟩ := (proper.mem_mentions_relabel answered).mp ha
    obtain ⟨other, -, rfl⟩ := (proper.mem_mentions_relabel answered).mp hb
    simp [injective.eq_iff]

/-- **A snapshot of an answer pictures the graph.** -/
theorem exists_pictures (proper : g.Proper) (answers : g.Answers rows) :
    ∃ s, Snapshot.ofRows rows = .ok s ∧ s.Pictures g := by
  have coherent := proper.coherent_of_answers answers
  obtain ⟨s, hs, shows⟩ := Snapshot.shows_ofRows coherent
  obtain rfl := Except.ok.inj ((Snapshot.ofRows_of_named coherent.named).symm.trans hs)
  obtain ⟨f, -, answered⟩ := answers
  have distinct : (g.paths.map Json.ofString).Nodup :=
    proper.paths.map fun _ _ => Json.ofString_inj.mp
  have links : (rows.filterMap Row.link?).Perm (g.edges.map .ofDependency) := by
    have same : ((Row.ofGraph g).map (·.relabel f)).filterMap Row.link? =
        (Row.ofGraph g).filterMap Row.link? := by
      rw [List.filterMap_map]
      exact List.filterMap_congr fun row _ => Row.link?_relabel
    exact ((answered.filterMap _).trans (List.Perm.of_eq same)).trans proper.filterMap_link?
  have apart : (g.edges.map Link.ofDependency).Nodup := by
    refine proper.edges.map ?_
    rintro ⟨source, target⟩ ⟨source', target'⟩ h
    simpa [Link.ofDependency] using h
  refine ⟨_, hs, ?_, shows.nodup, links, links.nodup_iff.mpr apart⟩
  refine (List.perm_ext_iff_of_nodup shows.nodup distinct).mpr fun p => ?_
  rw [shows.mem_paths, List.mem_map]
  constructor
  · rintro ⟨a, ha, path⟩
    obtain ⟨q, hq, rfl⟩ := (proper.mem_mentions_relabel answered).mp ha
    exact ⟨q, hq, Option.some.inj path⟩
  · rintro ⟨q, hq, rfl⟩
    exact ⟨_, (proper.mem_mentions_relabel answered).mpr ⟨q, hq, rfl⟩, rfl⟩

/-- **An answer has as many nodes and edges as the graph**, where the nodes are told apart as the
store does. -/
theorem sizeRow_of_answers (proper : g.Proper) (answers : g.Answers rows) :
    Health.sizeRow rows =
      .obj [(Text.ofString "files", .int g.nodes.length),
        (Text.ofString "dependencies", .int g.edges.length)] := by
  obtain ⟨f, injective, answered⟩ := answers
  have identities : (rows.map (·.node.identity)).eraseDups.Perm (g.paths.map f) := by
    refine (List.perm_ext_iff_of_nodup (nodup_eraseDups _) (proper.paths.map injective)).mpr ?_
    intro i
    have own : ((Row.ofGraph g).map (·.relabel f)).map (·.node.identity) =
        ((Row.ofGraph g).map Row.node).map fun a => f a.identity := by
      simp only [List.map_map]
      rfl
    rw [List.mem_eraseDups, (answered.map _).mem_iff, own, List.mem_map, List.mem_map]
    constructor
    · rintro ⟨a, ha, rfl⟩
      obtain ⟨path, hp, rfl⟩ := Row.mem_map_node_ofGraph.mp ha
      exact ⟨path, hp, rfl⟩
    · rintro ⟨path, hp, rfl⟩
      exact ⟨.ofPath path, Row.mem_map_node_ofGraph.mpr ⟨path, hp, rfl⟩, rfl⟩
  have files : (rows.map (·.node.identity)).eraseDups.length = g.nodes.length := by
    rw [identities.length_eq, List.length_map, Graph.paths, List.length_map]
  have dependencies : rows.countP (·.link.isSome) = g.edges.length := by
    rw [answered.countP_eq, List.countP_map]
    exact proper.countP_link
  rw [Health.sizeRow, files, dependencies]

end Graph.Proper

/-- A picture has as many nodes and links as the graph has nodes and edges. -/
theorem Snapshot.Pictures.length_eq {g : Graph} {s : Snapshot} (h : s.Pictures g) :
    s.nodes.length = g.nodes.length ∧ s.links.length = g.edges.length := by
  have nodes := h.paths.length_eq
  have links := h.links.length_eq
  simp only [Snapshot.paths, Graph.paths, List.length_map] at nodes links
  exact ⟨nodes, links⟩

/-! ### Reading the store -/

/-- A store **can be read** if neither sessions nor queries outside of transactions fail. -/
structure Failures.AllowReading (failures : Failures) : Prop where
  /-- Sessions are opened. -/
  opening : failures.opening = none
  /-- Queries are answered. -/
  reading : failures.reading = none

/-- A component is **complete** if it has all that a report on the health of the store takes from
it. -/
structure Health.Complete (component : Json) : Prop where
  /-- It has a name. -/
  name : ∃ name, part component "name" = .ok name
  /-- It has versions, and the first of them. -/
  version : ∃ versions version, part component "versions" = .ok versions ∧
    first versions = .ok version
  /-- It has an edition. -/
  edition : ∃ edition, part component "edition" = .ok edition

section Reading

variable {failures : Failures} {store : Store} {component : Json}

/-- **A window that is wide enough** for all rows shows a picture of the stored graph. -/
theorem readSnapshot_of_rowCount_le (proper : store.graph.Proper) (reads : failures.AllowReading)
    {limit : Int} (wide : store.graph.rowCount ≤ limit) :
    ∃ s, readSnapshot failures limit store =
        .ok (s, .read store.graph.nodes.length store.graph.edges.length limit) ∧
      s.Pictures store.graph := by
  obtain ⟨s, hs, pictures⟩ := proper.exists_pictures store.graph.answers_ofGraph
  obtain ⟨nodes, links⟩ := pictures.length_eq
  have whole : cutRows limit (Row.ofGraph store.graph) = Row.ofGraph store.graph := by
    have rows := Row.length_ofGraph store.graph
    rw [cutRows, if_pos (by omega)]
    exact List.take_of_length_le (by omega)
  refine ⟨s, ?_, pictures⟩
  simp [readSnapshot, reads.opening, reads.reading, whole, hs, nodes, links, bind, Except.bind,
    pure, Except.pure]

/-- **A report on the health of the store** counts the nodes and the edges of the stored graph. -/
theorem exists_report (settings : StoreSettings) (proper : store.graph.Proper)
    (reads : failures.AllowReading) (complete : Health.Complete component) :
    ∃ report, Health.check settings failures component store = .ok report ∧
      report.lookup "healthy" = some (.bool true) ∧
      report.lookup "file_nodes" = some (.int store.graph.nodes.length) ∧
      report.lookup "dependency_edges" = some (.int store.graph.edges.length) := by
  obtain ⟨name, hname⟩ := complete.name
  obtain ⟨versions, version, hversions, hversion⟩ := complete.version
  obtain ⟨edition, hedition⟩ := complete.edition
  have size := proper.sizeRow_of_answers store.graph.answers_ofGraph
  have files : Health.part (Health.sizeRow (Row.ofGraph store.graph)) "files" =
      .ok (.int store.graph.nodes.length) := by
    rw [size]
    rfl
  have dependencies : Health.part (Health.sizeRow (Row.ofGraph store.graph)) "dependencies" =
      .ok (.int store.graph.edges.length) := by
    rw [size]
    rfl
  simp only [Health.check, Health.report, Health.visit, Health.Visit.rows, Health.healthy,
    reads.opening, reads.reading, hname, hversions, hversion, hedition, files, dependencies,
    bind, Except.bind, pure, Except.pure]
  exact ⟨_, rfl, rfl, rfl, rfl⟩

end Reading

/-! ### After a rebuild -/

/-- A store **reads back** what a rebuild summed up: wide windows and all answers with its rows show
a picture of its graph, and the sizes that are told of it are those of the summary. -/
structure Store.ReadsBack (store : Store) (stats : RebuildSummary) : Prop where
  /-- A window that is wide enough shows every node and every edge once, and that many are told. -/
  snapshot : ∀ failures limit, Failures.AllowReading failures →
    (store.graph.rowCount : Int) ≤ limit →
    ∃ s, readSnapshot failures limit store =
        .ok (s, .read stats.nodesWritten stats.edgesWritten limit) ∧
      s.Pictures store.graph
  /-- So do the rows in any order, however the store tells its nodes apart. -/
  answers : ∀ rows, store.graph.Answers rows →
    ∃ s, Snapshot.ofRows rows = .ok s ∧ s.Pictures store.graph
  /-- A report on the health of the store tells its size. -/
  health : ∀ settings failures component, Failures.AllowReading failures →
    Health.Complete component →
    ∃ report, Health.check settings failures component store = .ok report ∧
      report.lookup "healthy" = some (.bool true) ∧
      report.lookup "file_nodes" = some (.int stats.nodesWritten) ∧
      report.lookup "dependency_edges" = some (.int stats.edgesWritten)

/-- A proper graph is read back, if its nodes and edges were counted. -/
theorem Store.readsBack_of_proper {store : Store} {stats : RebuildSummary}
    (proper : store.graph.Proper) (nodes : stats.nodesWritten = store.graph.nodes.length)
    (edges : stats.edgesWritten = store.graph.edges.length) : store.ReadsBack stats where
  snapshot failures limit reads wide := by
    rw [nodes, edges]
    exact readSnapshot_of_rowCount_le proper reads wide
  answers rows answers := proper.exists_pictures answers
  health settings failures component reads complete := by
    rw [nodes, edges]
    exact exists_report settings proper reads complete

namespace Rebuild

section Returned

variable {n : Int} {read : FileReader} {files : List SourceFile}

/-- **The graph of any files is proper**, even if some of them share a path. -/
theorem proper_ofFiles : (Graph.ofFiles n read files).Proper where
  paths := by
    have paths : (Graph.ofFiles n read files).paths =
        ((parsedFiles read files).map (·.path)).eraseDups := paths_putFiles _
    rw [paths]
    exact nodup_eraseDups _
  edges := nodup_edges_ofFiles
  ends d hd := by
    obtain ⟨source, target⟩ := ends_mem_of_mem_edges hd
    exact ⟨mem_paths_putFiles.mpr (Or.inl source), mem_paths_putFiles.mpr (Or.inl target)⟩

/-- **A script writes as many files** as their graph has nodes. -/
theorem length_written :
    (script n read files).written.length = (Graph.ofFiles n read files).nodes.length := by
  have paths : (Graph.ofFiles n read files).nodes.map (·.path) = (script n read files).written :=
    paths_putFiles _
  rw [← paths, List.length_map]

variable {failures : Failures} {run : Option Run} {store : Store} {stats : RebuildSummary}

/-- **What a rebuild wrote is read back.** -/
theorem readsBack_of_outcome_ok
    (returned : (rebuild failures n read files run store).outcome = .ok stats) :
    (rebuild failures n read files run store).store.ReadsBack stats := by
  obtain ⟨graph, -, rfl, -⟩ := returned_of_outcome_ok returned
  refine Store.readsBack_of_proper (graph ▸ proper_ofFiles) ?_ ?_
  · rw [graph]
    exact length_written
  · rw [graph]
    exact congrArg List.length edges_script

end Returned

end Rebuild

/-- **What was written is what is read**, after every rebuild and every ingestion that returned. -/
theorem Store.readsBack_of_returned :
    (∀ failures n read files run store stats,
      (rebuild failures n read files run store).outcome = .ok stats →
        (rebuild failures n read files run store).store.ReadsBack stats) ∧
    ∀ service failures clone repoUrl directories store stats,
      (ingest service failures clone repoUrl directories store).outcome = .ok stats →
        (ingest service failures clone repoUrl directories store).store.ReadsBack stats := by
  refine ⟨fun _ _ _ _ _ _ _ => Rebuild.readsBack_of_outcome_ok, ?_⟩
  intro service failures clone repoUrl directories store stats returned
  generalize hr : ingest service failures clone repoUrl directories store = r at returned
  have ending := hr ▸ Ingestion.ending_ingest
  cases ending with
  | homeless flaw obstacle leaves => cases leaves.outcome.symm.trans returned
  | unacquired f obstacle acquired leaves => cases leaves.outcome.symm.trans returned
  | unsurveyed c f obstacle acquired surveyed leaves =>
    cases leaves.outcome.symm.trans returned
  | rebuilt c files obstacle acquired surveyed leaves =>
    -- only a rebuild has touched the store, and it returned what the ingestion returned
    rw [leaves.store]
    exact Rebuild.readsBack_of_outcome_ok (leaves.outcome.symm.trans returned)

namespace Store

open Ingestion

/-- The content of a file that names itself. -/
def selfNaming : Bytes := "import a\n".toUTF8.toList

/-- The file that names itself, where it is cloned to. -/
def selfNamingFile : SourceFile where
  path := "a.py"
  place := placeFor quietService { root := "ws" } ++ "/" ++ "a.py"
  bytes := some selfNaming

/-- A clone of the file that names itself. -/
def selfNamingClone : CloneOutcome := .checkout (.directory [("a.py", .file selfNaming)]) none

/-- Two of three files are read back. So is a file with an edge to itself, through a window of the
one row that it has, and a report on the store counts one file and one edge. -/
theorem readsBack_of_returned_selfNaming :
    (rebuild {} 3 Rebuild.threeFilesReader Rebuild.threeFiles none {}).outcome =
        .ok ⟨3, 2, 1, ["c.py"]⟩ ∧
      (rebuild {} 3 Rebuild.threeFilesReader Rebuild.threeFiles none {}).store.ReadsBack
        ⟨3, 2, 1, ["c.py"]⟩ ∧
      let r := ingest quietService {} selfNamingClone "r" { root := "ws" } {}
      r.outcome = .ok ⟨1, 1, 1, []⟩ ∧
        (∃ s, readSnapshot {} 1 r.store = .ok (s, .read 1 1 1) ∧ s.Pictures r.store.graph) ∧
        ∃ report, Health.check {} {} Health.usualComponent r.store = .ok report ∧
          report.lookup "healthy" = some (.bool true) ∧
          report.lookup "file_nodes" = some (.int 1) ∧
          report.lookup "dependency_edges" = some (.int 1) := by
  have rebuilt : (rebuild {} 3 Rebuild.threeFilesReader Rebuild.threeFiles none {}).outcome =
      .ok ⟨3, 2, 1, ["c.py"]⟩ := by rfl
  refine ⟨rebuilt, readsBack_of_returned.1 _ _ _ _ _ _ _ rebuilt, ?_⟩
  intro r
  have found : surveyOf quietService
      ⟨placeFor quietService { root := "ws" }, none, .directory [("a.py", .file selfNaming)]⟩ =
        .ok [selfNamingFile] := by
    have eligible : isEligible "a.py" = true := by decide
    simp [surveyOf, Except.mapError, Survey.take, Survey.ofTree, Survey.nestingAll,
      Survey.nesting, Survey.filesIn, Survey.visitAll, Survey.visit, Survey.Filter.ofRules,
      Survey.below, eligible, bind, Except.bind, quietService, selfNamingFile]
    rfl
  obtain ⟨stored, -, same⟩ : r.store = (rebuildOf quietService {} "r" [selfNamingFile] {}).store ∧
      r.operations = (rebuildOf quietService {} "r" [selfNamingFile] {}).operations ∧
      r.outcome = (rebuildOf quietService {} "r" [selfNamingFile] {}).outcome :=
    eq_rebuildOf_of_surveyed rfl rfl found
  have outcome : (rebuildOf quietService {} "r" [selfNamingFile] {}).outcome =
      .ok ⟨1, 1, 1, []⟩ := Rebuild.eq_ok_of_toOption (by decide +kernel)
  have returned : r.outcome = .ok ⟨1, 1, 1, []⟩ := same.trans outcome
  have back : r.store.ReadsBack ⟨1, 1, 1, []⟩ := readsBack_of_returned.2 _ _ _ _ _ _ _ returned
  have reads : Failures.AllowReading {} := ⟨rfl, rfl⟩
  have complete : Health.Complete Health.usualComponent :=
    ⟨⟨_, rfl⟩, ⟨_, _, rfl, rfl⟩, ⟨_, rfl⟩⟩
  have rows : (r.store.graph.rowCount : Int) ≤ 1 := by
    rw [stored]
    decide +kernel
  exact ⟨returned, back.snapshot {} 1 reads rows, back.health {} {} _ reads complete⟩

end Store

end DepGraph
