import DepGraph.Event
import DepGraph.Fault
import DepGraph.Store.Basic

/-!
# Snapshots of the graph

The graph is read as **rows**: one for each edge, with both its nodes, and one for each node without
an edge. A **snapshot** has every node that occurs in the rows once, where it first occurs, and a
link for each row with an edge. Nodes are told apart by their identity in the store, not by their
path.
-/

namespace DepGraph

/-! ### Rows -/

/-- A node as it stands in a row. -/
structure RowNode where
  /-- What tells the node from others. -/
  identity : String
  /-- The path of the node, if it has one. -/
  path : Option Json

/-- A **row** of the graph. -/
structure Row where
  /-- A node. -/
  node : RowNode
  /-- The type of an edge that leaves it; the empty type stands for the usual one. -/
  link : Option Json
  /-- The node that the edge leads to. -/
  neighbor : Option RowNode

namespace Row

/-- The rows of the edges of a node, and a single row if it has none. -/
def ofNode (g : Graph) (path : String) : List Row :=
  let node (p : String) : RowNode := ⟨p, some (.ofString p)⟩
  match g.edges.filter fun d => d.source = path with
  | [] => [⟨node path, none, none⟩]
  | ds => ds.map fun d => ⟨node path, some (.ofString dependsOn), some (node d.target)⟩

/-- The **rows** of a graph, node by node. -/
def ofGraph (g : Graph) : List Row := g.paths.flatMap (ofNode g)

/-- Whether a value counts as nothing. -/
def isVoid : Json → Bool
  | .null => true
  | .bool b => !b
  | .int n => n == 0
  | .float x => x == 0
  | .str t => t.isEmpty
  | .arr items => items.isEmpty
  | .obj fields => fields.isEmpty

/-- The node that a value in a record is, if it is one: its identity is its element's, and the
number of the node where that is void. -/
def nodeOf? (j : Json) : Except Fault RowNode :=
  let element := (j.field? "element_id").getD .null
  let identity : Except Fault String :=
    if isVoid element then
      match j.field? "id" with
      | some id => .ok id.display
      | none => .error (.foreign .part "'NoneType' object has no attribute 'id'")
    else .ok element.display
  identity.map fun i => ⟨i, ((j.field? "props").getD .null).field? "path"⟩

/-- The **row of a record**. -/
def ofRecord (record : Json) : Except Fault Row := do
  let get (name : String) : Except Fault Json :=
    match record.field? name with
    | some j => .ok j
    | none => .error (.absent name)
  let n ← get "n"
  let r ← get "r"
  let m ← get "m"
  let node ← nodeOf? n
  match r, m with
  | .null, _ | _, .null => return ⟨node, none, none⟩
  | r, m => return ⟨node, some ((r.field? "type").getD .null), some (← nodeOf? m)⟩

end Row

/-! ### Snapshots -/

/-- A link of a snapshot. -/
structure Link where
  /-- The path that it leaves. -/
  source : Json
  /-- The path that it leads to. -/
  target : Json
  /-- Its type. -/
  type : Json

/-- A **snapshot**: nodes by identity and path, and links. -/
structure Snapshot where
  /-- The nodes. -/
  nodes : List (String × Json) := []
  /-- The links. -/
  links : List Link := []

namespace Snapshot

/-- The path of a node in a row. -/
def pathOf (n : RowNode) : Except Fault Json :=
  match n.path with
  | some p => .ok p
  | none => .error (.absent "path")

/-- The nodes of a snapshot with one more, if it is new. -/
def addNode (nodes : List (String × Json)) (n : RowNode) : Except Fault (List (String × Json)) :=
  if nodes.any (·.1 == n.identity) then .ok nodes
  else do return nodes ++ [(n.identity, ← pathOf n)]

/-- A snapshot with one more row. -/
def addRow (s : Snapshot) (row : Row) : Except Fault Snapshot := do
  let nodes ← addNode s.nodes row.node
  match row.link, row.neighbor with
  | some type, some neighbor =>
    let nodes ← addNode nodes neighbor
    let link : Link :=
      { source := ← pathOf row.node
        target := ← pathOf neighbor
        type := if Row.isVoid type then .ofString dependsOn else type }
    return { nodes, links := s.links ++ [link] }
  | _, _ => return { s with nodes }

/-- The **snapshot** of some rows. -/
def ofRows (rows : List Row) : Except Fault Snapshot := rows.foldlM addRow {}

/-- The snapshot of some records. -/
def ofRecords (records : List Json) : Except Fault Snapshot :=
  records.foldlM (fun s r => do s.addRow (← Row.ofRecord r)) {}

/-- The group that all nodes belong to. -/
def group : String := "file"

/-- A snapshot as it is shown. -/
def toJson (s : Snapshot) : Json :=
  let fields (fs : List (String × Json)) : Json := .obj (fs.map fun f => (Text.ofString f.1, f.2))
  fields
    [("nodes", .arr (s.nodes.map fun n => fields [("id", n.2), ("group", .ofString group)])),
      ("links", .arr (s.links.map fun l =>
        fields [("source", l.source), ("target", l.target), ("type", l.type)]))]

end Snapshot

/-! ### Reading -/

/-- How many rows are read, unless a setting says otherwise. -/
def usualRowLimit : Int := 1000

/-- That many of the first rows, or all but that many from the end if the number is negative. -/
def cutRows (limit : Int) (rows : List Row) : List Row :=
  if 0 ≤ limit then rows.take limit.toNat else rows.take (rows.length - limit.natAbs)

/-- The **snapshot of the stored graph**, of at most so many rows, with the event of reading it. -/
def readSnapshot (failures : Failures) (limit : Int) (store : Store) :
    Except Fault (Snapshot × Event) := do
  if let some f := failures.opening then throw f
  if let some f := failures.reading then throw f
  let s ← Snapshot.ofRows (cutRows limit (Row.ofGraph store.graph))
  return (s, .read s.nodes.length s.links.length limit)

end DepGraph
