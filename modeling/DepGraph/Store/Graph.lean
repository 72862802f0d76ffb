import DepGraph.Resolution
import DepGraph.Text.CodePoint

/-!
# The stored graph

The store holds a **graph** of files: nodes by path, each with a snippet of its content, and edges
between them, both in the order in which they came in. It is changed by three **queries**, none of
which ever leaves an edge whose ends are not nodes.
-/

namespace DepGraph

/-- A **node** of the graph: a file, by its path, with a snippet of its content. -/
structure FileNode where
  /-- The path. -/
  path : String
  /-- The snippet. -/
  snippet : Text
deriving DecidableEq, Repr

/-- A **graph** of files. -/
structure Graph where
  /-- The nodes, in the order in which they came in. -/
  nodes : List FileNode := []
  /-- The edges, in the order in which they came in. -/
  edges : List Dependency := []
deriving DecidableEq, Repr

namespace Graph

/-- The paths of the nodes. -/
def paths (g : Graph) : List String := g.nodes.map (·.path)

/-- Nodes with a snippet put at a path, at the end if the path is new. -/
def putNode (path : String) (snippet : Text) : List FileNode → List FileNode
  | [] => [⟨path, snippet⟩]
  | n :: ns => if n.path = path then ⟨path, snippet⟩ :: ns else n :: putNode path snippet ns

/-- A list with an item added at the end, if it is not there already. -/
def insertNew {α : Type} [DecidableEq α] (a : α) (as : List α) : List α :=
  if a ∈ as then as else as ++ [a]

/-- The graph with an edge; the target becomes a node, the source has to be one. -/
def link (g : Graph) (d : Dependency) : Graph :=
  if d.source ∈ g.paths then
    { nodes := if d.target ∈ g.paths then g.nodes else g.nodes ++ [⟨d.target, []⟩]
      edges := insertNew d g.edges }
  else g

end Graph

/-- What is asked of the store within a transaction. -/
inductive Query
  /-- Remove everything. -/
  | clear
  /-- Put a file with its snippet. -/
  | mergeFile (path : String) (snippet : Text)
  /-- Put an edge. -/
  | mergeDependency (d : Dependency)
deriving DecidableEq, Repr

namespace Query

/-- What a query **does** to the graph. -/
def apply (q : Query) (g : Graph) : Graph :=
  match q with
  | clear => {}
  | mergeFile path snippet => { g with nodes := Graph.putNode path snippet g.nodes }
  | mergeDependency d => g.link d

/-- The text of the query that removes everything. -/
def clearText : String := "MATCH (n) DETACH DELETE n"

/-- The text of the query that puts a file. -/
def mergeFileText : String := "\nMERGE (f:File \x7bpath: $path\x7d)\nSET f.snippet = $snippet\n"

/-- The text of the query that puts an edge. -/
def mergeDependencyText : String :=
  "\nMATCH (f:File \x7bpath: $from_path\x7d)\nMERGE (t:File \x7bpath: $to_path\x7d)\n" ++
    "MERGE (f)-[:DEPENDS_ON]->(t)\n"

/-- The text of the query that reads the graph. -/
def readText : String :=
  "\nMATCH (n:File)\nOPTIONAL MATCH (n)-[r]->(m)\nRETURN n, r, m\nLIMIT $limit\n"

/-- The text of the query that asks for a sign of life. -/
def pingText : String := "RETURN 1 AS ok"

/-- The text of the query for the components of the store. -/
def componentsText : String :=
  "CALL dbms.components() YIELD name, versions, edition RETURN name, versions, edition"

/-- The text of the query for the size of the graph. -/
def sizeText : String :=
  "\nMATCH (f:File)\nOPTIONAL MATCH (f)-[d:DEPENDS_ON]->()\n" ++
    "RETURN count(DISTINCT f) AS files, count(d) AS dependencies\n"

end Query

end DepGraph
