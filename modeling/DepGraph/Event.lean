import DepGraph.Json.Value
import DepGraph.Run.State

/-!
# Events

Whatever happens in a run is told as an **event**, and an event is reported by its name and its
fields (`DepGraph.Event.report`). Reports have a severity, which depends on the name alone, so that
reports that are no events of a run have one as well.
-/

namespace DepGraph

/-! ### Reports -/

/-- A **report**: a name and fields, in order. -/
structure Report where
  /-- The name. -/
  name : String
  /-- The fields. -/
  fields : List (String × Json)

/-- How serious a report is. -/
inductive Severity
  | debug
  | info
  | warning
  | error
  | critical
deriving DecidableEq, Repr

/-- The names of serious reports. -/
def errorNames : List String := ["ingest.failed"]

/-- The names of reports that warn. -/
def warningNames : List String :=
  ["file.parse_failed", "notebook.decode_failed", "query.compile_failed", "grammar.degraded",
    "transaction.rolled_back"]

/-- The names of reports that are too many to be shown by default. -/
def debugNames : List String :=
  ["specifier.resolved", "specifier.dropped", "specifier.target_unparsed"]

/-- The severity of a report of this name. -/
def Severity.ofName (name : String) : Severity :=
  if errorNames.contains name then .error
  else if warningNames.contains name then .warning
  else if debugNames.contains name then .debug
  else .info

/-! ### Events -/

/-- The counts of a rebuild. -/
structure Counts where
  /-- How many files were written. -/
  nodes : Nat
  /-- How many dependencies were written. -/
  edges : Nat
  /-- How many files were left out. -/
  skipped : Nat
deriving DecidableEq, Repr

/-- An **event** of a run. -/
inductive Event
  /-- An ingestion starts. -/
  | started (repoUrl : String)
  /-- A run goes to another state. -/
  | advanced (repoUrl : String) (state : RunState)
  /-- An ingestion is done. -/
  | finished (repoUrl : String) (counts : Counts)
  /-- An ingestion failed, in this state. -/
  | failed (repoUrl : String) (state : RunState) (kind message : String)
  /-- The directory of a run is kept. -/
  | retained (place : String)
  /-- A repository is on disk. -/
  | cloned (repoUrl place : String) (head : Option String)
  /-- The files of a repository are listed. -/
  | discovered (repoUrl : String) (count : Nat)
  /-- A file was read and written, with this many specifiers. -/
  | processed (path : String) (specifiers : Nat)
  /-- A file could not be parsed. -/
  | unparsed (path message : String)
  /-- A notebook could not be read. -/
  | unreadable (path message : String)
  /-- The patterns for a tree do not fit its grammar. -/
  | misfit (tag rootKind message : String)
  /-- A specifier names a file. -/
  | resolved (path specifier target : String)
  /-- A specifier names no file. -/
  | dropped (path specifier : String)
  /-- A specifier names a file that was left out. -/
  | targetUnparsed (path target : String)
  /-- The graph is empty. -/
  | cleared
  /-- A transaction is committed. -/
  | committed (counts : Counts)
  /-- A transaction is rolled back. -/
  | rolledBack (kind message : String)
  /-- The graph was read, at most this many rows of it. -/
  | read (nodes links : Nat) (limit : Int)
  /-- A grammar is replaced by another. -/
  | degraded (tag fallback message : String)
deriving DecidableEq, Repr

namespace Event

/-- The fields of counts. -/
def countFields (c : Counts) : List (String × Json) :=
  [("nodes", .int c.nodes), ("edges", .int c.edges), ("skipped", .int c.skipped)]

/-- How an event is **reported**. -/
def report : Event → Report
  | started repoUrl => ⟨"ingest.start", [("repo_url", .ofString repoUrl)]⟩
  | advanced repoUrl state =>
    ⟨"ingest.state", [("repo_url", .ofString repoUrl), ("state", .ofString state.word)]⟩
  | finished repoUrl counts =>
    ⟨"ingest.done", ("repo_url", .ofString repoUrl) :: countFields counts⟩
  | failed repoUrl state kind message =>
    ⟨"ingest.failed", [("repo_url", .ofString repoUrl), ("state", .ofString state.word),
      ("error_type", .ofString kind), ("error", .ofString message)]⟩
  | retained place => ⟨"ingest.workspace_retained", [("repo_root", .ofString place)]⟩
  | cloned repoUrl place head =>
    ⟨"repo.cloned", [("repo_url", .ofString repoUrl), ("repo_root", .ofString place),
      ("head_commit", (head.map Json.ofString).getD .null)]⟩
  | discovered repoUrl count =>
    ⟨"files.discovered", [("repo_url", .ofString repoUrl), ("count", .int count)]⟩
  | processed path specifiers =>
    ⟨"file.processed", [("path", .ofString path), ("specifiers", .int specifiers)]⟩
  | unparsed path message =>
    ⟨"file.parse_failed", [("path", .ofString path), ("error", .ofString message)]⟩
  | unreadable path message =>
    ⟨"notebook.decode_failed", [("path", .ofString path), ("error", .ofString message)]⟩
  | misfit tag rootKind message =>
    ⟨"query.compile_failed", [("tag", .ofString tag), ("root_type", .ofString rootKind),
      ("error", .ofString message)]⟩
  | resolved path specifier target =>
    ⟨"specifier.resolved", [("path", .ofString path), ("specifier", .ofString specifier),
      ("target", .ofString target)]⟩
  | dropped path specifier =>
    ⟨"specifier.dropped", [("path", .ofString path), ("specifier", .ofString specifier)]⟩
  | targetUnparsed path target =>
    ⟨"specifier.target_unparsed", [("path", .ofString path), ("target", .ofString target)]⟩
  | cleared => ⟨"graph.cleared", []⟩
  | committed counts => ⟨"transaction.committed", countFields counts⟩
  | rolledBack kind message =>
    ⟨"transaction.rolled_back", [("error", .ofString message), ("error_type", .ofString kind)]⟩
  | read nodes links limit =>
    ⟨"graph.read", [("nodes", .int nodes), ("links", .int links), ("limit", .int limit)]⟩
  | degraded tag fallback message =>
    ⟨"grammar.degraded", [("tag", .ofString tag), ("fallback", .ofString fallback),
      ("error", .ofString message)]⟩

end Event

end DepGraph
