import DepGraph.ReadFile
import DepGraph.Run.Basic
import DepGraph.Store.Basic

/-!
# Rebuilding the graph

A rebuild replaces the stored graph by the graph of some files, in one transaction. What it does is
known before the store is touched: a **script** of queries and events (`DepGraph.Rebuild.script`),
which clears the graph, puts every file that can be parsed, and then puts an edge for each pair of
parsed files of which the first has a specifier that resolves to the second. The script is performed
up to the first fault (`DepGraph.Rebuild.perform`), and `DepGraph.rebuild` commits it if there is
none and rolls it back otherwise.
-/

namespace DepGraph

namespace Rebuild

/-! ### The script -/

/-- A **step** of a rebuild. -/
inductive Step
  /-- The store is asked to change the draft. -/
  | query (q : Query)
  /-- Something is told. -/
  | tell (e : Event)
  /-- The rebuild cannot go on. -/
  | stop (f : Fault)

/-- The start of a content that is stored with a file: that many code points, or all but that many
from the end if the number is negative. -/
def snippetOf (length : Int) (content : Text) : Text :=
  if 0 ≤ length then content.take length.toNat
  else content.take (content.length - length.natAbs)

/-- The event of resolving a specifier of the file at a path. -/
def resolutionEvent (known : String → Bool) (path specifier : String) : Event :=
  match Resolution.target? known path specifier with
  | some target => .resolved path specifier target
  | none => .dropped path specifier

/-- The steps for one file. -/
def fileSteps (snippetLength : Int) (known : String → Bool) (read : FileReader)
    (file : SourceFile) : List Step :=
  match read file with
  | .error f => [.stop f]
  | .ok (none, events) => events.map .tell
  | .ok (some p, events) =>
    events.map .tell ++
      [.query (.mergeFile p.path (snippetOf snippetLength p.content)),
        .tell (.processed p.path p.specifiers.length)] ++
      p.specifiers.map fun s => .tell (resolutionEvent known p.path s)

/-- The files among some that can be parsed, in order. -/
def parsedFiles (read : FileReader) (files : List SourceFile) : List ReadFile :=
  files.filterMap fun file =>
    match read file with
    | .ok (some p, _) => some p
    | _ => none

/-- The paths of the files that are left out, in order. -/
def skippedPaths (read : FileReader) (files : List SourceFile) : List String :=
  files.filterMap fun file =>
    match read file with
    | .ok (none, _) => some file.path
    | _ => none

/-- The dependencies that the specifiers of some files resolve to, each once, in order of their
first occurrence. -/
def dependencies (known : String → Bool) (parsed : List ReadFile) : List Dependency :=
  (parsed.flatMap fun p =>
    p.specifiers.filterMap (Resolution.dependency? known p.path)).eraseDups

/-- The step for one dependency: its target may have been left out. -/
def edgeStep (written : List String) (d : Dependency) : Step :=
  if d.target ∈ written then .query (.mergeDependency d)
  else .tell (.targetUnparsed d.source d.target)

/-- What a rebuild of some files comes to. -/
structure Plan where
  /-- The steps. -/
  steps : List Step
  /-- The paths of the files that are written. -/
  written : List String
  /-- The dependencies that are written. -/
  edges : List Dependency
  /-- The paths of the files that are left out. -/
  skipped : List String

/-- Whether a path is the path of one of the files. -/
def knows (files : List SourceFile) (path : String) : Bool := (files.map (·.path)).contains path

/-- The **script** of a rebuild. -/
def script (snippetLength : Int) (read : FileReader) (files : List SourceFile) : Plan :=
  let parsed := parsedFiles read files
  let written := (parsed.map (·.path)).eraseDups
  let found := dependencies (knows files) parsed
  { steps :=
      [.query .clear, .tell .cleared] ++
        files.flatMap (fileSteps snippetLength (knows files) read) ++
        found.map (edgeStep written)
    written
    edges := found.filter fun d => d.target ∈ written
    skipped := skippedPaths read files }

/-! ### Performing it -/

/-- What came of performing some steps. -/
structure Performance where
  /-- The transaction. -/
  transaction : Transaction
  /-- The operations that were asked of the store. -/
  operations : List Operation
  /-- The events. -/
  events : List Event
  /-- The fault that ended it, if any. -/
  fault : Option Fault

/-- **Performs** steps in a transaction, up to the first fault. -/
def perform (failures : Failures) (t : Transaction) : List Step → Performance
  | [] => ⟨t, [], [], none⟩
  | .tell e :: steps =>
    let p := perform failures t steps
    { p with events := e :: p.events }
  | .stop f :: _ => ⟨t, [], [], some f⟩
  | .query q :: steps =>
    match failures.querying t.next with
    | some f => ⟨t, [.query q], [], some f⟩
    | none =>
      let p := perform failures (t.run q) steps
      { p with operations := .query q :: p.operations }

end Rebuild

/-! ### The whole rebuild -/

/-- What a rebuild did to the files. -/
structure RebuildSummary where
  /-- How many files there were. -/
  discovered : Nat
  /-- How many were written. -/
  nodesWritten : Nat
  /-- How many edges were written. -/
  edgesWritten : Nat
  /-- The paths of the files that were left out. -/
  skipped : List String
deriving DecidableEq, Repr

/-- The counts of a rebuild. -/
def RebuildSummary.counts (s : RebuildSummary) : Counts :=
  ⟨s.nodesWritten, s.edgesWritten, s.skipped.length⟩

/-- What a rebuild came to. -/
structure Rebuilt where
  /-- The store. -/
  store : Store
  /-- The run, if there is one. -/
  run : Option Run
  /-- The events, in order. -/
  events : List Event := []
  /-- The queries that succeeded, in order. -/
  queries : List Query := []
  /-- The operations that were asked of the store, in order. -/
  operations : List Operation := []
  /-- What the rebuild returned, or why it did not. -/
  outcome : Except Fault RebuildSummary

namespace Rebuild

/-- The run that advances, if there is one, with the events that tell so. -/
def advance (next : RunState) : Option Run → Except Fault (Option Run × List Event)
  | none => .ok (none, [])
  | some run => (run.advance next).map fun (run, e) => (some run, [e])

/-- What a rebuild comes to that was **rolled back** because of a fault. -/
def giveUp (b : Rebuilt) (cause : Fault) : Rebuilt :=
  match advance .rolledBack b.run with
  | .error f => { b with outcome := .error f }
  | .ok (run, events) =>
    { b with
      run
      events := b.events ++ events ++ [.rolledBack cause.kind cause.message]
      outcome := .error (.rollingBack cause) }

/-- What a rebuild comes to that has to roll its transaction back. A store that refuses to do so has
already done it; any other fault on the way takes over. -/
def rollBack (failures : Failures) (b : Rebuilt) (cause : Fault) : Rebuilt :=
  let b :=
    { b with
      store := { b.store with rollbacks := b.store.rollbacks + 1 }
      operations := b.operations ++ [.rollback] }
  match failures.rollingBack with
  | some f => if f.isStore then giveUp b cause else { b with outcome := .error f }
  | none => giveUp b cause

/-- What a rebuild comes to whose draft is complete. -/
def conclude (failures : Failures) (b : Rebuilt) (draft : Graph) (stats : RebuildSummary) :
    Rebuilt :=
  match advance .committing b.run with
  | .error f => rollBack failures b f
  | .ok (run, events) =>
    let b :=
      { b with run, events := b.events ++ events, operations := b.operations ++ [.commit] }
    match failures.committing with
    | some f => rollBack failures b f
    | none =>
      let b := { b with store := { b.store with graph := draft, commits := b.store.commits + 1 } }
      match advance .committed b.run with
      | .error f => { b with outcome := .error f }
      | .ok (run, events) =>
        { b with
          run
          events := b.events ++ events ++ [.committed stats.counts]
          outcome := .ok stats }

/-- What a rebuild comes to once its transaction is begun. -/
def transact (failures : Failures) (b : Rebuilt) (plan : Plan) (discovered : Nat) : Rebuilt :=
  let p := perform failures { draft := b.store.graph } plan.steps
  let b :=
    { b with
      store := { b.store with begun := b.store.begun + 1 }
      events := b.events ++ p.events
      queries := p.transaction.queries
      operations := b.operations ++ p.operations }
  match p.fault with
  | some f => rollBack failures b f
  | none =>
    conclude failures b p.transaction.draft
      ⟨discovered, plan.written.length, plan.edges.length, plan.skipped⟩

end Rebuild

/-- **Rebuilds** the stored graph from some files. -/
def rebuild (failures : Failures) (snippetLength : Int) (read : FileReader)
    (files : List SourceFile) (run : Option Run) (store : Store) : Rebuilt :=
  let untouched : Rebuilt := { store, run, outcome := .error default }
  match Rebuild.advance .processing run with
  | .error f => { untouched with outcome := .error f }
  | .ok (run, events) =>
    let b := { untouched with run, events, operations := [.openSession] }
    match failures.opening with
    | some f => { b with outcome := .error f }
    | none =>
      let b := { b with operations := b.operations ++ [.begin] }
      match failures.beginning with
      | some f => Rebuild.giveUp b f
      | none =>
        Rebuild.transact failures b (Rebuild.script snippetLength read files) files.length

end DepGraph
