import DepGraph.Acquisition
import DepGraph.Survey
import DepGraph.Rebuild
import DepGraph.Settings.Types
import DepGraph.Span
import DepGraph.Run.Directories

/-!
# Ingesting a repository

An **ingestion** goes through three stages: it acquires a repository in a directory of its own,
discovers its files, and rebuilds the graph from them. Each stage is traced, each step of the run is
told, and a stage that fails ends the ingestion. The directory is kept in any case, once it is
chosen.
-/

namespace DepGraph

/-! ### Ingestions -/

/-- What stays the same between the ingestions of a service. -/
structure Service where
  /-- The settings. -/
  settings : ServiceSettings
  /-- The grammars. -/
  registry : Syntax.Registry
  /-- The clock, in nanoseconds. -/
  clock : Int

/-- What an ingestion came to. -/
structure Ingested where
  /-- The store. -/
  store : Store
  /-- The directories of the runs. -/
  directories : RunDirectories
  /-- The run. -/
  run : Run
  /-- The events, in order. -/
  events : List Event := []
  /-- The spans, in the order in which they ended. -/
  spans : List Span := []
  /-- The clones that were asked for. -/
  clones : List CloneCall := []
  /-- The queries that succeeded, in order. -/
  queries : List Query := []
  /-- The operations that were asked of the store, in order. -/
  operations : List Operation := []
  /-- What the ingestion returned, or why it did not. -/
  outcome : Except Fault RebuildSummary

namespace Ingestion

/-- The name of the whole ingestion among the stages. -/
def whole : String := "run"

/-- The run after a step that is allowed, with the event that tells of it. -/
def advance (next : RunState) (s : Ingested) : Except Fault Ingested :=
  (s.run.advance next).map fun (run, e) => { s with run, events := s.events ++ [e] }

/-- An ingestion that also told this. -/
def tell (e : Event) (s : Ingested) : Ingested := { s with events := s.events ++ [e] }

/-- An ingestion in which a stage ended. -/
def endStage (stage : String) (attributes : List (String × Json)) (fault : Option Fault)
    (s : Ingested) : Ingested :=
  let span : Span :=
    { stage, parent := some whole, attributes := Span.attributesOf attributes, fault }
  { s with spans := s.spans ++ [span] }

/-- The end of an ingestion: if it failed as ingestions do, that is told; the directory is kept if
one was chosen; and what was done is told last. -/
def finish (repoUrl : String) (place : Option String) (attributes : List (String × Json))
    (outcome : Except Fault RebuildSummary) (s : Ingested) : Ingested :=
  let fault : Option Fault :=
    match outcome with
    | .error f => some f
    | .ok _ => none
  let span : Span :=
    { stage := whole, attributes := Span.attributesOf attributes, fault }
  let failed : List Event :=
    match fault with
    | some f => if f.isIngestion then [.failed repoUrl s.run.state f.kind f.message] else []
    | none => []
  let kept : List Event :=
    match place with
    | some p => [.retained p]
    | none => []
  let done : List Event :=
    match outcome with
    | .ok stats => [.finished repoUrl stats.counts]
    | .error _ => []
  { s with
    spans := s.spans ++ [span]
    events := s.events ++ failed ++ kept ++ done
    outcome }

/-- The stage that rebuilds the graph. -/
def rebuildStage (service : Service) (failures : Failures) (files : List SourceFile)
    (s : Ingested) : Ingested :=
  let b := rebuild failures service.settings.snippetLength service.registry.fileReader files
    (some s.run) s.store
  let fault : Option Fault :=
    match b.outcome with
    | .error f => some f
    | .ok _ => none
  endStage "rebuild" [] fault
    { s with
      store := b.store
      run := b.run.getD s.run
      events := s.events ++ b.events
      queries := b.queries
      operations := b.operations
      outcome := b.outcome }

/-- The survey of a checkout, by the settings. -/
def surveyOf (service : Service) (c : Checkout) : Except Fault (List SourceFile) := do
  let rules ← (Ignore.Rules.ofExtra service.settings.ignoreLines).mapError .pattern
  Survey.take (.ofRules rules) service.settings.maxFiles c.place (.ok c.tree)

/-- The clone that a run asks for. -/
def cloneCall (service : Service) (repoUrl place : String) : CloneCall where
  source := repoUrl
  target := place
  depth := service.settings.cloneDepth

/-- The attribute of the depth of a clone. -/
def depthAttribute (depth : Option Int) : List (String × Json) :=
  match depth with
  | some n => [("depth", .int n)]
  | none => []

/-- The attribute of the commit at the head of a clone. -/
def headAttribute (head : Option String) : List (String × Json) :=
  match head with
  | some h => if h == "" then [] else [("head_commit", .ofString h)]
  | none => []

/-- An ingestion whose repository is on disk: it discovers the files and rebuilds the graph. -/
def afterClone (service : Service) (failures : Failures) (repoUrl : String) (c : Checkout)
    (s : Ingested) : Ingested :=
  let url : List (String × Json) := [("repo_url", .ofString repoUrl)]
  let stop (s : Ingested) (f : Fault) : Ingested :=
    finish repoUrl (some c.place) url (.error f) (endStage "discovery" [] (some f) s)
  match surveyOf service c with
  | .error f => stop s f
  | .ok files =>
    match advance .discovered s with
    | .error f => stop s f
    | .ok s =>
      let s := endStage "discovery" [] none (tell (.discovered repoUrl files.length) s)
      let s := rebuildStage service failures files s
      finish repoUrl (some c.place) (url ++ [("files", .int files.length)]) s.outcome s

/-- An ingestion whose directory is chosen: it acquires the repository and goes on. -/
def inDirectory (service : Service) (failures : Failures) (outcome : CloneOutcome)
    (repoUrl : String) (stamp : Int) (s : Ingested) : Ingested :=
  let place := RunDirectories.placeOf s.directories.root stamp
  let call := cloneCall service repoUrl place
  let taken := if outcome.leavesTrace then [stamp] else []
  let depth := depthAttribute service.settings.cloneDepth
  let s :=
    { s with
      clones := [call]
      directories := { s.directories with taken := s.directories.taken ++ taken } }
  let stop (s : Ingested) (attributes : List (String × Json)) (f : Fault) : Ingested :=
    finish repoUrl (some place) [("repo_url", .ofString repoUrl)] (.error f)
      (endStage "clone" attributes (some f) s)
  match acquire call outcome with
  | .error f => stop s depth f
  | .ok c =>
    let attributes := depth ++ headAttribute c.head
    match advance .cloned s with
    | .error f => stop s attributes f
    | .ok s =>
      afterClone service failures repoUrl c
        (endStage "clone" attributes none (tell (.cloned repoUrl c.place c.head) s))

end Ingestion

/-- **Ingests** a repository. -/
def ingest (service : Service) (failures : Failures) (outcome : CloneOutcome) (repoUrl : String)
    (directories : RunDirectories) (store : Store) : Ingested :=
  let s : Ingested :=
    { store, directories, run := { repoUrl }, events := [.started repoUrl]
      outcome := .error default }
  match directories.newStamp service.clock with
  | .error cause =>
    let f := Fault.acquisition repoUrl ("cannot create workspace: " ++ cause.message)
    Ingestion.finish repoUrl none [("repo_url", .ofString repoUrl)] (.error f)
      (Ingestion.endStage "clone" (Ingestion.depthAttribute service.settings.cloneDepth) (some f) s)
  | .ok stamp => Ingestion.inDirectory service failures outcome repoUrl stamp s

end DepGraph
