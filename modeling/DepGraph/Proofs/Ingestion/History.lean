import DepGraph.Proofs.Ingestion.Ending
import DepGraph.Proofs.Ingestion.Stages
import DepGraph.Proofs.Rebuild.Contents
import DepGraph.Proofs.Survey.Place

/-!
# What the store holds after many ingestions

A service is called again and again, and each call finds what the calls before it have left
(`DepGraph.World.after`), on disk together with whatever else happened there. The store holds the
graph of **the last call that returned**, whole, and the calls that failed since have not touched it
(`DepGraph.World.graph_after`).

One call is all that has to be looked at. If it fails it leaves the graph alone
(`DepGraph.World.graph_of_failed`), and if it returns it leaves the graph of the tree that it was
given (`DepGraph.World.graph_of_returned`), which depends neither on the place of the clone nor on
anything that was stored before. The rest is an induction on the calls.
-/

namespace DepGraph

/-! ### Calls -/

/-- A **call** of a service, with all that meets it from outside. -/
structure Call where
  /-- The repository. -/
  repoUrl : String
  /-- What the clone does. -/
  clone : CloneOutcome
  /-- What fails in the store. -/
  failures : Failures
  /-- The clock, in nanoseconds. -/
  clock : Int
  /-- What happened to the directories of the runs since the call before. -/
  meanwhile : RunDirectories → RunDirectories

/-- What a service finds when it is called, and leaves. -/
structure World where
  /-- The store. -/
  store : Store
  /-- The directories of the runs. -/
  directories : RunDirectories

namespace World

/-- What a call **comes to**. -/
def answer (service : Service) (w : World) (call : Call) : Ingested :=
  ingest { service with clock := call.clock } call.failures call.clone call.repoUrl
    (call.meanwhile w.directories) w.store

/-- The world after a call. -/
def next (service : Service) (w : World) (call : Call) : World where
  store := (answer service w call).store
  directories := (answer service w call).directories

/-- The world **after** some calls, one after the other. -/
def after (service : Service) (w : World) (calls : List Call) : World :=
  calls.foldl (next service) w

/-- What some calls come to, one after the other. -/
def answers (service : Service) (w : World) : List Call → List (Call × Ingested)
  | [] => []
  | call :: calls => (call, answer service w call) :: answers service (next service w call) calls

end World

/-! ### The graph of a call -/

/-- The **graph of a tree** by the settings and the grammars of a service. -/
def Service.graphOf (service : Service) : Entry → Graph
  | .directory entries =>
    match Ignore.Rules.ofExtra service.settings.ignoreLines with
    | .ok rules =>
      .ofFiles service.settings.snippetLength service.registry.fileReader
        (Survey.filesIn (.ofRules rules) "" entries)
    | .error _ => {}
  | _ => {}

/-- The graph of the tree that a call is given, if it is given one. -/
def Service.graphOfCall (service : Service) (call : Call) : Graph :=
  match call.clone with
  | .checkout tree _ => service.graphOf tree
  | _ => {}

/-- The **last** of some answered calls that returned. -/
def lastReturned (answered : List (Call × Ingested)) : Option Call :=
  (answered.filter fun a => a.2.outcome.isOk).getLast?.map (·.1)

namespace World

section Step

variable {service : Service} {w : World} {call : Call}

/-- The graph of the files that are discovered in a tree is the graph of the tree. -/
theorem ofFiles_of_surveyed {c : Checkout} {files : List SourceFile}
    (surveyed : Ingestion.surveyOf service c = .ok files) :
    Graph.ofFiles service.settings.snippetLength service.registry.fileReader files =
      service.graphOf c.tree := by
  obtain ⟨rules, entries, compiled, tree, rfl⟩ := Ingestion.surveyOf_eq_ok surveyed
  rw [Survey.ofFiles_filesIn]
  simp only [Service.graphOf, tree, compiled]

/-- Every call comes to an ending of an ingestion. -/
theorem ending_answer (service : Service) (w : World) (call : Call) :
    Ingestion.Ending { service with clock := call.clock } call.failures call.clone call.repoUrl
      (call.meanwhile w.directories) w.store (answer service w call) :=
  Ingestion.ending_ingest

/-- **A call that fails** leaves the graph alone. -/
theorem graph_of_failed {f : Fault} (failed : (answer service w call).outcome = .error f) :
    (answer service w call).store.graph = w.store.graph := by
  cases ending_answer service w call with
  | homeless flaw obstacle leaves => rw [leaves.store]
  | unacquired f' obstacle acquired leaves => rw [leaves.store]
  | unsurveyed c f' obstacle acquired surveyed leaves => rw [leaves.store]
  | rebuilt c files obstacle acquired surveyed leaves =>
    rw [leaves.store]
    exact Rebuild.graph_of_outcome_error (leaves.outcome.symm.trans failed)

/-- **A call that returns** leaves the graph of the tree that it was given. -/
theorem graph_of_returned {stats : RebuildSummary}
    (returned : (answer service w call).outcome = .ok stats) :
    (answer service w call).store.graph = service.graphOfCall call := by
  cases ending_answer service w call with
  | homeless flaw obstacle leaves => cases leaves.outcome.symm.trans returned
  | unacquired f obstacle acquired leaves => cases leaves.outcome.symm.trans returned
  | unsurveyed c f obstacle acquired surveyed leaves =>
    cases leaves.outcome.symm.trans returned
  | rebuilt c files obstacle acquired surveyed leaves =>
    have cloned := (Ingestion.acquire_eq_ok acquired).1
    have stored := (Rebuild.returned_of_outcome_ok (leaves.outcome.symm.trans returned)).1
    rw [leaves.store, Service.graphOfCall, cloned]
    exact stored.trans (ofFiles_of_surveyed surveyed)

end Step

/-! ### Many calls -/

section Run

variable {service : Service} {w : World} {call : Call} {calls : List Call}

/-- The last call that returned is the first one only if none of the others did. -/
theorem lastReturned_cons {a : Call × Ingested} {answered : List (Call × Ingested)} :
    lastReturned (a :: answered) =
      (lastReturned answered).or (if a.2.outcome.isOk then some a.1 else none) := by
  by_cases h : a.2.outcome.isOk
  · simp only [lastReturned, List.filter_cons, h, if_true, List.getLast?_cons]
    cases (answered.filter fun a => a.2.outcome.isOk).getLast? <;> rfl
  · simp [lastReturned, h]

/-- **The store holds the graph of the last call that returned**, or what it held at first if no
call did. -/
theorem graph_eq_of_lastReturned :
    (after service w calls).store.graph =
      ((lastReturned (answers service w calls)).map service.graphOfCall).getD w.store.graph := by
  induction calls generalizing w with
  | nil => rfl
  | cons call calls ih =>
    have rest : (after service w (call :: calls)).store.graph =
        ((lastReturned (answers service (next service w call) calls)).map
          service.graphOfCall).getD (answer service w call).store.graph := ih
    rw [rest, answers, lastReturned_cons]
    cases lastReturned (answers service (next service w call) calls) with
    | some later => rfl
    | none =>
      -- no later call returned, so this one decides: either it did, or nothing has changed
      cases outcome : (answer service w call).outcome with
      | ok stats => simpa [Except.isOk, Except.toBool, outcome] using graph_of_returned outcome
      | error f => simpa [Except.isOk, Except.toBool, outcome] using graph_of_failed outcome

/-- A call after some others. -/
theorem after_append_singleton :
    after service w (calls ++ [call]) = next service (after service w calls) call :=
  List.foldl_concat (next service) w call calls

end Run

/-- **After any calls the store holds the graph of the last one that returned**, or what it held at
first if none did; and a call that fails, whenever it comes, leaves the graph alone. -/
theorem graph_after (service : Service) (w : World) (calls : List Call) :
    (after service w calls).store.graph =
        ((lastReturned (answers service w calls)).map service.graphOfCall).getD w.store.graph ∧
      ∀ call f, (answer service (after service w calls) call).outcome = .error f →
        (after service w (calls ++ [call])).store.graph = (after service w calls).store.graph := by
  refine ⟨graph_eq_of_lastReturned, fun call f failed => ?_⟩
  rw [after_append_singleton]
  exact graph_of_failed failed

end World

end DepGraph
