import DepGraph.Event
import DepGraph.Fault

/-!
# Runs

A run of an ingestion knows its state and the states it went through. It advances one state at a
time along `DepGraph.RunState.successors`; each step is told as an event, and a step that is not
allowed is a fault and changes nothing.
-/

namespace DepGraph

/-- A **run** of an ingestion. -/
structure Run where
  /-- The repository that is ingested. -/
  repoUrl : String
  /-- The current state. -/
  state : RunState := .idle
  /-- All states so far, in order. -/
  history : List RunState := [.idle]
deriving DecidableEq, Repr

namespace Run

/-- A run that **advances** to a state, with the event that tells so. -/
def advance (run : Run) (next : RunState) : Except Fault (Run × Event) :=
  if next ∈ run.state.successors then
    .ok ({ run with state := next, history := run.history ++ [next] },
      .advanced run.repoUrl next)
  else .error (.badStep run.state next)

/-- Whether a run has ended. -/
def finished (run : Run) : Bool := RunState.terminal.contains run.state

end Run

end DepGraph
