import DepGraph.Run.Basic

/-!
# Runs that go through several states

`DepGraph.Run.advance` takes a run one state further. A rebuild takes its run through up to three
states, and what is said of it afterwards is said of all of them at once: which state the run is in
and what its history is (`DepGraph.Run.through`), and what was told on the way
(`DepGraph.Run.tellings`).
-/

namespace DepGraph

namespace Run

/-- The run after it **went through** some states. -/
def through (states : List RunState) (run : Run) : Run where
  repoUrl := run.repoUrl
  state := states.getLastD run.state
  history := run.history ++ states

/-- What is told while a run goes through some states. -/
def tellings (states : List RunState) (run : Run) : List Event :=
  states.map (.advanced run.repoUrl)

variable {run : Run} {states more : List RunState} {next : RunState}

@[simp] theorem through_repoUrl : (run.through states).repoUrl = run.repoUrl := rfl

@[simp] theorem through_state : (run.through states).state = states.getLastD run.state := rfl

/-- Going through no state at all changes nothing. -/
@[simp] theorem through_nil : run.through [] = run := by
  simp [through]

/-- Going through some states and then through others is going through all of them. -/
@[simp] theorem through_through :
    (run.through states).through more = run.through (states ++ more) := by
  rcases more.eq_nil_or_concat with rfl | ⟨more, last, rfl⟩
  · simp [through]
  · simp [through, ← List.append_assoc]

/-- **A step that is allowed is taken**, and told. -/
theorem advance_eq_ok (h : next ∈ run.state.successors) :
    run.advance next = .ok (run.through [next], .advanced run.repoUrl next) := by
  simp [advance, h, through]

/-- A step that is not allowed is a fault. -/
theorem advance_eq_error (h : next ∉ run.state.successors) :
    run.advance next = .error (.badStep run.state next) := by
  simp [advance, h]

end Run

namespace RunState

/-- A run starts processing only after its files are discovered. -/
theorem processing_mem_successors {s : RunState} : processing ∈ s.successors ↔ s = discovered := by
  cases s <;> decide

end RunState

end DepGraph
