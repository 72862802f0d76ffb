import DepGraph.Proofs.Run.Through
import Mathlib.Data.Fintype.Card
import Mathlib.Data.List.Chain

/-!
# Calls to advance a run

A run is advanced by **calls**, each of which asks for a state and is accepted or rejected. What
comes of a sequence of calls is the run as they leave it and an answer to each
(`DepGraph.Run.calling`), and an accepted call is answered with an event.

Whatever the calls ask for, the course that the run takes is **orderly**
(`DepGraph.Run.Called.Orderly`): its history leads from `idle` to its current state along allowed
steps, and the events tell it step by step. Every step goes to a later **stage** of a run
(`DepGraph.RunState.stage`), so that no state comes twice and only five calls can be accepted.
-/

namespace DepGraph

namespace RunState

variable {s t : RunState}

/-- The **stage** of a state: how many steps a run takes at most until it is reached. -/
def stage : RunState → Fin 6
  | idle => 0
  | cloned => 1
  | discovered => 2
  | processing => 3
  | committing => 4
  | committed => 5
  | rolledBack => 5

/-- Every step goes to a later stage. -/
theorem stage_lt_of_mem_successors (h : t ∈ s.successors) : s.stage < t.stage := by
  revert h
  cases s <;> cases t <;> decide

/-- Along allowed steps the stages increase. -/
theorem pairwise_stage {states : List RunState}
    (steps : states.IsChain fun s t => t ∈ s.successors) :
    states.Pairwise fun s t => s.stage < t.stage := by
  have later : (states.map stage).IsChain (· < ·) :=
    (List.isChain_map stage).mpr (steps.imp fun _ _ => stage_lt_of_mem_successors)
  exact List.pairwise_map.mp later.pairwise

/-- **Along allowed steps no state comes twice**. -/
theorem nodup_of_isChain {states : List RunState}
    (steps : states.IsChain fun s t => t ∈ s.successors) : states.Nodup := by
  refine (pairwise_stage steps).imp ?_
  rintro s t later rfl
  exact lt_irrefl _ later

/-- There are no more states along allowed steps than stages. -/
theorem length_le_of_isChain {states : List RunState}
    (steps : states.IsChain fun s t => t ∈ s.successors) : states.length ≤ 6 := by
  have apart : (states.map stage).Nodup :=
    List.pairwise_map.mpr ((pairwise_stage steps).imp fun later => later.ne)
  simpa using apart.length_le_card

end RunState

namespace Run

/-! ### Calls and their answers -/

/-- What **came of** some calls. -/
structure Called where
  /-- The run as they leave it. -/
  run : Run
  /-- The answers to the calls, in order: an event, or the fault that the call was rejected with. -/
  answers : List (Except Fault Event) := []

namespace Called

/-- What came of the calls and of **one more**, which asks for this state. -/
def call (c : Called) (next : RunState) : Called :=
  match c.run.advance next with
  | .ok (run, e) => ⟨run, c.answers ++ [.ok e]⟩
  | .error f => ⟨c.run, c.answers ++ [.error f]⟩

/-- The events that were told, in order: one by each accepted call. -/
def events (c : Called) : List Event := c.answers.filterMap Except.toOption

end Called

/-- What comes of **calling** for some states, one after the other. -/
def calling (states : List RunState) (run : Run) : Called := states.foldl Called.call { run }

variable {run : Run} {c : Called} {states : List RunState} {next : RunState} {f : Fault}

@[simp] theorem calling_nil : run.calling [] = { run } := rfl

/-- The last call comes after the others. -/
theorem calling_concat : run.calling (states ++ [next]) = (run.calling states).call next := by
  simp [calling]

/-- **A call is rejected** exactly if the step is not allowed, and it says which one. -/
theorem advance_eq_error_iff :
    run.advance next = .error f ↔ next ∉ run.state.successors ∧ f = .badStep run.state next := by
  by_cases h : next ∈ run.state.successors
  · simp [advance_eq_ok h, h]
  · simp [advance_eq_error h, h, eq_comm]

/-- **A run has ended** exactly if whatever is called for is rejected. -/
theorem finished_iff : run.finished = true ↔ ∀ next, ∃ f, run.advance next = .error f := by
  rw [finished, List.contains_iff_mem, RunState.mem_terminal_iff, List.eq_nil_iff_forall_not_mem]
  simp only [advance_eq_error_iff, and_comm, exists_eq_left]

/-! ### Orderly courses -/

/-- What came of some calls is an **orderly** course of a fresh run. -/
structure Called.Orderly (repoUrl : String) (c : Called) : Prop where
  /-- The run is still that of its repository. -/
  own : c.run.repoUrl = repoUrl
  /-- The history starts where nothing has happened. -/
  starts : c.run.history.head? = some .idle
  /-- It ends with the current state. -/
  ends : c.run.history.getLast? = some c.run.state
  /-- Every step of it is allowed. -/
  steps : c.run.history.IsChain fun s t => t ∈ s.successors
  /-- All of it but the start is told, in order. -/
  told : c.events = c.run.history.tail.map (.advanced repoUrl)

/-- A fresh run that is not called is orderly. -/
theorem orderly_fresh (repoUrl : String) : Called.Orderly repoUrl { run := { repoUrl } } :=
  ⟨rfl, rfl, rfl, List.isChain_singleton _, rfl⟩

/-- An accepted call takes the run one step further, and is answered with the event of that. -/
theorem Called.call_of_allowed (h : next ∈ c.run.state.successors) :
    c.call next =
      ⟨c.run.through [next], c.answers ++ [.ok (.advanced c.run.repoUrl next)]⟩ := by
  simp [call, advance_eq_ok h]

/-- A rejected call leaves the run as it is. -/
theorem Called.call_of_not_allowed (h : next ∉ c.run.state.successors) :
    c.call next = ⟨c.run, c.answers ++ [.error (.badStep c.run.state next)]⟩ := by
  simp [call, advance_eq_error h]

/-- An accepted call is told. -/
theorem Called.events_call_of_allowed (h : next ∈ c.run.state.successors) :
    (c.call next).events = c.events ++ [.advanced c.run.repoUrl next] := by
  simp [call_of_allowed h, events, Except.toOption]

/-- Of a rejected call nothing is told. -/
theorem Called.events_call_of_not_allowed (h : next ∉ c.run.state.successors) :
    (c.call next).events = c.events := by
  simp [call_of_not_allowed h, events, Except.toOption]

/-- **One more call keeps a course orderly**, whatever it asks for. -/
theorem Called.Orderly.call {repoUrl : String} (h : c.Orderly repoUrl) (next : RunState) :
    (c.call next).Orderly repoUrl := by
  by_cases allowed : next ∈ c.run.state.successors
  · obtain ⟨later, history⟩ := List.head?_eq_some_iff.mp h.starts
    have told := events_call_of_allowed allowed
    rw [call_of_allowed allowed] at told ⊢
    refine ⟨h.own, ?_, ?_, ?_, ?_⟩
    · simp [through, history]
    · simp [through]
    · rw [through, List.isChain_append]
      refine ⟨h.steps, List.isChain_singleton _, fun s hs t ht => ?_⟩
      obtain rfl := Option.some.inj (h.ends.symm.trans hs)
      obtain rfl : next = t := by simpa using ht
      exact allowed
    · rw [told, h.told, h.own]
      simp [through, history]
  · have told := events_call_of_not_allowed allowed
    rw [call_of_not_allowed allowed] at told ⊢
    exact ⟨h.own, h.starts, h.ends, h.steps, told.trans h.told⟩

/-- **Whatever a fresh run is called for, its course is orderly.** -/
theorem orderly_calling (repoUrl : String) (states : List RunState) :
    (calling states { repoUrl }).Orderly repoUrl := by
  induction states using List.reverseRecOn with
  | nil => exact orderly_fresh repoUrl
  | append_singleton states next ih =>
    rw [calling_concat]
    exact ih.call next

/-- In an orderly course at most five calls were accepted. -/
theorem Called.Orderly.length_events_le {repoUrl : String} (h : c.Orderly repoUrl) :
    c.events.length ≤ 5 := by
  have bound := RunState.length_le_of_isChain h.steps
  rw [h.told, List.length_map, List.length_tail]
  omega

/-- **The life of a run**, whatever it is called for. Its course is orderly, no state comes twice,
and at most five calls are accepted. One more call is accepted if the step is allowed; otherwise it
is rejected and changes neither the run nor what was told. The run has ended exactly if every
further call is rejected. -/
theorem lifecycle_calling (repoUrl : String) (states : List RunState) :
    let c := calling states { repoUrl }
    c.Orderly repoUrl ∧ c.run.history.Nodup ∧ c.events.length ≤ 5 ∧
      (∀ next ∈ c.run.state.successors,
        calling (states ++ [next]) { repoUrl } =
          ⟨c.run.through [next], c.answers ++ [.ok (.advanced repoUrl next)]⟩) ∧
      (∀ next, next ∉ c.run.state.successors → ∃ f : Fault, f.kind = "InvalidStateTransition" ∧
        calling (states ++ [next]) { repoUrl } = ⟨c.run, c.answers ++ [.error f]⟩ ∧
        (calling (states ++ [next]) { repoUrl }).events = c.events) ∧
      (c.run.finished = true ↔ ∀ next, ∃ f, c.run.advance next = .error f) := by
  intro c
  have orderly : c.Orderly repoUrl := orderly_calling repoUrl states
  refine ⟨orderly, RunState.nodup_of_isChain orderly.steps, orderly.length_events_le,
    fun next allowed => ?_, fun next other => ?_, finished_iff⟩
  · rw [calling_concat, Called.call_of_allowed allowed, orderly.own]
  · rw [calling_concat]
    exact ⟨_, rfl, Called.call_of_not_allowed other, Called.events_call_of_not_allowed other⟩

/-- Calls that ask for too much in between. -/
def strayingCalls : List RunState := [.cloned, .processing, .discovered, .cloned]

/-- A run that was called for too much in between is where the other calls took it. From there it
can be called to processing, and not to its end. -/
theorem lifecycle_calling_straying :
    (calling strayingCalls { repoUrl := "r" }).run.history = [.idle, .cloned, .discovered] ∧
      RunState.processing ∈ (calling strayingCalls { repoUrl := "r" }).run.state.successors ∧
      (calling (strayingCalls ++ [.processing]) { repoUrl := "r" }).run.history =
        [.idle, .cloned, .discovered, .processing] ∧
      RunState.committed ∉ (calling strayingCalls { repoUrl := "r" }).run.state.successors ∧
      (calling (strayingCalls ++ [.committed]) { repoUrl := "r" }).run.history =
        [.idle, .cloned, .discovered] := by
  have history : (calling strayingCalls { repoUrl := "r" }).run.history =
      [.idle, .cloned, .discovered] := by decide
  have allowed : RunState.processing ∈
      (calling strayingCalls { repoUrl := "r" }).run.state.successors := by decide
  have other : RunState.committed ∉
      (calling strayingCalls { repoUrl := "r" }).run.state.successors := by decide
  obtain ⟨-, -, -, accepted, rejected, -⟩ := lifecycle_calling "r" strayingCalls
  obtain ⟨f, -, unchanged, -⟩ := rejected _ other
  refine ⟨history, allowed, ?_, other, ?_⟩
  · rw [accepted _ allowed, through, history]
    rfl
  · rw [unchanged, history]

end Run

end DepGraph
