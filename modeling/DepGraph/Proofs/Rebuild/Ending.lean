import DepGraph.Proofs.Rebuild.Script
import DepGraph.Proofs.Run.Through

/-!
# How a rebuild ends

A rebuild can end in six ways, and `DepGraph.Rebuild.Ending` lists them with everything that each
leaves behind: the store, the run, the events, the queries, the operations and the outcome. That
every rebuild ends in one of them is `DepGraph.Rebuild.ending_rebuild`; what later modules say about
rebuilds they read off its cases, and do not open `DepGraph.rebuild` again.

| ending | the run is left | the store |
|---|---|---|
| `refused` | where it was | untouched |
| `unopened` | processing | untouched |
| `unbegun` | rolled back | untouched |
| `undone` | rolled back | one rollback, same graph |
| `abandoned` | processing or committing | one rollback, same graph |
| `committed` | committed | the draft |
-/

namespace DepGraph

namespace Rebuild

/-! ### Runs that there may be -/

/-- A rebuild **may start** if its run, if there is one, has its files discovered. -/
def MayStart (run : Option Run) : Prop := ∀ r ∈ run, r.state = .discovered

/-- The run, if there is one, after it went through some states. -/
def throughOf (states : List RunState) (run : Option Run) : Option Run := run.map (·.through states)

/-- What is told while the run, if there is one, goes through some states. -/
def tellingsOf (states : List RunState) (run : Option Run) : List Event :=
  (run.map (·.tellings states)).getD []

section Advance

variable {run : Option Run} {states : List RunState} {s next : RunState}

/-- A run that may start is taken to processing. -/
theorem advance_processing (h : MayStart run) :
    advance .processing run =
      .ok (throughOf [.processing] run, tellingsOf [.processing] run) := by
  cases run with
  | none => rfl
  | some r =>
    have allowed : .processing ∈ r.state.successors :=
      RunState.processing_mem_successors.mpr (h r rfl)
    simp [advance, Run.advance_eq_ok allowed, Except.map, throughOf, tellingsOf, Run.tellings]

/-- A run that may not start is refused, and so it is in no state where it could be left hanging. -/
theorem advance_processing_eq_error (h : ¬MayStart run) :
    ∃ r, run = some r ∧ r.state ≠ .discovered ∧
      advance .processing run = .error (.badStep r.state .processing) := by
  cases run with
  | none => exact absurd (fun _ h => by cases h) h
  | some r =>
    have bad : r.state ≠ .discovered := fun hs => h fun r' hr => by cases hr; exact hs
    have refused : .processing ∉ r.state.successors :=
      fun hm => bad (RunState.processing_mem_successors.mp hm)
    exact ⟨r, rfl, bad, by simp [advance, Run.advance_eq_error refused, Except.map]⟩

/-- A run that went through some states is taken to any state that may follow the last of them. -/
theorem advance_throughOf (hs : states.getLast? = some s) (h : next ∈ s.successors) :
    advance next (throughOf states run) =
      .ok (throughOf (states ++ [next]) run, tellingsOf [next] run) := by
  cases run with
  | none => rfl
  | some r =>
    have last : (r.through states).state = s := by
      simp [List.getLastD_eq_getLast?, hs]
    have allowed : next ∈ (r.through states).state.successors := last ▸ h
    simp [throughOf, advance, Run.advance_eq_ok allowed, Except.map, tellingsOf, Run.tellings]

@[simp] theorem tellingsOf_nil : tellingsOf [] run = [] := by
  cases run <;> rfl

@[simp] theorem tellingsOf_append (states more : List RunState) :
    tellingsOf (states ++ more) run = tellingsOf states run ++ tellingsOf more run := by
  cases run <;> simp [tellingsOf, Run.tellings]

end Advance

/-! ### The ends of a transaction -/

section Ends

variable {failures : Failures} {run : Option Run} {states : List RunState} {s : RunState}
variable {b : Rebuilt} {f g : Fault}

/-- A rollback is **harmless** if it succeeds, or the store says that it cannot be done. -/
def HarmlessRollback (failures : Failures) : Prop := ∀ g ∈ failures.rollingBack, g.isStore = true

/-- Giving up takes the run to its end and tells so. -/
theorem giveUp_eq (hrun : b.run = throughOf states run) (hs : states.getLast? = some s)
    (h : .rolledBack ∈ s.successors) :
    giveUp b f =
      { b with
        run := throughOf (states ++ [.rolledBack]) run
        events := b.events ++ tellingsOf [.rolledBack] run ++ [.rolledBack f.kind f.message]
        outcome := .error (.rollingBack f) } := by
  simp only [giveUp, hrun, advance_throughOf hs h]

/-- The rebuild whose rollback was asked for. -/
def withRollback (b : Rebuilt) : Rebuilt :=
  { b with
    store := { b.store with rollbacks := b.store.rollbacks + 1 }
    operations := b.operations ++ [.rollback] }

/-- A harmless rollback is the end of it. -/
theorem rollBack_of_harmless (h : HarmlessRollback failures) :
    rollBack failures b f = giveUp (withRollback b) f := by
  unfold rollBack
  cases hr : failures.rollingBack with
  | none => rfl
  | some g => exact if_pos (h g hr)

/-- A rollback that is not harmless leaves the rebuild with another fault. -/
theorem rollBack_of_not_harmless (h : ¬HarmlessRollback failures) :
    ∃ g, failures.rollingBack = some g ∧ g.isStore = false ∧
      ∀ b f, rollBack failures b f = { withRollback b with outcome := .error g } := by
  obtain ⟨g, hg, hstore⟩ : ∃ g ∈ failures.rollingBack, ¬g.isStore = true := by
    simpa [HarmlessRollback] using h
  refine ⟨g, hg, by simpa using hstore, fun b f => ?_⟩
  have hg : failures.rollingBack = some g := hg
  simp only [rollBack, hg]
  exact if_neg hstore

end Ends

/-! ### The endings -/

/-- A **setback** of a begun transaction: the fault, and the states and the operations that came
after the script. -/
inductive Setback (failures : Failures) (p : Performance) :
    Fault → List RunState → List Operation → Prop
  /-- The script was not performed whole. -/
  | stopped {f : Fault} (fault : p.fault = some f) : Setback failures p f [] []
  /-- The script was performed, but not committed. -/
  | uncommitted {f : Fault} (fault : p.fault = none) (committing : failures.committing = some f) :
    Setback failures p f [.committing] [.commit]

/-- A rebuild that **performed** its script, and what came after it: the states that the run went
through, the operations, the last events and the outcome. -/
def performed (p : Performance) (run : Option Run) (store : Store) (after : List RunState)
    (operations : List Operation) (last : List Event) (outcome : Except Fault RebuildSummary) :
    Rebuilt where
  store := store
  run := throughOf (.processing :: after) run
  events := tellingsOf [.processing] run ++ p.events ++ tellingsOf after run ++ last
  queries := p.transaction.queries
  operations := [.openSession, .begin] ++ p.operations ++ operations
  outcome := outcome

/-- The store after a transaction that was rolled back. -/
def rolledBackStore (store : Store) : Store :=
  { store with begun := store.begun + 1, rollbacks := store.rollbacks + 1 }

/-- The store after a transaction that was committed. -/
def committedStore (draft : Graph) (store : Store) : Store :=
  { store with graph := draft, begun := store.begun + 1, commits := store.commits + 1 }

/-- The summary of a plan for some number of files. -/
def Plan.summary (plan : Plan) (discovered : Nat) : RebuildSummary :=
  ⟨discovered, plan.written.length, plan.edges.length, plan.skipped⟩

/-- The script of a plan, performed in a transaction on the graph of a store. -/
def Plan.perform (plan : Plan) (failures : Failures) (store : Store) : Performance :=
  Rebuild.perform failures { draft := store.graph } plan.steps

/-- The **endings** of a rebuild by a plan. -/
inductive Ending (failures : Failures) (plan : Plan) (discovered : Nat) (run : Option Run)
    (store : Store) : Rebuilt → Prop
  /-- The run may not start. -/
  | refused (r : Run) (hrun : run = some r) (state : r.state ≠ .discovered) :
    Ending failures plan discovered run store
      { store, run, outcome := .error (.badStep r.state .processing) }
  /-- No session was opened. -/
  | unopened (f : Fault) (start : MayStart run) (opening : failures.opening = some f) :
    Ending failures plan discovered run store
      { store
        run := throughOf [.processing] run
        events := tellingsOf [.processing] run
        operations := [.openSession]
        outcome := .error f }
  /-- No transaction was begun. -/
  | unbegun (f : Fault) (start : MayStart run) (opening : failures.opening = none)
    (beginning : failures.beginning = some f) :
    Ending failures plan discovered run store
      { store
        run := throughOf [.processing, .rolledBack] run
        events :=
          tellingsOf [.processing] run ++ tellingsOf [.rolledBack] run ++
            [.rolledBack f.kind f.message]
        operations := [.openSession, .begin]
        outcome := .error (.rollingBack f) }
  /-- The transaction had a setback and was rolled back. -/
  | undone (f : Fault) (after : List RunState) (operations : List Operation)
    (start : MayStart run) (opening : failures.opening = none)
    (beginning : failures.beginning = none)
    (setback : Setback failures (plan.perform failures store) f after operations)
    (harmless : HarmlessRollback failures) :
    Ending failures plan discovered run store
      (performed (plan.perform failures store) run (rolledBackStore store)
        (after ++ [.rolledBack]) (operations ++ [.rollback]) [.rolledBack f.kind f.message]
        (.error (.rollingBack f)))
  /-- The transaction had a setback, and rolling it back met another fault. -/
  | abandoned (f g : Fault) (after : List RunState) (operations : List Operation)
    (start : MayStart run) (opening : failures.opening = none)
    (beginning : failures.beginning = none)
    (setback : Setback failures (plan.perform failures store) f after operations)
    (rollingBack : failures.rollingBack = some g) (foreign : g.isStore = false) :
    Ending failures plan discovered run store
      (performed (plan.perform failures store) run (rolledBackStore store) after
        (operations ++ [.rollback]) [] (.error g))
  /-- The transaction was committed. -/
  | committed (start : MayStart run) (opening : failures.opening = none)
    (beginning : failures.beginning = none)
    (whole : (plan.perform failures store).fault = none)
    (committing : failures.committing = none) :
    Ending failures plan discovered run store
      (performed (plan.perform failures store) run
        (committedStore (plan.perform failures store).transaction.draft store)
        [.committing, .committed] [.commit] [.committed (plan.summary discovered).counts]
        (.ok (plan.summary discovered)))

section Ending

variable {failures : Failures} {plan : Plan} {discovered : Nat} {run : Option Run} {store : Store}

/-- A setback is an ending, whatever comes of the rollback. -/
theorem ending_rollBack {f : Fault} {after : List RunState} {operations : List Operation}
    (start : MayStart run) (opening : failures.opening = none)
    (beginning : failures.beginning = none)
    (setback : Setback failures (plan.perform failures store) f after operations) :
    Ending failures plan discovered run store
      (rollBack failures
        (performed (plan.perform failures store) run { store with begun := store.begun + 1 } after
          operations [] (.error default)) f) := by
  by_cases harmless : HarmlessRollback failures
  · -- the run is processing or committing, and from both states it may be rolled back
    have last : ∃ s, (RunState.processing :: after).getLast? = some s ∧
        .rolledBack ∈ s.successors := by
      cases setback with
      | stopped => exact ⟨_, rfl, by decide⟩
      | uncommitted => exact ⟨_, rfl, by decide⟩
    obtain ⟨s, hs, allowed⟩ := last
    rw [rollBack_of_harmless harmless, giveUp_eq rfl hs allowed]
    have ending : Ending failures plan discovered run store _ :=
      .undone f after operations start opening beginning setback harmless
    simpa [performed, withRollback, rolledBackStore] using ending
  · obtain ⟨g, hg, foreign, eq⟩ := rollBack_of_not_harmless harmless
    rw [eq]
    have ending : Ending failures plan discovered run store _ :=
      .abandoned f g after operations start opening beginning setback hg foreign
    simpa [performed, withRollback, rolledBackStore] using ending

/-- A transaction that was begun comes to an ending. -/
theorem ending_transact (start : MayStart run) (opening : failures.opening = none)
    (beginning : failures.beginning = none) :
    Ending failures plan discovered run store
      (transact failures
        { store
          run := throughOf [.processing] run
          events := tellingsOf [.processing] run
          operations := [.openSession, .begin]
          outcome := .error default } plan discovered) := by
  cases whole : (plan.perform failures store).fault with
  | some f =>
    have ending : Ending failures plan discovered run store _ :=
      ending_rollBack start opening beginning (.stopped whole)
    simp only [Plan.perform] at whole
    simpa [transact, whole, performed, Plan.perform] using ending
  | none =>
    have toCommit : advance .committing (throughOf [.processing] run) =
        .ok (throughOf [.processing, .committing] run, tellingsOf [.committing] run) :=
      advance_throughOf rfl (by decide)
    have toEnd : advance .committed (throughOf [.processing, .committing] run) =
        .ok (throughOf [.processing, .committing, .committed] run, tellingsOf [.committed] run) :=
      advance_throughOf rfl (by decide)
    cases committing : failures.committing with
    | some f =>
      have ending : Ending failures plan discovered run store _ :=
        ending_rollBack start opening beginning (.uncommitted whole committing)
      simp only [Plan.perform] at whole
      simpa [transact, whole, conclude, toCommit, committing, performed, Plan.perform] using ending
    | none =>
      have ending : Ending failures plan discovered run store _ :=
        .committed start opening beginning whole committing
      have split : tellingsOf [.committing, .committed] run =
          tellingsOf [.committing] run ++ tellingsOf [.committed] run :=
        tellingsOf_append [.committing] [.committed]
      simp only [Plan.perform] at whole
      simpa [transact, whole, conclude, toCommit, toEnd, committing, performed, Plan.perform,
        committedStore, Plan.summary, split] using ending

/-- **Every rebuild comes to an ending.** -/
theorem ending_rebuild {n : Int} {read : FileReader} {files : List SourceFile} :
    Ending failures (script n read files) files.length run store
      (rebuild failures n read files run store) := by
  by_cases start : MayStart run
  · simp only [rebuild, advance_processing start]
    cases opening : failures.opening with
    | some f => exact .unopened f start opening
    | none =>
      cases beginning : failures.beginning with
      | some f =>
        have gaveUp (b : Rebuilt) (h : b.run = throughOf [.processing] run) :=
          giveUp_eq (f := f) h rfl (by decide)
        simp only [gaveUp]
        exact .unbegun f start opening beginning
      | none => exact ending_transact start opening beginning
  · obtain ⟨r, hrun, state, refused⟩ := advance_processing_eq_error start
    simp only [rebuild, refused]
    exact .refused r hrun state

/-- The fault that a script ends with is its first hazard. -/
theorem fault_perform :
    (plan.perform failures store).fault = (hazards failures 1 plan.steps).head? :=
  perform_fault

/-- A script that is performed whole has no hazards. -/
theorem hazards_eq_nil_of_whole (whole : (plan.perform failures store).fault = none) :
    hazards failures 1 plan.steps = [] := by
  rwa [fault_perform, List.head?_eq_none_iff] at whole

/-- A script without hazards is performed whole. -/
theorem perform_of_calm (calm : hazards failures 1 plan.steps = []) :
    plan.perform failures store =
      ⟨runAll { draft := store.graph } (queriesOf plan.steps),
        (queriesOf plan.steps).map .query, tellsOf plan.steps, none⟩ :=
  perform_of_hazards_eq_nil calm

/-- **A rebuild that returns was committed**, after a script without hazards. -/
theorem committed_of_outcome_ok {n : Int} {read : FileReader} {files : List SourceFile}
    {stats : RebuildSummary}
    (returned : (rebuild failures n read files run store).outcome = .ok stats) :
    hazards failures 1 (script n read files).steps = [] ∧
      stats = (script n read files).summary files.length ∧
      rebuild failures n read files run store =
        performed ((script n read files).perform failures store) run
          (committedStore ((script n read files).perform failures store).transaction.draft store)
          [.committing, .committed] [.commit] [.committed stats.counts] (.ok stats) := by
  generalize hb : rebuild failures n read files run store = b at returned
  have ending := hb ▸ ending_rebuild
  cases ending with
  | refused => cases returned
  | unopened => cases returned
  | unbegun => cases returned
  | undone => cases returned
  | abandoned => cases returned
  | committed start opening beginning whole committing =>
    obtain rfl := Except.ok.inj returned
    exact ⟨hazards_eq_nil_of_whole whole, rfl, rfl⟩

end Ending

/-! ### What a rebuild tells -/

/-- The events that a rebuild tells on its own account, whatever its reader tells. -/
def isTold : Event → Bool
  | .advanced _ _ | .committed _ | .rolledBack _ _ => true
  | e => isScripted e

section Told

variable {failures : Failures} {n : Int} {read : FileReader} {files : List SourceFile}
variable {run : Option Run} {store : Store} {e : Event}

theorem isTold_of_mem_tellingsOf {states : List RunState} (h : e ∈ tellingsOf states run) :
    isTold e = true := by
  cases run with
  | none => simp [tellingsOf] at h
  | some r =>
    obtain ⟨s, -, rfl⟩ := List.mem_map.mp h
    rfl

theorem isTold_of_isScripted (h : isScripted e = true) : isTold e = true := by
  cases e <;> first | exact h | rfl

theorem tells_or_isTold_of_mem_performed {after : List RunState} {operations : List Operation}
    {last : List Event} {outcome : Except Fault RebuildSummary} {store' : Store}
    (hlast : ∀ e ∈ last, isTold e = true)
    (h : e ∈ (performed ((script n read files).perform failures store) run store' after operations
      last outcome).events) :
    read.Tells files e ∨ isTold e = true := by
  simp only [performed, List.mem_append] at h
  rcases h with ((h | h) | h) | h
  · exact Or.inr (isTold_of_mem_tellingsOf h)
  · exact (tells_or_isScripted_of_mem_script (mem_of_mem_perform_events h)).imp_right
      isTold_of_isScripted
  · exact Or.inr (isTold_of_mem_tellingsOf h)
  · exact Or.inr (hlast e h)

/-- **Whatever a rebuild tells** its reader told, or it is one of its own events. -/
theorem tells_or_isTold_of_mem_rebuild
    (h : e ∈ (rebuild failures n read files run store).events) :
    read.Tells files e ∨ isTold e = true := by
  generalize hb : rebuild failures n read files run store = b at h
  have ending := hb ▸ ending_rebuild
  cases ending with
  | refused => simp at h
  | unopened => exact Or.inr (isTold_of_mem_tellingsOf h)
  | unbegun =>
    refine Or.inr ?_
    simp only [List.mem_append, List.mem_singleton] at h
    rcases h with (h | h) | rfl
    · exact isTold_of_mem_tellingsOf h
    · exact isTold_of_mem_tellingsOf h
    · rfl
  | undone => exact tells_or_isTold_of_mem_performed (by simp [isTold]) h
  | abandoned => exact tells_or_isTold_of_mem_performed (by simp) h
  | committed => exact tells_or_isTold_of_mem_performed (by simp [isTold]) h

end Told

end Rebuild

end DepGraph
