import DepGraph.Proofs.Rebuild.Ending

/-!
# Where a rebuild leaves its run

A rebuild is meant to **end its run** (`DepGraph.Rebuild.EndsRun`): either it returns and the run
is committed, or it raises a rollback whose cause is the first fault on its way, the run is rolled
back, and one rollback is told. Which fault is the first is said without performing anything:
`DepGraph.Rebuild.troubles` lists what can go wrong, in the order in which a rebuild comes by it,
and a rebuild returns exactly when there is nothing in that list
(`DepGraph.Rebuild.exists_outcome_eq_ok_iff`).

A rebuild does not always end its run. Opening a session and rolling back are not guarded: where a
session is not opened, or rolling back fails in a way that the store does not know, the fault
**escapes** as it is (`DepGraph.Rebuild.Escapes`) and leaves the run as it stands.
`DepGraph.Rebuild.endsRun_rebuild_iff` says that this is the only way.
-/

namespace DepGraph

namespace Rebuild

/-! ### Troubles -/

/-- The **troubles** of a rebuild by a plan: the faults that lie on its way, in the order in which
it meets them. -/
def troubles (failures : Failures) (plan : Plan) : List Fault :=
  failures.opening.toList ++ failures.beginning.toList ++ hazards failures 1 plan.steps ++
    failures.committing.toList

section Troubles

variable {failures : Failures} {plan : Plan} {store : Store}

/-- **A setback is the first trouble** of a rebuild whose transaction was begun. -/
theorem Setback.head?_troubles {f : Fault} {after : List RunState} {operations : List Operation}
    (setback : Setback failures (plan.perform failures store) f after operations)
    (opening : failures.opening = none) (beginning : failures.beginning = none) :
    (troubles failures plan).head? = some f := by
  cases setback with
  | stopped fault =>
    rw [fault_perform] at fault
    simp [troubles, opening, beginning, List.head?_append, fault]
  | uncommitted whole committing =>
    simp [troubles, opening, beginning, hazards_eq_nil_of_whole whole, committing]

theorem Setback.troubles_ne_nil {f : Fault} {after : List RunState} {operations : List Operation}
    (setback : Setback failures (plan.perform failures store) f after operations)
    (opening : failures.opening = none) (beginning : failures.beginning = none) :
    troubles failures plan ≠ [] := by
  intro calm
  have first := setback.head?_troubles opening beginning
  simp [calm] at first

/-- A rebuild that is committed had no troubles. -/
theorem troubles_eq_nil (opening : failures.opening = none) (beginning : failures.beginning = none)
    (whole : (plan.perform failures store).fault = none) (committing : failures.committing = none) :
    troubles failures plan = [] := by
  simp [troubles, opening, beginning, hazards_eq_nil_of_whole whole, committing]

/-- **A rebuild returns exactly when there is no trouble on its way**, if it may start. -/
theorem exists_outcome_eq_ok_iff {n : Int} {read : FileReader} {files : List SourceFile}
    {run : Option Run} (start : MayStart run) :
    (∃ stats, (rebuild failures n read files run store).outcome = .ok stats) ↔
      troubles failures (script n read files) = [] := by
  generalize hb : rebuild failures n read files run store = b
  have ending := hb ▸ ending_rebuild
  cases ending with
  | refused r hrun state => exact absurd (start r hrun) state
  | unopened f _ opening => simp [troubles, opening]
  | unbegun f _ opening beginning => simp [troubles, opening, beginning]
  | undone f after operations _ opening beginning setback =>
    simp [performed, setback.troubles_ne_nil opening beginning]
  | abandoned f g after operations _ opening beginning setback =>
    simp [performed, setback.troubles_ne_nil opening beginning]
  | committed _ opening beginning whole committing =>
    simp [performed, troubles_eq_nil opening beginning whole committing]

end Troubles

/-! ### Ending the run -/

/-- A rebuild that **returned**, with its run committed. -/
structure Returned (b : Rebuilt) : Prop where
  /-- It returned. -/
  outcome : ∃ stats, b.outcome = .ok stats
  /-- The run is committed. -/
  state : ∃ r, b.run = some r ∧ r.state = .committed

/-- A rebuild that **was rolled back** because of a fault. -/
structure RolledBack (read : FileReader) (files : List SourceFile) (b : Rebuilt) (cause : Fault) :
    Prop where
  /-- It raised a rollback with this cause. -/
  outcome : b.outcome = .error (.rollingBack cause)
  /-- The run is rolled back. -/
  state : ∃ r, b.run = some r ∧ r.state = .rolledBack
  /-- That is told at the end, and before it nobody told so but the reader, if it did. -/
  told : ∃ before, b.events = before ++ [.rolledBack cause.kind cause.message] ∧
    ∀ kind message, .rolledBack kind message ∈ before →
      read.Tells files (.rolledBack kind message)

/-- A rebuild **ends its run** if it returns, or is rolled back because of its first trouble. -/
def EndsRun (failures : Failures) (n : Int) (read : FileReader) (files : List SourceFile)
    (b : Rebuilt) : Prop :=
  Returned b ∨
    ∃ cause, (troubles failures (script n read files)).head? = some cause ∧
      RolledBack read files b cause

/-- The faults that **escape** from a rebuild by a plan: nothing is made of them, and they go out as
they are. -/
inductive Escapes (failures : Failures) (plan : Plan) : Fault → Prop
  /-- No session is opened. -/
  | opening {f : Fault} (opening : failures.opening = some f) : Escapes failures plan f
  /-- A transaction that was begun met some trouble, and rolling it back fails in a way that the
  store does not know. -/
  | rollingBack {f : Fault} (opening : failures.opening = none)
    (beginning : failures.beginning = none) (troubled : troubles failures plan ≠ [])
    (rollingBack : failures.rollingBack = some f) (foreign : f.isStore = false) :
    Escapes failures plan f

/-- A run that is **left hanging** is in a state that it should have left. -/
def LeftHanging (run : Option Run) : Prop :=
  ∃ r, run = some r ∧ (r.state = .processing ∨ r.state = .committing)

section EndsRun

variable {failures : Failures} {n : Int} {read : FileReader} {files : List SourceFile}
variable {run : Run} {store : Store} {b : Rebuilt}

/-- A rebuild that left its run hanging did not end it. -/
theorem not_endsRun_of_leftHanging (h : LeftHanging b.run) : ¬EndsRun failures n read files b := by
  obtain ⟨r, hr, state⟩ := h
  rintro (⟨-, r', hr', state'⟩ | ⟨cause, -, -, ⟨r', hr', state'⟩, -⟩)
  all_goals
    obtain rfl := Option.some.inj (hr.symm.trans hr')
    simp [state'] at state

/-- Going through states tells of no rollback. -/
theorem rolledBack_notMem_tellingsOf {states : List RunState} {run : Option Run}
    {kind message : String} : .rolledBack kind message ∉ tellingsOf states run := by
  cases run <;> simp [tellingsOf, Run.tellings]

/-- A rollback that is told while a script is performed was told by its reader. -/
theorem tells_of_rolledBack_mem {kind message : String}
    (h : .rolledBack kind message ∈ ((script n read files).perform failures store).events) :
    read.Tells files (.rolledBack kind message) := by
  rcases tells_or_isScripted_of_mem_script (mem_of_mem_perform_events h) with h | h
  · exact h
  · cases h

/-- Where no session is opened only the fault of opening it escapes. -/
theorem Escapes.eq_of_opening {plan : Plan} {f g : Fault} (escapes : Escapes failures plan g)
    (opening : failures.opening = some f) : g = f := by
  cases escapes with
  | opening opening' => exact Option.some.inj (opening'.symm.trans opening)
  | rollingBack opening' => cases opening'.symm.trans opening

/-- Where a session is opened what escapes is the fault of rolling back a transaction that was
begun. -/
theorem Escapes.of_opened {plan : Plan} {g : Fault} (escapes : Escapes failures plan g)
    (opening : failures.opening = none) :
    failures.beginning = none ∧ troubles failures plan ≠ [] ∧ failures.rollingBack = some g ∧
      g.isStore = false := by
  cases escapes with
  | opening opening' => cases opening'.symm.trans opening
  | rollingBack _ beginning troubled rollingBack foreign =>
    exact ⟨beginning, troubled, rollingBack, foreign⟩

/-- **A fault that escapes** goes out as it is, and leaves the run hanging. -/
theorem leftHanging_of_escapes {g : Fault} (discovered : run.state = .discovered)
    (escapes : Escapes failures (script n read files) g) :
    (rebuild failures n read files (some run) store).outcome = .error g ∧
      LeftHanging (rebuild failures n read files (some run) store).run := by
  generalize hb : rebuild failures n read files (some run) store = b
  have ending := hb ▸ ending_rebuild
  cases ending with
  | refused r hrun state => cases hrun; exact absurd discovered state
  | unopened f start opening =>
    obtain rfl := escapes.eq_of_opening opening
    exact ⟨rfl, _, rfl, Or.inl rfl⟩
  | unbegun f start opening beginning =>
    obtain ⟨begun, -⟩ := escapes.of_opened opening
    cases begun.symm.trans beginning
  | undone f after operations start opening beginning setback harmless =>
    obtain ⟨-, -, rollingBack, foreign⟩ := escapes.of_opened opening
    exact absurd (foreign.symm.trans (harmless g rollingBack)) Bool.false_ne_true
  | abandoned f g' after operations start opening beginning setback rollingBack foreign =>
    obtain ⟨-, -, rollingBack', -⟩ := escapes.of_opened opening
    obtain rfl := Option.some.inj (rollingBack.symm.trans rollingBack')
    -- nothing is told of the fault, and the run is where the setback found it
    refine ⟨rfl, _, rfl, ?_⟩
    cases setback with
    | stopped => exact Or.inl rfl
    | uncommitted => exact Or.inr rfl
  | committed start opening beginning whole committing =>
    obtain ⟨-, troubled, -⟩ := escapes.of_opened opening
    exact absurd (troubles_eq_nil opening beginning whole committing) troubled

/-- **A rebuild ends its run, or a fault escapes from it.** -/
theorem endsRun_or_escapes (discovered : run.state = .discovered) :
    EndsRun failures n read files (rebuild failures n read files (some run) store) ∨
      ∃ g, Escapes failures (script n read files) g := by
  generalize hb : rebuild failures n read files (some run) store = b
  have ending := hb ▸ ending_rebuild
  cases ending with
  | refused r hrun state => cases hrun; exact absurd discovered state
  | unopened f start opening => exact Or.inr ⟨f, .opening opening⟩
  | unbegun f start opening beginning =>
    have first : (troubles failures (script n read files)).head? = some f := by
      simp [troubles, opening, beginning]
    refine Or.inl (Or.inr ⟨f, first, rfl, ⟨_, rfl, rfl⟩, _, rfl, ?_⟩)
    intro kind message h
    rcases List.mem_append.mp h with h | h
    · exact absurd h rolledBack_notMem_tellingsOf
    · exact absurd h rolledBack_notMem_tellingsOf
  | undone f after operations start opening beginning setback harmless =>
    have first := setback.head?_troubles opening beginning
    -- of the rollbacks that are told, only the last one is not the reader's
    refine Or.inl (Or.inr ⟨f, first, rfl, ⟨_, rfl, ?_⟩, _, rfl, ?_⟩)
    · cases setback <;> rfl
    · intro kind message h
      rcases List.mem_append.mp h with h | h
      · rcases List.mem_append.mp h with h | h
        · exact absurd h rolledBack_notMem_tellingsOf
        · exact tells_of_rolledBack_mem h
      · exact absurd h rolledBack_notMem_tellingsOf
  | abandoned f g after operations start opening beginning setback rollingBack foreign =>
    have troubled := setback.troubles_ne_nil opening beginning
    exact Or.inr ⟨g, .rollingBack opening beginning troubled rollingBack foreign⟩
  | committed start opening beginning whole committing =>
    exact Or.inl (Or.inl ⟨⟨_, rfl⟩, _, rfl, rfl⟩)

end EndsRun

/-- **A rebuild ends its run exactly when no fault escapes from it.** One that escapes goes out as
it is, and leaves the run hanging. -/
theorem endsRun_rebuild_iff (failures : Failures) (n : Int) (read : FileReader)
    (files : List SourceFile) (run : Run) (store : Store) (discovered : run.state = .discovered) :
    (EndsRun failures n read files (rebuild failures n read files (some run) store) ↔
      ¬∃ g, Escapes failures (script n read files) g) ∧
    ∀ g, Escapes failures (script n read files) g →
      (rebuild failures n read files (some run) store).outcome = .error g ∧
        LeftHanging (rebuild failures n read files (some run) store).run := by
  refine ⟨⟨?_, fun guarded => ?_⟩, fun g escapes => leftHanging_of_escapes discovered escapes⟩
  · rintro ends ⟨g, escapes⟩
    exact not_endsRun_of_leftHanging (leftHanging_of_escapes discovered escapes).2 ends
  · exact (endsRun_or_escapes discovered).resolve_right guarded

/-- The schedule by which a commit fails, and then the rollback in a way the store does not know. -/
def brokenRollback : Failures where
  committing := some (.store .transient "busy")
  rollingBack := some (.foreign .runtime "lost")

/-- Where the rollback after a failed commit is broken the run is left hanging. -/
theorem endsRun_rebuild_at_brokenRollback :
    ({ repoUrl := "r", state := .discovered } : Run).state = .discovered ∧
      LeftHanging
        (rebuild brokenRollback 200 (fun _ => .ok (none, [])) []
          (some { repoUrl := "r", state := .discovered }) {}).run ∧
      ¬EndsRun brokenRollback 200 (fun _ => .ok (none, [])) []
        (rebuild brokenRollback 200 (fun _ => .ok (none, [])) []
          (some { repoUrl := "r", state := .discovered }) {}) := by
  have escapes : Escapes brokenRollback (script 200 (fun _ => .ok (none, [])) [])
      (.foreign .runtime "lost") :=
    .rollingBack rfl rfl (by simp [troubles, brokenRollback]) rfl rfl
  have ends := endsRun_rebuild_iff brokenRollback 200 (fun _ => .ok (none, [])) []
    { repoUrl := "r", state := .discovered } {} rfl
  exact ⟨rfl, (ends.2 _ escapes).2, fun h => ends.1.mp h ⟨_, escapes⟩⟩

/-- **Not every rebuild ends its run**: where no session is opened the run stays in processing. -/
theorem not_forall_endsRun_rebuild :
    ¬∀ (failures : Failures) (n : Int) (read : FileReader) (files : List SourceFile) (run : Run)
      (store : Store), run.state = .discovered →
        EndsRun failures n read files (rebuild failures n read files (some run) store) := by
  intro ends
  have hanging : LeftHanging
      (rebuild { opening := some (.store .serviceUnavailable "down") } 200
        (fun _ => .ok (none, [])) [] (some { repoUrl := "r", state := .discovered }) {}).run :=
    ⟨_, rfl, Or.inl rfl⟩
  exact not_endsRun_of_leftHanging hanging (ends _ _ _ _ _ _ rfl)

end Rebuild

end DepGraph
