import DepGraph.Proofs.Ingestion.Ending
import DepGraph.Proofs.Ingestion.Stages
import DepGraph.Proofs.Reading
import DepGraph.Proofs.Rebuild.Lifecycle

/-!
# How an ingestion reports its end

An ingestion is meant to **report its end** (`DepGraph.Ingestion.Reported`): either it returns and
it is told once that it is done, or it fails with a fault of its own family and it is told once that
it failed. What is told at the end is one event, and nothing that is told before it bears one of the
two names (`DepGraph.Ingestion.exists_silent_ingest`). So an ingestion reports its end unless a
fault from outside the family gets through (`DepGraph.Ingestion.reported_iff`).

Such faults there are, and `DepGraph.Ingestion.Escapes` lists them stage by stage:

| stage | the fault that escapes |
|---|---|
| choosing a directory | none |
| cloning | there is no repository in what was cloned |
| surveying | an ignore pattern is refused |
| rebuilding | what escapes from a rebuild, if it is not of the family |
-/

namespace DepGraph

namespace Ingestion

/-! ### Counting reports -/

/-- The name by which it is reported that an ingestion is done. -/
def doneName : String := "ingest.done"

/-- The name by which it is reported that an ingestion failed. -/
def failedName : String := "ingest.failed"

/-- How many events are reported **by a name**. -/
def countOf (name : String) (events : List Event) : Nat :=
  events.countP fun e => e.report.name == name

/-- Some events are **silent** about the end of an ingestion if none of them reports it. -/
structure Silent (events : List Event) : Prop where
  /-- None of them reports that it is done. -/
  done : countOf doneName events = 0
  /-- None of them reports that it failed. -/
  failed : countOf failedName events = 0

/-- Whether an event tells the end of an ingestion. -/
def tellsEnd : Event → Bool
  | .finished _ _ | .failed _ _ _ _ => true
  | _ => false

section Silent

variable {name : String} {e : Event} {events more : List Event}

@[simp] theorem countOf_append :
    countOf name (events ++ more) = countOf name events + countOf name more :=
  List.countP_append

/-- Only the two events of the end bear the two names. -/
theorem name_ne_of_tellsEnd_eq_false (h : tellsEnd e = false) :
    e.report.name ≠ doneName ∧ e.report.name ≠ failedName := by
  cases e with
  | finished => cases h
  | failed => cases h
  | _ => exact ⟨by simp [Event.report, doneName], by simp [Event.report, failedName]⟩

/-- Events none of which tells the end are silent about it. -/
theorem silent_of_forall (h : ∀ e ∈ events, tellsEnd e = false) : Silent events where
  done := List.countP_eq_zero.mpr fun e he => by
    simpa using (name_ne_of_tellsEnd_eq_false (h e he)).1
  failed := List.countP_eq_zero.mpr fun e he => by
    simpa using (name_ne_of_tellsEnd_eq_false (h e he)).2

theorem Silent.append (h : Silent events) (h' : Silent more) : Silent (events ++ more) where
  done := by simp [h.done, h'.done]
  failed := by simp [h.failed, h'.failed]

end Silent

/-! ### What is told before the end -/

section Before

variable {service : Service} {failures : Failures} {clone : CloneOutcome} {repoUrl : String}
variable {directories : RunDirectories} {store : Store} {e : Event}

/-- **A rebuild does not tell the end** of its ingestion: neither its reader does nor it itself. -/
theorem silent_rebuildOf {files : List SourceFile} :
    Silent (rebuildOf service failures repoUrl files store).events := by
  refine silent_of_forall fun e he => ?_
  rcases Rebuild.tells_or_isTold_of_mem_rebuild he with read | told
  · have reading := Reading.isOfReading_of_tells read
    cases e <;> first | rfl | cases reading
  · cases e <;> first | rfl | cases told

/-- **All that is told before the end** of an ingestion is silent about it. -/
theorem exists_silent_ingest :
    ∃ before place state, Silent before ∧
      (ingest service failures clone repoUrl directories store).events =
        before ++ closing repoUrl place state
          (ingest service failures clone repoUrl directories store).outcome := by
  generalize hr : ingest service failures clone repoUrl directories store = r
  have ending := hr ▸ ending_ingest
  have starting : Silent [.started repoUrl] := ⟨rfl, rfl⟩
  cases ending with
  | homeless flaw obstacle leaves =>
    exact ⟨_, _, _, starting, by rw [leaves.events, leaves.outcome]; rfl⟩
  | unacquired f obstacle acquired leaves =>
    exact ⟨_, _, _, starting, by rw [leaves.events, leaves.outcome]; rfl⟩
  | unsurveyed c f obstacle acquired surveyed leaves =>
    exact ⟨_, _, _, ⟨rfl, rfl⟩, by rw [leaves.events, leaves.outcome]⟩
  | rebuilt c files obstacle acquired surveyed leaves =>
    have before : Silent (beforeRebuild repoUrl c files) := ⟨rfl, rfl⟩
    exact ⟨_, _, _, before.append silent_rebuildOf, by rw [leaves.events, leaves.outcome]⟩

end Before

/-! ### Reporting the end -/

/-- An ingestion **reports its end** if it returns and reports once that it is done, or it fails as
ingestions do and reports once that it failed. -/
inductive Reported (r : Ingested) : Prop
  /-- It returned. -/
  | done (stats : RebuildSummary) (outcome : r.outcome = .ok stats)
    (once : countOf doneName r.events = 1) (never : countOf failedName r.events = 0)
  /-- It failed with a fault of the family. -/
  | failed (f : Fault) (outcome : r.outcome = .error f) (family : "IngestionError" ∈ f.lineage)
    (once : countOf failedName r.events = 1) (never : countOf doneName r.events = 0)

/-- **The family of ingestion faults** is that of the faults with its name in their lineage. -/
theorem mem_lineage_iff {f : Fault} : "IngestionError" ∈ f.lineage ↔ f.isIngestion = true := by
  cases f with
  | store kind =>
    cases kind <;> simp [Fault.lineage, Fault.kinds, Fault.anyKind, StoreKind.upwards,
      StoreKind.name, Fault.isIngestion]
  | foreign kind =>
    cases kind <;> simp [Fault.lineage, Fault.kinds, Fault.anyKind, ForeignKind.names,
      Fault.isIngestion]
  | place flaw =>
    cases flaw <;> simp [Fault.lineage, Fault.kinds, Fault.anyKind, PlaceFlaw.names,
      PlaceFlaw.anyName, Fault.isIngestion]
  | pattern refusal =>
    cases refusal <;> simp [Fault.lineage, Fault.kinds, Fault.anyKind, Fault.isIngestion]
  | _ => simp [Fault.lineage, Fault.kinds, Fault.anyKind, Fault.isIngestion]

section Closing

variable (repoUrl : String) (place : Option String) (state : RunState)

/-- At the end of an ingestion that returned it is told once that it is done. -/
theorem countOf_closing_ok (stats : RebuildSummary) :
    countOf doneName (closing repoUrl place state (.ok stats)) = 1 ∧
      countOf failedName (closing repoUrl place state (.ok stats)) = 0 := by
  cases place <;> exact ⟨rfl, rfl⟩

/-- At the end of an ingestion that failed as ingestions do it is told once that it failed. -/
theorem countOf_closing_error {f : Fault} (family : f.isIngestion = true) :
    countOf failedName (closing repoUrl place state (.error f)) = 1 ∧
      countOf doneName (closing repoUrl place state (.error f)) = 0 := by
  simp only [closing, family, if_true]
  cases place <;> exact ⟨rfl, rfl⟩

/-- At the end of an ingestion that failed in another way nothing is told of it. -/
theorem silent_closing_error {f : Fault} (foreign : f.isIngestion = false) :
    Silent (closing repoUrl place state (.error f)) := by
  simp only [closing, foreign, Bool.false_eq_true, if_false]
  cases place <;> exact ⟨rfl, rfl⟩

end Closing

section Reported

variable {service : Service} {failures : Failures} {clone : CloneOutcome} {repoUrl : String}
variable {directories : RunDirectories} {store : Store}

/-- **An ingestion reports its end** exactly when no fault from outside the family gets through. -/
theorem reported_iff :
    Reported (ingest service failures clone repoUrl directories store) ↔
      ∀ f, (ingest service failures clone repoUrl directories store).outcome = .error f →
        f.isIngestion = true := by
  generalize hr : ingest service failures clone repoUrl directories store = r
  obtain ⟨before, place, state, silent, events⟩ : ∃ before place state, Silent before ∧
      r.events = before ++ closing repoUrl place state r.outcome := hr ▸ exists_silent_ingest
  -- of the events only the last ones count, and there the outcome decides what is told
  constructor
  · intro reported f raised
    cases reported with
    | done stats returned => cases returned.symm.trans raised
    | failed f' raised' family =>
      obtain rfl := Except.error.inj (raised'.symm.trans raised)
      exact mem_lineage_iff.mp family
  · intro family
    cases outcome : r.outcome with
    | ok stats =>
      rw [outcome] at events
      obtain ⟨once, never⟩ := countOf_closing_ok repoUrl place state stats
      exact .done stats outcome (by rw [events, countOf_append, silent.done, once])
        (by rw [events, countOf_append, silent.failed, never])
    | error f =>
      rw [outcome] at events
      obtain ⟨once, never⟩ := countOf_closing_error repoUrl place state (family f outcome)
      exact .failed f outcome (mem_lineage_iff.mpr (family f outcome))
        (by rw [events, countOf_append, silent.failed, once])
        (by rw [events, countOf_append, silent.done, never])

/-- An ingestion that failed with a fault from outside the family is silent about its end. -/
theorem silent_ingest {f : Fault}
    (raised : (ingest service failures clone repoUrl directories store).outcome = .error f)
    (foreign : f.isIngestion = false) :
    Silent (ingest service failures clone repoUrl directories store).events := by
  obtain ⟨before, place, state, silent, events⟩ : ∃ before place state, Silent before ∧
      (ingest service failures clone repoUrl directories store).events =
        before ++ closing repoUrl place state
          (ingest service failures clone repoUrl directories store).outcome :=
    exists_silent_ingest
  rw [events, raised]
  exact silent.append (silent_closing_error repoUrl place state foreign)

end Reported

/-! ### What escapes -/

/-- The faults that **escape** from an ingestion: they are not of its family, and go out as they
are. -/
inductive Escapes (service : Service) (failures : Failures) (clone : CloneOutcome)
    (directories : RunDirectories) : Fault → Prop
  /-- There is no repository in what was cloned. -/
  | noRepository (tree : Entry) (obstacle : directories.obstacle = none)
    (cloned : clone = .bare tree) :
    Escapes service failures clone directories (.noRepository (placeFor service directories))
  /-- An ignore pattern is refused. -/
  | pattern (tree : Entry) (head : Option String) (refusal : Ignore.Refusal)
    (obstacle : directories.obstacle = none) (cloned : clone = .checkout tree head)
    (refused : Ignore.Rules.ofExtra service.settings.ignoreLines = .error refusal) :
    Escapes service failures clone directories (.pattern refusal)
  /-- A fault from outside the family escapes from the rebuild. -/
  | rebuild (tree : Entry) (head : Option String) (files : List SourceFile) (f : Fault)
    (obstacle : directories.obstacle = none) (cloned : clone = .checkout tree head)
    (surveyed : surveyOf service ⟨placeFor service directories, head, tree⟩ = .ok files)
    (escapes : Rebuild.Escapes failures
      (Rebuild.script service.settings.snippetLength service.registry.fileReader files) f)
    (foreign : f.isIngestion = false) :
    Escapes service failures clone directories f

section Escapes

variable {service : Service} {failures : Failures} {clone : CloneOutcome} {repoUrl : String}
variable {directories : RunDirectories} {store : Store} {f : Fault}

/-- A rebuild of discovered files fails with a rollback, or with what escapes from it. -/
theorem outcome_rebuildOf_eq_error {files : List SourceFile}
    (raised : (rebuildOf service failures repoUrl files store).outcome = .error f) :
    f.isIngestion = true ∨ Rebuild.Escapes failures
      (Rebuild.script service.settings.snippetLength service.registry.fileReader files) f := by
  have discovered : (discoveredRun repoUrl).state = .discovered := rfl
  rcases Rebuild.endsRun_or_escapes discovered with (returned | ⟨cause, -, undone⟩) | ⟨g, escapes⟩
  · obtain ⟨stats, outcome⟩ := returned.outcome
    cases outcome.symm.trans raised
  · exact Or.inl (Except.error.inj (undone.outcome.symm.trans raised) ▸ rfl)
  · have outcome : (rebuildOf service failures repoUrl files store).outcome = .error g :=
      (Rebuild.leftHanging_of_escapes discovered escapes).1
    exact Or.inr (Except.error.inj (outcome.symm.trans raised) ▸ escapes)

/-- What comes out of an ingestion from outside the family is a fault that escapes. -/
theorem escapes_of_outcome
    (raised : (ingest service failures clone repoUrl directories store).outcome = .error f)
    (foreign : f.isIngestion = false) : Escapes service failures clone directories f := by
  have outside : ¬f.isIngestion = true := by simp [foreign]
  generalize hr : ingest service failures clone repoUrl directories store = r at raised
  have ending := hr ▸ ending_ingest
  cases ending with
  | homeless flaw obstacle leaves =>
    obtain rfl := Except.error.inj (leaves.outcome.symm.trans raised)
    cases foreign
  | unacquired f' obstacle acquired leaves =>
    obtain rfl := Except.error.inj (leaves.outcome.symm.trans raised)
    obtain ⟨tree, cloned, rfl⟩ := (acquire_eq_error acquired).resolve_left outside
    exact .noRepository tree obstacle cloned
  | unsurveyed c f' obstacle acquired surveyed leaves =>
    obtain rfl := Except.error.inj (leaves.outcome.symm.trans raised)
    obtain ⟨refusal, refused, rfl⟩ := (surveyOf_eq_error surveyed).resolve_left outside
    exact .pattern c.tree c.head refusal obstacle (acquire_eq_ok acquired).1 refused
  | rebuilt c files obstacle acquired surveyed leaves =>
    -- the fault is from outside the family, and so it is no rollback but escaped from the rebuild
    obtain ⟨cloned, here⟩ := acquire_eq_ok acquired
    rw [here] at surveyed
    have escapes :=
      (outcome_rebuildOf_eq_error (leaves.outcome.symm.trans raised)).resolve_left outside
    exact .rebuild c.tree c.head files f obstacle cloned surveyed escapes foreign

/-- No fault escapes where there is no directory to clone into. -/
theorem Escapes.obstacle_eq_none (escapes : Escapes service failures clone directories f) :
    directories.obstacle = none := by
  cases escapes <;> assumption

/-- A fault that escapes is from outside the family. -/
theorem Escapes.isIngestion_eq_false (escapes : Escapes service failures clone directories f) :
    f.isIngestion = false := by
  cases escapes with
  | noRepository => rfl
  | pattern => rfl
  | rebuild _ _ _ _ _ _ _ _ foreign => exact foreign

/-- **A fault that escapes** is what comes out of the ingestion. -/
theorem outcome_of_escapes (escapes : Escapes service failures clone directories f) :
    (ingest service failures clone repoUrl directories store).outcome = .error f := by
  generalize hr : ingest service failures clone repoUrl directories store = r
  have ending := hr ▸ ending_ingest
  cases ending with
  | homeless flaw obstacle leaves => cases escapes.obstacle_eq_none.symm.trans obstacle
  | unacquired f' obstacle acquired leaves =>
    rw [leaves.outcome]
    cases escapes with
    | noRepository tree _ cloned =>
      subst cloned
      obtain rfl := Except.error.inj acquired
      rfl
    | pattern tree head refusal _ cloned => cases cloned ▸ acquired
    | rebuild tree head files f _ cloned => cases cloned ▸ acquired
  | unsurveyed c f' obstacle acquired surveyed leaves =>
    rw [leaves.outcome]
    cases escapes with
    | noRepository tree _ cloned => cases cloned ▸ acquired
    | pattern tree head refusal _ cloned refused =>
      obtain rfl := Except.error.inj (surveyed.symm.trans (surveyOf_of_refused refused))
      rfl
    | rebuild tree head files f _ cloned surveyed' =>
      subst cloned
      obtain rfl := Except.ok.inj acquired
      cases surveyed.symm.trans surveyed'
  | rebuilt c files obstacle acquired surveyed leaves =>
    rw [leaves.outcome]
    cases escapes with
    | noRepository tree _ cloned => cases cloned ▸ acquired
    | pattern tree head refusal _ cloned refused =>
      cases surveyed.symm.trans (surveyOf_of_refused refused)
    | rebuild tree head files' f _ cloned surveyed' escapes =>
      subst cloned
      obtain rfl := Except.ok.inj acquired
      obtain rfl := Except.ok.inj (surveyed.symm.trans surveyed')
      exact (Rebuild.leftHanging_of_escapes rfl escapes).1

end Escapes

/-- **An ingestion reports its end exactly when no fault escapes from it.** One that escapes goes
out as it is: it is not of the family of ingestion faults, and nothing reports the end. -/
theorem reported_ingest_iff (service : Service) (failures : Failures) (clone : CloneOutcome)
    (repoUrl : String) (directories : RunDirectories) (store : Store) :
    (Reported (ingest service failures clone repoUrl directories store) ↔
      ¬∃ f, Escapes service failures clone directories f) ∧
    ∀ f, Escapes service failures clone directories f →
      (ingest service failures clone repoUrl directories store).outcome = .error f ∧
        "IngestionError" ∉ f.lineage ∧
        Silent (ingest service failures clone repoUrl directories store).events := by
  refine ⟨?_, fun f escapes => ⟨outcome_of_escapes escapes, ?_, ?_⟩⟩
  · rw [reported_iff]
    constructor
    · rintro family ⟨f, escapes⟩
      simpa [escapes.isIngestion_eq_false] using family f (outcome_of_escapes escapes)
    · intro guarded f raised
      cases inside : f.isIngestion with
      | true => rfl
      | false => exact absurd ⟨f, escapes_of_outcome raised inside⟩ guarded
  · rw [mem_lineage_iff, escapes.isIngestion_eq_false]
    exact Bool.false_ne_true
  · exact silent_ingest (outcome_of_escapes escapes) escapes.isIngestion_eq_false

/-- A service whose settings hold an ignore pattern that is only a mark. -/
def markedService : Service where
  settings := { ignoreLines := ["!"] }
  registry := {}
  clock := 0

/-- **Not every ingestion reports its end**: where an ignore pattern is refused it does not. -/
theorem not_forall_reported_ingest :
    ¬∀ (service : Service) (failures : Failures) (clone : CloneOutcome) (repoUrl : String)
      (directories : RunDirectories) (store : Store),
        Reported (ingest service failures clone repoUrl directories store) := by
  intro reported
  have refused : Ignore.Rules.ofExtra markedService.settings.ignoreLines =
      .error (.malformed "!") := by rfl
  have escapes : Escapes markedService {} (.checkout (.directory []) none) { root := "ws" }
      (.pattern (.malformed "!")) :=
    .pattern _ _ _ rfl rfl refused
  have inside := reported_iff.mp (reported markedService {} (.checkout (.directory []) none) "r"
    { root := "ws" } {}) _ (outcome_of_escapes escapes)
  cases inside

end Ingestion

end DepGraph
