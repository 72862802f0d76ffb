import DepGraph.Ingestion
import DepGraph.Proofs.Run.Through

/-!
# How an ingestion ends

An ingestion ends at one of its stages, and `DepGraph.Ingestion.Ending` lists these ends with what
each leaves behind: the store, the run, the events, the operations, the queries and the outcome
(`DepGraph.Ingestion.Leaves`). Only the last of them has touched the store, and it leaves what its
rebuild left (`DepGraph.Ingestion.rebuildOf`).
-/

namespace DepGraph

namespace Ingestion

/-! ### The end of an ingestion -/

/-- What is told at the **end** of an ingestion. -/
def closing (repoUrl : String) (place : Option String) (state : RunState) :
    Except Fault RebuildSummary → List Event
  | .ok stats => (place.map Event.retained).toList ++ [.finished repoUrl stats.counts]
  | .error f =>
    (if f.isIngestion then [.failed repoUrl state f.kind f.message] else []) ++
      (place.map Event.retained).toList

/-- What an ingestion **leaves behind**. -/
structure Leaves (r : Ingested) (store : Store) (run : Run) (events : List Event)
    (operations : List Operation) (queries : List Query) (outcome : Except Fault RebuildSummary) :
    Prop where
  /-- The store. -/
  store : r.store = store
  /-- The run. -/
  run : r.run = run
  /-- The events. -/
  events : r.events = events
  /-- The operations that were asked of the store. -/
  operations : r.operations = operations
  /-- The queries that succeeded. -/
  queries : r.queries = queries
  /-- What was returned, or why nothing was. -/
  outcome : r.outcome = outcome

/-- Finishing an ingestion only tells its end. -/
theorem leaves_finish (repoUrl : String) (place : Option String)
    (attributes : List (String × Json)) (outcome : Except Fault RebuildSummary) (s : Ingested) :
    Leaves (finish repoUrl place attributes outcome s) s.store s.run
      (s.events ++ closing repoUrl place s.run.state outcome) s.operations s.queries outcome where
  store := rfl
  run := rfl
  events := by
    cases outcome <;> cases place <;> simp [finish, closing]
  operations := rfl
  queries := rfl
  outcome := rfl

/-! ### The endings -/

/-- The run of an ingestion once its files are discovered. -/
def discoveredRun (repoUrl : String) : Run := ({ repoUrl } : Run).through [.cloned, .discovered]

/-- The place that the repository of an ingestion is cloned to. -/
def placeFor (service : Service) (directories : RunDirectories) : String :=
  RunDirectories.placeOf directories.root
    (RunDirectories.freeStamp directories.taken service.clock)

/-- The **rebuild of** an ingestion that discovered some files. -/
def rebuildOf (service : Service) (failures : Failures) (repoUrl : String)
    (files : List SourceFile) (store : Store) : Rebuilt :=
  rebuild failures service.settings.snippetLength service.registry.fileReader files
    (some (discoveredRun repoUrl)) store

/-- What is told of an ingestion until its files are discovered. -/
def beforeRebuild (repoUrl : String) (c : Checkout) (files : List SourceFile) : List Event :=
  [.started repoUrl, .advanced repoUrl .cloned, .cloned repoUrl c.place c.head,
    .advanced repoUrl .discovered, .discovered repoUrl files.length]

/-- The fault of an ingestion whose directory cannot be made. -/
def homelessFault (repoUrl root : String) (flaw : PlaceFlaw) : Fault :=
  .acquisition repoUrl ("cannot create workspace: " ++ (Fault.place flaw root).message)

/-- The **endings** of an ingestion. -/
inductive Ending (service : Service) (failures : Failures) (outcome : CloneOutcome)
    (repoUrl : String) (directories : RunDirectories) (store : Store) (r : Ingested) : Prop
  /-- There is no directory to clone into. -/
  | homeless (flaw : PlaceFlaw) (obstacle : directories.obstacle = some flaw)
    (leaves : Leaves r store { repoUrl }
      (.started repoUrl ::
        closing repoUrl none .idle (.error (homelessFault repoUrl directories.root flaw)))
      [] [] (.error (homelessFault repoUrl directories.root flaw)))
  /-- The repository is not acquired. -/
  | unacquired (f : Fault) (obstacle : directories.obstacle = none)
    (acquired : acquire (cloneCall service repoUrl (placeFor service directories)) outcome =
      .error f)
    (leaves : Leaves r store { repoUrl }
      (.started repoUrl ::
        closing repoUrl (some (placeFor service directories)) .idle (.error f))
      [] [] (.error f))
  /-- The files are not discovered. -/
  | unsurveyed (c : Checkout) (f : Fault) (obstacle : directories.obstacle = none)
    (acquired : acquire (cloneCall service repoUrl (placeFor service directories)) outcome = .ok c)
    (surveyed : surveyOf service c = .error f)
    (leaves : Leaves r store (({ repoUrl } : Run).through [.cloned])
      ([.started repoUrl, .advanced repoUrl .cloned, .cloned repoUrl c.place c.head] ++
        closing repoUrl (some c.place) .cloned (.error f)) [] [] (.error f))
  /-- The graph is rebuilt, or fails to be. -/
  | rebuilt (c : Checkout) (files : List SourceFile) (obstacle : directories.obstacle = none)
    (acquired : acquire (cloneCall service repoUrl (placeFor service directories)) outcome = .ok c)
    (surveyed : surveyOf service c = .ok files)
    (leaves : Leaves r (rebuildOf service failures repoUrl files store).store
      ((rebuildOf service failures repoUrl files store).run.getD (discoveredRun repoUrl))
      (beforeRebuild repoUrl c files ++ (rebuildOf service failures repoUrl files store).events ++
        closing repoUrl (some c.place)
          ((rebuildOf service failures repoUrl files store).run.getD (discoveredRun repoUrl)).state
          (rebuildOf service failures repoUrl files store).outcome)
      (rebuildOf service failures repoUrl files store).operations
      (rebuildOf service failures repoUrl files store).queries
      (rebuildOf service failures repoUrl files store).outcome)

section Ending

variable {service : Service} {failures : Failures} {clone : CloneOutcome} {repoUrl : String}
variable {directories : RunDirectories} {store : Store}

/-- A step that the run of an ingestion may take is taken, and told. -/
theorem advance_eq_ok {next : RunState} {s : Ingested} (h : next ∈ s.run.state.successors) :
    advance next s =
      .ok { s with
            run := s.run.through [next]
            events := s.events ++ [.advanced s.run.repoUrl next] } := by
  simp [advance, Run.advance_eq_ok h, Except.map]

/-- An ingestion whose repository is on disk comes to an ending. -/
theorem ending_afterClone {c : Checkout} {s : Ingested} (obstacle : directories.obstacle = none)
    (acquired : acquire (cloneCall service repoUrl (placeFor service directories)) clone = .ok c)
    (hstore : s.store = store) (hrun : s.run = ({ repoUrl } : Run).through [.cloned])
    (hevents : s.events =
      [.started repoUrl, .advanced repoUrl .cloned, .cloned repoUrl c.place c.head])
    (hoperations : s.operations = []) (hqueries : s.queries = []) :
    Ending service failures clone repoUrl directories store
      (afterClone service failures repoUrl c s) := by
  cases surveyed : surveyOf service c with
  | error f =>
    refine .unsurveyed c f obstacle acquired surveyed ?_
    have leaves := leaves_finish repoUrl (some c.place) [("repo_url", .ofString repoUrl)] (.error f)
      (endStage "discovery" [] (some f) s)
    simpa [afterClone, surveyed, endStage, hstore, hrun, hevents, hoperations, hqueries]
      using leaves
  | ok files =>
    refine .rebuilt c files obstacle acquired surveyed ?_
    have allowed : .discovered ∈ s.run.state.successors := by
      rw [hrun]
      exact List.mem_singleton.mpr rfl
    have run : s.run.through [.discovered] = discoveredRun repoUrl := by
      rw [hrun, Run.through_through]
      rfl
    have url : s.run.repoUrl = repoUrl := by rw [hrun]; rfl
    simp only [afterClone, surveyed, advance_eq_ok allowed, run, url]
    have leaves := leaves_finish repoUrl (some c.place)
      ([("repo_url", .ofString repoUrl)] ++ [("files", .int files.length)])
      (rebuildOf service failures repoUrl files store).outcome
      (rebuildStage service failures files
        (endStage "discovery" [] none (tell (.discovered repoUrl files.length)
          { s with
            run := discoveredRun repoUrl
            events := s.events ++ [.advanced repoUrl .discovered] })))
    subst hstore
    simpa [rebuildStage, endStage, tell, rebuildOf, hevents, beforeRebuild] using leaves

/-- An ingestion whose directory is chosen comes to an ending. -/
theorem ending_inDirectory {stamp : Int} {s : Ingested} (obstacle : directories.obstacle = none)
    (hplace : RunDirectories.placeOf s.directories.root stamp = placeFor service directories)
    (hstore : s.store = store) (hrun : s.run = { repoUrl })
    (hevents : s.events = [.started repoUrl]) (hoperations : s.operations = [])
    (hqueries : s.queries = []) :
    Ending service failures clone repoUrl directories store
      (inDirectory service failures clone repoUrl stamp s) := by
  cases acquired : acquire (cloneCall service repoUrl (placeFor service directories)) clone with
  | error f =>
    refine .unacquired f obstacle acquired ?_
    simp only [inDirectory, hplace, acquired]
    have leaves := leaves_finish repoUrl (some (placeFor service directories))
      [("repo_url", .ofString repoUrl)] (.error f) s
    rw [hstore, hrun, hevents, hoperations, hqueries] at leaves
    exact ⟨leaves.store, leaves.run, leaves.events, leaves.operations, leaves.queries,
      leaves.outcome⟩
  | ok c =>
    have advanced (s' : Ingested) (h : s'.run = s.run) : advance .cloned s' =
        .ok { s' with
              run := ({ repoUrl } : Run).through [.cloned]
              events := s'.events ++ [.advanced repoUrl .cloned] } := by
      rw [advance_eq_ok (by rw [h, hrun]; exact List.mem_singleton.mpr rfl), h, hrun]
    simp only [inDirectory, hplace, acquired, advanced]
    exact ending_afterClone obstacle acquired hstore rfl (by simp [endStage, tell, hevents])
      hoperations hqueries

/-- **Every ingestion comes to an ending.** -/
theorem ending_ingest :
    Ending service failures clone repoUrl directories store
      (ingest service failures clone repoUrl directories store) := by
  cases obstacle : directories.obstacle with
  | some flaw =>
    simp only [ingest, RunDirectories.newStamp, obstacle]
    refine .homeless flaw obstacle ?_
    have leaves := leaves_finish repoUrl none [("repo_url", .ofString repoUrl)]
      (.error (homelessFault repoUrl directories.root flaw))
      { store, directories, run := { repoUrl }, events := [.started repoUrl]
        outcome := .error default }
    exact ⟨leaves.store, leaves.run, leaves.events, leaves.operations, leaves.queries,
      leaves.outcome⟩
  | none =>
    simp only [ingest, RunDirectories.newStamp, obstacle]
    exact ending_inDirectory obstacle rfl rfl rfl rfl rfl rfl

/-- **Where the files are discovered** an ingestion leaves the store as its rebuild does, asks the
same of it and comes to the same. -/
theorem eq_rebuildOf_of_surveyed {c : Checkout} {files : List SourceFile}
    (obstacle : directories.obstacle = none)
    (acquired : acquire (cloneCall service repoUrl (placeFor service directories)) clone = .ok c)
    (surveyed : surveyOf service c = .ok files) :
    (ingest service failures clone repoUrl directories store).store =
        (rebuildOf service failures repoUrl files store).store ∧
      (ingest service failures clone repoUrl directories store).operations =
        (rebuildOf service failures repoUrl files store).operations ∧
      (ingest service failures clone repoUrl directories store).outcome =
        (rebuildOf service failures repoUrl files store).outcome := by
  generalize hr : ingest service failures clone repoUrl directories store = r
  have ending := hr ▸ ending_ingest
  cases ending with
  | homeless flaw obstacle' leaves => cases obstacle.symm.trans obstacle'
  | unacquired f _ acquired' leaves => cases acquired.symm.trans acquired'
  | unsurveyed c' f _ acquired' surveyed' leaves =>
    obtain rfl := Except.ok.inj (acquired.symm.trans acquired')
    cases surveyed.symm.trans surveyed'
  | rebuilt c' files' _ acquired' surveyed' leaves =>
    obtain rfl := Except.ok.inj (acquired.symm.trans acquired')
    obtain rfl := Except.ok.inj (surveyed.symm.trans surveyed')
    exact ⟨leaves.store, leaves.operations, leaves.outcome⟩

end Ending

/-- A service with nothing set. -/
def quietService : Service where
  settings := {}
  registry := {}
  clock := 0

end Ingestion

end DepGraph
