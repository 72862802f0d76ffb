import DepGraph.Proofs.Reading
import DepGraph.Proofs.Rebuild.Contents

/-!
# The account of a rebuild

The events of a rebuild give an **account** of it (`DepGraph.Rebuild.Accounted`): the files that it
wrote and those that it left out can be read off them, in order, and so can what became of every
specifier. Whoever looks at a stream of events sees it through a **view**, a function that picks
what is told by the events of one kind, and the account is a list of equations between views and
the graph that is stored.

A script tells in two passes (`DepGraph.Rebuild.tellsOf_script`). In the first one every parsed file
tells of itself and then of its specifiers, one by one; in the second one each dependency is looked
at once, and those whose target was left out are told. What the first pass says of dependencies are
the mentions that the graph is made of, and the second pass divides these into edges and what is
left out.
-/

namespace DepGraph

/-! ### Views -/

namespace Event

/-- The file that is told to be written, with the number of its specifiers. -/
def processed? : Event → Option (String × Nat)
  | processed path specifiers => some (path, specifiers)
  | _ => none

/-- The file that is told not to be parsed. -/
def unparsed? : Event → Option String
  | unparsed path _ => some path
  | _ => none

/-- The file of a specifier that is told to name a file, or to name none. -/
def specifier? : Event → Option String
  | resolved path _ _ => some path
  | dropped path _ => some path
  | _ => none

/-- The dependency that a specifier is told to give rise to. -/
def resolved? : Event → Option Dependency
  | resolved path _ target => some ⟨path, target⟩
  | _ => none

/-- The dependency that is told to be left out with its target. -/
def targetUnparsed? : Event → Option Dependency
  | targetUnparsed path target => some ⟨path, target⟩
  | _ => none

/-- Whether an event tells of a file or a specifier, and not of the run, the transaction or how a
file was read. -/
def isOfFile : Event → Bool
  | processed _ _ | unparsed _ _ | resolved _ _ _ | dropped _ _ | targetUnparsed _ _ => true
  | _ => false

section Views

variable {e : Event}

theorem processed?_eq_none (h : e.isOfFile = false) : e.processed? = none := by
  cases e <;> first | rfl | cases h

theorem unparsed?_eq_none (h : e.isOfFile = false) : e.unparsed? = none := by
  cases e <;> first | rfl | cases h

theorem specifier?_eq_none (h : e.isOfFile = false) : e.specifier? = none := by
  cases e <;> first | rfl | cases h

theorem resolved?_eq_none (h : e.isOfFile = false) : e.resolved? = none := by
  cases e <;> first | rfl | cases h

theorem targetUnparsed?_eq_none (h : e.isOfFile = false) : e.targetUnparsed? = none := by
  cases e <;> first | rfl | cases h

end Views

end Event

namespace Rebuild

section Resolution

variable {known : String → Bool} {path s : String}

@[simp] theorem processed?_resolutionEvent : (resolutionEvent known path s).processed? = none := by
  unfold resolutionEvent
  split <;> rfl

@[simp] theorem unparsed?_resolutionEvent : (resolutionEvent known path s).unparsed? = none := by
  unfold resolutionEvent
  split <;> rfl

@[simp] theorem targetUnparsed?_resolutionEvent :
    (resolutionEvent known path s).targetUnparsed? = none := by
  unfold resolutionEvent
  split <;> rfl

@[simp] theorem specifier?_resolutionEvent :
    (resolutionEvent known path s).specifier? = some path := by
  unfold resolutionEvent
  split <;> rfl

/-- The dependency that is told is the one that the specifier gives rise to. -/
@[simp] theorem resolved?_resolutionEvent :
    (resolutionEvent known path s).resolved? = Resolution.dependency? known path s := by
  unfold resolutionEvent Resolution.dependency?
  split
  · simp_all [Event.resolved?]
  · simp_all [Event.resolved?]

end Resolution

/-! ### What a script tells -/

section Script

variable {β : Type} {view : Event → Option β} {known : String → Bool} {n : Int} {read : FileReader}
variable {files : List SourceFile} {p : ReadFile}

/-- What a parsed file tells: that it is written, and what becomes of its specifiers. -/
def tellsOfFile (known : String → Bool) (p : ReadFile) : List Event :=
  .processed p.path p.specifiers.length :: p.specifiers.map (resolutionEvent known p.path)

/-- The dependencies that are left out of the graph of some files with their targets. -/
def leftOut (read : FileReader) (files : List SourceFile) : List Dependency :=
  (mentions (knows files) (parsedFiles read files)).eraseDups.filter
    fun d => d.target ∉ (parsedFiles read files).map (·.path)

section Views

@[simp] theorem processed?_tellsOfFile :
    (tellsOfFile known p).filterMap Event.processed? = [(p.path, p.specifiers.length)] := by
  have first : Event.processed? (.processed p.path p.specifiers.length) =
      some (p.path, p.specifiers.length) := rfl
  rw [tellsOfFile, List.filterMap_cons_some first, List.filterMap_map]
  simp

@[simp] theorem unparsed?_tellsOfFile : (tellsOfFile known p).filterMap Event.unparsed? = [] := by
  rw [tellsOfFile, List.filterMap_cons_none rfl, List.filterMap_map]
  simp

@[simp] theorem targetUnparsed?_tellsOfFile :
    (tellsOfFile known p).filterMap Event.targetUnparsed? = [] := by
  rw [tellsOfFile, List.filterMap_cons_none rfl, List.filterMap_map]
  simp

/-- A parsed file tells as often of a specifier as it has specifiers. -/
@[simp] theorem specifier?_tellsOfFile :
    (tellsOfFile known p).filterMap Event.specifier? =
      List.replicate p.specifiers.length p.path := by
  rw [tellsOfFile, List.filterMap_cons_none rfl, List.filterMap_map]
  simp [List.map_const']

/-- A parsed file tells of the dependencies that its specifiers give rise to. -/
@[simp] theorem resolved?_tellsOfFile :
    (tellsOfFile known p).filterMap Event.resolved? =
      p.specifiers.filterMap (Resolution.dependency? known p.path) := by
  rw [tellsOfFile, List.filterMap_cons_none rfl, List.filterMap_map]
  simp

end Views

theorem tellsOf_append (steps more : List Step) :
    tellsOf (steps ++ more) = tellsOf steps ++ tellsOf more :=
  List.filterMap_append

/-- Steps that only tell, tell all. -/
theorem tellsOf_map_tell {α : Type} (told : α → Event) (as : List α) :
    tellsOf (as.map fun a => .tell (told a)) = as.map told := by
  induction as with
  | nil => rfl
  | cons a as ih => simpa using ih

theorem tellsOf_told (events : List Event) : tellsOf (events.map .tell) = events :=
  (tellsOf_map_tell id events).trans events.map_id

/-- What is told while a file is read and written. -/
theorem tellsOf_fileSteps (file : SourceFile) :
    tellsOf (fileSteps n known read file) =
      match read file with
      | .error _ => []
      | .ok (none, events) => events
      | .ok (some p, events) => events ++ tellsOfFile known p := by
  match h : read file with
  | .error f => simp [fileSteps, h, tellsOf, Step.event?]
  | .ok (none, events) => simp [fileSteps, h, tellsOf_told]
  | .ok (some p, events) =>
    simp [fileSteps, h, tellsOf_append, tellsOf_told, tellsOf_map_tell, tellsOfFile]

/-- **What a view sees of the files** in a script, if it sees nothing of how they are read. -/
theorem filterMap_tellsOf_fileSteps
    (blind : ∀ file ∈ files, ∀ r events, read file = .ok (r, events) →
      events.filterMap view = []) :
    (tellsOf (files.flatMap (fileSteps n known read))).filterMap view =
      (parsedFiles read files).flatMap fun p => (tellsOfFile known p).filterMap view := by
  induction files with
  | nil => rfl
  | cons file files ih =>
    have rest := ih fun file' hf => blind file' (List.mem_cons_of_mem _ hf)
    rw [List.flatMap_cons, tellsOf_append, List.filterMap_append, rest, tellsOf_fileSteps]
    match h : read file with
    | .error f => simp [parsedFiles, h]
    | .ok (none, events) => simp [parsedFiles, h, blind file List.mem_cons_self _ _ h]
    | .ok (some p, events) => simp [parsedFiles, h, blind file List.mem_cons_self _ _ h]

/-- The dependencies whose targets are not written are told. -/
theorem tellsOf_map_edgeStep (written : List String) (found : List Dependency) :
    tellsOf (found.map (edgeStep written)) =
      (found.filter fun d => d.target ∉ written).map fun d => .targetUnparsed d.source d.target := by
  induction found with
  | nil => rfl
  | cons d found ih =>
    by_cases h : d.target ∈ written
    · simpa [edgeStep, h] using ih
    · simpa [edgeStep, h] using ih

/-- **What a script tells**: that the graph is cleared, then of its files, and then of the
dependencies that are left out. -/
theorem tellsOf_script :
    tellsOf (script n read files).steps =
      .cleared :: (tellsOf (files.flatMap (fileSteps n (knows files) read)) ++
        (leftOut read files).map fun d => .targetUnparsed d.source d.target) := by
  simp only [script, List.cons_append, List.nil_append, tellsOf_query_cons, tellsOf_tell_cons,
    tellsOf_append, tellsOf_map_edgeStep, List.mem_eraseDups]
  rfl

/-- Of the files in a script those that are left out are told not to be parsed. -/
theorem unparsed_tellsOf_fileSteps
    (seen : ∀ file ∈ files, ∀ r events, read file = .ok (r, events) →
      events.filterMap Event.unparsed? = if r.isNone then [file.path] else []) :
    (tellsOf (files.flatMap (fileSteps n known read))).filterMap Event.unparsed? =
      skippedPaths read files := by
  induction files with
  | nil => rfl
  | cons file files ih =>
    have rest := ih fun file' hf => seen file' (List.mem_cons_of_mem _ hf)
    rw [List.flatMap_cons, tellsOf_append, List.filterMap_append, rest, tellsOf_fileSteps]
    match h : read file with
    | .error f => simp [skippedPaths, h]
    | .ok (none, events) => simp [skippedPaths, h, seen file List.mem_cons_self _ _ h]
    | .ok (some p, events) => simp [skippedPaths, h, seen file List.mem_cons_self _ _ h]

end Script

/-! ### What a rebuild tells -/

section Rebuild

variable {β : Type} {view : Event → Option β} {failures : Failures} {n : Int} {read : FileReader}
variable {files : List SourceFile} {run : Option Run} {store : Store} {stats : RebuildSummary}

/-- A rebuild that returns tells what its script tells, and besides that only of its run and its
transaction. -/
theorem filterMap_events_of_outcome_ok (quiet : ∀ e, e.isOfFile = false → view e = none)
    (returned : (rebuild failures n read files run store).outcome = .ok stats) :
    (rebuild failures n read files run store).events.filterMap view =
      (tellsOf (script n read files).steps).filterMap view := by
  have ofRun (states : List RunState) : (tellingsOf states run).filterMap view = [] := by
    refine List.filterMap_eq_nil_iff.mpr fun e he => ?_
    cases run with
    | none => simp [tellingsOf] at he
    | some r =>
      obtain ⟨s, -, rfl⟩ := List.mem_map.mp he
      exact quiet _ rfl
  have ofTransaction : view (.committed stats.counts) = none := quiet _ rfl
  obtain ⟨calm, -, done⟩ := committed_of_outcome_ok returned
  simp [done, performed, perform_of_calm calm, ofRun, ofTransaction]

/-- **What a view sees of a rebuild that returns**, if it sees nothing of how files are read: what
its parsed files tell, and what is told of the dependencies that are left out. -/
theorem filterMap_events_fileReader {r : Syntax.Registry}
    (quiet : ∀ e, e.isOfFile = false → view e = none)
    (noUnparsed : ∀ path message, view (.unparsed path message) = none)
    (returned : (rebuild failures n r.fileReader files run store).outcome = .ok stats) :
    (rebuild failures n r.fileReader files run store).events.filterMap view =
      ((parsedFiles r.fileReader files).flatMap fun p =>
        (tellsOfFile (knows files) p).filterMap view) ++
      (leftOut r.fileReader files).filterMap fun d => view (.targetUnparsed d.source d.target) := by
  have blind : ∀ file ∈ files, ∀ read events, r.fileReader file = .ok (read, events) →
      events.filterMap view = [] := by
    intro file _ read events hr
    obtain ⟨message, seen⟩ := (Reading.comes_fileReader hr).exists_filterMap
      (fun _ _ => quiet _ rfl) (fun _ _ _ => quiet _ rfl)
    simpa [noUnparsed] using seen
  rw [filterMap_events_of_outcome_ok quiet returned, tellsOf_script,
    List.filterMap_cons_none (quiet _ rfl), List.filterMap_append,
    filterMap_tellsOf_fileSteps blind, List.filterMap_map]
  rfl

/-- **What a view sees of the parsed files alone**, if it does not see what is left out either. -/
theorem filterMap_events_parsedFiles {r : Syntax.Registry}
    (quiet : ∀ e, e.isOfFile = false → view e = none)
    (noUnparsed : ∀ path message, view (.unparsed path message) = none)
    (noLeftOut : ∀ source target, view (.targetUnparsed source target) = none)
    (returned : (rebuild failures n r.fileReader files run store).outcome = .ok stats) :
    (rebuild failures n r.fileReader files run store).events.filterMap view =
      (parsedFiles r.fileReader files).flatMap fun p =>
        (tellsOfFile (knows files) p).filterMap view := by
  have nothing : (leftOut r.fileReader files).filterMap
      (fun d => view (.targetUnparsed d.source d.target)) = [] :=
    List.filterMap_eq_nil_iff.mpr fun d _ => noLeftOut d.source d.target
  rw [filterMap_events_fileReader quiet noUnparsed returned, nothing, List.append_nil]

end Rebuild

/-! ### The account -/

/-- The events of a rebuild that stored a graph of some files **account** for it. -/
structure Accounted (read : FileReader) (files : List SourceFile) (g : Graph)
    (skipped : List String) (events : List Event) : Prop where
  /-- The parsed files are told, in order, each with the number of its specifiers. -/
  processed : events.filterMap Event.processed? =
    (parsedFiles read files).map fun p => (p.path, p.specifiers.length)
  /-- The nodes are the files that are told, each where it is first told. -/
  nodes : g.paths = ((events.filterMap Event.processed?).map (·.1)).eraseDups
  /-- The files that could not be parsed are those that were left out, in order. -/
  unparsed : events.filterMap Event.unparsed? = skipped
  /-- Of the specifiers of each file as many are told as were counted, file by file. -/
  specifiers : events.filterMap Event.specifier? =
    (events.filterMap Event.processed?).flatMap fun x => List.replicate x.2 x.1
  /-- A specifier gives rise to an edge, or to a dependency whose target was left out. -/
  resolved_iff : ∀ d, d ∈ events.filterMap Event.resolved? ↔
    d ∈ g.edges ∨ d ∈ events.filterMap Event.targetUnparsed?
  /-- It does not give rise to both. -/
  apart : ∀ d ∈ g.edges, d ∉ events.filterMap Event.targetUnparsed?
  /-- What is left out is told once. -/
  once : (events.filterMap Event.targetUnparsed?).Nodup

section Account

variable {r : Syntax.Registry} {failures : Failures} {n : Int} {files : List SourceFile}
variable {run : Option Run} {store : Store} {stats : RebuildSummary}

/-- The parsed files are told, in order. -/
theorem processed_events
    (returned : (rebuild failures n r.fileReader files run store).outcome = .ok stats) :
    (rebuild failures n r.fileReader files run store).events.filterMap Event.processed? =
      (parsedFiles r.fileReader files).map fun p => (p.path, p.specifiers.length) := by
  rw [filterMap_events_parsedFiles (fun _ => Event.processed?_eq_none) (fun _ _ => rfl)
    (fun _ _ => rfl) returned, List.map_eq_flatMap]
  simp only [processed?_tellsOfFile]

/-- The files that are left out are told, in order. -/
theorem unparsed_events
    (returned : (rebuild failures n r.fileReader files run store).outcome = .ok stats) :
    (rebuild failures n r.fileReader files run store).events.filterMap Event.unparsed? =
      skippedPaths r.fileReader files := by
  rw [filterMap_events_of_outcome_ok (fun _ => Event.unparsed?_eq_none) returned,
    tellsOf_script, List.filterMap_cons_none rfl, List.filterMap_append, List.filterMap_map,
    unparsed_tellsOf_fileSteps]
  · change _ ++ (leftOut r.fileReader files).filterMap (fun _ => none) = _
    simp
  · intro file _ read events hr
    obtain ⟨message, seen⟩ : ∃ message, events.filterMap Event.unparsed? =
        if read.isNone then (Event.unparsed? (.unparsed file.path message)).toList else [] :=
      (Reading.comes_fileReader hr).exists_filterMap (fun _ _ => rfl) (fun _ _ _ => rfl)
    exact seen

/-- The specifiers of the parsed files are told, each with the path of its file. -/
theorem specifier_events
    (returned : (rebuild failures n r.fileReader files run store).outcome = .ok stats) :
    (rebuild failures n r.fileReader files run store).events.filterMap Event.specifier? =
      (parsedFiles r.fileReader files).flatMap fun p =>
        List.replicate p.specifiers.length p.path := by
  rw [filterMap_events_parsedFiles (fun _ => Event.specifier?_eq_none) (fun _ _ => rfl)
    (fun _ _ => rfl) returned]
  simp only [specifier?_tellsOfFile]

/-- The specifiers that name a file are told where they are mentioned. -/
theorem resolved_events
    (returned : (rebuild failures n r.fileReader files run store).outcome = .ok stats) :
    (rebuild failures n r.fileReader files run store).events.filterMap Event.resolved? =
      mentions (knows files) (parsedFiles r.fileReader files) := by
  rw [filterMap_events_parsedFiles (fun _ => Event.resolved?_eq_none) (fun _ _ => rfl)
    (fun _ _ => rfl) returned]
  simp only [resolved?_tellsOfFile, mentions]

/-- The dependencies that are left out are told, each once. -/
theorem targetUnparsed_events
    (returned : (rebuild failures n r.fileReader files run store).outcome = .ok stats) :
    (rebuild failures n r.fileReader files run store).events.filterMap Event.targetUnparsed? =
      leftOut r.fileReader files := by
  rw [filterMap_events_fileReader (fun _ => Event.targetUnparsed?_eq_none)
    (fun _ _ => rfl) returned]
  change _ ++ (leftOut r.fileReader files).filterMap some = _
  simp

/-- **The events of a rebuild that returns account for it.** -/
theorem accounted_of_outcome_ok
    (returned : (rebuild failures n r.fileReader files run store).outcome = .ok stats) :
    Accounted r.fileReader files (rebuild failures n r.fileReader files run store).store.graph
      stats.skipped (rebuild failures n r.fileReader files run store).events where
  processed := processed_events returned
  nodes := by
    rw [(returned_of_outcome_ok returned).1, processed_events returned, List.map_map]
    exact paths_putFiles _
  unparsed := by
    rw [unparsed_events returned, (returned_of_outcome_ok returned).2.2.1]
    rfl
  specifiers := by
    rw [specifier_events returned, processed_events returned, List.flatMap_map]
  resolved_iff d := by
    rw [resolved_events returned, targetUnparsed_events returned,
      (returned_of_outcome_ok returned).1]
    simp only [Graph.ofFiles, leftOut, List.mem_filter, List.mem_eraseDups, decide_eq_true_eq]
    rw [← and_or_left, and_iff_left (Classical.em _)]
  apart d hd := by
    rw [(returned_of_outcome_ok returned).1] at hd
    rw [targetUnparsed_events returned]
    exact fun out => (of_decide_eq_true (List.mem_filter.mp out).2) (ends_mem_of_mem_edges hd).2
  once := by
    rw [targetUnparsed_events returned]
    exact (nodup_eraseDups _).filter _

/-- Where no file is at a path, the path is not told. -/
theorem count_flatMap_replicate_of_notMem {parsed : List ReadFile} {path : String}
    (absent : path ∉ parsed.map (·.path)) :
    (parsed.flatMap fun q => List.replicate q.specifiers.length q.path).count path = 0 := by
  refine List.count_eq_zero.mpr fun told => absent ?_
  obtain ⟨q, hq, told⟩ := List.mem_flatMap.mp told
  exact List.mem_map.mpr ⟨q, hq, (List.eq_of_mem_replicate told).symm⟩

/-- Among files at distinct paths each is told of as often as it has specifiers. -/
theorem count_flatMap_replicate {parsed : List ReadFile} {p : ReadFile}
    (apart : (parsed.map (·.path)).Nodup) (hp : p ∈ parsed) :
    (parsed.flatMap fun q => List.replicate q.specifiers.length q.path).count p.path =
      p.specifiers.length := by
  induction parsed with
  | nil => cases hp
  | cons q parsed ih =>
    obtain ⟨new, apart⟩ := List.nodup_cons.mp apart
    rw [List.flatMap_cons, List.count_append]
    rcases List.mem_cons.mp hp with rfl | hp
    · rw [List.count_replicate_self, count_flatMap_replicate_of_notMem new, Nat.add_zero]
    · have other : p.path ∉ List.replicate q.specifiers.length q.path := fun told =>
        new (List.mem_map.mpr ⟨p, hp, List.eq_of_mem_replicate told⟩)
      rw [List.count_eq_zero.mpr other, ih apart hp, Nat.zero_add]

end Account

/-- **A rebuild that returns gives an account of itself**: its events tell of every file and every
specifier, and divide the dependencies into edges and what is left out. Where the paths of the files
are distinct, as they are when the files are discovered, the nodes are the files that are told, and
a parsed file tells as often of a specifier as it has specifiers. -/
theorem accounted_rebuild (failures : Failures) (n : Int) (r : Syntax.Registry)
    (files : List SourceFile) (run : Option Run) (store : Store) (stats : RebuildSummary)
    (returned : (rebuild failures n r.fileReader files run store).outcome = .ok stats) :
    let b := rebuild failures n r.fileReader files run store
    Accounted r.fileReader files b.store.graph stats.skipped b.events ∧
      ((files.map (·.path)).Nodup →
        (b.events.filterMap Event.processed?).map (·.1) = b.store.graph.paths ∧
        ∀ p ∈ parsedFiles r.fileReader files,
          (p.path, p.specifiers.length) ∈ b.events.filterMap Event.processed? ∧
          (b.events.filterMap Event.specifier?).count p.path = p.specifiers.length) := by
  intro b
  have account : Accounted r.fileReader files b.store.graph stats.skipped b.events :=
    accounted_of_outcome_ok returned
  refine ⟨account, fun distinct => ?_⟩
  have apart : ((parsedFiles r.fileReader files).map (·.path)).Nodup :=
    distinct.sublist (paths_parsedFiles_sublist Reading.keepsPath_fileReader)
  refine ⟨?_, fun p hp => ⟨?_, ?_⟩⟩
  · have told : (b.events.filterMap Event.processed?).map (·.1) =
        (parsedFiles r.fileReader files).map (·.path) := by
      rw [account.processed, List.map_map]
      rfl
    rw [account.nodes, told, eraseDups_eq_self apart]
  · rw [account.processed]
    exact List.mem_map.mpr ⟨p, hp, rfl⟩
  · rw [account.specifiers, account.processed, List.flatMap_map]
    exact count_flatMap_replicate apart hp

/-- A file that names two others, one of which is empty. -/
def namingFiles : List SourceFile :=
  [⟨"a.py", "/a.py", some "import b, c, json".toUTF8.toList⟩,
    ⟨"b.py", "/b.py", some "x".toUTF8.toList⟩, ⟨"c.py", "/c.py", some []⟩]

/-- Grammars that crash where there is nothing. -/
def crashingOnNothing : Syntax.Registry where
  parser grammar bytes :=
    if bytes = [] then .error Syntax.crash else .ok (Syntax.treeOfBytes grammar bytes)

/-- Of the three specifiers of `a.py` one gives an edge, one is left out with its target, and one
names no file. The grammar that crashes on `c.py` reads the two others. -/
theorem accounted_rebuild_namingFiles :
    let b := rebuild {} 200 crashingOnNothing.fileReader namingFiles none {}
    b.outcome = .ok ⟨3, 2, 1, ["c.py"]⟩ ∧
      (namingFiles.map (·.path)).Nodup ∧
      Accounted crashingOnNothing.fileReader namingFiles b.store.graph ["c.py"] b.events ∧
      b.events.filterMap Event.processed? = [("a.py", 3), ("b.py", 0)] ∧
      b.events.filterMap Event.targetUnparsed? = [⟨"a.py", "c.py"⟩] := by
  intro b
  have returned : b.outcome = .ok ⟨3, 2, 1, ["c.py"]⟩ := eq_ok_of_toOption (by decide +kernel)
  have account := accounted_rebuild {} 200 crashingOnNothing namingFiles none {} _ returned
  exact ⟨returned, by decide, account.1, by decide +kernel, by decide +kernel⟩

end Rebuild

end DepGraph
