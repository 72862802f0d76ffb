import DepGraph.Rebuild

/-!
# What a script comes to

The steps of a script are of three sorts, and each sort is read off it on its own: the queries
(`DepGraph.Rebuild.queriesOf`), the events (`DepGraph.Rebuild.tellsOf`) and the faults that lie in
wait (`DepGraph.Rebuild.hazards`), where a query counts with its number in the transaction. What
`DepGraph.Rebuild.perform` makes of a script is then said in these terms: it is ended by the first
hazard (`DepGraph.Rebuild.perform_fault`), it asks the queries in order as far as it gets
(`DepGraph.Rebuild.exists_operations_perform`), and where there is no hazard it asks all of them
and tells all events (`DepGraph.Rebuild.perform_of_hazards_eq_nil`).

The queries of a script can be named without performing it: a script clears the graph, puts the
parsed files, and puts the dependencies among them (`DepGraph.Rebuild.queriesOf_script`).
-/

namespace DepGraph

namespace FileReader

/-- A reader **tells** an event of one of some files. -/
def Tells (read : FileReader) (files : List SourceFile) (e : Event) : Prop :=
  ∃ file ∈ files, ∃ r events, read file = .ok (r, events) ∧ e ∈ events

/-- A reader can **read** all of some files, whether or not it leaves some of them out. -/
def ReadsAll (read : FileReader) (files : List SourceFile) : Prop :=
  ∀ file ∈ files, ∃ r, read file = .ok r

/-- A reader gives back each of some files under its own path. -/
def KeepsPath (read : FileReader) (files : List SourceFile) : Prop :=
  ∀ file ∈ files, ∀ p events, read file = .ok (some p, events) → p.path = file.path

end FileReader

namespace Rebuild

/-! ### The sorts of steps -/

/-- The query of a step. -/
def Step.query? : Step → Option Query
  | .query q => some q
  | _ => none

/-- The event of a step. -/
def Step.event? : Step → Option Event
  | .tell e => some e
  | _ => none

/-- The queries of some steps, in order. -/
def queriesOf (steps : List Step) : List Query := steps.filterMap Step.query?

/-- The events of some steps, in order. -/
def tellsOf (steps : List Step) : List Event := steps.filterMap Step.event?

/-- The **hazards** of some steps: the faults that performing them can meet, in order, when the next
query of the transaction has this number. -/
def hazards (failures : Failures) : Nat → List Step → List Fault
  | _, [] => []
  | n, .tell _ :: steps => hazards failures n steps
  | n, .stop f :: steps => f :: hazards failures n steps
  | n, .query _ :: steps => (failures.querying n).toList ++ hazards failures (n + 1) steps

section Sorts

variable {e : Event} {f : Fault} {q : Query} {steps more : List Step}

@[simp] theorem queriesOf_nil : queriesOf [] = [] := rfl

@[simp] theorem queriesOf_query_cons : queriesOf (.query q :: steps) = q :: queriesOf steps := rfl

@[simp] theorem queriesOf_tell_cons : queriesOf (.tell e :: steps) = queriesOf steps := rfl

@[simp] theorem queriesOf_stop_cons : queriesOf (.stop f :: steps) = queriesOf steps := rfl

@[simp] theorem queriesOf_append : queriesOf (steps ++ more) = queriesOf steps ++ queriesOf more :=
  List.filterMap_append

@[simp] theorem tellsOf_nil : tellsOf [] = [] := rfl

@[simp] theorem tellsOf_query_cons : tellsOf (.query q :: steps) = tellsOf steps := rfl

@[simp] theorem tellsOf_tell_cons : tellsOf (.tell e :: steps) = e :: tellsOf steps := rfl

/-- Steps that only tell ask nothing. -/
@[simp] theorem queriesOf_map_tell {α : Type} (told : α → Event) (as : List α) :
    queriesOf (as.map fun a => .tell (told a)) = [] := by
  induction as with
  | nil => rfl
  | cons a as ih => simpa using ih

/-- **There is no hazard** exactly when no step stops and no query fails. -/
theorem hazards_eq_nil_iff {failures : Failures} {n : Nat} :
    hazards failures n steps = [] ↔
      (∀ f, .stop f ∉ steps) ∧
        ∀ i < (queriesOf steps).length, failures.querying (n + i) = none := by
  induction steps generalizing n with
  | nil => simp [hazards]
  | cons s steps ih =>
    cases s with
    | tell e => simpa [hazards] using ih
    | stop f =>
      exact ⟨fun h => by simp [hazards] at h, fun h => absurd List.mem_cons_self (h.1 f)⟩
    | query q =>
      -- the query takes a number, and so those after it are counted from the next one
      have later : ∀ i, n + 1 + i = n + (i + 1) := fun i => by omega
      simp only [hazards, List.append_eq_nil_iff, Option.toList_eq_nil_iff, ih,
        queriesOf_query_cons, List.length_cons, List.mem_cons, reduceCtorEq, false_or, later]
      constructor
      · rintro ⟨first, stops, rest⟩
        refine ⟨stops, fun i hi => ?_⟩
        cases i with
        | zero => exact first
        | succ i => exact rest i (by omega)
      · rintro ⟨stops, all⟩
        exact ⟨all 0 (by omega), stops, fun i hi => all (i + 1) (by omega)⟩

end Sorts

/-! ### Performing -/

section Performing

variable {failures : Failures} {t : Transaction} {steps : List Step}

/-- The transaction after some queries more. -/
def runAll (t : Transaction) (queries : List Query) : Transaction := queries.foldl Transaction.run t

/-- What some queries together **do** to a graph. -/
def applyAll (queries : List Query) (g : Graph) : Graph := queries.foldl (fun g q => q.apply g) g

@[simp] theorem runAll_queries (t : Transaction) (queries : List Query) :
    (runAll t queries).queries = t.queries ++ queries := by
  induction queries generalizing t with
  | nil => simp [runAll]
  | cons q queries ih => exact (ih (t.run q)).trans (by simp [Transaction.run])

@[simp] theorem runAll_draft (t : Transaction) (queries : List Query) :
    (runAll t queries).draft = applyAll queries t.draft := by
  induction queries generalizing t with
  | nil => rfl
  | cons q queries ih => exact ih (t.run q)

/-- A query moves the number of the next one. -/
theorem next_run (t : Transaction) (q : Query) : (t.run q).next = t.next + 1 := by
  simp [Transaction.next, Transaction.run]

/-- **The first hazard ends a script**, and nothing else does. -/
theorem perform_fault :
    (perform failures t steps).fault = (hazards failures t.next steps).head? := by
  induction steps generalizing t with
  | nil => rfl
  | cons s steps ih =>
    cases s with
    | tell e => exact ih
    | stop f => rfl
    | query q =>
      cases h : failures.querying t.next with
      | some f => simp [perform, hazards, h]
      | none => simpa [perform, hazards, h, next_run] using ih (t := t.run q)

/-- **A script without hazards is performed whole**: all its queries are asked and all its events
are told. -/
theorem perform_of_hazards_eq_nil (calm : hazards failures t.next steps = []) :
    perform failures t steps =
      ⟨runAll t (queriesOf steps), (queriesOf steps).map .query, tellsOf steps, none⟩ := by
  induction steps generalizing t with
  | nil => rfl
  | cons s steps ih =>
    cases s with
    | tell e => simp [perform, ih calm]
    | stop f => simp [hazards] at calm
    | query q =>
      simp only [hazards, List.append_eq_nil_iff, Option.toList_eq_nil_iff] at calm
      obtain ⟨quiet, calm⟩ := calm
      have rest := ih (t := t.run q) (by rwa [next_run])
      simp [perform, quiet, rest, runAll]

/-- **A script asks its queries in order**, as far as it is performed. -/
theorem exists_operations_perform :
    ∃ asked, asked <+: queriesOf steps ∧
      (perform failures t steps).operations = asked.map .query := by
  induction steps generalizing t with
  | nil => exact ⟨[], List.prefix_rfl, rfl⟩
  | cons s steps ih =>
    cases s with
    | tell e => exact ih
    | stop f => exact ⟨[], List.nil_prefix, rfl⟩
    | query q =>
      cases h : failures.querying t.next with
      | some f => exact ⟨[q], by simp, by simp [perform, h]⟩
      | none =>
        obtain ⟨asked, part, operations⟩ := ih (t := t.run q)
        exact ⟨q :: asked, by simpa using part, by simp [perform, h, operations]⟩

/-- Performing a script tells nothing that is not in it. -/
theorem mem_of_mem_perform_events {e : Event} (h : e ∈ (perform failures t steps).events) :
    .tell e ∈ steps := by
  induction steps generalizing t with
  | nil => simp [perform] at h
  | cons s steps ih =>
    cases s with
    | tell e' =>
      rcases List.mem_cons.mp h with rfl | h
      · exact List.mem_cons_self
      · exact List.mem_cons_of_mem _ (ih h)
    | stop f => simp [perform] at h
    | query q =>
      cases hq : failures.querying t.next with
      | some f => simp [perform, hq] at h
      | none => exact List.mem_cons_of_mem _ (ih (t := t.run q) (by simpa [perform, hq] using h))

end Performing

/-! ### The script of a rebuild -/

section Script

variable {n : Int} {known : String → Bool} {read : FileReader} {files : List SourceFile}

/-- The query that puts a file. -/
def putFile (n : Int) (p : ReadFile) : Query := .mergeFile p.path (snippetOf n p.content)

/-- The queries for some files: those are put that can be parsed. -/
theorem queriesOf_flatMap_fileSteps :
    queriesOf (files.flatMap (fileSteps n known read)) =
      (parsedFiles read files).map (putFile n) := by
  induction files with
  | nil => rfl
  | cons file files ih =>
    have quiet : ∀ events : List Event, queriesOf (events.map .tell) = [] :=
      queriesOf_map_tell id
    rw [List.flatMap_cons, queriesOf_append, ih]
    match h : read file with
    | .error f => simp [fileSteps, parsedFiles, h]
    | .ok (none, events) => simp [fileSteps, parsedFiles, h, quiet]
    | .ok (some p, events) => simp [fileSteps, parsedFiles, h, quiet, putFile]

/-- The queries for some dependencies: those are put whose target is written. -/
theorem queriesOf_map_edgeStep (written : List String) (found : List Dependency) :
    queriesOf (found.map (edgeStep written)) =
      (found.filter fun d => d.target ∈ written).map .mergeDependency := by
  induction found with
  | nil => rfl
  | cons d found ih =>
    by_cases h : d.target ∈ written
    · simpa [edgeStep, h] using ih
    · simpa [edgeStep, h] using ih

/-- **The queries of a script**: it clears the graph, puts the parsed files in order, and then puts
the dependencies among them. -/
theorem queriesOf_script :
    queriesOf (script n read files).steps =
      .clear :: ((parsedFiles read files).map (putFile n) ++
        (script n read files).edges.map .mergeDependency) := by
  simp only [script, List.cons_append, List.nil_append, queriesOf_query_cons, queriesOf_tell_cons,
    queriesOf_append, queriesOf_flatMap_fileSteps, queriesOf_map_edgeStep]

/-- What a script tells on its own account, whatever its reader tells. -/
def isScripted : Event → Bool
  | .cleared | .processed _ _ | .resolved _ _ _ | .dropped _ _ | .targetUnparsed _ _ => true
  | _ => false

theorem tells_or_isScripted_of_mem_fileSteps {file : SourceFile} {e : Event} (hf : file ∈ files)
    (h : .tell e ∈ fileSteps n known read file) : read.Tells files e ∨ isScripted e = true := by
  simp only [fileSteps] at h
  match hr : read file with
  | .error f => simp [hr] at h
  | .ok (none, events) =>
    refine Or.inl ⟨file, hf, none, events, hr, ?_⟩
    simpa [hr] using h
  | .ok (some p, events) =>
    simp only [hr, List.mem_append, List.mem_map, List.mem_cons, Step.tell.injEq, reduceCtorEq,
      false_or, List.not_mem_nil, or_false] at h
    rcases h with (⟨e', he, rfl⟩ | rfl) | ⟨s, -, rfl⟩
    · exact Or.inl ⟨file, hf, some p, events, hr, he⟩
    · exact Or.inr rfl
    · refine Or.inr ?_
      simp only [resolutionEvent]
      split <;> rfl

/-- **Whatever a script tells** its reader told, or it is one of its own events. -/
theorem tells_or_isScripted_of_mem_script {e : Event} (h : .tell e ∈ (script n read files).steps) :
    read.Tells files e ∨ isScripted e = true := by
  simp only [script, List.mem_append, List.mem_cons, List.mem_flatMap, List.mem_map,
    List.not_mem_nil, or_false, reduceCtorEq, false_or, Step.tell.injEq] at h
  rcases h with (rfl | ⟨file, hf, h⟩) | ⟨d, -, h⟩
  · exact Or.inr rfl
  · exact tells_or_isScripted_of_mem_fileSteps hf h
  · refine Or.inr ?_
    unfold edgeStep at h
    split at h
    · simp at h
    · obtain rfl := Step.tell.inj h
      rfl

/-- A script stops exactly where its reader cannot go on. -/
theorem stop_mem_script_iff {f : Fault} :
    .stop f ∈ (script n read files).steps ↔ ∃ file ∈ files, read file = .error f := by
  have edges : ∀ d : Dependency, ∀ written, edgeStep written d ≠ .stop f := by
    intro d written h
    unfold edgeStep at h
    split at h <;> cases h
  simp only [script, List.mem_append, List.mem_cons, List.mem_flatMap, List.mem_map,
    List.not_mem_nil, or_false, reduceCtorEq, false_or, edges, and_false, exists_false]
  refine exists_congr fun file => and_congr_right fun _ => ?_
  simp only [fileSteps]
  match read file with
  | .error f' => simp [eq_comm]
  | .ok (none, events) => simp
  | .ok (some p, events) => simp

/-- **A script meets no fault** exactly when its reader can read all the files and no query that it
asks fails. -/
theorem hazards_script_eq_nil_iff {failures : Failures} :
    hazards failures 1 (script n read files).steps = [] ↔
      read.ReadsAll files ∧
        ∀ i < (queriesOf (script n read files).steps).length,
          failures.querying (i + 1) = none := by
  rw [hazards_eq_nil_iff]
  simp only [stop_mem_script_iff, Nat.add_comm 1]
  refine and_congr_left fun _ => ⟨fun h file hf => ?_, fun h f => ?_⟩
  · cases hr : read file with
    | error f => exact absurd ⟨file, hf, hr⟩ (h f)
    | ok r => exact ⟨r, rfl⟩
  · rintro ⟨file, hf, hr⟩
    obtain ⟨r, hr'⟩ := h file hf
    rw [hr] at hr'
    cases hr'

end Script

end Rebuild

end DepGraph
