import DepGraph.Proofs.Ingestion.Ending
import DepGraph.Proofs.Rebuild.Draft
import DepGraph.Proofs.Rebuild.Ending

/-!
# The discipline of a transaction

What a rebuild asks of the store, one operation after the other, is a **word**, and
`DepGraph.Rebuild.Word` lists the six shapes that it can have. They are read off the endings of a
rebuild, and from there on nothing is performed any more: that a word is **disciplined**
(`DepGraph.Rebuild.Disciplined`) is a matter of its shape alone.

* A session and a transaction come first, and then a beginning of the **course** of a transaction
  (`DepGraph.Rebuild.course`): the graph is cleared, the files are put, the dependencies are put,
  and all this is committed.
* An edge is only put between files that were put before it.
* A transaction that was begun is committed or rolled back, never both, and that is the end of it;
  the rebuild returns if it was committed.

An ingestion asks nothing of the store before its files are discovered, and then what its rebuild
asks (`DepGraph.Ingestion.disciplined_ingest`).
-/

namespace DepGraph

namespace Rebuild

/-! ### Words -/

/-- How a transaction is opened. -/
def opened : List Operation := [.openSession, .begin]

/-- The **words** of a rebuild that has some queries to ask: what it asks of the store, and whether
it returned. -/
inductive Word (failures : Failures) (queries : List Query) : Bool → List Operation → Prop
  /-- The rebuild may not start. -/
  | refused : Word failures queries false []
  /-- No session was opened. -/
  | unopened : Word failures queries false [.openSession]
  /-- No transaction was begun. -/
  | unbegun {f : Fault} (beginning : failures.beginning = some f) :
    Word failures queries false opened
  /-- The transaction was rolled back after some of the queries. -/
  | broken (asked : List Query) (beginning : failures.beginning = none) (part : asked <+: queries) :
    Word failures queries false (opened ++ asked.map .query ++ [.rollback])
  /-- The transaction was not committed and rolled back. -/
  | uncommitted {f : Fault} (beginning : failures.beginning = none)
    (committing : failures.committing = some f) :
    Word failures queries false (opened ++ queries.map .query ++ [.commit] ++ [.rollback])
  /-- The transaction was committed. -/
  | committed (beginning : failures.beginning = none) (committing : failures.committing = none) :
    Word failures queries true (opened ++ queries.map .query ++ [.commit])

section Word

variable {failures : Failures} {n : Int} {read : FileReader} {files : List SourceFile}
variable {run : Option Run} {store : Store}

/-- A script without a fault asked all its queries. -/
theorem operations_of_whole {plan : Plan} (whole : (plan.perform failures store).fault = none) :
    (plan.perform failures store).operations = (queriesOf plan.steps).map .query := by
  rw [perform_of_calm (hazards_eq_nil_of_whole whole)]

/-- **What a rebuild asks of the store is a word.** -/
theorem word_rebuild :
    Word failures (queriesOf (script n read files).steps)
      (rebuild failures n read files run store).outcome.isOk
      (rebuild failures n read files run store).operations := by
  generalize hb : rebuild failures n read files run store = b
  have ending := hb ▸ ending_rebuild
  -- a setback leaves a rollback behind, and before it all or some of the queries
  have setback {f : Fault} {after : List RunState} {operations : List Operation}
      (beginning : failures.beginning = none)
      (h : Setback failures ((script n read files).perform failures store) f after operations) :
      Word failures (queriesOf (script n read files).steps) false
        ([.openSession, .begin] ++ ((script n read files).perform failures store).operations ++
          (operations ++ [.rollback])) := by
    cases h with
    | stopped fault =>
      obtain ⟨asked, part, asks⟩ : ∃ asked, asked <+: queriesOf (script n read files).steps ∧
          ((script n read files).perform failures store).operations = asked.map .query :=
        exists_operations_perform
      rw [asks]
      exact .broken asked beginning part
    | uncommitted whole committing =>
      rw [operations_of_whole whole]
      have word : Word failures (queriesOf (script n read files).steps) false _ :=
        .uncommitted beginning committing
      simpa [opened] using word
  cases ending with
  | refused => exact .refused
  | unopened => exact .unopened
  | unbegun f start opening beginning => exact .unbegun beginning
  | undone f after operations start opening beginning h => exact setback beginning h
  | abandoned f g after operations start opening beginning h => exact setback beginning h
  | committed start opening beginning whole committing =>
    simp only [performed, operations_of_whole whole]
    exact .committed beginning committing

end Word

/-! ### Discipline -/

/-- The **course** of a transaction: it clears the graph, puts some parsed files and then some
dependencies, and is committed. -/
def course (n : Int) (parsed : List ReadFile) (ds : List Dependency) : List Operation :=
  .query .clear :: parsed.map (fun p => .query (putFile n p)) ++
    ds.map (fun d => .query (.mergeDependency d)) ++ [.commit]

/-- A transaction was **begun** in a word. -/
def Begun (failures : Failures) (word : List Operation) : Prop :=
  .begin ∈ word ∧ failures.beginning = none

/-- A transaction was **committed** in a word. -/
def Committed (failures : Failures) (word : List Operation) : Prop :=
  .commit ∈ word ∧ failures.committing = none

/-- An operation **closes** its transaction: it rolls it back, or commits it with success. -/
def Closes (failures : Failures) (o : Operation) : Prop :=
  o = .rollback ∨ o = .commit ∧ failures.committing = none

/-- A word is **linked** if an edge is only put where files were put at both its ends before. -/
def Linked (word : List Operation) : Prop :=
  ∀ before d, before ++ [.query (.mergeDependency d)] <+: word →
    ∀ path ∈ [d.source, d.target], ∃ snippet, .query (.mergeFile path snippet) ∈ before

/-- The word of a rebuild, which returned or did not, is **disciplined** for some parsed files. -/
structure Disciplined (failures : Failures) (n : Int) (parsed : List ReadFile) (returned : Bool)
    (word : List Operation) : Prop where
  /-- A session is opened and a transaction is begun, and then its course is followed as far as that
  goes, up to a rollback. -/
  follows : word <+: opened ∨
    ∃ ds done, done <+: course n parsed ds ∧
      (word = opened ++ done ∨ word = opened ++ done ++ [.rollback])
  /-- Edges are put between files that were put before. -/
  linked : Linked word
  /-- Nothing is begun, committed or rolled back twice. -/
  once : ∀ o ∈ [Operation.begin, .commit, .rollback], word.count o ≤ 1
  /-- The rebuild returned if its transaction was committed. -/
  returned_iff : returned = true ↔ Committed failures word
  /-- What is rolled back is what was begun and not committed. -/
  rollback_iff : .rollback ∈ word ↔ Begun failures word ∧ ¬Committed failures word
  /-- Nothing follows what closes the transaction. -/
  closed : ∀ before o, Closes failures o → before ++ [o] <+: word → before ++ [o] = word

section Linked

variable {word more : List Operation} {o : Operation}

/-- What a linked word begins with is linked. -/
theorem Linked.of_prefix (linked : Linked more) (h : word <+: more) : Linked word :=
  fun before d hd => linked before d (hd.trans h)

/-- A linked word may go on with anything but an edge. -/
theorem Linked.concat (linked : Linked word) (h : ∀ d, o ≠ .query (.mergeDependency d)) :
    Linked (word ++ [o]) := by
  intro before d hd
  rcases List.prefix_concat_iff.mp hd with same | earlier
  · exact absurd (List.append_inj' same rfl).2 (by simpa using (h d).symm)
  · exact linked before d earlier

/-- Whatever does not hold an operation stands before it. -/
theorem prefix_of_notMem {first before rest : List Operation} (h : before ++ [o] <+: first ++ rest)
    (ho : o ∉ first) : first <+: before := by
  rcases List.prefix_or_prefix_of_prefix h (List.prefix_append first rest) with inside | beyond
  · exact absurd (inside.subset (by simp)) ho
  · rcases List.prefix_concat_iff.mp beyond with rfl | part
    · exact absurd (by simp) ho
    · exact part

end Linked

section Script

variable {failures : Failures} {n : Int} {read : FileReader} {files : List SourceFile}
variable {returned : Bool} {word : List Operation}

/-- The course of a transaction asks the queries of a script, and is committed. -/
theorem map_query_script :
    (queriesOf (script n read files).steps).map .query ++ [.commit] =
      course n (parsedFiles read files) (Graph.ofFiles n read files).edges := by
  simp [queriesOf_script, edges_script, course, Function.comp_def]

/-- **The queries of a script are linked**: both ends of an edge are parsed files, and these are put
before all edges. -/
theorem linked_script : Linked (opened ++ (queriesOf (script n read files).steps).map .query) := by
  intro before d hd path hp
  let first : List Operation :=
    opened ++ (.query .clear :: (parsedFiles read files).map (fun p => .query (putFile n p)))
  have split : opened ++ (queriesOf (script n read files).steps).map .query =
      first ++ (Graph.ofFiles n read files).edges.map (fun d => .query (.mergeDependency d)) := by
    simp [first, queriesOf_script, edges_script, Function.comp_def]
  rw [split] at hd
  have later : .query (.mergeDependency d) ∉ first := by simp [first, opened, putFile]
  have edge : d ∈ (Graph.ofFiles n read files).edges := by
    have asked := hd.subset (List.mem_append_right before (List.mem_singleton_self _))
    simpa [later] using asked
  have ends : path ∈ (parsedFiles read files).map (·.path) := by
    obtain ⟨hs, ht⟩ := ends_mem_of_mem_edges edge
    rcases List.mem_cons.mp hp with rfl | hp
    · exact hs
    · exact List.mem_singleton.mp hp ▸ ht
  obtain ⟨p, parsed, rfl⟩ := List.mem_map.mp ends
  have put : .query (.mergeFile p.path (snippetOf n p.content)) ∈ first :=
    List.mem_append_right _ (List.mem_cons_of_mem _ (List.mem_map.mpr ⟨p, parsed, rfl⟩))
  exact ⟨snippetOf n p.content, (prefix_of_notMem hd later).subset put⟩

/-- **A word of a script is linked.** -/
theorem Word.linked (h : Word failures (queriesOf (script n read files).steps) returned word) :
    Linked word := by
  have all : Linked (opened ++ (queriesOf (script n read files).steps).map .query) := linked_script
  cases h with
  | refused => exact all.of_prefix List.nil_prefix
  | unopened => exact all.of_prefix (by simp [opened])
  | unbegun => exact all.of_prefix (List.prefix_append _ _)
  | broken asked beginning part =>
    refine (all.of_prefix ?_).concat (by simp)
    exact (List.prefix_append_right_inj _).mpr (part.map _)
  | uncommitted => exact (all.concat (by simp)).concat (by simp)
  | committed => exact all.concat (by simp)

/-- A word that nothing closes may be closed by one more operation, and that is the end of it. -/
theorem eq_of_closes {before : List Operation} {o last : Operation}
    (unclosed : ∀ o ∈ word, ¬Closes failures o) (closes : Closes failures o)
    (h : before ++ [o] <+: word ++ [last]) : before ++ [o] = word ++ [last] := by
  rcases List.prefix_concat_iff.mp h with same | earlier
  · exact same
  · exact absurd closes (unclosed o (earlier.subset (by simp)))

/-- Opening a transaction and asking queries closes nothing. -/
theorem not_closes_of_mem {asked : List Query} :
    ∀ o ∈ opened ++ asked.map .query, ¬Closes failures o := by
  rintro o ho (rfl | ⟨rfl, -⟩)
  · simp [opened] at ho
  · simp [opened] at ho

/-- The **longest** word: the transaction is rolled back after all. -/
def longest (queries : List Query) : List Operation :=
  opened ++ queries.map .query ++ [.commit] ++ [.rollback]

/-- Every word is part of the longest one. -/
theorem Word.sublist {queries : List Query} (h : Word failures queries returned word) :
    word.Sublist (longest queries) := by
  cases h with
  | refused => exact List.nil_sublist _
  | unopened => simp [longest, opened]
  | unbegun => simp [longest, opened]
  | broken asked beginning part =>
    have some : (opened ++ asked.map Operation.query).Sublist
        (opened ++ queries.map .query ++ [.commit]) :=
      ((part.map _).sublist.append_left opened).trans (List.sublist_append_left _ _)
    exact some.append_right _
  | uncommitted => exact List.Sublist.refl _
  | committed => exact List.sublist_append_left _ _

/-- In the longest word a transaction is begun, committed and rolled back once. -/
theorem count_longest {o : Operation} {queries : List Query}
    (ho : o ∈ [Operation.begin, .commit, .rollback]) : (longest queries).count o = 1 := by
  have quiet : (queries.map Operation.query).count o = 0 := by
    refine List.count_eq_zero.mpr fun hq => ?_
    obtain ⟨q, -, rfl⟩ := List.mem_map.mp hq
    simp at ho
  simp only [List.mem_cons, List.not_mem_nil, or_false] at ho
  rcases ho with rfl | rfl | rfl
  · simp [longest, opened, quiet]
  · simp [longest, opened, quiet]
  · simp [longest, opened, quiet]

/-- **A word of a script is disciplined.** -/
theorem Word.disciplined (h : Word failures (queriesOf (script n read files).steps) returned word) :
    Disciplined failures n (parsedFiles read files) returned word where
  follows := by
    have whole : (queriesOf (script n read files).steps).map .query ++ [.commit] =
        course n (parsedFiles read files) (Graph.ofFiles n read files).edges := map_query_script
    cases h with
    | refused => exact Or.inl List.nil_prefix
    | unopened => exact Or.inl (by simp [opened])
    | unbegun => exact Or.inl List.prefix_rfl
    | broken asked beginning part =>
      refine Or.inr ⟨(Graph.ofFiles n read files).edges, asked.map .query, ?_, Or.inr rfl⟩
      rw [← whole]
      exact (part.map _).trans (List.prefix_append _ _)
    | uncommitted =>
      refine Or.inr ⟨(Graph.ofFiles n read files).edges, _, List.prefix_rfl, Or.inr ?_⟩
      rw [← whole, List.append_assoc opened]
    | committed =>
      refine Or.inr ⟨(Graph.ofFiles n read files).edges, _, List.prefix_rfl, Or.inl ?_⟩
      rw [← whole, List.append_assoc]
  linked := h.linked
  once o ho := Nat.le_trans (h.sublist.count_le o) (Nat.le_of_eq (count_longest ho))
  returned_iff := by
    cases h with
    | refused => simp [Committed]
    | unopened => simp [Committed]
    | unbegun => simp [Committed, opened]
    | broken => simp [Committed, opened]
    | uncommitted beginning committing => simp [Committed, committing]
    | committed beginning committing => simp [Committed, committing]
  rollback_iff := by
    cases h with
    | refused => simp [Begun]
    | unopened => simp [Begun]
    | unbegun beginning => simp [Begun, opened, beginning]
    | broken asked beginning part => simp [Begun, Committed, opened, beginning]
    | uncommitted beginning committing =>
      simp [Begun, Committed, opened, beginning, committing]
    | committed beginning committing => simp [Begun, Committed, opened, beginning, committing]
  closed := by
    intro before o closes part
    cases h with
    | refused => simp at part
    | unopened =>
      have unclosed : ∀ o ∈ ([] : List Operation), ¬Closes failures o := by simp
      exact eq_of_closes unclosed closes part
    | unbegun =>
      have unclosed : ∀ o ∈ [Operation.openSession], ¬Closes failures o := by simp [Closes]
      exact eq_of_closes unclosed closes part
    | broken asked => exact eq_of_closes not_closes_of_mem closes part
    | uncommitted beginning committing =>
      refine eq_of_closes (fun o ho => ?_) closes part
      rcases List.mem_append.mp ho with ho | ho
      · exact not_closes_of_mem o ho
      · obtain rfl := List.mem_singleton.mp ho
        simp [Closes, committing]
    | committed => exact eq_of_closes not_closes_of_mem closes part

end Script

end Rebuild

/-! ### Ingestions -/

namespace Ingestion

/-- An ingestion **discovers** some files: it acquires a repository, and its survey lists them. -/
def Discovers (service : Service) (clone : CloneOutcome) (repoUrl : String)
    (directories : RunDirectories) (files : List SourceFile) : Prop :=
  directories.obstacle = none ∧
    ∃ c, acquire (cloneCall service repoUrl (placeFor service directories)) clone = .ok c ∧
      surveyOf service c = .ok files

/-- **Every ingestion keeps the discipline of a transaction.** It asks nothing of the store, not
even a session, unless it discovers its files, and then its word is disciplined for those of them
that can be parsed. -/
theorem disciplined_ingest (service : Service) (failures : Failures) (clone : CloneOutcome)
    (repoUrl : String) (directories : RunDirectories) (store : Store) :
    let r := ingest service failures clone repoUrl directories store
    ((¬∃ files, Discovers service clone repoUrl directories files) → r.operations = []) ∧
      ∀ files, Discovers service clone repoUrl directories files →
        Rebuild.Disciplined failures service.settings.snippetLength
          (Rebuild.parsedFiles service.registry.fileReader files) r.outcome.isOk
          r.operations := by
  intro r
  have ending : Ending service failures clone repoUrl directories store r := ending_ingest
  cases ending with
  | homeless flaw obstacle leaves =>
    refine ⟨fun _ => leaves.operations, ?_⟩
    rintro files ⟨housed, -⟩
    cases housed.symm.trans obstacle
  | unacquired f obstacle acquired leaves =>
    refine ⟨fun _ => leaves.operations, ?_⟩
    rintro files ⟨-, c, acquired', -⟩
    cases acquired.symm.trans acquired'
  | unsurveyed c f obstacle acquired surveyed leaves =>
    refine ⟨fun _ => leaves.operations, ?_⟩
    rintro files ⟨-, c', acquired', surveyed'⟩
    obtain rfl := Except.ok.inj (acquired.symm.trans acquired')
    cases surveyed.symm.trans surveyed'
  | rebuilt c files obstacle acquired surveyed leaves =>
    refine ⟨fun undiscovered => ?_, ?_⟩
    · exact absurd ⟨files, obstacle, c, acquired, surveyed⟩ undiscovered
    · rintro files' ⟨-, c', acquired', surveyed'⟩
      obtain rfl := Except.ok.inj (acquired.symm.trans acquired')
      obtain rfl := Except.ok.inj (surveyed.symm.trans surveyed')
      rw [leaves.operations, leaves.outcome]
      exact Rebuild.word_rebuild.disciplined

/-- A file that names another one. -/
def namingBytes : Bytes := "import b\n".toUTF8.toList

/-- A clone of two files with an edge between them. -/
def linkedClone : CloneOutcome :=
  .checkout (.directory [("a.py", .file namingBytes), ("b.py", .file [])]) none

/-- The files, where they are cloned to. -/
def linkedFiles : List SourceFile :=
  [⟨"a.py", placeFor quietService { root := "ws" } ++ "/" ++ "a.py", some namingBytes⟩,
    ⟨"b.py", placeFor quietService { root := "ws" } ++ "/" ++ "b.py", some []⟩]

/-- A store that refuses to commit. -/
def refusingCommit : Failures where
  committing := some (.foreign .runtime "commit refused")

/-- A store that refuses the query that puts the second file. -/
def refusingSecondFile : Failures where
  querying number := if number = 3 then some (.foreign .runtime "query refused") else none

/-- The files of the clone are discovered. -/
theorem discovers_linkedFiles :
    Discovers quietService linkedClone "r" { root := "ws" } linkedFiles := by
  refine ⟨rfl, ⟨_, none, .directory [("a.py", .file namingBytes), ("b.py", .file [])]⟩, rfl, ?_⟩
  have eligible : isEligible "a.py" = true ∧ isEligible "b.py" = true := by decide
  obtain ⟨rules, compiled, first, second⟩ : ∃ rules, Ignore.Rules.ofExtra [] = .ok rules ∧
      rules.ignoresFile "a.py" = false ∧ rules.ignoresFile "b.py" = false :=
    ⟨_, rfl, by decide +kernel, by decide +kernel⟩
  have sorted (found found' : List SourceFile) :
      [("a.py", found), ("b.py", found')].mergeSort Survey.byName =
        [("a.py", found), ("b.py", found')] := by
    have order : ¬"b.py" < "a.py" := by decide
    exact List.mergeSort_of_pairwise (List.pairwise_pair.mpr (by simp [Survey.byName, order]))
  simp [surveyOf, Except.mapError, Survey.take, Survey.ofTree, Survey.nestingAll,
    Survey.nesting, Survey.filesIn, Survey.visitAll, Survey.visit, Survey.Filter.ofRules,
    Survey.below, eligible, compiled, first, second, sorted, bind, Except.bind, quietService,
    cloneCall, linkedFiles, pure, Except.pure]

/-- What the ingestion of the clone comes to. -/
def linkedIngested (failures : Failures) : Ingested :=
  ingest quietService failures linkedClone "r" { root := "ws" } {}

/-- Where the commit is refused, the two files and the edge between them were put, and all is rolled
back. So it is where a query is refused, before there is an edge. Where nothing is cloned, nothing
is asked of the store. -/
theorem disciplined_ingest_linkedFiles :
    Discovers quietService linkedClone "r" { root := "ws" } linkedFiles ∧
      (∀ failures, Rebuild.Disciplined failures quietService.settings.snippetLength
        (Rebuild.parsedFiles quietService.registry.fileReader linkedFiles)
        (linkedIngested failures).outcome.isOk (linkedIngested failures).operations) ∧
      (linkedIngested refusingCommit).operations =
        [.openSession, .begin, .query .clear,
          .query (.mergeFile "a.py" (Text.ofString "import b\n")), .query (.mergeFile "b.py" []),
          .query (.mergeDependency ⟨"a.py", "b.py"⟩), .commit, .rollback] ∧
      (linkedIngested refusingSecondFile).operations =
        [.openSession, .begin, .query .clear,
          .query (.mergeFile "a.py" (Text.ofString "import b\n")), .query (.mergeFile "b.py" []),
          .rollback] ∧
      (ingest quietService {} .nothing "r" { root := "ws" } {}).operations = [] := by
  obtain ⟨-, c, acquired, surveyed⟩ := discovers_linkedFiles
  have asked (failures : Failures) : (linkedIngested failures).operations =
      (rebuildOf quietService failures "r" linkedFiles {}).operations :=
    (eq_rebuildOf_of_surveyed rfl acquired surveyed).2.1
  refine ⟨discovers_linkedFiles, fun failures => ?_, ?_, ?_, ?_⟩
  · exact (disciplined_ingest quietService failures linkedClone "r" { root := "ws" } {}).2 _
      discovers_linkedFiles
  · rw [asked]
    decide +kernel
  · rw [asked]
    decide +kernel
  · refine (disciplined_ingest quietService {} .nothing "r" { root := "ws" } {}).1 ?_
    rintro ⟨files, -, c, acquired, -⟩
    cases acquired

end Ingestion

end DepGraph
