import DepGraph.Proofs.Ingestion.Discipline
import DepGraph.Proofs.Reading
import DepGraph.Proofs.Rebuild.Contents
import DepGraph.Proofs.Text.Decoding
import DepGraph.Proofs.Text.Encoding

/-!
# What a rebuild makes of surrogates

The content of a notebook may hold halves of surrogate pairs. As a grammar reads bytes, such a
content is not parsed: the file is left out (`DepGraph.Reading.fileReader_of_not_whole`), and the
rebuild goes on with the next one (`DepGraph.Rebuild.perform_fileSteps_of_not_whole`). So whatever
is parsed is whole (`DepGraph.Reading.ofCharacters_of_fileReader`), with everything that is taken
from it: the snippets that are written, which are cut between code points and never within one, and
the specifiers that are resolved (`DepGraph.Rebuild.whole_rebuild`).
-/

namespace DepGraph

/-! ### Reading -/

namespace Reading

variable {r : Syntax.Registry} {file : SourceFile} {p : ReadFile} {text : Text} {path : String}
variable {told : List Event}

/-- Of the bytes of some characters a grammar makes the tree of the characters. -/
@[simp] theorem treeOfBytes_encodeChars (grammar : Language) (cs : List Char) :
    Syntax.treeOfBytes grammar (Utf8.encodeChars cs) = Syntax.treeOf grammar cs := by
  rw [Syntax.treeOfBytes, Utf8.decode_eq_ok_iff.mpr rfl]
  rfl

/-- A file was read **as characters** if its content is made of characters, and its specifiers are
those of the tree that the grammar of its language makes of their bytes. -/
def OfCharacters (r : Syntax.Registry) (p : ReadFile) : Prop :=
  ∃ cs root, p.content = Text.ofChars cs ∧
    r.parser (r.serving (.ofPath p.path)) (Utf8.encodeChars cs) = .ok root ∧
    p.specifiers = (Syntax.extract
      { tag := .ofPath p.path, grammar := r.serving (.ofPath p.path), root }).1

/-- The content of a file that was read as characters is whole. -/
theorem OfCharacters.whole (h : OfCharacters r p) : p.content.Whole := by
  obtain ⟨cs, root, content, -⟩ := h
  exact content ▸ Text.whole_ofChars cs

/-- The fault of parsing a text that is not whole. -/
def surrogateFault (text : Text) : Fault := .unencodable (Utf8.firstSurrogates text)

/-- A text that is not whole is not parsed. -/
theorem parse_of_not_whole (half : ¬text.Whole) :
    r.parse path text = .error (surrogateFault text) := by
  simp only [Syntax.Registry.parse, Utf8.encode_of_not_whole half, Except.mapError, bind,
    Except.bind, surrogateFault]

/-- What was parsed is the tree that the grammar makes of its characters. -/
theorem exists_chars_of_parse {parsed : Syntax.Parsed} (h : r.parse path text = .ok parsed) :
    ∃ cs root, text = Text.ofChars cs ∧
      r.parser (r.serving (.ofPath path)) (Utf8.encodeChars cs) = .ok root ∧
      parsed = { tag := .ofPath path, grammar := r.serving (.ofPath path), root } := by
  by_cases whole : text.Whole
  · obtain ⟨cs, bytes, rfl, encoded, decoded⟩ := Utf8.exists_encode_of_whole whole
    obtain rfl : bytes = Utf8.encodeChars cs := Utf8.decode_eq_ok_iff.mp decoded
    simp only [Syntax.Registry.parse, encoded, Except.mapError, bind, Except.bind] at h
    split at h
    · cases h
    · cases made : r.parser (r.serving (.ofPath path)) (Utf8.encodeChars cs) with
      | error f => simp [made] at h
      | ok root =>
        simp only [made] at h
        exact ⟨cs, root, rfl, made, (Except.ok.inj h).symm⟩
  · rw [parse_of_not_whole whole] at h
    cases h

/-- **A file whose content is not whole is left out**, and it is told why. -/
theorem fileReader_of_not_whole (content : file.content = .ok (text, told))
    (half : ¬text.Whole) :
    r.fileReader file =
      .ok (none, told ++ [.unparsed file.path (surrogateFault text).message]) := by
  simp only [fileReader_eq, content, parse_of_not_whole half]

/-- **A file that is parsed was read as characters.** -/
theorem ofCharacters_of_fileReader (h : r.fileReader file = .ok (some p, told)) :
    OfCharacters r p := by
  rw [fileReader_eq] at h
  cases hc : file.content with
  | error f => simp [hc] at h
  | ok c =>
    cases hp : r.parse file.path c.1 with
    | error f => simp [hc, hp] at h
    | ok parsed =>
      obtain ⟨cs, root, content, made, rfl⟩ := exists_chars_of_parse hp
      simp only [hc, hp, Except.ok.injEq, Prod.mk.injEq, Option.some.injEq] at h
      obtain ⟨rfl, -⟩ := h
      exact ⟨cs, root, content, made, rfl⟩

end Reading

/-- What is put at a path is the new node, and the others stay. -/
theorem Graph.mem_putNode {path : String} {snippet : Text} {nodes : List FileNode}
    {node : FileNode} (h : node ∈ Graph.putNode path snippet nodes) :
    node ∈ nodes ∨ node = ⟨path, snippet⟩ := by
  induction nodes with
  | nil => exact Or.inr (List.mem_singleton.mp h)
  | cons first nodes ih =>
    unfold putNode at h
    split at h
    · exact (List.mem_cons.mp h).symm.imp_left (List.mem_cons_of_mem _)
    · rcases List.mem_cons.mp h with rfl | h
      · exact Or.inl List.mem_cons_self
      · exact (ih h).imp_left (List.mem_cons_of_mem _)

namespace Rebuild

open Reading

/-! ### Performing the steps of one file -/

section Performing

variable {failures : Failures} {t : Transaction} {rest : List Step}

/-- Telling something does nothing to a transaction. -/
theorem perform_told (events : List Event) :
    perform failures t (events.map .tell ++ rest) =
      { perform failures t rest with events := events ++ (perform failures t rest).events } := by
  induction events with
  | nil => rfl
  | cons e events ih => rw [List.map_cons, List.cons_append, perform, ih, List.cons_append]

/-- **A file whose content is not whole does not stop a rebuild**: it is told that it could not be
parsed, and the transaction goes on as if the file were not there. -/
theorem perform_fileSteps_of_not_whole {r : Syntax.Registry} {file : SourceFile} {text : Text}
    {told : List Event} (n : Int) (known : String → Bool)
    (content : file.content = .ok (text, told)) (half : ¬text.Whole) :
    perform failures t (fileSteps n known r.fileReader file ++ rest) =
      { perform failures t rest with
        events := told ++ [.unparsed file.path (surrogateFault text).message] ++
          (perform failures t rest).events } := by
  rw [fileSteps, fileReader_of_not_whole content half]
  exact perform_told _

end Performing

/-! ### Where the texts of a rebuild come from -/

section Sources

variable {failures : Failures} {n : Int} {read : FileReader} {r : Syntax.Registry}
variable {files : List SourceFile} {run : Option Run} {store : Store} {p : ReadFile}

/-- A parsed file was read from one of the files. -/
theorem exists_file_of_mem_parsedFiles (h : p ∈ parsedFiles read files) :
    ∃ file ∈ files, ∃ told, read file = .ok (some p, told) := by
  obtain ⟨file, hf, h⟩ := List.mem_filterMap.mp h
  match hr : read file with
  | .error f => simp [hr] at h
  | .ok (none, told) => simp [hr] at h
  | .ok (some q, told) =>
    obtain rfl : q = p := by simpa [hr] using h
    exact ⟨file, hf, told, hr⟩

/-- The parsed files were read as characters. -/
theorem ofCharacters_of_mem_parsedFiles (h : p ∈ parsedFiles r.fileReader files) :
    OfCharacters r p := by
  obtain ⟨file, -, told, hr⟩ := exists_file_of_mem_parsedFiles h
  exact ofCharacters_of_fileReader hr

/-- A snippet is the start of a content. -/
theorem prefix_snippetOf (n : Int) (content : Text) : snippetOf n content <+: content := by
  unfold snippetOf
  split
  · exact List.take_prefix _ _
  · exact List.take_prefix _ _

/-- A file that is put is one of the parsed files. -/
theorem exists_parsed_of_mergeFile_mem {path : String} {snippet : Text}
    (h : .query (.mergeFile path snippet) ∈
      (rebuild failures n read files run store).operations) :
    ∃ p ∈ parsedFiles read files, path = p.path ∧ snippet = snippetOf n p.content := by
  have asked := word_rebuild.sublist.subset h
  simp only [longest, opened, queriesOf_script, List.mem_append, List.mem_map, List.mem_cons,
    List.not_mem_nil, reduceCtorEq, or_false, false_or, Operation.query.injEq, exists_eq_right,
    putFile, Query.mergeFile.injEq, and_false, exists_false] at asked
  obtain ⟨p, hp, path, snippet⟩ := asked
  exact ⟨p, hp, path.symm, snippet.symm⟩

/-- What is put among nodes is the node of a parsed file. -/
theorem mem_putFiles {parsed : List ReadFile} {nodes : List FileNode} {node : FileNode}
    (h : node ∈ putFiles n parsed nodes) : node ∈ nodes ∨ ∃ p ∈ parsed, node = nodeOf n p := by
  induction parsed generalizing nodes with
  | nil => exact Or.inl h
  | cons p parsed ih =>
    rcases ih h with h | ⟨q, hq, rfl⟩
    · exact (Graph.mem_putNode h).imp_right fun new => ⟨p, List.mem_cons_self, new⟩
    · exact Or.inr ⟨q, List.mem_cons_of_mem _ hq, rfl⟩

/-- What a rebuild tells of its own script is in the script. -/
theorem tell_mem_script_of_mem_rebuild {e : Event} (scripted : isScripted e = true)
    (h : e ∈ (rebuild failures n read files run store).events) :
    .tell e ∈ (script n read files).steps := by
  generalize hb : rebuild failures n read files run store = b at h
  have ending := hb ▸ ending_rebuild
  have notOfRun {states : List RunState} : e ∉ tellingsOf states run := by
    intro he
    cases run with
    | none => simp [tellingsOf] at he
    | some r =>
      obtain ⟨s, -, rfl⟩ := List.mem_map.mp he
      cases scripted
  have notRolledBack (kind message : String) : e ≠ .rolledBack kind message := by
    rintro rfl
    cases scripted
  have notCommitted (counts : Counts) : e ≠ .committed counts := by
    rintro rfl
    cases scripted
  cases ending with
  | refused => simp at h
  | unopened => exact absurd h notOfRun
  | unbegun => simp [notOfRun, notRolledBack] at h
  | undone =>
    exact mem_of_mem_perform_events
      (by simpa [performed, Plan.perform, notOfRun, notRolledBack] using h)
  | abandoned =>
    exact mem_of_mem_perform_events (by simpa [performed, Plan.perform, notOfRun] using h)
  | committed =>
    exact mem_of_mem_perform_events
      (by simpa [performed, Plan.perform, notOfRun, notCommitted] using h)

end Sources

/-! ### Everything is whole -/

/-- The path and the specifier of an event that tells what came of **resolving** it. -/
def resolving? : Event → Option (String × String)
  | .resolved path specifier _ | .dropped path specifier => some (path, specifier)
  | _ => none

section Whole

variable {failures : Failures} {n : Int} {r : Syntax.Registry}
variable {files : List SourceFile} {run : Option Run} {store : Store}

/-- **A specifier that is resolved** is one of a parsed file. -/
theorem exists_parsed_of_resolving {e : Event} {path specifier : String}
    (h : e ∈ (rebuild failures n r.fileReader files run store).events)
    (resolving : resolving? e = some (path, specifier)) :
    ∃ p ∈ parsedFiles r.fileReader files, p.path = path ∧ specifier ∈ p.specifiers := by
  obtain ⟨scripted, notOfReading⟩ : isScripted e = true ∧ isOfReading e = false := by
    cases e <;> first | exact ⟨rfl, rfl⟩ | cases resolving
  have told := tell_mem_script_of_mem_rebuild scripted h
  simp only [script, List.mem_append, List.mem_cons, List.mem_flatMap, List.mem_map,
    List.not_mem_nil, or_false, reduceCtorEq, false_or, Step.tell.injEq] at told
  rcases told with (rfl | ⟨file, hf, told⟩) | ⟨d, -, told⟩
  · cases resolving
  · have ofReading {read : Option ReadFile} {events : List Event}
        (hr : r.fileReader file = .ok (read, events)) : e ∉ events := by
      intro he
      have reading : isOfReading e = true := isOfReading_of_tells ⟨file, hf, read, events, hr, he⟩
      exact absurd reading (by simp [notOfReading])
    simp only [fileSteps] at told
    cases hr : r.fileReader file with
    | error f => simp [hr] at told
    | ok read =>
      obtain ⟨_ | p, events⟩ := read
      · simp [hr, ofReading hr] at told
      · simp only [hr, List.mem_append, List.mem_map, List.mem_cons, Step.tell.injEq, reduceCtorEq,
          false_or, List.not_mem_nil, or_false, exists_eq_right, ofReading hr] at told
        rcases told with rfl | ⟨s, hs, rfl⟩
        · cases resolving
        · have parsed : p ∈ parsedFiles r.fileReader files :=
            List.mem_filterMap.mpr ⟨file, hf, by simp [hr]⟩
          have same : resolving? (resolutionEvent (knows files) p.path s) = some (p.path, s) := by
            unfold resolutionEvent
            split <;> rfl
          obtain ⟨rfl, rfl⟩ := Prod.mk.inj (Option.some.inj (same.symm.trans resolving))
          exact ⟨p, parsed, rfl, hs⟩
  · unfold edgeStep at told
    split at told
    · cases told
    · obtain rfl := Step.tell.inj told
      cases resolving

/-- A rebuild **keeps whole** what is stored. -/
theorem whole_graph (before : ∀ node ∈ store.graph.nodes, node.snippet.Whole) :
    ∀ node ∈ (rebuild failures n r.fileReader files run store).store.graph.nodes,
      node.snippet.Whole := by
  cases outcome : (rebuild failures n r.fileReader files run store).outcome with
  | error f => rwa [graph_of_outcome_error outcome]
  | ok stats =>
    rw [(returned_of_outcome_ok outcome).1]
    intro node h
    rcases mem_putFiles h with h | ⟨p, hp, rfl⟩
    · cases h
    · exact (ofCharacters_of_mem_parsedFiles hp).whole.of_prefix (prefix_snippetOf n p.content)

/-- A file whose content is not whole is among those that are left out. -/
theorem mem_skipped_of_not_whole {file : SourceFile} {text : Text} {told : List Event}
    {stats : RebuildSummary} (hf : file ∈ files) (content : file.content = .ok (text, told))
    (half : ¬text.Whole)
    (returned : (rebuild failures n r.fileReader files run store).outcome = .ok stats) :
    file.path ∈ stats.skipped := by
  rw [(returned_of_outcome_ok returned).2.2.1]
  exact List.mem_filterMap.mpr ⟨file, hf, by simp [fileReader_of_not_whole content half]⟩

end Whole

/-- **All text that a rebuild handles is whole.** A snippet that it writes has no halves of
surrogate pairs in it, wherever it is cut, and so what is stored stays whole; a specifier that it
resolves comes from a file that was read as characters. A file whose content is not whole is told
not to be parsed and is left out, and the transaction goes on as if it were not there. -/
theorem whole_rebuild (failures : Failures) (n : Int) (r : Syntax.Registry)
    (files : List SourceFile) (run : Option Run) (store : Store) :
    let b := rebuild failures n r.fileReader files run store
    (∀ path snippet, .query (.mergeFile path snippet) ∈ b.operations → snippet.Whole) ∧
    ((∀ node ∈ store.graph.nodes, node.snippet.Whole) →
      ∀ node ∈ b.store.graph.nodes, node.snippet.Whole) ∧
    (∀ e ∈ b.events, ∀ path specifier, resolving? e = some (path, specifier) →
      (Text.ofString specifier).Whole ∧ ∃ p ∈ parsedFiles r.fileReader files, p.path = path ∧
        specifier ∈ p.specifiers ∧ OfCharacters r p) ∧
    ∀ file ∈ files, ∀ text told, file.content = .ok (text, told) → ¬text.Whole →
      (∀ failures' t rest,
        perform failures' t (fileSteps n (knows files) r.fileReader file ++ rest) =
          { perform failures' t rest with
            events := told ++ [.unparsed file.path (surrogateFault text).message] ++
              (perform failures' t rest).events }) ∧
      ∀ stats, b.outcome = .ok stats → file.path ∈ stats.skipped := by
  intro b
  refine ⟨fun path snippet h => ?_, whole_graph, fun e he path specifier resolving => ?_,
    fun file hf text told content half => ⟨fun _ _ _ => ?_, fun stats returned => ?_⟩⟩
  · obtain ⟨p, hp, -, rfl⟩ := exists_parsed_of_mergeFile_mem h
    exact (ofCharacters_of_mem_parsedFiles hp).whole.of_prefix (prefix_snippetOf n p.content)
  · obtain ⟨p, hp, path, specifier⟩ := exists_parsed_of_resolving he resolving
    exact ⟨Text.whole_ofChars _, p, hp, path, specifier, ofCharacters_of_mem_parsedFiles hp⟩
  · exact perform_fileSteps_of_not_whole n (knows files) content half
  · exact mem_skipped_of_not_whole hf content half returned

/-- A notebook with one code cell, whose source is written in JSON. -/
def oneCellNotebook (path source : String) : SourceFile where
  path := path
  place := "/" ++ path
  bytes := some ("\x7b\"cells\":[\x7b\"cell_type\":\"code\",\"source\":\"" ++ source ++
    "\"\x7d]\x7d").toUTF8.toList

/-- A notebook with both halves of a surrogate pair, and one with the first half alone. -/
def halvedNotebooks : List SourceFile :=
  [oneCellNotebook "both.ipynb" "\\ud83d\\ude00+1", oneCellNotebook "half.ipynb" "1+\\ud83d"]

/-- Two halves together are one character, and it is stored even where no more than one is. The
notebook with one half is left out. -/
theorem whole_rebuild_halvedNotebooks :
    let b := rebuild {} 1 ({} : Syntax.Registry).fileReader halvedNotebooks none {}
    b.outcome = .ok ⟨2, 1, 0, ["half.ipynb"]⟩ ∧
      b.store.graph.nodes = [⟨"both.ipynb", Text.ofString "😀"⟩] ∧
      (∀ node ∈ b.store.graph.nodes, node.snippet.Whole) ∧
      ∃ file ∈ halvedNotebooks, ∃ text, file.content = .ok (text, []) ∧ ¬text.Whole ∧
        ∀ stats, b.outcome = .ok stats → file.path ∈ stats.skipped := by
  intro b
  have returned : b.outcome = .ok ⟨2, 1, 0, ["half.ipynb"]⟩ :=
    eq_ok_of_toOption (by decide +kernel)
  have file : oneCellNotebook "half.ipynb" "1+\\ud83d" ∈ halvedNotebooks := by
    simp [halvedNotebooks]
  have content : (oneCellNotebook "half.ipynb" "1+\\ud83d").content =
      .ok (Text.ofString "1+" ++ [⟨0xD83D, by decide⟩], []) := eq_ok_of_toOption (by decide +kernel)
  have half : ¬Text.Whole (Text.ofString "1+" ++ [⟨0xD83D, by decide⟩]) := fun whole =>
    absurd (whole ⟨0xD83D, by decide⟩ (by simp)) (by decide)
  obtain ⟨-, stored, -, left⟩ :=
    whole_rebuild {} 1 ({} : Syntax.Registry) halvedNotebooks none {}
  exact ⟨returned, by decide +kernel, stored (List.forall_mem_nil _), _, file, _, content, half,
    (left _ file _ _ content half).2⟩

end Rebuild

end DepGraph
