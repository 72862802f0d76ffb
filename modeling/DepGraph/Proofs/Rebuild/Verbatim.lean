import DepGraph.Proofs.Reading
import DepGraph.Proofs.Rebuild.Ending
import DepGraph.Proofs.Text.WellFormed
import Mathlib.Data.List.Nodup

/-!
# Files that reach their grammar byte for byte

Between a file that is no notebook and its grammar there are two conversions: the bytes are decoded
to a content, and the content is encoded again, as a grammar reads bytes. The second undoes the
first (`DepGraph.Reading.encode_of_content`), so that line ends and byte order marks arrive as they
are. There is a content exactly for the well-formed bytes (`DepGraph.Reading.exists_content_iff`);
for all others the reader fails with the fault of decoding, and a rebuild that reads the file stops
there and does not tell that the file could not be parsed.
-/

namespace DepGraph

namespace Reading

variable {r : Syntax.Registry} {file : SourceFile} {bytes : Bytes} {text : Text}
variable {told : List Event} {f : Fault}

/-! ### The content of a file that is no notebook -/

/-- The content of a file that is no notebook is what its bytes are decoded to. -/
theorem content_of_plain (stored : bytes ∈ file.bytes) (plain : isNotebook file.path = false) :
    file.content =
      match Utf8.decode bytes with
      | .ok cs => .ok (Text.ofChars cs, [])
      | .error u => .error (.undecodable u) := by
  have found : file.stored = .ok bytes := by
    rw [SourceFile.stored, Option.mem_def.mp stored]
  rw [SourceFile.content, SourceFile.contentWithin, if_neg (by simp [plain]), found]
  simp only [bind, Except.bind]
  cases Utf8.decode bytes <;> rfl

/-- **There is a content for the well-formed bytes**, and for no others. -/
theorem exists_content_iff (stored : bytes ∈ file.bytes) (plain : isNotebook file.path = false) :
    (∃ read, file.content = .ok read) ↔ Utf8.WellFormed bytes := by
  rw [← Utf8.exists_decode_iff, content_of_plain stored plain]
  cases Utf8.decode bytes <;> simp

/-- **The content is encoded to the bytes that it was decoded from**, and nothing is told of it. -/
theorem encode_of_content (stored : bytes ∈ file.bytes) (plain : isNotebook file.path = false)
    (content : file.content = .ok (text, told)) :
    told = [] ∧ Utf8.encode text = .ok bytes := by
  rw [content_of_plain stored plain] at content
  cases decoded : Utf8.decode bytes with
  | error u => simp [decoded] at content
  | ok cs =>
    simp only [decoded, Except.ok.injEq, Prod.mk.injEq] at content
    obtain ⟨rfl, rfl⟩ := content
    refine ⟨rfl, ?_⟩
    rw [Utf8.encode, Text.chars?_ofChars, Utf8.decode_eq_ok_iff.mp decoded]

/-- Bytes that are not well-formed are the fault of decoding. -/
theorem content_of_not_wellFormed (stored : bytes ∈ file.bytes)
    (plain : isNotebook file.path = false) (flawed : ¬Utf8.WellFormed bytes) :
    ∃ u, file.content = .error (.undecodable u) := by
  rw [← Utf8.exists_decode_iff] at flawed
  rw [content_of_plain stored plain]
  cases decoded : Utf8.decode bytes with
  | ok cs => exact absurd ⟨cs, decoded⟩ flawed
  | error u => exact ⟨u, rfl⟩

/-- **A grammar is handed the bytes of a text**: what comes of the text is what it makes of them. -/
theorem parse_of_encode {path : String} (encoded : Utf8.encode text = .ok bytes) :
    r.parse path text =
      if r.crashing.contains (.ofPath path) then .error Syntax.crash
      else (r.parser (r.serving (.ofPath path)) bytes).map fun root =>
        { tag := .ofPath path, grammar := r.serving (.ofPath path), root } := by
  simp only [Syntax.Registry.parse, encoded, Except.mapError, bind, Except.bind]
  split
  · rfl
  · cases r.parser (r.serving (.ofPath path)) bytes <;> rfl

/-! ### Files that cannot be read -/

/-- **A file without content is not told to be unparsed**, in no rebuild of files with distinct
paths. -/
theorem unparsed_notMem_of_content_error {failures : Failures} {n : Int} {files : List SourceFile}
    {run : Option Run} {store : Store} {message : String} (content : file.content = .error f)
    (member : file ∈ files) (distinct : (files.map (·.path)).Nodup) :
    .unparsed file.path message ∉ (rebuild failures n r.fileReader files run store).events := by
  intro h
  rcases Rebuild.tells_or_isTold_of_mem_rebuild h with ⟨other, hf, read, events, hr, he⟩ | told
  · -- only the reading of a file with the same path could tell so, and that is this file
    have same : other.path = file.path := by
      cases comes_fileReader hr with
      | skipped first message' notebook =>
        rcases List.mem_append.mp he with he | he
        · obtain ⟨_, own⟩ := notebook _ he
          cases own
        · exact (Event.unparsed.inj (List.mem_singleton.mp he)).1.symm
      | parsed p first last own notebook patterns =>
        rcases List.mem_append.mp he with he | he
        · obtain ⟨_, own⟩ := notebook _ he
          cases own
        · obtain ⟨_, _, _, own⟩ := patterns _ he
          cases own
    obtain rfl := List.inj_on_of_nodup_map distinct hf member same
    rw [fileReader_eq_error_iff.mpr content] at hr
    cases hr
  · cases told

/-- **Source files reach their grammar byte for byte.** A file that is stored and is no notebook has
a content if and only if its bytes are well-formed, and then the grammar that serves its language is
handed exactly these bytes, whatever it makes of them. Otherwise the reader fails with the fault of
decoding; a rebuild stops at the file without a word, and never tells that the file could not be
parsed. -/
theorem handed_verbatim (r : Syntax.Registry) (file : SourceFile) (bytes : Bytes)
    (stored : bytes ∈ file.bytes) (plain : isNotebook file.path = false) :
    ((∃ read, file.content = .ok read) ↔ Utf8.WellFormed bytes) ∧
    (∀ text told, file.content = .ok (text, told) →
      told = [] ∧ Utf8.encode text = .ok bytes ∧
        r.parse file.path text =
          if r.crashing.contains (.ofPath file.path) then .error Syntax.crash
          else (r.parser (r.serving (.ofPath file.path)) bytes).map fun root =>
            { tag := .ofPath file.path, grammar := r.serving (.ofPath file.path), root }) ∧
    (¬Utf8.WellFormed bytes → ∃ u, file.content = .error (.undecodable u) ∧
      r.fileReader file = .error (.undecodable u) ∧
      (∀ failures t n known rest,
        Rebuild.perform failures t (Rebuild.fileSteps n known r.fileReader file ++ rest) =
          ⟨t, [], [], some (.undecodable u)⟩) ∧
      ∀ failures n files run store message, file ∈ files → (files.map (·.path)).Nodup →
        .unparsed file.path message ∉ (rebuild failures n r.fileReader files run store).events) := by
  refine ⟨exists_content_iff stored plain, fun text told content => ?_, fun flawed => ?_⟩
  · obtain ⟨quiet, encoded⟩ := encode_of_content stored plain content
    exact ⟨quiet, encoded, parse_of_encode encoded⟩
  · obtain ⟨u, content⟩ := content_of_not_wellFormed stored plain flawed
    have failed : r.fileReader file = .error (.undecodable u) := fileReader_eq_error_iff.mpr content
    refine ⟨u, content, failed, fun failures t n known rest => ?_,
      fun failures n files run store message member distinct =>
        unparsed_notMem_of_content_error content member distinct⟩
    rw [Rebuild.fileSteps, failed]
    rfl

/-- A script with these bytes. -/
def scriptOf (bytes : Bytes) : SourceFile where
  path := "a.js"
  place := "/repo/a.js"
  bytes := some bytes

theorem isNotebook_scriptOf (bytes : Bytes) : isNotebook (scriptOf bytes).path = false := by
  change isNotebook "a.js" = false
  decide +kernel

/-- A byte order mark and a carriage return arrive; an encoded surrogate, an overlong slash and a
number beyond the last code point are refused. -/
theorem handed_verbatim_scripts :
    isNotebook "a.js" = false ∧
    (∃ text, (scriptOf [0xEF, 0xBB, 0xBF, 0x61, 0x0D, 0x0A]).content = .ok (text, []) ∧
      Utf8.encode text = .ok [0xEF, 0xBB, 0xBF, 0x61, 0x0D, 0x0A]) ∧
    ∀ bytes ∈ [[0xED, 0xA0, 0x80], [0xC0, 0xAF], [0xF4, 0x90, 0x80, 0x80], [0xE2, 0x82]],
      ∃ u, ({} : Syntax.Registry).fileReader (scriptOf bytes) = .error (.undecodable u) := by
  refine ⟨isNotebook_scriptOf [], ?_, fun bytes h => ?_⟩
  · obtain ⟨text, read⟩ : ∃ text, (scriptOf [0xEF, 0xBB, 0xBF, 0x61, 0x0D, 0x0A]).content =
        .ok (text, []) :=
      ⟨_, content_of_plain (Option.mem_some_self _) (isNotebook_scriptOf _)⟩
    obtain ⟨-, verbatim, -⟩ :=
      handed_verbatim {} _ _ (Option.mem_some_self _) (isNotebook_scriptOf _)
    exact ⟨text, read, (verbatim _ _ read).2.1⟩
  · have flawed : ¬Utf8.WellFormed bytes := by
      rw [← Utf8.exists_decode_iff]
      have refusals : [[0xED, 0xA0, 0x80], [0xC0, 0xAF], [0xF4, 0x90, 0x80, 0x80], [0xE2, 0x82]].all
          (fun bytes => !(Utf8.decode bytes).isOk) = true := by decide
      have refusal := List.all_eq_true.mp refusals bytes h
      rintro ⟨cs, decoded⟩
      rw [decoded] at refusal
      cases refusal
    obtain ⟨-, -, refused⟩ :=
      handed_verbatim {} (scriptOf bytes) bytes (Option.mem_some_self _) (isNotebook_scriptOf _)
    obtain ⟨u, -, failed, -⟩ := refused flawed
    exact ⟨u, failed⟩

end Reading

end DepGraph
