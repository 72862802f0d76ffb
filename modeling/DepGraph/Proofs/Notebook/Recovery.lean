import DepGraph.Proofs.Json.Nesting
import DepGraph.Proofs.Reading
import DepGraph.Proofs.Rebuild.Contents
import DepGraph.Proofs.Text.Decoding

/-!
# Which notebooks are recovered

A notebook is not always what it should be: its bytes may be no text, the text no JSON, the document
without cells, and there may be no file at all. A file is *recovered*
(`DepGraph.Notebook.Recovered`) if all of that comes down to two answers. If it holds code, this is
its content, and nothing is told of it; otherwise the content is empty, and it is told once that the
notebook cannot be read.

Every notebook is recovered but those whose arrays and objects are nested more deeply than they are
read. Such a notebook has no content, be it malformed or not, and this is the only fault that the
reading of a notebook can end with. That is so whatever the limit on the depth is
(`DepGraph.Notebook.recoveredWithin_iff`), in particular for the one that the service has
(`DepGraph.Notebook.recovered_iff`).
-/

namespace DepGraph

namespace Notebook

variable {limit : Nat} {file : SourceFile} {bytes : Bytes} {text : Text}

/-! ### Bytes -/

/-- Bytes **have code** if they are a JSON text in UTF-8, however deeply nested, of a document with
this code. -/
def HasCode (bytes : Bytes) (text : Text) : Prop :=
  ∃ cs depth document, bytes = Utf8.encodeChars cs ∧
    Json.Denotes depth (Json.kinds (Json.tokens cs)) document ∧ code document = .ok text

/-- Bytes **nest deeper** than a limit if they are a text in UTF-8 in which arrays and objects
start, one in the other, more of them than that. -/
def NestsDeeper (limit : Nat) (bytes : Bytes) : Prop :=
  ∃ cs, bytes = Utf8.encodeChars cs ∧ Json.OverNested limit (Json.kinds (Json.tokens cs))

/-- Bytes **nest too deeply** if they nest deeper than they are read. -/
def NestsTooDeep (bytes : Bytes) : Prop := NestsDeeper Json.depthLimit bytes

/-- Characters are known by their bytes. -/
theorem encodeChars_inj {cs ds : List Char} :
    Utf8.encodeChars cs = Utf8.encodeChars ds ↔ cs = ds := by
  refine ⟨fun h => ?_, congrArg _⟩
  exact Except.ok.inj ((Utf8.decode_eq_ok_iff.mpr rfl).symm.trans (Utf8.decode_eq_ok_iff.mpr h))

/-- **The code of a notebook is taken in three steps**: its bytes are decoded, read and searched. -/
theorem ofBytesWithin_eq_ok_iff_steps : ofBytesWithin limit bytes = .ok text ↔
    ∃ cs document, Utf8.decode bytes = .ok cs ∧ Json.readWithin limit cs = .ok document ∧
      code document = .ok text := by
  unfold ofBytesWithin
  cases decoded : Utf8.decode bytes with
  | error u => simp [bind, Except.bind, Except.mapError]
  | ok cs =>
    cases read : Json.readWithin limit cs with
    | error r => simp [bind, Except.bind, Except.mapError, read]
    | ok document =>
      cases found : code document <;>
        simp [bind, Except.bind, Except.mapError, read, found]

/-- A flaw of a document is another fault than that of depth. -/
theorem Flaw.fault_ne_tooDeep (flaw : Flaw) : flaw.fault ≠ .tooDeep := by
  cases flaw <;> simp [Flaw.fault, Fault.absent]

/-- The fault of depth arises in the second step, and only there. -/
theorem ofBytesWithin_eq_tooDeep_iff_steps : ofBytesWithin limit bytes = .error .tooDeep ↔
    ∃ cs, Utf8.decode bytes = .ok cs ∧ Json.readWithin limit cs = .error .tooDeep := by
  unfold ofBytesWithin
  cases decoded : Utf8.decode bytes with
  | error u => simp [bind, Except.bind, Except.mapError]
  | ok cs =>
    cases read : Json.readWithin limit cs with
    | error r =>
      by_cases deep : r = .tooDeep <;> simp [bind, Except.bind, Except.mapError, read, deep]
    | ok document =>
      cases found : code document <;>
        simp [bind, Except.bind, Except.mapError, read, found, Flaw.fault_ne_tooDeep]

/-- **The code of bytes** is what they have as code, if they do not nest deeper than they are read.
-/
theorem ofBytesWithin_eq_ok_iff :
    ofBytesWithin limit bytes = .ok text ↔ HasCode bytes text ∧ ¬NestsDeeper limit bytes := by
  rw [ofBytesWithin_eq_ok_iff_steps]
  constructor
  · rintro ⟨cs, document, decoded, read, found⟩
    obtain rfl := Utf8.decode_eq_ok_iff.mp decoded
    obtain ⟨⟨depth, denotes⟩, shallow⟩ := Json.denotes_iff.mp (Json.readWithin_eq_ok_iff.mp read)
    refine ⟨⟨cs, depth, document, rfl, denotes, found⟩, ?_⟩
    rintro ⟨ds, same, deep⟩
    obtain rfl := encodeChars_inj.mp same
    exact shallow deep
  · rintro ⟨⟨cs, depth, document, rfl, denotes, found⟩, shallow⟩
    exact ⟨cs, document, Utf8.decode_eq_ok_iff.mpr rfl, Json.readWithin_eq_ok_iff.mpr
      (Json.denotes_iff.mpr ⟨⟨depth, denotes⟩, fun deep => shallow ⟨cs, rfl, deep⟩⟩), found⟩

/-- **The fault of depth** is that of the bytes that nest deeper than they are read, and of no
others. -/
theorem ofBytesWithin_eq_tooDeep_iff :
    ofBytesWithin limit bytes = .error .tooDeep ↔ NestsDeeper limit bytes := by
  rw [ofBytesWithin_eq_tooDeep_iff_steps]
  exact exists_congr fun cs =>
    and_congr Utf8.decode_eq_ok_iff Json.readWithin_eq_tooDeep_iff

/-! ### Files -/

/-- A notebook is recovered, where notebooks are read up to a depth, if its content is the code that
its bytes have, or is empty, with the one event that the notebook cannot be read. -/
structure RecoveredWithin (limit : Nat) (file : SourceFile) : Prop where
  /-- The code, of which nothing is told. -/
  code : ∀ bytes ∈ file.bytes, ∀ text, HasCode bytes text →
    file.contentWithin limit = .ok (text, [])
  /-- The empty content, where no bytes are stored, or no code is in them. -/
  empty : (∀ bytes ∈ file.bytes, ¬∃ text, HasCode bytes text) →
    ∃ message, file.contentWithin limit = .ok ([], [.unreadable file.path message])

/-- A notebook is **recovered** if it is where notebooks are read as deeply as they are. -/
def Recovered (file : SourceFile) : Prop := RecoveredWithin Json.depthLimit file

/-- A notebook whose code can be taken has it as its content. -/
theorem contentWithin_of_ok (notebook : isNotebook file.path = true) (stored : bytes ∈ file.bytes)
    (h : ofBytesWithin limit bytes = .ok text) : file.contentWithin limit = .ok (text, []) := by
  simp [SourceFile.contentWithin, SourceFile.stored, notebook, Option.mem_def.mp stored,
    Except.bind, h]

/-- A notebook that nests deeper than it is read has no content. -/
theorem contentWithin_of_deeper (notebook : isNotebook file.path = true)
    (stored : bytes ∈ file.bytes) (deep : NestsDeeper limit bytes) :
    file.contentWithin limit = .error .tooDeep := by
  simp [SourceFile.contentWithin, SourceFile.stored, notebook, Option.mem_def.mp stored,
    Except.bind, ofBytesWithin_eq_tooDeep_iff.mpr deep]

/-- A notebook with another fault has the empty content. -/
theorem contentWithin_of_error {f : Fault} (notebook : isNotebook file.path = true)
    (h : file.stored.bind (ofBytesWithin limit) = .error f) (other : f ≠ .tooDeep) :
    file.contentWithin limit = .ok ([], [.unreadable file.path f.message]) := by
  rw [SourceFile.contentWithin, if_pos notebook, h]
  cases f <;> simp at other ⊢

/-- **A notebook that does not nest deeper than it is read is recovered.** -/
theorem recoveredWithin_of_shallow (notebook : isNotebook file.path = true)
    (shallow : ¬∃ bytes ∈ file.bytes, NestsDeeper limit bytes) : RecoveredWithin limit file where
  code bytes stored text h := by
    have taken : ofBytesWithin limit bytes = .ok text :=
      ofBytesWithin_eq_ok_iff.mpr ⟨h, fun deep => shallow ⟨bytes, stored, deep⟩⟩
    exact contentWithin_of_ok notebook stored taken
  empty none := by
    cases stored : file.bytes with
    | none =>
      have missing : file.stored.bind (ofBytesWithin limit) =
          .error (.place .missing file.place) := by
        rw [SourceFile.stored, stored]
        rfl
      exact ⟨_, contentWithin_of_error notebook missing (by simp)⟩
    | some bytes =>
      have taken : file.stored.bind (ofBytesWithin limit) = ofBytesWithin limit bytes := by
        rw [SourceFile.stored, stored]
        rfl
      cases h : ofBytesWithin limit bytes with
      | ok text => exact absurd ⟨text, (ofBytesWithin_eq_ok_iff.mp h).1⟩ (none bytes stored)
      | error f =>
        refine ⟨f.message, contentWithin_of_error notebook (taken.trans h) ?_⟩
        rintro rfl
        exact shallow ⟨bytes, stored, ofBytesWithin_eq_tooDeep_iff.mp h⟩

/-- A recovered notebook has a content. -/
theorem RecoveredWithin.exists_content (h : RecoveredWithin limit file) :
    ∃ read, file.contentWithin limit = .ok read := by
  by_cases some : ∃ bytes ∈ file.bytes, ∃ text, HasCode bytes text
  · obtain ⟨bytes, stored, text, found⟩ := some
    exact ⟨_, h.code bytes stored text found⟩
  · obtain ⟨message, content⟩ := h.empty fun bytes stored found => some ⟨bytes, stored, found⟩
    exact ⟨_, content⟩

/-- A notebook that nests deeper than it is read is not recovered. -/
theorem not_recoveredWithin_of_deeper (notebook : isNotebook file.path = true)
    (stored : bytes ∈ file.bytes) (deep : NestsDeeper limit bytes) :
    ¬RecoveredWithin limit file := by
  intro h
  obtain ⟨read, content⟩ := h.exists_content
  rw [contentWithin_of_deeper notebook stored deep] at content
  cases content

/-- **A notebook that nests deeper than it is read keeps every rebuild from returning** that reads
it. -/
theorem rebuild_ne_ok_of_deeper {failures : Failures} {n : Int} {r : Syntax.Registry}
    {files : List SourceFile} {run : Option Run} {store : Store} {stats : RebuildSummary}
    (notebook : isNotebook file.path = true) (stored : bytes ∈ file.bytes)
    (deep : NestsDeeper limit bytes) (member : file ∈ files) :
    (rebuild failures n (r.fileReaderWithin limit) files run store).outcome ≠ .ok stats := by
  intro returned
  obtain ⟨-, -, -, reads⟩ := Rebuild.returned_of_outcome_ok returned
  obtain ⟨read, taken⟩ := reads file member
  have failed := contentWithin_of_deeper notebook stored deep
  rw [Reading.fileReaderWithin_eq_error_iff.mpr failed] at taken
  cases taken

/-- **Whatever the limit on the depth is, every notebook is recovered that does not nest deeper.** A
notebook that does has no content, well-formed or not; it is the only one that a reader fails on,
and no rebuild of files that it is among returns. -/
theorem recoveredWithin_iff (limit : Nat) (file : SourceFile)
    (notebook : isNotebook file.path = true) :
    (RecoveredWithin limit file ↔ ¬∃ bytes ∈ file.bytes, NestsDeeper limit bytes) ∧
    (∀ (r : Syntax.Registry) (f : Fault), r.fileReaderWithin limit file = .error f ↔
      (∃ bytes ∈ file.bytes, NestsDeeper limit bytes) ∧ f = .tooDeep) ∧
    ((∃ bytes ∈ file.bytes, NestsDeeper limit bytes) →
      file.contentWithin limit = .error .tooDeep ∧
      ∀ failures n (r : Syntax.Registry) files run store stats, file ∈ files →
        (rebuild failures n (r.fileReaderWithin limit) files run store).outcome ≠ .ok stats) := by
  refine ⟨⟨fun h ⟨_, stored, deep⟩ => not_recoveredWithin_of_deeper notebook stored deep h,
    recoveredWithin_of_shallow notebook⟩, fun r f => ?_, fun ⟨bytes, stored, deep⟩ =>
      ⟨contentWithin_of_deeper notebook stored deep, fun _ _ _ _ _ _ _ member =>
        rebuild_ne_ok_of_deeper notebook stored deep member⟩⟩
  rw [Reading.fileReaderWithin_eq_error_iff]
  refine ⟨fun h => ?_, fun ⟨⟨bytes, stored, deep⟩, own⟩ =>
    own ▸ contentWithin_of_deeper notebook stored deep⟩
  by_cases some : ∃ bytes ∈ file.bytes, NestsDeeper limit bytes
  · obtain ⟨bytes, stored, deep⟩ := some
    have content := contentWithin_of_deeper notebook stored deep
    exact ⟨⟨bytes, stored, deep⟩, Except.error.inj (h.symm.trans content)⟩
  · obtain ⟨read, content⟩ := (recoveredWithin_of_shallow notebook some).exists_content
    rw [content] at h
    cases h

/-- **Every notebook is recovered, but for those that nest too deeply.** Such a notebook has no
content, well-formed or not; it is the only one that a reader fails on, and no rebuild of files that
it is among returns. -/
theorem recovered_iff (file : SourceFile) (notebook : isNotebook file.path = true) :
    (Recovered file ↔ ¬∃ bytes ∈ file.bytes, NestsTooDeep bytes) ∧
    (∀ (r : Syntax.Registry) (f : Fault), r.fileReader file = .error f ↔
      (∃ bytes ∈ file.bytes, NestsTooDeep bytes) ∧ f = .tooDeep) ∧
    ((∃ bytes ∈ file.bytes, NestsTooDeep bytes) → file.content = .error .tooDeep ∧
      ∀ failures n (r : Syntax.Registry) files run store stats, file ∈ files →
        (rebuild failures n r.fileReader files run store).outcome ≠ .ok stats) :=
  recoveredWithin_iff Json.depthLimit file notebook

/-! ### Notebooks of brackets -/

/-- A notebook of brackets, none of which is closed. -/
def brackets (n : Nat) : SourceFile where
  path := "deep.ipynb"
  place := "/repo/deep.ipynb"
  bytes := some (Utf8.encodeChars (List.replicate n '['))

/-- It nests deeper than a limit if it has more brackets than that. -/
theorem nestsDeeper_brackets {n : Nat} (many : limit < n) :
    NestsDeeper limit (Utf8.encodeChars (List.replicate n '[')) := by
  refine ⟨_, rfl, ?_⟩
  rw [Json.tokens, Json.kinds_tokensFrom_replicate]
  exact Json.overNested_replicate many

theorem isNotebook_brackets (n : Nat) : isNotebook (brackets n).path = true := by
  change isNotebook "deep.ipynb" = true
  decide +kernel

theorem recovered_iff_brackets :
    isNotebook (brackets 1).path = true ∧ Recovered (brackets 1) ∧
      isNotebook (brackets 5000).path = true ∧ ¬Recovered (brackets 5000) := by
  refine ⟨isNotebook_brackets 1, (recovered_iff _ (isNotebook_brackets 1)).1.mpr ?_,
    isNotebook_brackets 5000, fun h => ?_⟩
  · rintro ⟨bytes, stored, cs, same, deep⟩
    obtain rfl : bytes = Utf8.encodeChars ['['] := (Option.mem_some.mp stored).symm
    obtain rfl := encodeChars_inj.mp same
    have read : Json.readWithin Json.depthLimit ['['] = .error (.malformed .expectedValue 1) := rfl
    rw [Json.readWithin_eq_tooDeep_iff.mpr deep] at read
    cases read
  · exact (recovered_iff _ (isNotebook_brackets 5000)).1.mp h
      ⟨_, rfl, nestsDeeper_brackets (by decide)⟩

/-- **Not every notebook is recovered.** -/
theorem not_forall_recovered :
    ¬∀ file : SourceFile, isNotebook file.path = true → Recovered file := by
  intro h
  have notebook := isNotebook_brackets 5000
  exact not_recoveredWithin_of_deeper notebook rfl (nestsDeeper_brackets (by decide)) (h _ notebook)

end Notebook

end DepGraph
