import DepGraph.Proofs.Rebuild.Script

/-!
# The reader of a registry

What `DepGraph.Syntax.Registry.fileReader` makes of a file is written out once
(`DepGraph.Reading.fileReader_eq`), and what comes of it, with all that is told, is one of two
things (`DepGraph.Reading.Comes`). From there on the reader is known by its properties: it gives the
file back under its own path (`DepGraph.Reading.keepsPath_fileReader`), it tells of the reading of
the file and of nothing else (`DepGraph.Reading.isOfReading_of_tells`), and a file that was found on
disk it reads alike wherever that is (`DepGraph.Reading.fileReader_relocate`).
-/

namespace DepGraph

namespace Reading

variable {r : Syntax.Registry} {file : SourceFile} {files : List SourceFile} {e : Event}
variable {limit : Nat}

/-- **The steps of the reader**, one by one, however deeply notebooks are read. -/
theorem fileReaderWithin_eq :
    r.fileReaderWithin limit file =
      match file.contentWithin limit with
      | .error f => .error f
      | .ok (content, events) =>
        match r.parse file.path content with
        | .error f => .ok (none, events ++ [.unparsed file.path f.message])
        | .ok parsed =>
          .ok (some { path := file.path, content, specifiers := (Syntax.extract parsed).1 },
            events ++ (Syntax.extract parsed).2) := by
  unfold Syntax.Registry.fileReaderWithin
  cases file.contentWithin limit with
  | error f => rfl
  | ok c =>
    simp only [bind, Except.bind]
    cases r.parse file.path c.1 <;> rfl

/-- **The steps of the reader**, one by one. -/
theorem fileReader_eq :
    r.fileReader file =
      match file.content with
      | .error f => .error f
      | .ok (content, events) =>
        match r.parse file.path content with
        | .error f => .ok (none, events ++ [.unparsed file.path f.message])
        | .ok parsed =>
          .ok (some { path := file.path, content, specifiers := (Syntax.extract parsed).1 },
            events ++ (Syntax.extract parsed).2) :=
  fileReaderWithin_eq

/-- **The reader fails where there is no content**, with the same fault, and nowhere else. -/
theorem fileReaderWithin_eq_error_iff {f : Fault} :
    r.fileReaderWithin limit file = .error f ↔ file.contentWithin limit = .error f := by
  rw [fileReaderWithin_eq]
  cases content : file.contentWithin limit with
  | error g => simp
  | ok c => cases parsed : r.parse file.path c.1 <;> simp [parsed]

theorem fileReader_eq_error_iff {f : Fault} :
    r.fileReader file = .error f ↔ file.content = .error f :=
  fileReaderWithin_eq_error_iff

/-! ### What comes of reading -/

/-- Taking the content of a file tells at most that it is an unreadable notebook. -/
theorem eq_unreadable_of_mem_content {text : Text} {events : List Event}
    (h : file.content = .ok (text, events)) (he : e ∈ events) :
    ∃ message, e = .unreadable file.path message := by
  unfold SourceFile.content SourceFile.contentWithin at h
  split at h
  · split at h
    · obtain ⟨-, rfl⟩ := Prod.mk.inj (Except.ok.inj h)
      simp at he
    · cases h
    · obtain ⟨-, rfl⟩ := Prod.mk.inj (Except.ok.inj h)
      exact ⟨_, List.mem_singleton.mp he⟩
  · cases hs : file.stored with
    | error f =>
      rw [hs] at h
      cases h
    | ok bytes =>
      cases hd : Utf8.decode bytes with
      | error u =>
        rw [hs] at h
        simp only [bind, Except.bind, hd] at h
        cases h
      | ok cs =>
        rw [hs] at h
        simp only [bind, Except.bind, hd] at h
        obtain ⟨-, rfl⟩ := Prod.mk.inj (Except.ok.inj h)
        simp at he

/-- Searching a tree for specifiers tells at most that the patterns do not fit. -/
theorem eq_misfit_of_mem_extract {parsed : Syntax.Parsed} (he : e ∈ (Syntax.extract parsed).2) :
    ∃ tag rootKind message, e = .misfit tag rootKind message := by
  simp only [Syntax.extract, Syntax.extractAs] at he
  split at he
  · exact ⟨_, _, _, List.mem_singleton.mp he⟩
  · simp at he

/-- What **comes of** reading a file that can be read: whether it is parsed or left out, and what
is told. -/
inductive Comes (file : SourceFile) : Option ReadFile → List Event → Prop
  /-- The file is left out, and it is told last that it could not be parsed. -/
  | skipped (first : List Event) (message : String)
    (notebook : ∀ e ∈ first, ∃ message, e = .unreadable file.path message) :
    Comes file none (first ++ [.unparsed file.path message])
  /-- The file is parsed. -/
  | parsed (p : ReadFile) (first last : List Event) (own : p.path = file.path)
    (notebook : ∀ e ∈ first, ∃ message, e = .unreadable file.path message)
    (patterns : ∀ e ∈ last, ∃ tag rootKind message, e = .misfit tag rootKind message) :
    Comes file (some p) (first ++ last)

/-- **What comes of the reader of a registry.** -/
theorem comes_fileReader {read : Option ReadFile} {events : List Event}
    (hr : r.fileReader file = .ok (read, events)) : Comes file read events := by
  rw [fileReader_eq] at hr
  cases hc : file.content with
  | error f => simp [hc] at hr
  | ok c =>
    obtain ⟨content, first⟩ := c
    have notebook := fun e (he : e ∈ first) => eq_unreadable_of_mem_content hc he
    cases hp : r.parse file.path content with
    | error f =>
      simp only [hc, hp, Except.ok.injEq, Prod.mk.injEq] at hr
      obtain ⟨rfl, rfl⟩ := hr
      exact .skipped first f.message notebook
    | ok parsed =>
      simp only [hc, hp, Except.ok.injEq, Prod.mk.injEq] at hr
      obtain ⟨rfl, rfl⟩ := hr
      exact .parsed _ first _ rfl notebook fun _ he => eq_misfit_of_mem_extract he

/-- **The reader of a registry keeps paths.** -/
theorem keepsPath_fileReader : r.fileReader.KeepsPath files := by
  intro file _ p events hr
  cases comes_fileReader hr with
  | parsed _ first last own => exact own

/-- The events that tell of the reading of a file, and of nothing else. -/
def isOfReading : Event → Bool
  | .unparsed _ _ | .unreadable _ _ | .misfit _ _ _ => true
  | _ => false

/-- **The reader of a registry tells of reading only.** -/
theorem isOfReading_of_tells (h : r.fileReader.Tells files e) : isOfReading e = true := by
  obtain ⟨file, -, read, events, hr, he⟩ := h
  cases comes_fileReader hr with
  | skipped first message notebook =>
    rcases List.mem_append.mp he with he | he
    · obtain ⟨_, rfl⟩ := notebook e he
      rfl
    · obtain rfl := List.mem_singleton.mp he
      rfl
  | parsed p first last own notebook patterns =>
    rcases List.mem_append.mp he with he | he
    · obtain ⟨_, rfl⟩ := notebook e he
      rfl
    · obtain ⟨_, _, _, rfl⟩ := patterns e he
      rfl

/-- **What is seen of reading a file** by a view that looks neither at notebooks nor at patterns:
that it could not be parsed, if it is left out, and nothing else. -/
theorem Comes.exists_filterMap {β : Type} {view : Event → Option β} {read : Option ReadFile}
    {events : List Event} (h : Comes file read events)
    (noNotebook : ∀ path message, view (.unreadable path message) = none)
    (noPattern : ∀ tag rootKind message, view (.misfit tag rootKind message) = none) :
    ∃ message, events.filterMap view =
      if read.isNone then (view (.unparsed file.path message)).toList else [] := by
  have blind {first : List Event}
      (notebook : ∀ e ∈ first, ∃ message, e = .unreadable file.path message) :
      first.filterMap view = [] := by
    refine List.filterMap_eq_nil_iff.mpr fun e he => ?_
    obtain ⟨message, rfl⟩ := notebook e he
    exact noNotebook _ _
  cases h with
  | skipped first message notebook =>
    refine ⟨message, ?_⟩
    rw [List.filterMap_append, blind notebook]
    cases hv : view (.unparsed file.path message) <;> simp [hv]
  | parsed p first last own notebook patterns =>
    refine ⟨"", ?_⟩
    rw [List.filterMap_append, blind notebook, List.nil_append]
    refine List.filterMap_eq_nil_iff.mpr fun e he => ?_
    obtain ⟨tag, rootKind, message, rfl⟩ := patterns e he
    exact noPattern _ _ _

/-! ### Where a file is on disk -/

/-- **A file that was found is read alike wherever it is**: its place only says what is missing. -/
theorem fileReader_relocate (place : String) (found : file.bytes.isSome) :
    r.fileReader { file with place } = r.fileReader file := by
  obtain ⟨bytes, hb⟩ := Option.isSome_iff_exists.mp found
  have content : SourceFile.content { file with place } = file.content := by
    simp [SourceFile.content, SourceFile.contentWithin, SourceFile.stored, hb]
  simp [fileReader_eq, content]

end Reading

end DepGraph
