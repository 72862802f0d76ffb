import DepGraph.Notebook
import Mathlib.Data.List.Basic

/-!
# What the code of a notebook depends on

A document is arbitrary, and so are its cells: they may be missing or of a wrong type, and so may
whatever a cell should hold. The code of a document can be taken if and only if there is something
in the place of its cells that can be gone through (`DepGraph.Notebook.Searchable`). Where this is
an array (`DepGraph.Notebook.Lists`), nothing but the texts of its *code cells* is seen
(`DepGraph.Notebook.code_of_lists`), so that documents can be compared by what they list:

* other values among the cells do not count, however many and wherever they are
  (`DepGraph.Notebook.Padded`);
* it does not matter whether the source of a cell is an array of lines or their text
  (`DepGraph.Notebook.joined`);
* the code of two lists of cells one after the other is the code of the first, a line break, and the
  code of the second, if there is a code cell in each of them.

All of it is in `DepGraph.Notebook.code_laws`.
-/

namespace DepGraph

namespace Notebook

variable {document cell : Json} {items more padded : List Json} {fields : Json.Fields}

/-! ### Documents and their cells -/

/-- A document is **searchable** if it is an object, and what stands in the place of its cells is an
array, an object or a string. -/
def Searchable (document : Json) : Prop :=
  ∃ fields cells, document = .obj fields ∧
    Json.Fields.get? fields (Text.ofString "cells") = some cells ∧
      ((∃ items, cells = .arr items) ∨ (∃ inner, cells = .obj inner) ∨ ∃ t, cells = .str t)

/-- A document **lists** these items if it is an object that has the array of them as its cells. -/
def Lists (document : Json) (items : List Json) : Prop :=
  ∃ fields, document = .obj fields ∧
    Json.Fields.get? fields (Text.ofString "cells") = some (.arr items)

/-- A value is a **code cell** if it is an object whose type of cell is code. -/
def IsCodeCell (cell : Json) : Prop :=
  ∃ fields, cell = .obj fields ∧
    Json.Fields.get? fields (Text.ofString "cell_type") = some (.ofString "code")

/-- Code cells are recognized. -/
theorem isCode_iff : isCode cell = true ↔ IsCodeCell cell := by
  have other (h : ∀ fields, cell ≠ .obj fields) : ¬IsCodeCell cell :=
    fun ⟨fields, own, _⟩ => h fields own
  cases cell with
  | obj fields =>
    simp only [isCode, Json.field?, IsCodeCell, Json.obj.injEq, exists_eq_left']
    cases Json.Fields.get? fields (Text.ofString "cell_type") with
    | none => simp
    | some value => cases value <;> simp [Json.ofString]
  | _ => simp [isCode, Json.field?, other]

/-- **Cells can be looked for** in the searchable documents, and in no others. -/
theorem exists_cells_iff : (∃ items, cells document = .ok items) ↔ Searchable document := by
  cases document with
  | obj fields =>
    simp only [cells, cellsName, Searchable, Json.obj.injEq, exists_and_left, exists_eq_left']
    cases Json.Fields.get? fields (Text.ofString "cells") with
    | none => simp
    | some value => cases value <;> simp
  | _ => simp [cells, Searchable]

/-- The cells of a document are the items that it lists. -/
theorem Lists.cells_eq (h : Lists document items) : cells document = .ok items := by
  obtain ⟨fields, rfl, found⟩ := h
  simp only [cells, cellsName, found]

/-! ### The code of what is listed -/

/-- The texts of the code cells among some values. -/
def texts (items : List Json) : List Text := (items.filter isCode).map source

/-- **The code of a document** is made of the texts of the code cells that it lists. -/
theorem code_of_lists (h : Lists document items) : code document = .ok (stacked (texts items)) := by
  simp [code, h.cells_eq, texts]

/-- The code of a document can be taken if its cells can be looked for. -/
theorem exists_code_iff : (∃ text, code document = .ok text) ↔ Searchable document := by
  rw [← exists_cells_iff]
  cases found : cells document <;> simp [code, found]

/-- Texts one after the other are stacked one after the other, if there are any on both sides. -/
theorem stacked_append {ts us : List Text} (left : ts ≠ []) (right : us ≠ []) :
    stacked (ts ++ us) = stacked ts ++ CodePoint.ofChar '\n' :: stacked us := by
  induction ts with
  | nil => exact absurd rfl left
  | cons t ts ih =>
    cases ts with
    | nil =>
      obtain ⟨u, us, rfl⟩ := List.exists_cons_of_ne_nil right
      rfl
    | cons t' ts =>
      calc stacked (t :: t' :: ts ++ us)
          = t ++ CodePoint.ofChar '\n' :: stacked (t' :: ts ++ us) := rfl
        _ = stacked (t :: t' :: ts) ++ CodePoint.ofChar '\n' :: stacked us := by
          rw [ih (by simp)]
          simp [stacked]

/-- There are texts where there is a code cell. -/
theorem texts_ne_nil (h : ∃ cell ∈ items, IsCodeCell cell) : texts items ≠ [] := by
  obtain ⟨cell, member, own⟩ := h
  have kept : cell ∈ items.filter isCode := List.mem_filter.mpr ⟨member, isCode_iff.mpr own⟩
  exact List.ne_nil_of_mem (List.mem_map_of_mem kept)

/-! ### Values that do not count -/

/-- Items are **padded** with values between them that are no code cells. -/
inductive Padded : List Json → List Json → Prop
  /-- Nothing, without padding. -/
  | nil : Padded [] []
  /-- An item is kept. -/
  | keep {items padded : List Json} (item : Json) (rest : Padded items padded) :
    Padded (item :: items) (item :: padded)
  /-- A value is put in. -/
  | pad {items padded : List Json} (value : Json) (other : ¬IsCodeCell value)
    (rest : Padded items padded) : Padded items (value :: padded)

/-- **Padding adds no texts.** -/
theorem Padded.texts_eq (h : Padded items padded) : texts padded = texts items := by
  induction h with
  | nil => rfl
  | keep item _ ih =>
    simp only [texts] at ih
    by_cases own : isCode item = true <;> simp [texts, own, ih]
  | pad value other _ ih =>
    have skipped : ¬isCode value = true := fun own => other (isCode_iff.mp own)
    simp only [texts] at ih
    simp [texts, skipped, ih]

/-! ### Two spellings of a source -/

/-- The strings among some values. -/
def strings (lines : List Json) : List Text :=
  lines.filterMap fun
    | .str t => some t
    | _ => none

/-- A cell in which the lines of the source are **joined** to one text. -/
def joined (fields : Json.Fields) (lines : List Json) : Json :=
  .obj (Json.Fields.set fields (Text.ofString "source") (.str (strings lines).flatten))

/-- The lines of a source are the strings in it. -/
theorem linesOf_eq_flatten (lines : List Json) : linesOf lines = (strings lines).flatten := by
  induction lines with
  | nil => rfl
  | cons line lines ih =>
    simp only [linesOf] at ih
    cases line <;> simp [linesOf, strings, ih]

/-- **Joining the lines of a source changes no texts.** -/
theorem texts_joined {lines : List Json}
    (found : Json.Fields.get? fields (Text.ofString "source") = some (.arr lines)) :
    texts (items ++ joined fields lines :: more) = texts (items ++ .obj fields :: more) := by
  have differ : Text.ofString "cell_type" ≠ Text.ofString "source" := by simp
  have type : isCode (joined fields lines) = isCode (.obj fields) := by
    simp only [isCode, Json.field?, joined, Json.Fields.get?_set_of_ne differ]
  have text : source (joined fields lines) = source (.obj fields) := by
    simp only [source, Json.field?, joined, Json.Fields.get?_set_self, found, linesOf_eq_flatten]
  cases own : isCode (.obj fields) <;> simp [texts, type, own, text]

/-! ### The laws -/

/-- **The code of a document depends on the texts of its code cells only.** It can be taken if and
only if the document is searchable. One code cell has the text of its source as its code; other
values among the cells, and the lines that a source is cut into, make no difference; and between the
codes of two lists of cells there is one line break. -/
theorem code_laws :
    (∀ document, (∃ text, code document = .ok text) ↔ Searchable document) ∧
    (∀ document cell text, Lists document [cell] → IsCodeCell cell →
      cell.field? "source" = some (.str text) → code document = .ok text) ∧
    (∀ document document' items padded, Lists document items → Lists document' padded →
      Padded items padded → code document' = code document) ∧
    (∀ document document' before fields lines after,
      Lists document (before ++ .obj fields :: after) →
      Lists document' (before ++ joined fields lines :: after) →
      Json.Fields.get? fields (Text.ofString "source") = some (.arr lines) →
        code document' = code document) ∧
    ∀ first second both items more, Lists first items → Lists second more →
      Lists both (items ++ more) → (∃ cell ∈ items, IsCodeCell cell) →
      (∃ cell ∈ more, IsCodeCell cell) →
        ∃ s t, code first = .ok s ∧ code second = .ok t ∧
          code both = .ok (s ++ CodePoint.ofChar '\n' :: t) := by
  refine ⟨fun document => exists_code_iff, fun document cell text lists own found => ?_,
    fun document document' items padded lists lists' pads => ?_,
    fun document document' before fields lines after lists lists' found => ?_,
    fun first second both items more lists lists' listsBoth some some' => ?_⟩
  · rw [code_of_lists lists]
    simp [texts, isCode_iff.mpr own, source, found, stacked]
  · rw [code_of_lists lists, code_of_lists lists', pads.texts_eq]
  · rw [code_of_lists lists, code_of_lists lists', texts_joined found]
  · refine ⟨_, _, code_of_lists lists, code_of_lists lists', ?_⟩
    rw [code_of_lists listsBoth, ← stacked_append (texts_ne_nil some) (texts_ne_nil some')]
    simp [texts]

/-- A document that lists these cells. -/
def documentOf (items : List Json) : Json := .obj [(Text.ofString "cells", .arr items)]

/-- A cell of this type with this source. -/
def cellOf (type : String) (source : Json) : Json :=
  .obj [(Text.ofString "cell_type", .ofString type), (Text.ofString "source", source)]

theorem lists_documentOf (items : List Json) : Lists (documentOf items) items :=
  ⟨_, rfl, rfl⟩

theorem isCodeCell_cellOf (source : Json) : IsCodeCell (cellOf "code" source) :=
  ⟨_, rfl, rfl⟩

/-- Of a heading, a null value, and two code cells, one with a number among its lines, the lines and
the text of the code cells remain. -/
theorem code_laws_mixedCells :
    Searchable (documentOf [.null]) ∧
      code (documentOf
        [cellOf "code" (.arr [.ofString "import a", .int 3, .ofString "\n"]),
          cellOf "markdown" (.ofString "# b"), .null, cellOf "code" (.ofString "c")]) =
        .ok (Text.ofString "import a\n\nc") := by
  obtain ⟨success, single, padding, joining, appending⟩ := code_laws
  let lines : List Json := [.ofString "import a", .int 3, .ofString "\n"]
  let fields : Json.Fields :=
    [(Text.ofString "cell_type", .ofString "code"), (Text.ofString "source", .arr lines)]
  have heading : ¬IsCodeCell (cellOf "markdown" (.ofString "# b")) := by
    rw [← isCode_iff]
    decide
  have null : ¬IsCodeCell .null := fun ⟨_, own, _⟩ => by cases own
  have text : code (documentOf [joined fields lines]) = .ok (Text.ofString "import a\n") :=
    single _ _ _ (lists_documentOf _) ⟨_, rfl, rfl⟩ rfl
  have first : code (documentOf [.obj fields, cellOf "markdown" (.ofString "# b")]) =
      .ok (Text.ofString "import a\n") := by
    rw [padding _ _ _ _ (lists_documentOf [.obj fields]) (lists_documentOf _)
      (.keep _ (.pad _ heading .nil))]
    exact (joining _ _ [] fields lines [] (lists_documentOf _) (lists_documentOf _) rfl).symm.trans
      text
  have second : code (documentOf [.null, cellOf "code" (.ofString "c")]) =
      .ok (Text.ofString "c") := by
    rw [padding _ _ _ _ (lists_documentOf [cellOf "code" (.ofString "c")]) (lists_documentOf _)
      (.pad _ null (.keep _ .nil))]
    exact single _ _ _ (lists_documentOf _) (isCodeCell_cellOf _) rfl
  obtain ⟨s, t, left, right, both⟩ := appending _ _ _ _ _
    (lists_documentOf [.obj fields, cellOf "markdown" (.ofString "# b")])
    (lists_documentOf [.null, cellOf "code" (.ofString "c")]) (lists_documentOf _)
    ⟨_, List.mem_cons_self, isCodeCell_cellOf (.arr lines)⟩
    ⟨_, List.mem_cons_of_mem _ List.mem_cons_self, isCodeCell_cellOf (.ofString "c")⟩
  obtain rfl := Except.ok.inj (left.symm.trans first)
  obtain rfl := Except.ok.inj (right.symm.trans second)
  exact ⟨(success _).mp ⟨_, rfl⟩, both⟩

end Notebook

end DepGraph
