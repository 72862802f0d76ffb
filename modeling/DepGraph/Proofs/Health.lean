import DepGraph.Health

/-!
# Reports on the health of the store

A report is made of a visit to the store. Whatever fails on the visit is told
(`DepGraph.Health.Visit.Fails`): the report says that the store is not healthy, and why. The rows
that a visit brings back are taken apart only afterwards, when faults are no longer caught.

So there is a report exactly if something failed on the visit, or the rows have all the parts that a
report needs (`DepGraph.Health.exists_report_iff`). A store that answers, but tells no component, no
size or an empty list of versions, has no report at all. What the sign of life was answered with is
not looked at.
-/

namespace DepGraph.Health

/-! ### Visits -/

namespace Visit

variable {v : Visit} {f : Fault} {component size : Json}

/-- A question is **refused** with a fault; those after it are not asked. -/
inductive Refuses (v : Visit) : Fault → Prop
  /-- There is no sign of life. -/
  | sign {f : Fault} (refused : v.sign = .error f) : Refuses v f
  /-- The components are not told. -/
  | component {f : Fault} {row : Json} (sign : v.sign = .ok row)
    (refused : v.component = .error f) : Refuses v f
  /-- The size is not told. -/
  | size {f : Fault} {row component : Json} (sign : v.sign = .ok row)
    (component : v.component = .ok component) (refused : v.size = .error f) : Refuses v f

/-- A visit **fails** with a fault. -/
inductive Fails (v : Visit) : Fault → Prop
  /-- The session is not opened. -/
  | opening {f : Fault} (closed : v.opening = some f) : Fails v f
  /-- The session is not closed, whatever the questions came to. -/
  | closing {f : Fault} (opens : v.opening = none) (left : v.closing = some f) : Fails v f
  /-- A question is refused. -/
  | asking {f : Fault} (opens : v.opening = none) (closes : v.closing = none)
    (refuses : v.Refuses f) : Fails v f

/-- A visit **brings back** a row of the component and one of the size if nothing fails. -/
structure Brings (v : Visit) (component size : Json) : Prop where
  /-- The session is opened. -/
  opens : v.opening = none
  /-- There is a sign of life. -/
  sign : ∃ row, v.sign = .ok row
  /-- The components are told. -/
  component : v.component = .ok component
  /-- The size is told. -/
  size : v.size = .ok size
  /-- The session is closed. -/
  closes : v.closing = none

/-- A visit comes to nothing if it fails. -/
theorem Fails.rows_eq (fails : v.Fails f) : v.rows = .error f := by
  cases fails with
  | opening closed => simp [rows, closed]
  | closing opens left => simp [rows, opens, left]
  | asking opens closes refuses =>
    cases refuses with
    | sign refused => simp [rows, opens, closes, refused, bind, Except.bind]
    | component sign refused => simp [rows, opens, closes, sign, refused, bind, Except.bind]
    | size sign component refused =>
      simp [rows, opens, closes, sign, component, refused, bind, Except.bind]

/-- A visit that does not fail comes to what it brings back. -/
theorem Brings.rows_eq (brings : v.Brings component size) : v.rows = .ok (component, size) := by
  obtain ⟨row, sign⟩ := brings.sign
  simp [rows, brings.opens, brings.closes, sign, brings.component, brings.size, bind, Except.bind,
    pure, Except.pure]

/-- **A visit either fails or brings rows back.** -/
theorem fails_or_brings (v : Visit) :
    (∃ f, v.Fails f) ∨ ∃ component size, v.Brings component size := by
  cases opens : v.opening with
  | some f => exact Or.inl ⟨f, .opening opens⟩
  | none =>
    cases closes : v.closing with
    | some f => exact Or.inl ⟨f, .closing opens closes⟩
    | none =>
      cases sign : v.sign with
      | error f => exact Or.inl ⟨f, .asking opens closes (.sign sign)⟩
      | ok row =>
        cases component : v.component with
        | error f => exact Or.inl ⟨f, .asking opens closes (.component sign component)⟩
        | ok c =>
          cases size : v.size with
          | error f => exact Or.inl ⟨f, .asking opens closes (.size sign component size)⟩
          | ok s => exact Or.inr ⟨c, s, opens, ⟨row, sign⟩, component, size, closes⟩

end Visit

/-! ### Rows -/

section Rows

variable {row component size values value : Json} {name : String}

/-- A row **has** a value as the part of a name. -/
def HasPart (row : Json) (name : String) (value : Json) : Prop :=
  ∃ fields : Json.Fields, row = .obj fields ∧ fields.get? (Text.ofString name) = some value

/-- A value is the **first** of some values. -/
inductive IsFirst : Json → Json → Prop
  /-- That of an array is its first item. -/
  | item {value : Json} {rest : List Json} : IsFirst (.arr (value :: rest)) value
  /-- That of a string is its first code point. -/
  | point {p : CodePoint} {rest : Text} : IsFirst (.str (p :: rest)) (.str [p])

/-- What reports tell of a store that answers. -/
structure Facts where
  /-- The name of the component. -/
  name : Json
  /-- Its version. -/
  version : Json
  /-- Its edition. -/
  edition : Json
  /-- How many files there are in the graph. -/
  files : Json
  /-- How many dependencies there are in it. -/
  dependencies : Json

/-- Rows **tell** the facts that a report needs. -/
structure Tell (component size : Json) (facts : Facts) : Prop where
  /-- The component has a name. -/
  name : HasPart component "name" facts.name
  /-- It has versions, and the first of them is told. -/
  version : ∃ versions, HasPart component "versions" versions ∧ IsFirst versions facts.version
  /-- It has an edition. -/
  edition : HasPart component "edition" facts.edition
  /-- The size has the number of files. -/
  files : HasPart size "files" facts.files
  /-- It has the number of dependencies. -/
  dependencies : HasPart size "dependencies" facts.dependencies

/-- What comes of one thing after another comes of the second, with what came of the first. -/
theorem bind_eq_ok_iff {α β : Type} {x : Except Fault α} {next : α → Except Fault β} {b : β} :
    x.bind next = .ok b ↔ ∃ a, x = .ok a ∧ next a = .ok b := by
  cases x <;> simp [Except.bind]

/-- A part is taken from a row that has it. -/
theorem part_eq_ok_iff : part row name = .ok value ↔ HasPart row name value := by
  cases row with
  | obj fields =>
    simp only [part, Json.field?, HasPart, Json.obj.injEq, exists_eq_left']
    cases Json.Fields.get? fields (Text.ofString name) <;> simp
  | _ => simp [part, HasPart]

/-- The first of some values is taken if there is one. -/
theorem first_eq_ok_iff : first values = .ok value ↔ IsFirst values value := by
  constructor
  · intro h
    unfold first at h
    split at h <;> cases h
    · exact .item
    · exact .point
  · rintro (_ | _) <;> rfl

/-- What a report says of a store that tells these facts. -/
def Facts.shown (facts : Facts) : List (String × Json) :=
  [("healthy", .bool true), ("name", facts.name), ("version", facts.version),
    ("edition", facts.edition), ("file_nodes", facts.files),
    ("dependency_edges", facts.dependencies)]

/-- **Rows make a report if they tell the facts**, and it says those. -/
theorem healthy_eq_ok_iff {details r : List (String × Json)} :
    healthy details component size = .ok r ↔
      ∃ facts, Tell component size facts ∧ r = details ++ facts.shown := by
  simp only [healthy, bind, pure, Except.pure, bind_eq_ok_iff, part_eq_ok_iff, first_eq_ok_iff,
    Except.ok.injEq]
  constructor
  · rintro ⟨name, hname, versions, hversions, version, hversion, edition, hedition, files, hfiles,
      dependencies, hdependencies, rfl⟩
    exact ⟨⟨name, version, edition, files, dependencies⟩,
      ⟨hname, ⟨versions, hversions, hversion⟩, hedition, hfiles, hdependencies⟩, rfl⟩
  · rintro ⟨facts, ⟨hname, ⟨versions, hversions, hversion⟩, hedition, hfiles, hdependencies⟩, rfl⟩
    exact ⟨_, hname, versions, hversions, _, hversion, _, hedition, _, hfiles, _, hdependencies,
      rfl⟩

end Rows

/-! ### Reports -/

/-- A report says that the store **is healthy**, with the facts that a visit brought back. -/
structure IsHealthy (v : Visit) (r : List (String × Json)) : Prop where
  /-- Nothing failed, and the rows told all facts; these are in the report. -/
  told : ∃ component size facts, v.Brings component size ∧ Tell component size facts ∧
    r.lookup "name" = some facts.name ∧ r.lookup "version" = some facts.version ∧
    r.lookup "edition" = some facts.edition ∧ r.lookup "file_nodes" = some facts.files ∧
    r.lookup "dependency_edges" = some facts.dependencies
  /-- It says so. -/
  healthy : r.lookup "healthy" = some (.bool true)

/-- A report says that the store **is not healthy**, and why the visit failed. -/
structure IsUnhealthy (v : Visit) (r : List (String × Json)) : Prop where
  /-- Something failed, and that is in the report. -/
  told : ∃ f, v.Fails f ∧ r.lookup "error" = some (.ofString f.message)
  /-- It says so. -/
  unhealthy : r.lookup "healthy" = some (.bool false)

/-- **There is a report exactly if something failed on the visit, or the rows told all facts**; and
it says that the store is healthy in the second case only, with these facts, and otherwise that it
is not, with what the fault says. -/
theorem exists_report_iff (settings : StoreSettings) (v : Visit) :
    ((∃ r, report settings v = .ok r) ↔
      (∃ f, v.Fails f) ∨
        ∃ component size facts, v.Brings component size ∧ Tell component size facts) ∧
    ∀ r, report settings v = .ok r → IsHealthy v r ∨ IsUnhealthy v r := by
  rcases v.fails_or_brings with ⟨f, fails⟩ | ⟨component, size, brings⟩
  · have reported : report settings v = .ok (unhealthy (details settings) f) := by
      rw [report, fails.rows_eq]
    refine ⟨iff_of_true ⟨_, reported⟩ (Or.inl ⟨f, fails⟩), fun r h => Or.inr ?_⟩
    obtain rfl := Except.ok.inj (reported.symm.trans h)
    exact ⟨⟨f, fails, rfl⟩, rfl⟩
  · have reported : report settings v = healthy (details settings) component size := by
      rw [report, brings.rows_eq]
    rw [reported]
    refine ⟨⟨?_, ?_⟩, fun r h => Or.inl ?_⟩
    · rintro ⟨r, h⟩
      obtain ⟨facts, tell, -⟩ := healthy_eq_ok_iff.mp h
      exact Or.inr ⟨_, _, facts, brings, tell⟩
    · rintro (⟨f, fails⟩ | ⟨component', size', facts, brings', tell⟩)
      · exact absurd (fails.rows_eq.symm.trans brings.rows_eq) nofun
      · obtain ⟨rfl, rfl⟩ :=
          Prod.mk.inj (Except.ok.inj (brings.rows_eq.symm.trans brings'.rows_eq))
        exact ⟨_, healthy_eq_ok_iff.mpr ⟨facts, tell, rfl⟩⟩
    · obtain ⟨facts, tell, rfl⟩ := healthy_eq_ok_iff.mp h
      exact ⟨⟨_, _, facts, brings, tell, rfl, rfl, rfl, rfl, rfl⟩, rfl⟩

/-- A component with an empty list of versions. -/
def versionless : Json :=
  .obj [(Text.ofString "name", .ofString "N"), (Text.ofString "versions", .arr []),
    (Text.ofString "edition", .ofString "e")]

/-- **Not every visit is reported.** -/
theorem not_forall_exists_report :
    ¬∀ (settings : StoreSettings) (failures : Failures) (component : Json) (store : Store),
      ∃ r, check settings failures component store = .ok r := by
  intro all
  obtain ⟨r, reported⟩ := all {} {} versionless {}
  have fails : check {} {} versionless {} = .error (.foreign .index "list index out of range") := rfl
  rw [fails] at reported
  cases reported

end DepGraph.Health
