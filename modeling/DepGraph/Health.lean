import DepGraph.Settings.Types
import DepGraph.Snapshot

/-!
# The health of the store

The store is **healthy** when it answers three questions: a sign of life, its components, and the
size of the graph. A fault while they are asked is part of the report. The answers are taken apart
afterwards, and an answer without the parts that a report needs is a fault of the report itself.
-/

namespace DepGraph.Health

/-- A part of an answer, or the fault that it is missing. -/
def part (answer : Json) (name : String) : Except Fault Json :=
  match answer with
  | .obj _ =>
    match answer.field? name with
    | some j => .ok j
    | none => .error (.absent name)
  | _ => .error (.foreign .type "'NoneType' object is not subscriptable")

/-- The first of some values. -/
def first (values : Json) : Except Fault Json :=
  match values with
  | .arr (v :: _) => .ok v
  | .arr [] => .error (.foreign .index "list index out of range")
  | .str (p :: _) => .ok (.str [p])
  | .str [] => .error (.foreign .index "string index out of range")
  | .obj _ => .error (.foreign .key "0")
  | .null => .error (.foreign .type "'NoneType' object is not subscriptable")
  | .bool _ => .error (.foreign .type "'bool' object is not subscriptable")
  | .int _ => .error (.foreign .type "'int' object is not subscriptable")
  | .float _ => .error (.foreign .type "'float' object is not subscriptable")

/-- The component that a store names when nothing else is said. -/
def usualComponent : Json :=
  .obj [(Text.ofString "name", .ofString "Neo4j Kernel"),
    (Text.ofString "versions", .arr [.ofString "5.20.0"]),
    (Text.ofString "edition", .ofString "community")]

/-! ### A visit -/

/-- A **visit** to the store: whether a session is opened, what the three questions come to that are
asked in it, and whether it is closed. The answer to a question is a row, or `null` if there is
none. -/
structure Visit where
  /-- What keeps the session from being opened, if anything does. -/
  opening : Option Fault := none
  /-- The answer to the question for a sign of life. -/
  sign : Except Fault Json
  /-- The answer to the question for the components. -/
  component : Except Fault Json
  /-- The answer to the question for the size of the graph. -/
  size : Except Fault Json
  /-- What keeps the session from being closed, if anything does. -/
  closing : Option Fault := none

/-- What a visit brings back: the rows of the component and of the size. A fault on closing the
session is told rather than one of the questions. -/
def Visit.rows (v : Visit) : Except Fault (Json × Json) :=
  match v.opening, v.closing with
  | some f, _ | none, some f => .error f
  | none, none => do
    let _ ← v.sign
    let component ← v.component
    let size ← v.size
    return (component, size)

/-- The row of the sign of life. -/
def signRow : Json := .obj [(Text.ofString "ok", .int 1)]

/-- The row of the size of a graph with these rows: how many nodes they are of, which are told apart
by their identity, and how many of them have an edge. -/
def sizeRow (rows : List Row) : Json :=
  .obj [(Text.ofString "files", .int (rows.map (·.node.identity)).eraseDups.length),
    (Text.ofString "dependencies", .int (rows.countP (·.link.isSome)))]

/-- The visit to a store with this component. -/
def visit (failures : Failures) (component : Json) (store : Store) : Visit :=
  let answer (row : Json) : Except Fault Json :=
    match failures.reading with
    | some f => .error f
    | none => .ok row
  { opening := failures.opening
    sign := answer signRow
    component := answer component
    size := answer (sizeRow (Row.ofGraph store.graph)) }

/-! ### Reports -/

/-- What every report starts with. -/
def details (settings : StoreSettings) : List (String × Json) :=
  [("database", .ofString settings.database), ("uri", .ofString settings.uri)]

/-- The report of a store that does not answer. -/
def unhealthy (details : List (String × Json)) (f : Fault) : List (String × Json) :=
  details ++ [("healthy", .bool false), ("error", .ofString f.message)]

/-- The report of a store that answers with these rows, if they have all that it needs. -/
def healthy (details : List (String × Json)) (component size : Json) :
    Except Fault (List (String × Json)) := do
  let name ← part component "name"
  let version ← first (← part component "versions")
  let edition ← part component "edition"
  let files ← part size "files"
  let dependencies ← part size "dependencies"
  return details ++
    [("healthy", .bool true), ("name", name), ("version", version), ("edition", edition),
      ("file_nodes", files), ("dependency_edges", dependencies)]

/-- The **report** of a visit. -/
def report (settings : StoreSettings) (v : Visit) : Except Fault (List (String × Json)) :=
  match v.rows with
  | .error f => .ok (unhealthy (details settings) f)
  | .ok (component, size) => healthy (details settings) component size

/-- The **report** on the health of a store with this component. -/
def check (settings : StoreSettings) (failures : Failures) (component : Json) (store : Store) :
    Except Fault (List (String × Json)) :=
  report settings (visit failures component store)

end DepGraph.Health
