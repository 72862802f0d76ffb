import DepGraph.Fault

/-!
# Notebooks

A notebook is a JSON document whose field `cells` lists its cells. Its **code**
(`DepGraph.Notebook.code`) is the text of its code cells, with a line break between two of them.
Whatever is no code cell does not count, and a document in which no cells can be looked for is
flawed.
-/

namespace DepGraph.Notebook

/-- What can be wrong with a document. -/
inductive Flaw
  /-- The document is a value of this type, which has no fields. -/
  | noFields (type : String)
  /-- The document is an array. -/
  | array
  /-- The document is a string. -/
  | string
  /-- The document has no cells. -/
  | noCells
  /-- The cells are a value of this type, which holds nothing. -/
  | noItems (type : String)
deriving DecidableEq, Repr

/-- The name of the field that holds the cells. -/
def cellsName : String := "cells"

/-- The fault that a flaw is. -/
def Flaw.fault : Flaw → Fault
  | .noFields type => .foreign .type ("'" ++ type ++ "' object is not subscriptable")
  | .array => .foreign .type "list indices must be integers or slices, not str"
  | .string => .foreign .type "string indices must be integers, not 'str'"
  | .noCells => .absent cellsName
  | .noItems type => .foreign .type ("'" ++ type ++ "' object is not iterable")

/-- The name of a value's type. -/
def typeName : Json → String
  | .null => "NoneType"
  | .bool _ => "bool"
  | .int _ => "int"
  | .float _ => "float"
  | .str _ => "str"
  | .arr _ => "list"
  | .obj _ => "dict"

/-- The cells of a document. An object or a string in their place has no cells. -/
def cells : Json → Except Flaw (List Json)
  | .obj fields =>
    match Json.Fields.get? fields (Text.ofString cellsName) with
    | none => .error .noCells
    | some (.arr items) => .ok items
    | some (.obj _) | some (.str _) => .ok []
    | some other => .error (.noItems (typeName other))
  | .arr _ => .error .array
  | .str _ => .error .string
  | other => .error (.noFields (typeName other))

/-- Whether a value is a code cell. -/
def isCode (cell : Json) : Bool :=
  match cell.field? "cell_type" with
  | some (.str t) => t == Text.ofString "code"
  | _ => false

/-- The lines among some values. -/
def linesOf (items : List Json) : Text :=
  items.flatMap fun
    | .str t => t
    | _ => []

/-- The text of a cell: its source, or the lines of its source one after the other. -/
def source (cell : Json) : Text :=
  match cell.field? "source" with
  | some (.arr items) => linesOf items
  | some (.str t) => t
  | _ => []

/-- Texts with a line break between two of them. -/
def stacked : List Text → Text
  | [] => []
  | [t] => t
  | t :: ts => t ++ CodePoint.ofChar '\n' :: stacked ts

/-- The **code** of a document. -/
def code (document : Json) : Except Flaw Text :=
  (fun cs => stacked ((cs.filter isCode).map source)) <$> cells document

/-- The code of a notebook file whose arrays and objects are read up to a depth. -/
def ofBytesWithin (limit : Nat) (bytes : Bytes) : Except Fault Text := do
  let cs ← (Utf8.decode bytes).mapError .undecodable
  let document ← (Json.readWithin limit cs).mapError fun r =>
    if r = .tooDeep then .tooDeep else .foreign .value (r.message cs)
  (code document).mapError Flaw.fault

end DepGraph.Notebook
