import DepGraph.Json.Reader
import DepGraph.Settings.Check
import DepGraph.Settings.EnvFile

/-!
# Where settings come from

A setting is taken from the first **origin** that has it: what the caller gives, the environment,
and the file of environment variables. Objects that several origins have are merged field by field.
The environment and the file hold texts; an empty text counts as nothing, and the text for a field
that is a list or an object is JSON.
-/

namespace DepGraph.Settings

/-- The **origins** of settings. -/
structure Origins where
  /-- What the caller gives. -/
  given : Json.Fields := []
  /-- The environment. -/
  environment : List (String × String) := []
  /-- The text of the file, if there is one. -/
  file : Option String := none

/-- A **field** of a group of settings. -/
structure Field where
  /-- The name. -/
  name : String
  /-- Whether texts for it are JSON. -/
  structured : Bool := false

/-- The value that a field gets from a text, if any; JSON may say that there is none. -/
def Field.ofText (f : Field) (source text : String) : Except Refusal (Option Json) :=
  if f.structured then
    match Json.read text.toList with
    | .ok .null => .ok none
    | .ok j => .ok (some j)
    | .error _ => .error (.unreadable f.name source)
  else .ok (some (.ofString text))

/-- The values that fields get from texts. -/
def layer (source : String) (lookup : String → Option String) :
    List Field → Except Refusal Json.Fields
  | [] => .ok []
  | f :: fs =>
    match (lookup f.name).filter (· != "") with
    | none => layer source lookup fs
    | some text => do
      let value ← f.ofText source text
      let rest ← layer source lookup fs
      return (value.toList.map fun j => (Text.ofString f.name, j)) ++ rest

/-- The fields of two objects as one: those of the upper one count where both are not objects. -/
def mergeFields (upper lower : Json.Fields) : Json.Fields :=
  upper.foldl
    (fun merged f =>
      match f.2, Json.Fields.get? merged f.1 with
      | .obj us, some (.obj ls) => Json.Fields.set merged f.1 (.obj (overlay us ls))
      | value, _ => Json.Fields.set merged f.1 value)
    lower
where
  /-- The fields of two objects inside others. -/
  overlay (upper lower : Json.Fields) : Json.Fields :=
    upper.foldl (fun merged f => Json.Fields.set merged f.1 f.2) lower

/-- The name of the environment among the sources of texts. -/
def environmentSource : String := "EnvSettingsSource"

/-- The name of the file among the sources of texts. -/
def fileSource : String := "DotEnvSettingsSource"

namespace Origins

/-- The values that fields get from all origins together. -/
def values (o : Origins) (fields : List Field) : Except Refusal Json.Fields := do
  let inEnvironment (name : String) := (o.environment.find? (·.1 == name)).map (·.2)
  let environment ← layer environmentSource inEnvironment fields
  let inFile (name : String) := o.file.bind fun text => EnvFile.value o.environment text name
  let file ← layer fileSource inFile fields
  return mergeFields o.given (mergeFields environment file)

end Origins

/-- The value of a field that has to pass a check, or the usual one if there is none. -/
def take {α : Type} (values : Json.Fields) (name : String) (usual : α) (check : Check α) :
    Checked α :=
  match Json.Fields.get? values (Text.ofString name) with
  | none => .passed usual
  | some j => (check j).under (.field name)

end DepGraph.Settings
