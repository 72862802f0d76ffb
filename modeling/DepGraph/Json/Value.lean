import DepGraph.Text.CodePoint

/-!
# JSON values

The values that a JSON text denotes. Objects keep their fields in the order in which the names first
occurred, a later value for the same name replacing the earlier one where it stands
(`DepGraph.Json.Fields.set`), so that no name occurs twice.
-/

namespace DepGraph

/-- A **JSON value**. Strings are texts, as their escapes can spell single surrogates. -/
inductive Json where
  /-- The null value. -/
  | null
  /-- A truth value. -/
  | bool (b : Bool)
  /-- A number without fraction and exponent, of any size. -/
  | int (n : Int)
  /-- A number with a fraction or an exponent, or one of the special values. -/
  | float (x : Float)
  /-- A string. -/
  | str (t : Text)
  /-- An array. -/
  | arr (items : List Json)
  /-- An object. -/
  | obj (fields : List (Text × Json))

namespace Json

instance : Inhabited Json := ⟨.null⟩

/-- The value of a string. -/
def ofString (s : String) : Json := .str (Text.ofString s)

/-- The value of a string is the value of no other. -/
@[simp] theorem ofString_inj {s t : String} : ofString s = ofString t ↔ s = t := by
  simp only [ofString, Json.str.injEq, Text.ofString_inj]

/-- The fields of an object. -/
abbrev Fields := List (Text × Json)

/-- The fields with one more value, at the place of its name if that is there already. -/
def Fields.set : Fields → Text → Json → Fields
  | [], name, value => [(name, value)]
  | (n, v) :: rest, name, value =>
    if n = name then (name, value) :: rest else (n, v) :: Fields.set rest name value

/-- The value of a field. -/
def Fields.get? (fields : Fields) (name : Text) : Option Json :=
  (fields.find? (·.1 = name)).map (·.2)

/-- Setting a field does not change the others. -/
theorem Fields.get?_set_of_ne {fields : Fields} {name other : Text} {value : Json}
    (h : other ≠ name) : (Fields.set fields name value).get? other = fields.get? other := by
  induction fields with
  | nil => simp [Fields.set, Fields.get?, Ne.symm h]
  | cons f fields ih =>
    obtain ⟨n, v⟩ := f
    by_cases hn : n = name
    · subst hn
      simp [Fields.set, Fields.get?, Ne.symm h]
    · by_cases ho : n = other
      · subst ho
        simp [Fields.set, Fields.get?, hn]
      · simp only [Fields.get?] at ih
        simp [Fields.set, Fields.get?, hn, ho, ih]

/-- A field that was set has the value it was set to. -/
theorem Fields.get?_set_self (fields : Fields) (name : Text) (value : Json) :
    (Fields.set fields name value).get? name = some value := by
  induction fields with
  | nil => simp [Fields.set, Fields.get?]
  | cons f fields ih =>
    obtain ⟨n, v⟩ := f
    by_cases hn : n = name
    · simp [Fields.set, Fields.get?, hn]
    · simp only [Fields.get?] at ih
      simp [Fields.set, Fields.get?, hn, ih]

/-- The value of a field of an object, and `none` for any other value. -/
def field? (j : Json) (name : String) : Option Json :=
  match j with
  | .obj fields => Fields.get? fields (Text.ofString name)
  | _ => none

/-- The string that a value is, if it is one without surrogates. -/
def string? : Json → Option String
  | .str t => t.string?
  | _ => none

/-- The integer that a value is. -/
def int? : Json → Option Int
  | .int n => some n
  | _ => none

/-- The items of an array. -/
def items? : Json → Option (List Json)
  | .arr items => some items
  | _ => none

end Json

end DepGraph
