import DepGraph.Settings.Origin
import Mathlib.Data.List.Induction

/-!
# Which origin a setting is taken from

A setting is taken from the first origin that has it (`DepGraph.Settings.Origins.first?`): from what
the caller gives, else from the environment, else from the file. This is the value that all origins
together give it (`DepGraph.Settings.Origins.get?_values`), except that an object that is given can
be one of several that became one.
-/

namespace DepGraph

namespace Json.Fields

variable {fields : Fields} {name : Text}

/-- The value of a field is that of the first one of its name. -/
theorem get?_cons (f : Text × Json) (fields : Fields) (name : Text) :
    get? (f :: fields) name = if f.1 = name then some f.2 else get? fields name := by
  by_cases h : f.1 = name <;> simp [get?, h]

/-- Fields that have one value at most for a name have it there. -/
theorem get?_eq_of_mem_iff {o : Option Json} (h : ∀ j, (name, j) ∈ fields ↔ o = some j) :
    get? fields name = o := by
  cases found : fields.find? (·.1 = name) with
  | none =>
    rw [get?, found, Option.map_none, eq_comm, Option.eq_none_iff_forall_not_mem]
    intro j there
    simpa using List.find?_eq_none.mp found _ ((h j).mpr there)
  | some f =>
    obtain rfl : f.1 = name := by simpa using List.find?_some found
    rw [get?, found]
    exact ((h f.2).mp (List.mem_of_find?_eq_some found)).symm

end Json.Fields

namespace Settings

open Json (Fields)

/-! ### Two objects as one -/

section Merging

variable {upper lower : Fields} {name : Text}

/-- The last field of the upper object is set last, to its value or, where both have objects, to an
object. -/
theorem exists_mergeFields_concat (upper lower : Fields) (f : Text × Json) :
    ∃ value, mergeFields (upper ++ [f]) lower = Fields.set (mergeFields upper lower) f.1 value ∧
      (value = f.2 ∨ ∃ us vs, f.2 = .obj us ∧ value = .obj vs) := by
  simp only [mergeFields, List.foldl_append, List.foldl_cons, List.foldl_nil]
  split
  next us ls object _ => exact ⟨_, rfl, .inr ⟨us, _, object, rfl⟩⟩
  next => exact ⟨_, rfl, .inl rfl⟩

/-- **The upper object counts**, and its last value for a name, but objects may be merged. -/
theorem get?_mergeFields (upper lower : Fields) (name : Text) :
    Fields.get? (mergeFields upper lower) name =
        (Fields.get? upper.reverse name <|> Fields.get? lower name) ∨
      ∃ us vs, Fields.get? upper.reverse name = some (.obj us) ∧
        Fields.get? (mergeFields upper lower) name = some (.obj vs) := by
  induction upper using List.reverseRecOn with
  | nil => exact .inl rfl
  | append_singleton us f ih =>
    obtain ⟨value, merged, kind⟩ := exists_mergeFields_concat us lower f
    rw [merged, List.reverse_concat, Fields.get?_cons]
    by_cases same : f.1 = name
    · rw [if_pos same, same, Fields.get?_set_self]
      rcases kind with rfl | ⟨us, vs, object, rfl⟩
      · exact .inl rfl
      · exact .inr ⟨us, vs, congrArg some object, rfl⟩
    · rw [if_neg same, Fields.get?_set_of_ne (Ne.symm same)]
      exact ih

end Merging

/-! ### Texts -/

section Layers

variable {source name : String} {lookup : String → Option String} {fields : List Field}
  {values : Fields}

/-- The value that a text gives a setting; an empty text gives none. -/
def ofText? (text : Option String) : Option Json := (text.filter (· != "")).map Json.ofString

/-- What a text gives a setting is no object. -/
theorem ofText?_ne_obj {text : Option String} {us : Fields} : ofText? text ≠ some (.obj us) := by
  intro h
  obtain ⟨t, -, same⟩ := Option.map_eq_some_iff.mp h
  exact Json.noConfusion same

/-- A field that is not JSON adds its text, if it has one. -/
theorem layer_cons {f : Field} (flat : f.structured = false)
    (h : layer source lookup (f :: fields) = .ok values) :
    ∃ rest, layer source lookup fields = .ok rest ∧
      values =
        ((ofText? (lookup f.name)).toList.map fun j => (Text.ofString f.name, j)) ++ rest := by
  unfold layer at h
  unfold ofText?
  cases text : (lookup f.name).filter (· != "") with
  | none =>
    rw [text] at h
    exact ⟨values, h, rfl⟩
  | some text =>
    simp only [text, Field.ofText, flat] at h
    cases more : layer source lookup fields with
    | error r =>
      rw [more] at h
      contradiction
    | ok rest =>
      rw [more] at h
      exact ⟨rest, rfl, (Except.ok.inj h).symm⟩

/-- Texts for fields that are not JSON are their values. -/
theorem mem_layer (flat : ∀ f ∈ fields, f.structured = false)
    (h : layer source lookup fields = .ok values) (j : Json) :
    (Text.ofString name, j) ∈ values ↔
      name ∈ fields.map Field.name ∧ ofText? (lookup name) = some j := by
  induction fields generalizing values with
  | nil =>
    obtain rfl : [] = values := Except.ok.inj h
    simp
  | cons f fs ih =>
    rw [List.forall_mem_cons] at flat
    obtain ⟨rest, more, rfl⟩ := layer_cons flat.1 h
    rw [List.mem_append, ih flat.2 more, List.map_cons, List.mem_cons, or_and_right]
    refine or_congr_left ?_
    simp only [List.mem_map, Option.mem_toList, Prod.mk.injEq, Text.ofString_inj]
    constructor
    · rintro ⟨_, there, rfl, rfl⟩
      exact ⟨rfl, there⟩
    · rintro ⟨rfl, there⟩
      exact ⟨j, there, rfl, rfl⟩

/-- A setting has the value that its text gives it. -/
theorem get?_layer (flat : ∀ f ∈ fields, f.structured = false)
    (h : layer source lookup fields = .ok values) (asked : name ∈ fields.map Field.name) :
    Fields.get? values (Text.ofString name) = ofText? (lookup name) ∧
      Fields.get? values.reverse (Text.ofString name) = ofText? (lookup name) := by
  have there (j : Json) : (Text.ofString name, j) ∈ values ↔ ofText? (lookup name) = some j :=
    (mem_layer flat h j).trans (and_iff_right asked)
  exact ⟨Fields.get?_eq_of_mem_iff there,
    Fields.get?_eq_of_mem_iff fun j => List.mem_reverse.trans (there j)⟩

end Layers

/-! ### All origins -/

namespace Origins

/-- The text of a setting in the environment. -/
def environment? (o : Origins) (name : String) : Option String :=
  (o.environment.find? (·.1 == name)).map (·.2)

/-- The text of a setting in the file. -/
def file? (o : Origins) (name : String) : Option String :=
  o.file.bind fun text => EnvFile.value o.environment text name

/-- The value of a setting in the **first origin** that has it. What the caller gives last for a
name counts. -/
def first? (o : Origins) (name : String) : Option Json :=
  Fields.get? o.given.reverse (Text.ofString name) <|>
    ofText? (o.environment? name) <|> ofText? (o.file? name)

/-- The values are those of the three origins, merged. -/
theorem values_eq_ok {o : Origins} {fields : List Field} {values : Fields}
    (h : o.values fields = .ok values) :
    ∃ upper lower, layer environmentSource o.environment? fields = .ok upper ∧
      layer fileSource o.file? fields = .ok lower ∧
      values = mergeFields o.given (mergeFields upper lower) := by
  rw [Origins.values] at h
  change (layer environmentSource o.environment? fields >>= fun upper =>
    layer fileSource o.file? fields >>= fun lower =>
      pure (mergeFields o.given (mergeFields upper lower))) = .ok values at h
  cases environment : layer environmentSource o.environment? fields with
  | error r =>
    rw [environment] at h
    contradiction
  | ok upper =>
    cases file : layer fileSource o.file? fields with
    | error r =>
      rw [environment, file] at h
      contradiction
    | ok lower =>
      rw [environment, file] at h
      exact ⟨upper, lower, rfl, rfl, (Except.ok.inj h).symm⟩

/-- **A setting has the value of the first origin that has it**, or is an object where that is. -/
theorem get?_values {o : Origins} {fields : List Field} {values : Fields} {name : String}
    (h : o.values fields = .ok values) (flat : ∀ f ∈ fields, f.structured = false)
    (asked : name ∈ fields.map Field.name) :
    Fields.get? values (Text.ofString name) = o.first? name ∨
      ∃ us vs, o.first? name = some (.obj us) ∧
        Fields.get? values (Text.ofString name) = some (.obj vs) := by
  obtain ⟨upper, lower, environment, file, rfl⟩ := values_eq_ok h
  have texts : Fields.get? (mergeFields upper lower) (Text.ofString name) =
      (ofText? (o.environment? name) <|> ofText? (o.file? name)) := by
    rcases get?_mergeFields upper lower (Text.ofString name) with same | ⟨us, vs, object, -⟩
    · rw [same, (get?_layer flat environment asked).2, (get?_layer flat file asked).1]
    · rw [(get?_layer flat environment asked).2] at object
      exact absurd object ofText?_ne_obj
  rw [first?, ← texts]
  refine (get?_mergeFields _ _ _).imp_right ?_
  rintro ⟨us, vs, object, merged⟩
  exact ⟨us, vs, by rw [object]; rfl, merged⟩

end Origins

end Settings

end DepGraph
