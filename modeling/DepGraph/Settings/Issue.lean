/-!
# What can be wrong with settings

A setting that is not accepted gives an **issue**: where the value stands, and the complaint about
it. All issues of a group of settings are told together, in the order of its fields
(`DepGraph.Settings.Checked`), so that one answer names everything that has to be put right.
-/

namespace DepGraph.Settings

/-- A step on the way to a value. -/
inductive Step
  /-- Into the field of this name. -/
  | field (name : String)
  /-- Into the item at this index. -/
  | item (index : Nat)
deriving DecidableEq, Repr

/-- A **complaint** about a value. -/
inductive Complaint
  /-- It is no integer and cannot become one. -/
  | noInteger
  /-- It is a text that spells no integer. -/
  | unreadableInteger
  /-- It spells an integer with too many digits, or is a number beyond all integers of 64 bits. -/
  | hugeInteger
  /-- It is a number between two integers. -/
  | fractional
  /-- It is an infinite number, or none at all. -/
  | notFinite
  /-- It is no number and cannot become one. -/
  | noNumber
  /-- It is a text that spells no number. -/
  | unreadableNumber
  /-- It is no string. -/
  | noString
  /-- It is no list. -/
  | noList
  /-- It is no group of settings of this name. -/
  | noGroup (name : String)
  /-- It is less than it has to be. -/
  | lessThan (least : Int)
  /-- A rule of the settings refuses it, for this reason. -/
  | refused (reason : String)
deriving DecidableEq, Repr

namespace Complaint

/-- The word for a kind of complaint. -/
def kind : Complaint → String
  | noInteger => "int_type"
  | unreadableInteger => "int_parsing"
  | hugeInteger => "int_parsing_size"
  | fractional => "int_from_float"
  | notFinite => "finite_number"
  | noNumber => "float_type"
  | unreadableNumber => "float_parsing"
  | noString => "string_type"
  | noList => "list_type"
  | noGroup _ => "model_type"
  | lessThan _ => "greater_than_equal"
  | refused _ => "value_error"

/-- What a complaint says. -/
def message : Complaint → String
  | noInteger => "Input should be a valid integer"
  | unreadableInteger => "Input should be a valid integer, unable to parse string as an integer"
  | hugeInteger => "Unable to parse input string as an integer, exceeded maximum size"
  | fractional => "Input should be a valid integer, got a number with a fractional part"
  | notFinite => "Input should be a finite number"
  | noNumber => "Input should be a valid number"
  | unreadableNumber => "Input should be a valid number, unable to parse string as a number"
  | noString => "Input should be a valid string"
  | noList => "Input should be a valid list"
  | noGroup name => "Input should be a valid dictionary or instance of " ++ name
  | lessThan least => "Input should be greater than or equal to " ++ toString least
  | refused reason => "Value error, " ++ reason

end Complaint

/-- An **issue**: a complaint, and the way to the value that it is about. -/
structure Issue where
  /-- The way to the value. -/
  path : List Step := []
  /-- The complaint. -/
  complaint : Complaint
deriving DecidableEq, Repr

/-- An issue inside a value, seen from outside it. -/
def Issue.under (step : Step) (i : Issue) : Issue := { i with path := step :: i.path }

/-- Why a group of settings was not built. -/
inductive Refusal
  /-- The text for a field is not the JSON text it has to be; `source` names where it came from. -/
  | unreadable (field source : String)
  /-- Some values of the group are not accepted. -/
  | invalid (group : String) (issues : List Issue)
deriving DecidableEq, Repr

/-- What a refusal for a text that cannot be read says. -/
def unreadableMessage (field source : String) : String :=
  "error parsing value for field \"" ++ field ++ "\" from source \"" ++ source ++ "\""

/-! ### Checks -/

/-- A value that passed its checks, or all issues with it. -/
inductive Checked (α : Type)
  /-- The value. -/
  | passed (value : α)
  /-- The issues. -/
  | failed (issues : List Issue)

namespace Checked

variable {α β : Type}

/-- A function of what passed, applied to what passed; the issues of both otherwise. -/
def apply : Checked (α → β) → Checked α → Checked β
  | passed f, passed a => passed (f a)
  | passed _, failed is => failed is
  | failed is, passed _ => failed is
  | failed is, failed js => failed (is ++ js)

instance : Applicative Checked where
  pure := passed
  seq f a := apply f (a ())

/-- One complaint about a value. -/
def complain (c : Complaint) : Checked α := failed [{ complaint := c }]

/-- A further check of what passed. -/
def andThen : Checked α → (α → Checked β) → Checked β
  | passed a, check => check a
  | failed is, _ => failed is

/-- What was checked inside a value, seen from outside it. -/
def under (step : Step) : Checked α → Checked α
  | passed a => passed a
  | failed is => failed (is.map (Issue.under step))

/-- Many checked values as one. -/
def all : List (Checked α) → Checked (List α)
  | [] => passed []
  | c :: cs => apply (apply (passed List.cons) c) (all cs)

/-- The value of a group, or its refusal. -/
def orRefuse (group : String) : Checked α → Except Refusal α
  | passed a => .ok a
  | failed is => .error (.invalid group is)

end Checked

end DepGraph.Settings
