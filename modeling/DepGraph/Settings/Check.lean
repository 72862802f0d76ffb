import DepGraph.Json.Printer
import DepGraph.Number.Layout
import DepGraph.Settings.Numeral
import DepGraph.Text.Quoted

/-!
# Checks of single settings

A **check** turns the value given for a setting into the value that the setting has, or complains.
Checks accept what can become a value of their type without loss: a text that spells a number, a
truth value as one or zero, a number without a fraction as an integer.
-/

namespace DepGraph.Settings

/-- A check of a value. -/
abbrev Check (α : Type) := Json → Checked α

namespace Check

/-- The bound that numbers stay below to become integers. -/
def integerBound : Float := Float.ofScientific 9223372036854775808 false 0

/-- The integer that a floating point number is. -/
def wholeNumber (x : Float) : Checked Int :=
  if x.isNaN || x.isInf then .complain .notFinite
  else if x.floor != x then .complain .fractional
  else if -integerBound < x && x < integerBound then .passed x.toInt64.toInt
  else .complain .hugeInteger

/-- The characters of a text; half surrogates are none. -/
def characters (t : Text) : List Char := (Text.display t).toList

/-- An **integer**. -/
def integer : Check Int
  | .int n => .passed n
  | .bool b => .passed (if b then 1 else 0)
  | .float x => wholeNumber x
  | .str t => readInteger (characters t)
  | _ => .complain .noInteger

/-- An integer that is not below a bound. -/
def integerFrom (least : Int) : Check Int := fun j =>
  (integer j).andThen fun n => if n < least then .complain (.lessThan least) else .passed n

/-- A value that may be missing. -/
def optional {α : Type} (check : Check α) : Check (Option α)
  | .null => .passed none
  | j => (check j).andThen fun a => .passed (some a)

/-- A **number**. -/
def number : Check Float
  | .int n =>
    let size := Decimal.toFloat ⟨n.natAbs, 0⟩
    .passed (if n < 0 then -size else size)
  | .bool b => .passed (if b then 1.0 else 0.0)
  | .float x => .passed x
  | .str t => readNumber (characters t)
  | _ => .complain .noNumber

/-- A **string**. -/
def string : Check String
  | .str t => .passed (Text.display t)
  | _ => .complain .noString

/-- Checks with the way to an item in each. -/
def itemsFrom {α : Type} (check : Check α) (index : Nat) : List Json → List (Checked α)
  | [] => []
  | j :: js => (check j).under (.item index) :: itemsFrom check (index + 1) js

/-- A **list**, each of whose items passes. -/
def list {α : Type} (check : Check α) : Check (List α)
  | .arr items => .all (itemsFrom check 0 items)
  | _ => .complain .noList

/-- What a setting that has to be positive says otherwise. -/
def notPositive (name value : String) : Complaint :=
  .refused (name ++ " must be positive, got " ++ value)

/-- A positive integer, for a setting of this name. -/
def positiveInteger (name : String) : Check Int := fun j =>
  (integer j).andThen fun n =>
    if n ≤ 0 then .complain (notPositive name (toString n)) else .passed n

/-- A positive number, for a setting of this name; what is not a number is not refused. -/
def positiveNumber (name : String) : Check Float := fun j =>
  (number j).andThen fun x =>
    if x ≤ 0.0 then .complain (notPositive name (NumberLayout.plain.text x)) else .passed x

end Check

/-! ### Addresses of the store -/

/-- The schemes of addresses that the store can be reached at. -/
def schemes : List String := ["bolt", "bolt+s", "bolt+ssc", "neo4j", "neo4j+s", "neo4j+ssc"]

/-- The characters before the first colon with two slashes, if there is one. -/
def schemeChars? : List Char → Option (List Char)
  | ':' :: '/' :: '/' :: _ => some []
  | c :: cs => (schemeChars? cs).map (c :: ·)
  | [] => none

/-- The scheme of an address; one without a scheme has the empty one. -/
def schemeOf (uri : String) : String := String.ofList ((schemeChars? uri.toList).getD [])

/-- The schemes as they are listed to the user. -/
def schemeList : String :=
  "(" ++ String.intercalate ", " (schemes.map Text.quoteString) ++ ")"

/-- An address of the store. -/
def Check.address : Check String := fun j =>
  (Check.string j).andThen fun uri =>
    if schemes.contains (schemeOf uri) then .passed uri
    else .complain (.refused ("Unsupported Neo4j URI scheme " ++ Text.quoteString (schemeOf uri) ++
      "; expected one of " ++ schemeList))

end DepGraph.Settings
