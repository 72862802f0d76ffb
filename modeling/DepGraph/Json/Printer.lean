import DepGraph.Json.Value
import DepGraph.Number.Layout
import DepGraph.Text.Hex
import DepGraph.Text.Quoted

/-!
# Writing JSON

Values are written on one line, with a blank after each comma and each colon and everything outside
printable ASCII escaped (`DepGraph.Json.render`). Messages show a value in the **literal notation**
instead (`DepGraph.Json.literal`), with quoted text and the words `None`, `True` and `False`.
-/

namespace DepGraph.Json

/-- A code unit as an escape. -/
def escapeUnit (n : Nat) : List Char := '\\' :: 'u' :: Text.hex 4 n

/-- One code point between double quotes; a code point above `0xFFFF` is escaped as a pair. -/
def escape (p : CodePoint) : List Char :=
  let n := p.val
  if n == '"'.toNat then ['\\', '"']
  else if n == '\\'.toNat then ['\\', '\\']
  else if n == '\n'.toNat then ['\\', 'n']
  else if n == '\r'.toNat then ['\\', 'r']
  else if n == '\t'.toNat then ['\\', 't']
  else if n == 0x08 then ['\\', 'b']
  else if n == 0x0C then ['\\', 'f']
  else if 0x20 ≤ n && n ≤ 0x7E then [Char.ofNat n]
  else if n < 0x10000 then escapeUnit n
  else
    let m := n - 0x10000
    escapeUnit (0xD800 + m / 0x400) ++ escapeUnit (0xDC00 + m % 0x400)

/-- A string between double quotes. -/
def renderText (t : Text) : List Char := '"' :: t.flatMap escape ++ ['"']

mutual

/-- The characters of a value on one line. -/
def renderChars : Json → List Char
  | .null => "null".toList
  | .bool b => (if b then "true" else "false").toList
  | .int n => (toString n).toList
  | .float x => (NumberLayout.logged.text x).toList
  | .str t => renderText t
  | .arr items => '[' :: renderItems items ++ [']']
  | .obj fields => '\x7b' :: renderFields fields ++ ['\x7d']

/-- The items of an array, with a comma between two of them. -/
def renderItems : List Json → List Char
  | [] => []
  | [item] => renderChars item
  | item :: items => renderChars item ++ ',' :: ' ' :: renderItems items

/-- The fields of an object, with a comma between two of them. -/
def renderFields : List (Text × Json) → List Char
  | [] => []
  | [(name, value)] => renderText name ++ ':' :: ' ' :: renderChars value
  | (name, value) :: fields =>
    renderText name ++ ':' :: ' ' :: (renderChars value ++ ',' :: ' ' :: renderFields fields)

end

/-- A value on **one line**. -/
def render (j : Json) : String := String.ofList (renderChars j)

mutual

/-- The characters of a value in literal notation. -/
def literalChars : Json → List Char
  | .null => "None".toList
  | .bool b => (if b then "True" else "False").toList
  | .int n => (toString n).toList
  | .float x => (NumberLayout.plain.text x).toList
  | .str t => Text.Quoted.chars t
  | .arr items => '[' :: literalItems items ++ [']']
  | .obj fields => '\x7b' :: literalFields fields ++ ['\x7d']

/-- The items of an array in literal notation. -/
def literalItems : List Json → List Char
  | [] => []
  | [item] => literalChars item
  | item :: items => literalChars item ++ ',' :: ' ' :: literalItems items

/-- The fields of an object in literal notation. -/
def literalFields : List (Text × Json) → List Char
  | [] => []
  | [(name, value)] => Text.Quoted.chars name ++ ':' :: ' ' :: literalChars value
  | (name, value) :: fields =>
    Text.Quoted.chars name ++
      ':' :: ' ' :: (literalChars value ++ ',' :: ' ' :: literalFields fields)

end

/-- A value in **literal notation**. -/
def literal (j : Json) : String := String.ofList (literalChars j)

/-- A value as it stands in a message: a string as it is, anything else in literal notation. -/
def display : Json → String
  | .str t => t.display
  | j => literal j

end DepGraph.Json
