import DepGraph.Json.Token

/-!
# Reading JSON

The tokens of a text are read one after the other with a stack of the arrays and objects that are
open. At each token the reader knows what it **expects**; the first token that does not fit, or that
carries a fault where a value is expected, ends the reading with that flaw.
-/

namespace DepGraph.Json

/-- An array or object that is open, with what it holds so far. -/
inductive Frame
  /-- An array, last item first. -/
  | items (done : List Json)
  /-- An object whose field `name` awaits its value. -/
  | fields (done : Fields) (name : Text)

/-- What the next token has to be. -/
inductive Expected
  /-- A value. -/
  | value
  /-- A value, or the bracket that closes an empty array. -/
  | firstItem
  /-- A name, or the brace that closes an empty object. -/
  | firstName
  /-- The next name of an object with these fields. -/
  | name (done : Fields)
  /-- The colon after a name. -/
  | colon (done : Fields) (name : Text)
  /-- A comma or a closing bracket, after an item of an array. -/
  | nextItem (done : List Json)
  /-- A comma or a closing brace, after a field of an object. -/
  | nextField (done : Fields)
  /-- Nothing: the value of the text is complete. -/
  | finish (value : Json)

/-- What is expected once a value is complete inside the open frames, and the frames around it. -/
def complete (value : Json) : List Frame → Expected × List Frame
  | [] => (.finish value, [])
  | .items done :: frames => (.nextItem (value :: done), frames)
  | .fields done name :: frames => (.nextField (Fields.set done name value), frames)

/-- The flaw of a text that has something else, or nothing, where this is expected. -/
def Expected.flaw : Expected → Flaw
  | .value | .firstItem => .expectedValue
  | .firstName | .name _ => .expectedName
  | .colon _ _ => .expectedColon
  | .nextItem _ | .nextField _ => .expectedComma
  | .finish _ => .extraData

/-- The start of a value: a scalar completes it, a bracket opens it. -/
def begin (limit : Nat) (frames : List Frame) (token : Token) :
    Except Refusal (Expected × List Frame) :=
  match token.kind with
  | .scalar v => .ok (complete v frames)
  | .string t => .ok (complete (.str t) frames)
  | .mark '[' => if limit ≤ frames.length then .error .tooDeep else .ok (.firstItem, frames)
  | .mark '\x7b' => if limit ≤ frames.length then .error .tooDeep else .ok (.firstName, frames)
  | .mark _ => .error (.malformed .expectedValue token.index)
  | .faulty r => .error r

/-- The name of a field. A faulty string is faulty here too; any other token is out of place. -/
def beginName (done : Fields) (frames : List Frame) (token : Token) :
    Except Refusal (Expected × List Frame) :=
  match token.kind with
  | .string t => .ok (.colon done t, frames)
  | .faulty (.malformed .expectedValue _) | .faulty (.hugeInteger _) =>
    .error (.malformed .expectedName token.index)
  | .faulty r => .error r
  | _ => .error (.malformed .expectedName token.index)

/-- What is expected after one more token. -/
def step (limit : Nat) (expected : Expected) (frames : List Frame) (token : Token) :
    Except Refusal (Expected × List Frame) :=
  match expected, token.kind with
  | .value, _ => begin limit frames token
  | .firstItem, .mark ']' => .ok (complete (.arr []) frames)
  | .firstItem, _ => begin limit (.items [] :: frames) token
  | .firstName, .mark '\x7d' => .ok (complete (.obj []) frames)
  | .firstName, _ => beginName [] frames token
  | .name done, _ => beginName done frames token
  | .colon done name, .mark ':' => .ok (.value, .fields done name :: frames)
  | .nextItem done, .mark ']' => .ok (complete (.arr done.reverse) frames)
  | .nextItem done, .mark ',' => .ok (.value, .items done :: frames)
  | .nextField done, .mark '\x7d' => .ok (complete (.obj done) frames)
  | .nextField done, .mark ',' => .ok (.name done, frames)
  | _, _ => .error (.malformed expected.flaw token.index)

/-- Reads the rest of the tokens of a text that ends at index `stop`. -/
def readFrom (limit stop : Nat) (expected : Expected) (frames : List Frame) :
    List Token → Except Refusal Json
  | [] =>
    match expected with
    | .finish value => .ok value
    | _ => .error (.malformed expected.flaw stop)
  | token :: tokens =>
    match step limit expected frames token with
    | .error r => .error r
    | .ok (expected, frames) => readFrom limit stop expected frames tokens

/-- How deeply arrays and objects are read: as far as the stack goes that the callers of the reader
leave to it. -/
def depthLimit : Nat := 980

/-- Reads characters, with arrays and objects nested at most `limit` deep. -/
def readWithin (limit : Nat) (cs : List Char) : Except Refusal Json :=
  if cs.head? = some (Char.ofNat 0xFEFF) then .error (.malformed .byteOrderMark 0)
  else readFrom limit cs.length .value [] (tokens cs)

/-- **Reads** a JSON text. -/
def read (cs : List Char) : Except Refusal Json := readWithin depthLimit cs

/-! ### Messages -/

/-- The line and the column of an index, both counted from one. -/
def lineAndColumn (cs : List Char) (index : Nat) : Nat × Nat :=
  let before := cs.take index
  (before.count '\n' + 1, (before.reverse.takeWhile (· != '\n')).length + 1)

/-- The message of a refusal, for the text that was refused. -/
def Refusal.message (cs : List Char) : Refusal → String
  | .malformed flaw index =>
    let (line, column) := lineAndColumn cs index
    flaw.words ++ ": line " ++ toString line ++ " column " ++ toString column ++
      " (char " ++ toString index ++ ")"
  | .hugeInteger digits =>
    "Exceeds the limit (4300 digits) for integer string conversion: value has " ++
      toString digits ++ " digits; use sys.set_int_max_str_digits() to increase the limit"
  | .tooDeep => "maximum recursion depth exceeded"

end DepGraph.Json
