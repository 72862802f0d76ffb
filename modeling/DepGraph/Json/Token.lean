import DepGraph.Json.Value
import DepGraph.Number.Decimal
import DepGraph.Text.Hex

/-!
# The tokens of a JSON text

A JSON text is read as tokens, each with the index of its first character. A string or a number that
is malformed is a token as well, one that carries its fault, and it is the last: whether the fault
counts depends on what the grammar expects where the token stands.
-/

namespace DepGraph.Json

/-- What can be wrong with a JSON text. -/
inductive Flaw
  /-- A value should stand here. -/
  | expectedValue
  /-- A name should stand here. -/
  | expectedName
  /-- A colon should stand here. -/
  | expectedColon
  /-- A comma or a closing bracket should stand here. -/
  | expectedComma
  /-- The text goes on after its value. -/
  | extraData
  /-- A string holds a raw control character. -/
  | controlCharacter
  /-- A string does not end. -/
  | unterminated
  /-- A backslash stands before a character that it cannot escape. -/
  | badEscape
  /-- An escaped code point does not have four hexadecimal digits. -/
  | badCodePoint
  /-- The text starts with a byte order mark. -/
  | byteOrderMark
deriving DecidableEq, Repr

/-- The words for a flaw. -/
def Flaw.words : Flaw → String
  | .expectedValue => "Expecting value"
  | .expectedName => "Expecting property name enclosed in double quotes"
  | .expectedColon => "Expecting ':' delimiter"
  | .expectedComma => "Expecting ',' delimiter"
  | .extraData => "Extra data"
  | .controlCharacter => "Invalid control character at"
  | .unterminated => "Unterminated string starting at"
  | .badEscape => "Invalid \\escape"
  | .badCodePoint => "Invalid \\uXXXX escape"
  | .byteOrderMark => "Unexpected UTF-8 BOM (decode using utf-8-sig)"

/-- Why a JSON text was not read. -/
inductive Refusal
  /-- The text is malformed at an index. -/
  | malformed (flaw : Flaw) (index : Nat)
  /-- An integer has more digits than are read. -/
  | hugeInteger (digits : Nat)
  /-- Arrays and objects are nested more deeply than they are read. -/
  | tooDeep
deriving DecidableEq, Repr

/-- What a token is. -/
inductive TokenKind
  /-- A bracket, a colon or a comma. -/
  | mark (c : Char)
  /-- A string. -/
  | string (t : Text)
  /-- Any other value that is a single token. -/
  | scalar (value : Json)
  /-- A string or number with a fault, or a character that starts no token. -/
  | faulty (refusal : Refusal)

/-- A token and the index of its first character. -/
structure Token where
  /-- The index. -/
  index : Nat
  /-- The token. -/
  kind : TokenKind

/-! ### Strings -/

/-- Reads the four digits of an escaped code point, whose `u` stands at `index`. -/
def codePointAt (index : Nat) (cs : List Char) : Except Refusal CodePoint :=
  match cs with
  | a :: b :: c :: d :: _ :: _ =>
    match Text.ofHex? [a, b, c, d] with
    | some n => .ok (CodePoint.ofNat n)
    | none => .error (.malformed .badCodePoint index)
  | _ => .error (.malformed .badCodePoint index)

/-- What a backslash and this character stand for. -/
def escaped? : Char → Option Char
  | '"' => some '"'
  | '\\' => some '\\'
  | '/' => some '/'
  | 'b' => some '\x08'
  | 'f' => some '\x0c'
  | 'n' => some '\n'
  | 'r' => some '\r'
  | 't' => some '\t'
  | _ => none

/-- Reads the rest of a string that started at `start`; `index` is the index of the next character
and `skip` counts characters that an escape already covered. The answer is the text and the index
after the closing quote. A pair of escaped halves is one code point. -/
def stringFrom (start index skip : Nat) (acc : Text) : List Char → Except Refusal (Text × Nat)
  | [] => .error (.malformed .unterminated start)
  | c :: cs =>
    match skip with
    | skip + 1 => stringFrom start (index + 1) skip acc cs
    | 0 =>
      if c == '"' then .ok (acc.reverse, index + 1)
      else if c == '\\' then
        match cs with
        | [] => .error (.malformed .unterminated start)
        | 'u' :: rest =>
          match codePointAt (index + 1) rest with
          | .error r => .error r
          | .ok p =>
            match p.isHigh, rest with
            | true, _ :: _ :: _ :: _ :: '\\' :: 'u' :: low =>
              if low.length < 5 then stringFrom start (index + 1) 5 (p :: acc) cs
              else
                match codePointAt (index + 7) low with
                | .error r => .error r
                | .ok q =>
                  if q.isLow then stringFrom start (index + 1) 11 (CodePoint.ofPair p q :: acc) cs
                  else stringFrom start (index + 1) 5 (p :: acc) cs
            | _, _ => stringFrom start (index + 1) 5 (p :: acc) cs
        | e :: _ =>
          match escaped? e with
          | some x => stringFrom start (index + 1) 1 (CodePoint.ofChar x :: acc) cs
          | none => .error (.malformed .badEscape index)
      else if c.toNat < 0x20 then .error (.malformed .controlCharacter index)
      else stringFrom start (index + 1) 0 (CodePoint.ofChar c :: acc) cs

/-! ### Numbers and words -/

/-- The most digits that an integer may have. -/
def integerDigits : Nat := 4300

/-- The whole part of a number: one zero, or digits that do not start with one. -/
def wholePart : List Char → List Char
  | '0' :: _ => ['0']
  | cs => cs.takeWhile Char.isDigit

/-- The fraction of a number, without its point: it is there if a digit follows the point. -/
def fractionPart : List Char → List Char
  | '.' :: cs => cs.takeWhile Char.isDigit
  | _ => []

/-- The sign and digits of an exponent: it is there if a digit follows. -/
def exponentPart : List Char → List Char × List Char
  | e :: cs =>
    if e == 'e' || e == 'E' then
      match cs with
      | s :: ds =>
        if s == '+' || s == '-' then ([s], ds.takeWhile Char.isDigit)
        else ([], cs.takeWhile Char.isDigit)
      | [] => ([], [])
    else ([], [])
  | [] => ([], [])

/-- Reads the number that the characters start with: its value and how many characters it covers, or
`none` if they start with no number. -/
def number? (cs : List Char) : Option (TokenKind × Nat) :=
  let (negative, body) : Bool × List Char :=
    match cs with
    | '-' :: body => (true, body)
    | _ => (false, cs)
  let sign := if negative then 1 else 0
  match wholePart body with
  | [] => none
  | whole =>
    let rest := body.drop whole.length
    let fraction := fractionPart rest
    let point := if fraction.isEmpty then 0 else fraction.length + 1
    let (mark, digits) := exponentPart (rest.drop point)
    let power := if digits.isEmpty then 0 else 1 + mark.length + digits.length
    if point == 0 && power == 0 then
      if whole.length > integerDigits then some (.faulty (.hugeInteger whole.length), whole.length)
      else
        let n : Int := Decimal.ofDigits whole
        some (.scalar (.int (if negative then -n else n)), sign + whole.length)
    else
      let e : Int := Decimal.ofDigits digits
      let e := if mark == ['-'] then -e else e
      let x := (Decimal.ofParts whole fraction e).toFloat
      some (.scalar (.float (if negative then -x else x)), sign + whole.length + point + power)

/-- The words that are values. -/
def words : List (List Char × Json) :=
  [("null".toList, .null), ("true".toList, .bool true), ("false".toList, .bool false),
    ("NaN".toList, .float (0.0 / 0.0)), ("Infinity".toList, .float (1.0 / 0.0)),
    ("-Infinity".toList, .float (-1.0 / 0.0))]

/-! ### Tokens -/

/-- Whether a character separates tokens. -/
def isSpace (c : Char) : Bool := c == ' ' || c == '\t' || c == '\n' || c == '\r'

/-- Whether a character is a token by itself. -/
def isMark (c : Char) : Bool :=
  c == '[' || c == ']' || c == '\x7b' || c == '\x7d' || c == ':' || c == ','

/-- The token that starts at `index` and how many characters it covers. -/
def tokenAt (index : Nat) (cs : List Char) : TokenKind × Nat :=
  match cs with
  | [] => (.faulty (.malformed .expectedValue index), 0)
  | c :: rest =>
    if isMark c then (.mark c, 1)
    else if c == '"' then
      match stringFrom index (index + 1) 0 [] rest with
      | .ok (t, stop) => (.string t, stop - index)
      | .error r => (.faulty r, rest.length + 1)
    else
      match words.find? fun w => w.1.isPrefixOf cs with
      | some w => (.scalar w.2, w.1.length)
      | none => (number? cs).getD (.faulty (.malformed .expectedValue index), rest.length + 1)

/-- The tokens of the characters from `index` on, of which `skip` belong to the token before. -/
def tokensFrom (index skip : Nat) : List Char → List Token
  | [] => []
  | c :: cs =>
    match skip with
    | skip + 1 => tokensFrom (index + 1) skip cs
    | 0 =>
      if isSpace c then tokensFrom (index + 1) 0 cs
      else
        let (kind, covered) := tokenAt index (c :: cs)
        ⟨index, kind⟩ :: tokensFrom (index + 1) (covered - 1) cs

/-- The **tokens** of a JSON text. -/
def tokens (cs : List Char) : List Token := tokensFrom 0 0 cs

end DepGraph.Json
