import DepGraph.Text.Blank

/-!
# The tokens of a module

A module is laid out by lines, and its statements are told apart by what stands outside all brackets
and strings. The scanner therefore keeps the tokens of that level only, each with its text, so that
the tokens between two marks give back what is written there. It goes through the source one
character at a time; what an escape or a mark of several characters covers beyond its first
character is skipped.
-/

namespace DepGraph.Syntax.Module

/-! ### Tokens -/

/-- A **token** outside brackets and strings. -/
inductive Token
  /-- A name, a keyword or a number. -/
  | word (cs : List Char)
  /-- Any other character. -/
  | mark (c : Char)
  /-- Blanks, or a line break that a backslash takes away. -/
  | gap (cs : List Char)
  /-- A string. -/
  | literal
  /-- The end of a line. -/
  | lineEnd
deriving DecidableEq, Repr

/-- The text of a token, as far as it is kept. -/
def Token.text : Token → List Char
  | word cs => cs
  | mark c => [c]
  | gap cs => cs
  | literal => []
  | lineEnd => []

/-! ### The state of the scanner -/

/-- How a string is quoted. -/
structure Quote where
  /-- The quote mark. -/
  mark : Char
  /-- Whether the mark stands three times. -/
  tripled : Bool
  /-- Whether expressions stand in braces in the string. -/
  formatted : Bool
deriving DecidableEq, Repr

/-- What is open around a place in the source. -/
inductive Frame
  /-- A bracket. -/
  | bracket
  /-- The braces of an expression in a formatted string, or in the format of one. -/
  | expression (quote : Quote) (inFormat : Bool)
deriving DecidableEq, Repr

/-- What a character is read as. -/
inductive Mode
  /-- Code. -/
  | code
  /-- A comment, up to the end of the line. -/
  | comment
  /-- The text of a string. -/
  | text (quote : Quote)
  /-- The format of an expression in a string. -/
  | format (quote : Quote)
deriving DecidableEq, Repr

/-- The state of the scanner. -/
structure State where
  /-- What the next character is read as. -/
  mode : Mode := .code
  /-- What is open, innermost first. -/
  frames : List Frame := []
  /-- The letters directly before the next character, last first. -/
  letters : List Char := []
  /-- The tokens so far, last first. -/
  tokens : List Token := []

/-- The state with one more token, if nothing is open. -/
def State.emit (s : State) (t : Token) : State :=
  if s.frames.isEmpty then { s with tokens := t :: s.tokens } else s

/-! ### Characters -/

/-- Whether a character separates words. -/
def isGap (c : Char) : Bool :=
  Text.isBlank c || c.toNat == 0xFEFF || c.toNat == 0x2060 || c.toNat == 0x200B

/-- Whether a character is a letter of a word. -/
def isLetter (c : Char) : Bool := c.isAlphanum || c == '_' || (0x80 ≤ c.toNat && !isGap c)

/-- Whether letters directly before a quote mark say that the string is formatted. -/
def isFormatted (letters : List Char) : Bool :=
  ["f", "fr", "rf"].contains (String.ofList (letters.map Char.toLower))

/-! ### Steps -/

/-- The state in a string whose first quote mark was just read, and how many more characters of its
opening follow. -/
def openQuote (s : State) (c : Char) (rest : List Char) : State × Nat :=
  let tripled := rest.take 2 == [c, c]
  let quote : Quote := ⟨c, tripled, isFormatted s.letters⟩
  ({ s with mode := .text quote, letters := [] }, if tripled then 2 else 0)

/-- One character of code. -/
def stepCode (s : State) (c : Char) (rest : List Char) : State × Nat :=
  if isLetter c then
    let letters := c :: s.letters
    if rest.head?.any isLetter then ({ s with letters }, 0)
    else ({ s.emit (.word letters.reverse) with letters }, 0)
  else if c == '"' || c == '\'' then openQuote s c rest
  else
    let s := { s with letters := [] }
    if c == '\n' then (s.emit .lineEnd, 0)
    else if c == '#' then ({ s with mode := .comment }, 0)
    else if c == '\\' then
      match rest with
      | '\n' :: _ => (s.emit (.gap ['\\', '\n']), 1)
      | '\r' :: '\n' :: _ => (s.emit (.gap ['\\', '\r', '\n']), 2)
      | _ => (s.emit (.mark c), 0)
    else if isGap c then (s.emit (.gap [c]), 0)
    else if c == '(' || c == '[' || c == '\x7b' then
      let s := s.emit (.mark c)
      ({ s with frames := .bracket :: s.frames }, 0)
    else
      match s.frames with
      | .expression quote inFormat :: frames =>
        if c == '\x7d' then
          ({ s with frames, mode := if inFormat then .format quote else .text quote }, 0)
        else if c == ':' then ({ s with mode := .format quote }, 0)
        else (s, 0)
      | .bracket :: frames =>
        if c == ')' || c == ']' || c == '\x7d' then
          (State.emit { s with frames } (.mark c), 0)
        else (s, 0)
      | [] => (s.emit (.mark c), 0)

/-- One character of the text of a string. -/
def stepText (s : State) (quote : Quote) (c : Char) (rest : List Char) : State × Nat :=
  if c == '\\' then
    if quote.formatted then
      match rest with
      | 'N' :: '\x7b' :: _ => (s, 2)
      | '\x7b' :: _ => (s, 0)
      | _ => (s, 1)
    else (s, 1)
  else if c == quote.mark then
    if quote.tripled then
      if rest.take 2 == [c, c] then (State.emit { s with mode := .code } .literal, 2) else (s, 0)
    else (State.emit { s with mode := .code } .literal, 0)
  else if c == '\x7b' && quote.formatted then
    if rest.head? == some '\x7b' then (s, 1)
    else ({ s with mode := .code, frames := .expression quote false :: s.frames }, 0)
  else (s, 0)

/-- One character of the format of an expression in a string. -/
def stepFormat (s : State) (quote : Quote) (c : Char) : State × Nat :=
  if c == '\x7b' then ({ s with mode := .code, frames := .expression quote true :: s.frames }, 0)
  else if c == '\x7d' then
    match s.frames with
    | .expression outer inFormat :: frames =>
      ({ s with frames, mode := if inFormat then .format outer else .text outer }, 0)
    | _ => (s, 0)
  else (s, 0)

/-- One character, and how many of those after it are covered as well. -/
def step (s : State) (c : Char) (rest : List Char) : State × Nat :=
  match s.mode with
  | .code => stepCode s c rest
  | .comment => if c == '\n' then (State.emit { s with mode := .code } .lineEnd, 0) else (s, 0)
  | .text quote => stepText s quote c rest
  | .format quote => stepFormat s quote c

/-- The state after the rest of a source, of which `skip` characters are covered. -/
def run (s : State) (skip : Nat) : List Char → State
  | [] => s
  | c :: cs =>
    match skip with
    | skip + 1 => run s skip cs
    | 0 =>
      match step s c cs with
      | (s, skip) => run s skip cs

/-- The **tokens** of a source that stand outside brackets and strings. -/
def tokens (cs : List Char) : List Token := (run {} 0 cs).tokens.reverse

end DepGraph.Syntax.Module
