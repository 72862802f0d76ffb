import DepGraph.Syntax.Program.Token
import DepGraph.Text.Blank
import DepGraph.Text.Hex

/-!
# Scanning a program

The scanner goes through a program one character at a time; what a mark of several characters covers
beyond its first is skipped. Two questions are answered as it goes. Whether an **operand** is
expected tells a regular expression from a division and markup from a comparison; and what a brace
**is**, a block or an object, tells what is expected after it.
-/

namespace DepGraph.Syntax.Program

/-! ### The state of the scanner -/

/-- What is open around a place in the program. -/
inductive Frame
  /-- Parentheses; those of a control statement are followed by a statement. -/
  | round (control : Bool)
  /-- Square brackets. -/
  | square
  /-- Braces; a block is followed by a statement, an object is an operand. -/
  | curly (block : Bool)
  /-- The braces of an expression in a template. -/
  | inTemplate
  /-- The braces of an expression among the attributes of an element. -/
  | inTag
  /-- The braces of an expression among the children of an element. -/
  | inChildren
  /-- The children of an element. -/
  | children
  /-- An element that is the value of an attribute. -/
  | attributeValue
deriving DecidableEq, Repr

/-- What a character is read as. -/
inductive Mode
  /-- Code. -/
  | code
  /-- A comment, up to the end of the line; afterwards the code or the attributes go on. -/
  | lineComment (inTag : Bool)
  /-- A comment that starts with a mark of markup, up to the end of the line. -/
  | markupComment
  /-- A comment, up to its mark; afterwards the code or the attributes go on. -/
  | blockComment (inTag : Bool)
  /-- The text of a string. -/
  | text (quote : Char)
  /-- The text of a template. -/
  | template
  /-- A regular expression, in a class of characters or not. -/
  | expression (inClass : Bool)
  /-- The name and attributes of an element, within so many angle brackets. -/
  | tag (angles : Nat)
  /-- The text of an attribute. -/
  | attribute (quote : Char) (angles : Nat)
  /-- The text between the tags of an element. -/
  | between
  /-- The closing tag of an element. -/
  | closingTag
deriving DecidableEq, Repr

/-- The state of the scanner. -/
structure State where
  /-- What the next character is read as. -/
  mode : Mode := .code
  /-- What is open, innermost first. -/
  frames : List Frame := []
  /-- Whether an operand is expected. -/
  operand : Bool := true
  /-- Whether the last word introduces the parentheses of a control statement. -/
  control : Bool := false
  /-- The characters of the word or string that is being read, last first. -/
  pending : List Char := []
  /-- The tokens so far, last first. -/
  tokens : List Token := []

/-- The state with one more token, after which an operand is expected or not. -/
def State.emit (s : State) (t : Token) (operand : Bool) : State :=
  { s with tokens := t :: s.tokens, operand, control := false }

/-! ### Characters and words -/

/-- Whether a character separates tokens. -/
def isGap (c : Char) : Bool :=
  Text.isBlank c || c.toNat == 0xFEFF || c.toNat == 0x2060 || c.toNat == 0x200B

/-- Whether a character ends the line that it stands in, whatever stands before it. -/
def endsLine (c : Char) : Bool := c == '\n' || c.toNat == 0x2028 || c.toNat == 0x2029

/-- Whether a character is a letter of a word. -/
def isLetter (c : Char) : Bool :=
  c.isAlphanum || c == '_' || c == '$' || c == '#' || c == '\\' || (0x80 ≤ c.toNat && !isGap c)

/-- The words after which an operand is expected. -/
def operandWords : List String :=
  ["return", "typeof", "instanceof", "in", "of", "new", "delete", "void", "throw", "case", "do",
    "else", "yield", "await", "default"]

/-- The words that a statement follows directly. -/
def statementWords : List String := ["do", "else"]

/-- The words that introduce the parentheses of a control statement. -/
def controlWords : List String := ["if", "while", "for", "with"]

/-- Whether the last token makes a word after it a plain name. -/
def isMember : List Token → Bool
  | .mark "." :: _ | .mark "?." :: _ => true
  | _ => false

/-- The state after a word. -/
def State.endWord (s : State) (letters : List Char) : State :=
  let w := String.ofList letters
  let plain := isMember s.tokens
  let control := !plain && (controlWords.contains w || (w == "await" && s.control))
  { s.emit (.word letters) (!plain && operandWords.contains w) with control, pending := [] }

/-! ### Braces -/

/-- Whether a brace after these tokens and inside these frames opens a block. -/
def opensBlock (s : State) : Bool :=
  if !s.operand then true
  else
    match s.tokens with
    | .word cs :: _ => statementWords.contains (String.ofList cs)
    | .mark ":" :: _ =>
      match s.frames with
      | [] | .curly true :: _ => true
      | _ => false
    | .mark m :: _ => [";", "=>", ">"].contains m
    | .opening .curly :: _ =>
      match s.frames with
      | .curly _ :: _ => true
      | _ => false
    | .opening _ :: _ => false
    | .closing _ :: _ => true
    | _ => true

/-- The state after an opening bracket. -/
def State.openBracket (s : State) (c : Char) : State :=
  if c == '(' then
    { s.emit (.opening .round) true with frames := .round s.control :: s.frames }
  else if c == '[' then { s.emit (.opening .square) true with frames := .square :: s.frames }
  else { s.emit (.opening .curly) true with frames := .curly (opensBlock s) :: s.frames }

/-- The state after a closing bracket. -/
def State.closeBracket (s : State) (c : Char) : State :=
  let b : Bracket := if c == ')' then .round else if c == ']' then .square else .curly
  let rest := s.frames.drop 1
  match s.frames.head? with
  | some (.round control) => { s.emit (.closing b) control with frames := rest }
  | some (.curly block) => { s.emit (.closing b) block with frames := rest }
  | some .inTemplate => { s.emit (.closing b) false with frames := rest, mode := .template }
  | some .inTag => { s.emit (.closing b) false with frames := rest, mode := .tag 0 }
  | some .inChildren => { s.emit (.closing b) false with frames := rest, mode := .between }
  | _ => { s.emit (.closing b) false with frames := rest }

/-! ### Markup -/

/-- A text without the gap at its start. -/
def skipGap (cs : List Char) : List Char := cs.dropWhile isGap

/-- Whether a character is part of the name of an element. -/
def isTagLetter (c : Char) : Bool := isLetter c || c == '.' || c == '-' || c == ':'

/-- Whether a text starts with a word, and not with a longer one. -/
def startsWithWord (w : List Char) (cs : List Char) : Bool :=
  w.isPrefixOf cs && !(cs.drop w.length).head?.any isLetter

/-- Whether a text occurs in another. -/
def occursIn (needle : List Char) : List Char → Bool
  | [] => needle.isEmpty
  | c :: cs => needle.isPrefixOf (c :: cs) || occursIn needle cs

/-- Whether what follows an angle bracket is a list of **type parameters** and no element: a comma,
a bound or a default follows the first name, or an argument list follows a single name that nothing
closes. -/
def isTypeParameters (cs : List Char) : Bool :=
  let cs := skipGap cs
  let name := cs.takeWhile isTagLetter
  let rest := cs.drop name.length
  let after := skipGap rest
  if name.isEmpty then false
  else if startsWithWord "const".toList cs then after.head?.any isLetter
  else
    match after with
    | ',' :: _ => true
    | '=' :: _ => true
    | '>' :: more =>
      (skipGap more).head? == some '(' && !occursIn ("</".toList ++ name ++ ['>']) more
    | _ =>
      startsWithWord "extends".toList after &&
        (skipGap (after.drop 7)).head? != some '=' && (skipGap (after.drop 7)).head? != some '/' &&
          (skipGap (after.drop 7)).head? != some '>'

/-- Whether an angle bracket where an operand is expected opens an element. -/
def opensElement (d : Dialect) (rest : List Char) : Bool :=
  d.markup && !(d.types && isTypeParameters rest)

/-- The state after an element ends. -/
def State.endElement (s : State) : State :=
  match s.frames with
  | .children :: _ => { s with mode := .between, tokens := .closing .markup :: s.tokens }
  | .attributeValue :: frames =>
    { s with mode := .tag 0, frames, tokens := .closing .markup :: s.tokens }
  | _ => { s.emit (.closing .markup) false with mode := .code }

/-! ### Steps -/

/-- Whether a text starts with a digit. -/
def startsWithDigit (cs : List Char) : Bool := cs.head?.any Char.isDigit

/-- Whether a number of these digits ends in a point that no digit follows. -/
def endsInPoint (digits rest : List Char) : Bool :=
  digits.all Char.isDigit && rest.head? == some '.' && !startsWithDigit (rest.drop 1)

/-- The state after a mark, and how many more characters it covers. -/
def stepMark (s : State) (c : Char) (rest : List Char) : State × Nat :=
  match c, rest with
  | '.', '.' :: '.' :: _ => (s.emit (.mark "...") true, 2)
  | '?', '.' :: more =>
    if startsWithDigit more then (s.emit (.mark "?") true, 0) else (s.emit (.mark "?.") true, 1)
  | '=', '>' :: _ => (s.emit (.mark "=>") true, 1)
  | '+', '+' :: _ => (s.emit (.mark "++") s.operand, 1)
  | '-', '-' :: _ => (s.emit (.mark "--") s.operand, 1)
  | '!', '=' :: _ => (s.emit (.mark "!") true, 0)
  | '!', _ => (s.emit (.mark "!") s.operand, 0)
  | _, _ => (s.emit (.mark (String.singleton c)) true, 0)

/-- One character of code. -/
def stepCode (d : Dialect) (s : State) (c : Char) (rest : List Char) : State × Nat :=
  if isGap c then (s, 0)
  else if isLetter c || (c == '.' && startsWithDigit rest) then
    let letters := c :: s.pending
    if rest.head?.any isLetter then ({ s with pending := letters }, 0)
    else (s.endWord letters.reverse, if endsInPoint letters rest then 1 else 0)
  else if c == '"' || c == '\'' then ({ s with mode := .text c }, 0)
  else if c == '\x60' then ({ s.emit (.opening .template) true with mode := .template }, 0)
  else if c == '(' || c == '[' || c == '\x7b' then (s.openBracket c, 0)
  else if c == ')' || c == ']' || c == '\x7d' then (s.closeBracket c, 0)
  else if c == '/' then
    match rest with
    | '/' :: _ => ({ s with mode := .lineComment false }, 1)
    | '*' :: _ => ({ s with mode := .blockComment false }, 1)
    | _ =>
      if s.operand then ({ s with mode := .expression false }, 0)
      else stepMark s c rest
  else if s.operand && c == '<' && "!--".toList.isPrefixOf rest then
    ({ s with mode := .markupComment }, 3)
  else if s.operand && c == '-' && "->".toList.isPrefixOf rest then
    ({ s with mode := .markupComment }, 2)
  else if s.operand && c == '<' && opensElement d rest then
    ({ s.emit (.opening .markup) true with mode := .tag 0 }, 0)
  else stepMark s c rest

/-- One character of an element's name and attributes. -/
def stepTag (s : State) (angles : Nat) (c : Char) (rest : List Char) : State × Nat :=
  if c == '"' || c == '\'' then ({ s with mode := .attribute c angles }, 0)
  else if c == '\x7b' then
    ({ s.emit (.opening .curly) true with mode := .code, frames := .inTag :: s.frames }, 0)
  else if c == '<' then ({ s with mode := .tag (angles + 1) }, 0)
  else if c == '>' then
    match angles with
    | angles + 1 => ({ s with mode := .tag angles }, 0)
    | 0 => ({ s with mode := .between, frames := .children :: s.frames }, 0)
  else if c == '/' then
    match rest with
    | '/' :: _ => ({ s with mode := .lineComment true }, 1)
    | '*' :: _ => ({ s with mode := .blockComment true }, 1)
    | '>' :: _ => (s.endElement, 1)
    | _ => (s, 0)
  else if c == '=' && (skipGap rest).head? == some '<' then
    ({ s with
        mode := .tag 0, frames := .attributeValue :: s.frames,
        tokens := .opening .markup :: s.tokens }, (rest.takeWhile isGap).length + 1)
  else (s, 0)

/-- One character between the tags of an element. -/
def stepBetween (s : State) (c : Char) (rest : List Char) : State × Nat :=
  if c == '\x7b' then
    ({ s.emit (.opening .curly) true with mode := .code, frames := .inChildren :: s.frames }, 0)
  else if c == '<' then
    match skipGap rest with
    | '/' :: _ => ({ s with mode := .closingTag }, 0)
    | _ => ({ s with mode := .tag 0, tokens := .opening .markup :: s.tokens }, 0)
  else (s, 0)

/-- One character of a template. -/
def stepTemplate (s : State) (c : Char) (rest : List Char) : State × Nat :=
  if c == '\\' then (s, 1)
  else if c == '\x60' then ({ s.emit (.closing .template) false with mode := .code }, 0)
  else if c == '$' && rest.head? == some '\x7b' then
    ({ s.emit (.opening .curly) true with mode := .code, frames := .inTemplate :: s.frames }, 1)
  else (s, 0)

/-- One character of the text of a string. -/
def stepText (s : State) (quote c : Char) (rest : List Char) : State × Nat :=
  if c == quote then
    ({ s.emit (.text s.pending.reverse) false with mode := .code, pending := [] }, 0)
  else if c == '\\' then
    match rest with
    | e :: _ => ({ s with pending := e :: c :: s.pending }, 1)
    | [] => (s, 0)
  else ({ s with pending := c :: s.pending }, 0)

/-- One character of a regular expression. -/
def stepExpression (s : State) (inClass : Bool) (c : Char) (rest : List Char) : State × Nat :=
  if c == '\\' then (s, 1)
  else if c == '[' then ({ s with mode := .expression true }, 0)
  else if c == ']' then ({ s with mode := .expression false }, 0)
  else if c == '/' && !inClass then
    ({ s.emit .expression false with mode := .code }, (rest.takeWhile isLetter).length)
  else (s, 0)

/-- One character, and how many of those after it are covered as well. -/
def step (d : Dialect) (s : State) (c : Char) (rest : List Char) : State × Nat :=
  match s.mode with
  | .code => stepCode d s c rest
  | .lineComment inTag =>
    if endsLine c || c == '\r' then ({ s with mode := if inTag then .tag 0 else .code }, 0)
    else (s, 0)
  | .markupComment => if endsLine c then ({ s with mode := .code }, 0) else (s, 0)
  | .blockComment inTag =>
    if c == '*' && rest.head? == some '/' then
      ({ s with mode := if inTag then .tag 0 else .code }, 1)
    else (s, 0)
  | .text quote => stepText s quote c rest
  | .template => stepTemplate s c rest
  | .expression inClass => stepExpression s inClass c rest
  | .tag angles => stepTag s angles c rest
  | .attribute quote angles => if c == quote then ({ s with mode := .tag angles }, 0) else (s, 0)
  | .between => stepBetween s c rest
  | .closingTag =>
    if c == '>' then (State.endElement { s with frames := s.frames.drop 1 }, 0) else (s, 0)

/-- The state after the rest of a program, of which `skip` characters are covered. -/
def run (d : Dialect) (s : State) (skip : Nat) : List Char → State
  | [] => s
  | c :: cs =>
    match skip with
    | skip + 1 => run d s skip cs
    | 0 =>
      match step d s c cs with
      | (s, skip) => run d s skip cs

/-- A program without the line that names its interpreter. -/
def dropInterpreter (cs : List Char) : List Char :=
  match cs with
  | '#' :: '!' :: rest => rest.dropWhile (· != '\n')
  | cs => cs

/-- The **tokens** of a program. -/
def tokens (d : Dialect) (cs : List Char) : List Token :=
  (run d {} 0 (dropInterpreter cs)).tokens.reverse

end DepGraph.Syntax.Program
