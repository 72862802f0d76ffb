import DepGraph.Text.Blank

/-!
# Files of environment variables

A file of environment variables has a binding on each line: a name, an equals sign and a value,
which may be quoted and may then go on over several lines. A name may stand without a value, and
comments start with a number sign. A line that is no binding is passed over. Values may refer to
variables, those of the environment and those bound further up (`DepGraph.EnvFile.resolve`).
-/

namespace DepGraph.EnvFile

/-! ### Characters -/

/-- Whether a character is blank and stands within a line. -/
def isGap (c : Char) : Bool := Text.isBlank c && c != '\n' && c != '\r'

/-- The text with every end of a line as a single line feed. -/
def unixLines : List Char → List Char
  | '\r' :: '\n' :: cs => '\n' :: unixLines cs
  | '\r' :: cs => '\n' :: unixLines cs
  | c :: cs => c :: unixLines cs
  | [] => []

/-! ### Values -/

/-- What an escape in double quotes stands for. -/
def escaped? : Char → Option Char
  | '\\' => some '\\'
  | '\'' => some '\''
  | '"' => some '"'
  | 'a' => some '\x07'
  | 'b' => some '\x08'
  | 'f' => some '\x0c'
  | 'n' => some '\n'
  | 'r' => some '\r'
  | 't' => some '\t'
  | 'v' => some '\x0b'
  | _ => none

/-- What an escape in single quotes stands for. -/
def escapedSingle? : Char → Option Char
  | '\\' => some '\\'
  | '\'' => some '\''
  | _ => none

/-- The characters with their escapes replaced; any other backslash stands for itself. -/
def unescape (known : Char → Option Char) : List Char → List Char
  | '\\' :: c :: cs =>
    match known c with
    | some d => d :: unescape known cs
    | none => '\\' :: unescape known (c :: cs)
  | c :: cs => c :: unescape known cs
  | [] => []
termination_by cs => cs.length

/-- The characters up to the first such quote with no backslash before it, and those after it. -/
def toQuote (quote : Char) (before : Option Char) : List Char → Option (List Char × List Char)
  | [] => none
  | c :: cs =>
    if c == quote && before != some '\\' then some ([], cs)
    else (toQuote quote (some c) cs).map fun (inside, rest) => (c :: inside, rest)

/-- The characters up to the last such quote, and those after it. -/
def toLastQuote (quote : Char) : List Char → Option (List Char × List Char)
  | [] => none
  | c :: cs =>
    match toLastQuote quote cs with
    | some (inside, rest) => some (c :: inside, rest)
    | none => if c == quote then some ([], cs) else none

/-- The inside of a quoted value, after the quote that opens it, and what follows: a quote after a
backslash closes the value only if no other quote does. -/
def quoted? (quote : Char) (cs : List Char) : Option (List Char × List Char) :=
  toQuote quote none cs <|> toLastQuote quote cs

/-- The characters before a comment, which follows a blank. -/
def beforeComment : List Char → List Char
  | [] => []
  | c :: cs =>
    if Text.isBlank c && (cs.dropWhile Text.isBlank).head? == some '#' then []
    else c :: beforeComment cs

/-- The characters without blanks at the end. -/
def trimEnd (cs : List Char) : List Char := (cs.reverse.dropWhile Text.isBlank).reverse

/-- A value, and what follows it. -/
def value? (cs : List Char) : Option (List Char × List Char) :=
  match cs with
  | '\'' :: cs => (quoted? '\'' cs).map fun (v, rest) => (unescape escapedSingle? v, rest)
  | '"' :: cs => (quoted? '"' cs).map fun (v, rest) => (unescape escaped? v, rest)
  | cs =>
    let line := cs.takeWhile (· != '\n')
    some (trimEnd (beforeComment line), cs.drop line.length)

/-! ### Bindings -/

/-- A **binding**: a name, and its value if it has one. -/
structure Binding where
  /-- The name. -/
  name : String
  /-- The value. -/
  value : Option (List Char)
deriving DecidableEq, Repr

/-- The characters after the word that may introduce a binding. -/
def dropExport (cs : List Char) : List Char :=
  match cs with
  | 'e' :: 'x' :: 'p' :: 'o' :: 'r' :: 't' :: c :: rest =>
    if isGap c then rest.dropWhile isGap else cs
  | _ => cs

/-- A name, and what follows it. -/
def name? (cs : List Char) : Option (List Char × List Char) :=
  match cs with
  | '\'' :: cs =>
    let name := cs.takeWhile (· != '\'')
    match name, cs.drop name.length with
    | _ :: _, _ :: rest => some (name, rest)
    | _, _ => none
  | cs =>
    let name := cs.takeWhile fun c => !(c == '=' || c == '#' || Text.isBlank c)
    if name == [] then none else some (name, cs.drop name.length)

/-- What follows the rest of a line that holds a comment at most. -/
def endLine? (cs : List Char) : Option (List Char) :=
  let cs := cs.dropWhile isGap
  match if cs.head? == some '#' then cs.dropWhile (· != '\n') else cs with
  | [] => some []
  | '\n' :: rest => some rest
  | _ => none

/-- What follows a line. -/
def skipLine (cs : List Char) : List Char := (cs.dropWhile (· != '\n')).drop 1

/-- What a line that starts with these characters binds, if anything, and what follows it. Where the
line cannot be read, the rest of the line on which that shows is passed over. -/
def line (cs : List Char) : Option Binding × List Char :=
  let cs := dropExport cs
  if cs.head? == some '#' then (none, skipLine cs)
  else
    match name? cs with
    | none => (none, skipLine cs)
    | some (name, rest) =>
      let rest := rest.dropWhile isGap
      let read : Option (Option (List Char) × List Char) :=
        match rest with
        | '=' :: rest => (value? (rest.dropWhile isGap)).map fun (v, rest) => (some v, rest)
        | rest => some (none, rest)
      match read with
      | none => (none, skipLine rest)
      | some (value, rest) =>
        match endLine? rest with
        | some rest => (some ⟨String.ofList name, value⟩, rest)
        | none => (none, skipLine rest)

/-- The bindings of lines, in order. -/
def bindingsFrom (cs : List Char) : List Binding :=
  match cs.dropWhile Text.isBlank with
  | [] => []
  | c :: rest =>
    let (binding, after) := line (c :: rest)
    if after.length < cs.length then binding.toList ++ bindingsFrom after else binding.toList
termination_by cs.length

/-- The **bindings** of a text. -/
def bindings (text : String) : List Binding := bindingsFrom (unixLines text.toList)

/-! ### References -/

/-- A reference after its dollar sign and brace: a name and the value that stands in for it where it
is missing, and what follows. -/
def reference? (cs : List Char) : Option ((List Char × List Char) × List Char) :=
  let name := cs.takeWhile fun c => !(c == '\x7d' || c == ':')
  match cs.drop name.length with
  | '\x7d' :: rest => some ((name, []), rest)
  | ':' :: '-' :: rest =>
    let instead := rest.takeWhile (· != '\x7d')
    match rest.drop instead.length with
    | _ :: rest => some ((name, instead), rest)
    | [] => none
  | _ => none

/-- The characters with their references replaced. -/
def substitute (lookup : String → Option (List Char)) (cs : List Char) : List Char :=
  match cs with
  | [] => []
  | '$' :: '\x7b' :: inside =>
    match reference? inside with
    | some ((name, instead), rest) =>
      if rest.length ≤ inside.length then
        (lookup (String.ofList name)).getD instead ++ substitute lookup rest
      else []
    | none => '$' :: substitute lookup ('\x7b' :: inside)
  | c :: cs => c :: substitute lookup cs
termination_by cs.length

/-- Variables, the latest first; one may be known without having a value. -/
abbrev Variables := List (String × Option (List Char))

/-- The text that a reference to a variable stands for, if the variable is known. -/
def Variables.lookup (vs : Variables) (name : String) : Option (List Char) :=
  (vs.find? (·.1 == name)).map fun v => v.2.getD []

/-- The variables with one more binding, its references replaced by what is known so far. -/
def bind (environment vs : Variables) (b : Binding) : Variables :=
  (b.name, b.value.map (substitute (Variables.lookup (vs ++ environment)))) :: vs

/-- The **variables** that bindings define in an environment, the latest first. -/
def resolve (environment : List (String × String)) (bs : List Binding) : Variables :=
  bs.foldl (bind (environment.map fun v => (v.1, some v.2.toList))) []

/-- The value that a text gives to a variable. -/
def value (environment : List (String × String)) (text name : String) : Option String :=
  (((resolve environment (bindings text)).find? (·.1 == name)).bind (·.2)).map String.ofList

end DepGraph.EnvFile
