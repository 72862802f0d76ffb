import DepGraph.Syntax.Node
import DepGraph.Syntax.Program.Part
import DepGraph.Syntax.Program.Scanner

/-!
# The imports of a program

The parts of a program are read from left to right for two things: **import statements**, which end
with the string that names their source, and **calls** of `require`. A call is recognized once its
arguments are there; until then, optional chaining and the arguments of a type may follow the name.
Where there are types, an import statement may also give a name to what is required, which looks
like a call and is none.
Whatever else stands in brackets is read in the same way, so that the tree has these nodes in the
order and the nesting of the program.
-/

namespace DepGraph.Syntax.Program

/-! ### Strings -/

/-- Whether a character is an octal digit. -/
def isOctal (c : Char) : Bool := '0' ≤ c && c ≤ '7'

/-- Whether a character is a hexadecimal digit. -/
def isHex (c : Char) : Bool := (Text.hexValue? c).isSome

/-- How many characters after a backslash belong to its escape. -/
def escapeLength (cs : List Char) : Nat :=
  match cs with
  | [] => 0
  | 'x' :: rest => 1 + ((rest.take 2).takeWhile isHex).length
  | 'u' :: '\x7b' :: rest => 3 + (rest.takeWhile isHex).length
  | 'u' :: rest => 1 + ((rest.take 4).takeWhile isHex).length
  | c :: rest =>
    if isOctal c then ((c :: rest).take 3 |>.takeWhile isOctal).length
    else
      if (c == '\r' || c == '?') && rest.head?.any endsLine then 2 else 1

/-- The fragments of a text, of which `skip` characters belong to the escape before; `current` is
the fragment so far, last character first. -/
def fragmentsFrom (current : List Char) (skip : Nat) : List Char → List (List Char)
  | [] => if current.isEmpty then [] else [current.reverse]
  | c :: cs =>
    match skip with
    | skip + 1 => fragmentsFrom current skip cs
    | 0 =>
      if c == '\\' then
        (if current.isEmpty then [] else [current.reverse]) ++
          fragmentsFrom [] (escapeLength cs) cs
      else fragmentsFrom (c :: current) 0 cs

/-- The **fragments** of a string: what stands between its escapes. -/
def fragments (raw : List Char) : List (List Char) := fragmentsFrom [] 0 raw

/-- The node of a string, with what stands between its quotes as its text. -/
def stringNode (field : Option Field) (raw : List Char) : Node :=
  .mk .string field raw ((fragments raw).map (.leaf .stringFragment none))

/-! ### Reading parts -/

/-- What the parts so far may be the start of. -/
inductive Reading
  /-- Nothing, but the name of a call may come. -/
  | free
  /-- Nothing, and a name is no call. -/
  | bound
  /-- An import statement, after its first word. -/
  | imports
  /-- An import statement, after some of what it imports. -/
  | clause
  /-- An import statement, after the mark that gives a name to what is required. -/
  | assigned
  /-- An import statement, after the word before what is required. -/
  | requires
  /-- A call, after its name. -/
  | callee
  /-- A call, after the arguments of a type that are open so many deep. -/
  | typed (depth : Nat)
deriving DecidableEq, Repr

/-- The words after which a name is not called. -/
def bindingWords : List String := ["new", "function"]

/-- What may start at a word. -/
def startAt (w : String) : Reading :=
  if w == "import" then .imports
  else if w == "require" then .callee
  else if bindingWords.contains w then .bound
  else .free

/-- What may start at a part that goes on with nothing before it. -/
def fresh : Part → Reading
  | .token (.word cs) => startAt (String.ofList cs)
  | .token (.mark m) => if m == "." || m == "?." then .bound else .free
  | _ => .free

/-- What is read after one more part, unless the part completes something. -/
def next (d : Dialect) (reading : Reading) (part : Part) : Reading :=
  match reading, part with
  | .bound, .token (.word _) => .free
  | .imports, .token (.word _) => .clause
  | .imports, .token (.mark "*") => .clause
  | .imports, .group .curly _ => .clause
  | .clause, .token (.word _) => .clause
  | .clause, .token (.mark ",") => .clause
  | .clause, .token (.mark "*") => .clause
  | .clause, .token (.mark "=") => if d.types then .assigned else .bound
  | .clause, .group .curly _ => .clause
  | .assigned, .token (.word cs) => if cs = "require".toList then .requires else .free
  | .callee, .token (.mark "?.") => .callee
  | .callee, .token (.mark "<") => if d.types then .typed 0 else .free
  | .typed depth, .token (.mark "<") => .typed (depth + 1)
  | .typed 0, .token (.mark ">") => .callee
  | .typed (depth + 1), .token (.mark ">") => .typed depth
  | .typed _, .token (.mark ";") => .free
  | .typed depth, _ => .typed depth
  | _, part => fresh part

/-- Where a part stands with regard to the arguments of a call. -/
inductive Spot
  /-- Not directly among arguments. -/
  | outside
  /-- At the start of an argument. -/
  | start
  /-- After some of an argument. -/
  | inside
deriving DecidableEq, Repr

/-- Whether a part is the comma that ends an argument. -/
def Part.isComma : Part → Bool
  | .token (.mark ",") => true
  | _ => false

/-- Where the part after a part stands. -/
def Spot.next : Spot → Part → Spot
  | .outside, _ => .outside
  | _, part => if part.isComma then .start else .inside

/-- The node of a string that stands at a spot, before these parts, if it is an argument by itself.
-/
def argumentNodes (spot : Spot) (raw : List Char) (after : List Part) : List Node :=
  if spot = .start ∧ after.head?.all Part.isComma then [stringNode none raw] else []

/-- The node of a call with these nodes among its arguments. -/
def callNode (arguments : List Node) : Node :=
  .branch .callExpression none
    [.leaf .identifier (some .function) "require".toList,
      .branch .arguments (some .arguments) arguments]

/-- The node of an import statement with this source. -/
def importNode (raw : List Char) : Node :=
  .branch .importStatement none [stringNode (some .source) raw]

/-- The node of an import statement that gives a name to what is required from this source. -/
def importRequireNode (raw : List Char) : Node :=
  .branch .importStatement none
    [.branch .importRequireClause none [stringNode (some .source) raw]]

/-- Whether a string completes an import statement. -/
def Reading.awaitsSource : Reading → Bool
  | .imports | .clause => true
  | _ => false

mutual

/-- The nodes of a part, when it does not complete anything. -/
def nodesIn (d : Dialect) : Part → List Node
  | .token _ => []
  | .group _ parts => nodesFrom d .outside .free parts

/-- The **nodes** of some parts from a spot on, after what may have been started before them. -/
def nodesFrom (d : Dialect) (spot : Spot) (reading : Reading) : List Part → List Node
  | [] => []
  | part :: parts =>
    match reading, part with
    | .callee, .group .round inner =>
      callNode (nodesFrom d .start .free inner) ::
        nodesFrom d (spot.next (.group .round inner)) .free parts
    | .requires, .group .round [.token (.text raw)] =>
      importRequireNode raw ::
        nodesFrom d (spot.next (.group .round [.token (.text raw)])) .free parts
    | reading, .token (.text raw) =>
      argumentNodes spot raw parts ++
        if reading.awaitsSource then
          importNode raw :: nodesFrom d (spot.next (.token (.text raw))) .free parts
        else
          nodesFrom d (spot.next (.token (.text raw))) (next d reading (.token (.text raw))) parts
    | reading, part =>
      nodesIn d part ++ nodesFrom d (spot.next part) (next d reading part) parts

end

/-- The **tree** of a program. -/
def tree (d : Dialect) (cs : List Char) : Node :=
  .branch .program none (nodesFrom d .outside .free (partsOf (tokens d cs)))

end DepGraph.Syntax.Program
