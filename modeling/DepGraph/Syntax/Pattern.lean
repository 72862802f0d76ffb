import DepGraph.Syntax.Node

/-!
# Patterns over syntax trees

A **pattern** describes a node by its kind and some of the nodes below it, and captures nodes under
names; some names are **roles**, which hold what the pattern is looking for. Patterns have a written
form, and they are written one below the other for a grammar to check: it refuses the first kind
that it does not have, by its place.
-/

namespace DepGraph.Syntax

/-- A **description** of a node: its kind, the name that it is captured under, and the nodes that
have to stand below it in this order, each in a field or anywhere. -/
inductive Shape where
  /-- A description. -/
  | mk (kind : Kind) (capture : Option String) (below : List (Option Field × Shape))

/-- A **pattern**: a description, a text that a captured node has to have, and the roles. -/
structure Pattern where
  /-- The description of the whole node. -/
  shape : Shape
  /-- A capture and the text that it has to have. -/
  condition : Option (String × String) := none
  /-- The captures that hold what the pattern is looking for. -/
  roles : List String

/-! ### The patterns of the languages -/

/-- A captured node without anything asked of the nodes below it. -/
def captured (kind : Kind) (name : String) : Shape := .mk kind (some name) []

/-- The patterns for modules that are laid out by lines. -/
def modulePatterns : List Pattern :=
  [{ shape := .mk .importFromStatement none
       [(some .moduleName, captured .dottedName "python_from")]
     roles := ["python_from"] },
    { shape := .mk .importStatement none [(some .name, captured .dottedName "python_import")]
      roles := ["python_import"] }]

/-- A string, with each of its fragments captured. -/
def stringShape (name : String) : Shape :=
  .mk .string none [(none, captured .stringFragment name)]

/-- The patterns for programs. -/
def programPatterns : List Pattern :=
  [{ shape := .mk .importStatement none [(some .source, stringShape "import_source")]
     roles := ["import_source"] },
    { shape := .mk .callExpression none
        [(some .function, captured .identifier "function_name"),
          (some .arguments, .mk .arguments none [(none, stringShape "require_source")])]
      condition := some ("function_name", "require")
      roles := ["require_source"] }]

/-- The patterns for a tree whose root has a kind of this name; what is no module is taken for a
program. -/
def patternsFor (rootName : String) : List Pattern :=
  if rootName == Kind.module.name then modulePatterns else programPatterns

/-! ### The written form -/

/-- A piece of a written pattern: the name of a kind, or anything else. -/
inductive Piece
  /-- The name of a kind. -/
  | kind (k : Kind)
  /-- Other text. -/
  | other (text : String)

/-- The text of a piece. -/
def Piece.text : Piece → String
  | .kind k => k.name
  | .other t => t

mutual

/-- The pieces of a written description, with some text before the closing parenthesis. -/
def Shape.pieces (condition : String) : Shape → List Piece
  | .mk kind capture below =>
    .other "(" :: .kind kind :: Shape.piecesBelow below ++
      .other (condition ++ ")") ::
        match capture with
        | none => []
        | some name => [.other (" @" ++ name)]

/-- The pieces of what has to stand below a node. -/
def Shape.piecesBelow : List (Option Field × Shape) → List Piece
  | [] => []
  | (field, shape) :: rest =>
    .other " " ::
      (match field with
        | none => []
        | some f => [.other (f.label ++ ": ")]) ++
      Shape.pieces "" shape ++ Shape.piecesBelow rest

end

/-- The pieces of a written pattern. -/
def Pattern.pieces (p : Pattern) : List Piece :=
  p.shape.pieces <|
    match p.condition with
    | none => ""
    | some (name, text) => " (#eq? @" ++ name ++ " \"" ++ text ++ "\")"

/-- The **written form** of a pattern. -/
def Pattern.source (p : Pattern) : String := String.join (p.pieces.map Piece.text)

/-- The written form of some patterns, each on a line of its own. -/
def sourceOf (patterns : List Pattern) : String := "\n".intercalate (patterns.map Pattern.source)

/-- The roles of some patterns. -/
def rolesOf (patterns : List Pattern) : List String := patterns.flatMap (·.roles)

/-! ### What a grammar refuses -/

/-- A kind that a grammar does not have, with its place in the written patterns. -/
structure UnknownKind where
  /-- The line, counted from zero. -/
  row : Nat
  /-- The place in the line, counted from zero. -/
  column : Nat
  /-- The kind. -/
  kind : Kind
deriving DecidableEq, Repr

/-- The message about an unknown kind. -/
def UnknownKind.message (u : UnknownKind) : String :=
  "Invalid node type at row " ++ toString u.row ++ ", column " ++ toString u.column ++ ": " ++
    u.kind.name

/-- The first kind that a language does not have, among the pieces from a column of a row on. -/
def unknownIn (language : Language) (row column : Nat) : List Piece → Option UnknownKind
  | [] => none
  | .kind k :: rest =>
    if hasKind language k then unknownIn language row (column + k.name.length) rest
    else some ⟨row, column, k⟩
  | .other t :: rest => unknownIn language row (column + t.length) rest

/-- The first kind that a language does not have, among the patterns from a row on. -/
def unknownFrom (language : Language) (row : Nat) : List Pattern → Option UnknownKind
  | [] => none
  | p :: ps =>
    match unknownIn language row 0 p.pieces with
    | some u => some u
    | none => unknownFrom language (row + 1) ps

/-- The **first kind** of the patterns that a language does not have. -/
def unknown? (language : Language) (patterns : List Pattern) : Option UnknownKind :=
  unknownFrom language 0 patterns

end DepGraph.Syntax
