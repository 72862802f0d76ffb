import DepGraph.SourceFile

/-!
# Syntax trees

A syntax tree is made of **nodes**, each of a kind, in a field of the node above or in none, and
with a text where its text matters. A kind of node that imports are made of has a name here, and all
the others count as one. The trees that are made here are outlines: of what a grammar would tell
apart they keep the nodes that imports are made of, in their order and nested as they are in the
source.
-/

namespace DepGraph.Syntax

/-- The kinds of node. -/
inductive Kind
  /-- A module of statements that are laid out by lines. -/
  | module
  /-- A program of statements between braces. -/
  | program
  /-- A statement that imports. -/
  | importStatement
  /-- A name that is given to what is required from a source. -/
  | importRequireClause
  /-- A statement that imports from a module. -/
  | importFromStatement
  /-- A statement that asks for features of the language. -/
  | futureImportStatement
  /-- Names with dots between them. -/
  | dottedName
  /-- A name that is given another. -/
  | aliasedImport
  /-- A name that is relative to the package. -/
  | relativeImport
  /-- A call. -/
  | callExpression
  /-- The arguments of a call. -/
  | arguments
  /-- A name. -/
  | identifier
  /-- A string. -/
  | string
  /-- A stretch of a string without escapes. -/
  | stringFragment
  /-- Any other kind of node. -/
  | other
deriving DecidableEq, Repr

/-- The name of a kind. That of all others is what any node is called. -/
def Kind.name : Kind → String
  | .module => "module"
  | .program => "program"
  | .importStatement => "import_statement"
  | .importRequireClause => "import_require_clause"
  | .importFromStatement => "import_from_statement"
  | .futureImportStatement => "future_import_statement"
  | .dottedName => "dotted_name"
  | .aliasedImport => "aliased_import"
  | .relativeImport => "relative_import"
  | .callExpression => "call_expression"
  | .arguments => "arguments"
  | .identifier => "identifier"
  | .string => "string"
  | .stringFragment => "string_fragment"
  | .other => "_"

/-- The fields of a node that other nodes stand in. A node in any other field counts as one that
stands in none. -/
inductive Field
  /-- The module that is imported from. -/
  | moduleName
  /-- A name that is imported. -/
  | name
  /-- The string that names the source of an import. -/
  | source
  /-- What is called. -/
  | function
  /-- What it is called with. -/
  | arguments
deriving DecidableEq, Repr

/-- The name of a field. -/
def Field.label : Field → String
  | .moduleName => "module_name"
  | .name => "name"
  | .source => "source"
  | .function => "function"
  | .arguments => "arguments"

/-- A **node** of a syntax tree. -/
inductive Node where
  /-- A node of a kind, in a field, with a text, above other nodes. -/
  | mk (kind : Kind) (field : Option Field) (text : List Char) (children : List Node)

namespace Node

/-- The kind of a node. -/
def kind : Node → Kind
  | mk k _ _ _ => k

/-- The field that a node stands in. -/
def field : Node → Option Field
  | mk _ f _ _ => f

/-- The text of a node. -/
def text : Node → List Char
  | mk _ _ t _ => t

/-- The nodes below a node, from left to right. -/
def children : Node → List Node
  | mk _ _ _ cs => cs

/-- A node without nodes below it. -/
def leaf (kind : Kind) (field : Option Field) (text : List Char) : Node := mk kind field text []

/-- A node whose text does not matter. -/
def branch (kind : Kind) (field : Option Field) (children : List Node) : Node :=
  mk kind field [] children

mutual

/-- A node and all nodes below it, each before those below it and from left to right. -/
def preorder : Node → List Node
  | mk k f t cs => mk k f t cs :: preorderAll cs

/-- Some nodes and all nodes below them. -/
def preorderAll : List Node → List Node
  | [] => []
  | n :: ns => preorder n ++ preorderAll ns

end

/-- How many nodes there are in a tree. -/
def size (n : Node) : Nat := n.preorder.length

/-- The nodes of two lists are the nodes of the first and then those of the second. -/
theorem preorderAll_append (ns ms : List Node) :
    preorderAll (ns ++ ms) = preorderAll ns ++ preorderAll ms := by
  induction ns with
  | nil => rfl
  | cons n ns ih => simp [preorderAll, ih]

end Node

/-- The kind of the root of a language's trees. -/
def rootKind : Language → Kind
  | .python => .module
  | _ => .program

/-- The kinds of node that the grammar of a language has. -/
def kindsOf : Language → List Kind
  | .python =>
    [.module, .importStatement, .importFromStatement, .futureImportStatement, .dottedName,
      .aliasedImport, .relativeImport, .identifier, .string, .other]
  | .javascript =>
    [.program, .importStatement, .callExpression, .arguments, .identifier, .string, .stringFragment,
      .other]
  | _ =>
    [.program, .importStatement, .importRequireClause, .callExpression, .arguments, .identifier,
      .string, .stringFragment, .other]

/-- Whether the grammar of a language has nodes of a kind. -/
def hasKind (language : Language) (kind : Kind) : Bool := (kindsOf language).contains kind

end DepGraph.Syntax
