import DepGraph.Syntax.Module.Token
import DepGraph.Syntax.Node

/-!
# The statements of a module

Ends of lines, semicolons and colons outside brackets cut a module into **clauses**, and a clause
that starts with the right word is an import: `import` and names, or `from` and the name of a
module. The tree of a module has one node for each of these, in order.
-/

namespace DepGraph.Syntax.Module

/-! ### Clauses -/

/-- Whether a token ends a clause. -/
def endsClause : Token → Bool
  | .lineEnd | .mark ';' | .mark ':' => true
  | _ => false

/-- The stretches of a list between the items that end one. -/
def splitAt {α : Type} (ends : α → Bool) : List α → List (List α)
  | [] => [[]]
  | a :: as =>
    if ends a then [] :: splitAt ends as
    else
      match splitAt ends as with
      | [] => [[a]]
      | first :: rest => (a :: first) :: rest

/-- Whether a token is a gap. -/
def Token.isGap : Token → Bool
  | .gap _ => true
  | _ => false

/-- Tokens without the gaps at their ends. -/
def trim (ts : List Token) : List Token :=
  ((ts.dropWhile Token.isGap).reverse.dropWhile Token.isGap).reverse

/-- The text of some tokens. -/
def textOf (ts : List Token) : List Char := ts.flatMap Token.text

/-- The token of a keyword. -/
def keyword (w : String) : Token := .word w.toList

/-! ### Imports -/

/-- The node of an imported name: it may be given another. -/
def importedName (ts : List Token) : Node :=
  let name := trim (ts.takeWhile (· != keyword "as"))
  if ts.contains (keyword "as") then
    .branch .aliasedImport (some .name) [.leaf .dottedName (some .name) (textOf name)]
  else .leaf .dottedName (some .name) (textOf name)

/-- The node of a statement that imports from the module with this name. -/
def importFrom (name : List Token) : Node :=
  if name = [keyword "__future__"] then .branch .futureImportStatement none []
  else
    let kind := if name.head? = some (.mark '.') then Kind.relativeImport else .dottedName
    .branch .importFromStatement none [.leaf kind (some .moduleName) (textOf name)]

/-- The node of a clause, if it imports. -/
def statement? (clause : List Token) : Option Node :=
  match trim clause with
  | .word w :: rest =>
    if w = "import".toList then
      some (.branch .importStatement none ((splitAt (· == .mark ',') rest).map importedName))
    else if w = "from".toList then
      some (importFrom (trim (rest.takeWhile (· != keyword "import"))))
    else none
  | _ => none

/-- The **tree** of a module. -/
def tree (cs : List Char) : Node :=
  .branch .module none ((splitAt endsClause (tokens cs)).filterMap statement?)

end DepGraph.Syntax.Module
