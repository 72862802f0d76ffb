import DepGraph.Path.Basic
import DepGraph.Text.Case
import DepGraph.Text.Utf8

/-!
# Source files

A file is **eligible** for the graph when its name ends with one of the source extensions, as they
are written. Its **extension** and its **language** are taken from the small form of its path, so
that they are defined for every file, eligible or not.
-/

namespace DepGraph

/-- The extensions of eligible files. -/
def sourceEndings : List String :=
  [".js", ".jsx", ".ts", ".tsx", ".mjs", ".cjs", ".py", ".ipynb"]

/-- Whether a name ends with another. -/
def endsWith (name ending : List Char) : Bool := ending.isSuffixOf name

/-- Whether a file of this name is **eligible**. -/
def isEligible (name : String) : Bool :=
  sourceEndings.any fun e => endsWith name.toList e.toList

/-- What follows the last dot of a name, the dot included, if there is one. -/
def afterLastDot (name : List Char) : List Char :=
  if '.' ∈ name then '.' :: (name.reverse.takeWhile (· != '.')).reverse else []

/-- The **extension** of a path, in small letters: the last dot of its last component and what
follows it, and nothing if that component has no dot. -/
def extension (path : String) : String :=
  String.ofList (Text.small (afterLastDot (Path.name path.toList)))

/-- The extension of notebooks. -/
def notebookEnding : String := ".ipynb"

/-- Whether a path names a notebook. -/
def isNotebook (path : String) : Bool := extension path == notebookEnding

/-- The **languages** whose imports are known, each with a grammar of its own. -/
inductive Language
  | javascript
  | typescript
  | tsx
  | python
deriving DecidableEq, Repr

namespace Language

/-- The tag of a language. -/
def tag : Language → String
  | javascript => "javascript"
  | typescript => "typescript"
  | tsx => "tsx"
  | python => "python"

/-- The languages that every registry has to serve by their own grammar. -/
def required : List Language := [javascript, python]

/-- The languages that another grammar can serve. -/
def optional : List Language := [typescript, tsx]

/-- The language with this tag. -/
def ofTag? (t : String) : Option Language := (required ++ optional).find? (·.tag == t)

/-- The **language** of a path: the grammar that reads the file. Whatever has no extension of
another language is read as a plain script. -/
def ofPath (path : String) : Language :=
  let p := Text.small path.toList
  if endsWith p ".tsx".toList then tsx
  else if endsWith p ".ts".toList then typescript
  else if endsWith p ".py".toList || endsWith p ".ipynb".toList then python
  else javascript

end Language

/-- A **source file** of a repository. -/
structure SourceFile where
  /-- The path relative to the repository, with slashes; it identifies the file within a run. -/
  path : String
  /-- Where the file is on disk. -/
  place : String
  /-- What is stored there, if anything is. -/
  bytes : Option Bytes

end DepGraph
