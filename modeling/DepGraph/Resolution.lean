import DepGraph.Path.Basic

/-!
# Resolving specifiers

A **specifier** is what an import names. It is resolved against the paths that are known, starting
from the directory of the importing file: its **base** is the normal form of that walk, and the
**candidates** are the base itself, the base with each source suffix, and the index files of the
directory that the base may be. The first candidate that is known is the target. A specifier that
starts at the root of the sources is its own base, as it is written.
-/

namespace DepGraph

/-- A **dependency** of one file on another. -/
structure Dependency where
  /-- The path of the importing file. -/
  source : String
  /-- The path of the imported file. -/
  target : String
deriving DecidableEq, Repr

/-- The type of the edge that a dependency is. -/
def dependsOn : String := "DEPENDS_ON"

namespace Resolution

/-- What a specifier that starts at the root of the sources begins with. -/
def rootMarker : List Char := "src/".toList

/-- The endings tried after the base itself, in order. -/
def suffixes : List (List Char) :=
  [".js", ".jsx", ".ts", ".tsx", ".mjs", ".cjs", ".py", ".ipynb"].map String.toList

/-- The files tried in the directory that the base may be, in order. -/
def indexNames : List (List Char) :=
  ["index.js", "index.jsx", "index.ts", "index.tsx", "index.ipynb", "index.py",
    "__init__.py"].map String.toList

/-- A specifier with slashes only, and none at its start. -/
def slashed (spec : List Char) : List Char :=
  (spec.map fun c => if c = '\\' then '/' else c).dropWhile (· == '/')

/-- The **base** of a specifier in a file. -/
def baseChars (importer spec : List Char) : List Char :=
  if rootMarker.isPrefixOf spec then spec
  else Path.normalize (Path.join (Path.directory importer) (slashed spec))

/-- The endings of the candidates, in order. -/
def endings : List (List Char) := [] :: suffixes ++ indexNames.map ('/' :: ·)

/-- The base of a specifier, as a string. -/
def base (importer spec : String) : String :=
  String.ofList (baseChars importer.toList spec.toList)

/-- The **candidates** of a specifier, in the order in which they are tried. -/
def candidates (importer spec : String) : List String :=
  endings.map fun e => String.ofList (baseChars importer.toList spec.toList ++ e)

/-- The **target** of a specifier: its first candidate among the known paths. -/
def target? (known : String → Bool) (importer spec : String) : Option String :=
  (candidates importer spec).find? known

/-- The dependency that a specifier gives rise to. -/
def dependency? (known : String → Bool) (importer spec : String) : Option Dependency :=
  (target? known importer spec).map fun t => { source := importer, target := t }

end Resolution

end DepGraph
