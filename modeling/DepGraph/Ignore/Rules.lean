import DepGraph.Ignore.Pattern

/-!
# Ignore rules

The rules of a walk are the patterns of two fixed lines, which keep version control data and
installed packages out, and those of the lines that an operator adds. Of the patterns that match a
path the **last** one decides. A directory is tested as its path with a slash at the end.
-/

namespace DepGraph.Ignore

/-- The lines that stand before all others. -/
def defaultLines : List String := [".git/", "node_modules/"]

/-- The **rules** of a walk: its patterns, in order. -/
structure Rules where
  /-- The patterns. -/
  patterns : List Pattern
deriving DecidableEq, Repr

/-- The patterns of some lines, or the first refusal. -/
def ofLines : List String → Except Refusal (List Pattern)
  | [] => .ok []
  | line :: lines =>
    match ofLine line with
    | .error r => .error r
    | .ok none => ofLines lines
    | .ok (some p) => (p :: ·) <$> ofLines lines

namespace Rules

/-- The rules with these extra lines. -/
def ofExtra (lines : List String) : Except Refusal Rules :=
  (⟨·⟩) <$> ofLines (defaultLines ++ lines)

/-- A path from the top of the tree: one slash, or one dot and a slash, does not count at its
front. -/
def relative : List Char → List Char
  | '/' :: path => path
  | '.' :: '/' :: path => path
  | path => path

/-- What the patterns say about a path: the last one that matches decides. -/
def verdict (rules : Rules) (path : List Char) : Bool :=
  rules.patterns.foldl (fun ignored p => if p.holds path then !p.negated else ignored) false

/-- Whether the **file** at a path is ignored. -/
def ignoresFile (rules : Rules) (path : String) : Bool :=
  rules.verdict (relative path.toList)

/-- Whether the **directory** at a path is ignored. -/
def ignoresDirectory (rules : Rules) (path : String) : Bool :=
  rules.verdict (relative (Path.dropEndSlashes path.toList ++ ['/']))

end Rules

end DepGraph.Ignore
