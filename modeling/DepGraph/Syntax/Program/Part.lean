import DepGraph.Syntax.Program.Token

/-!
# The parts of a program

Brackets nest, so that the tokens of a program are the leaves of a tree: a **part** is a token or a
bracket with the parts inside it. An end without a start does not count, and what is still open at
the end of a program is closed there.
-/

namespace DepGraph.Syntax.Program

/-- A **part** of a program. -/
inductive Part where
  /-- A token that is no end of a bracket. -/
  | token (t : Token)
  /-- A bracket with what stands in it. -/
  | group (b : Bracket) (parts : List Part)

/-- A bracket that is open: its kind, and the parts before it, last first. -/
abbrev OpenGroup := Bracket × List Part

/-- The parts of the tokens, given what is open around them and the parts before them in the
innermost bracket, last first. -/
def partsFrom (before : List Part) : List OpenGroup → List Token → List Part
  | [], [] => before.reverse
  | (b, outer) :: frames, [] => partsFrom (.group b before.reverse :: outer) frames []
  | frames, .opening b :: ts => partsFrom [] ((b, before) :: frames) ts
  | [], .closing _ :: ts => partsFrom before [] ts
  | (b, outer) :: frames, .closing _ :: ts => partsFrom (.group b before.reverse :: outer) frames ts
  | frames, t :: ts => partsFrom (.token t :: before) frames ts
termination_by frames ts => (ts.length, frames.length)

/-- The **parts** of some tokens. -/
def partsOf (ts : List Token) : List Part := partsFrom [] [] ts

end DepGraph.Syntax.Program
