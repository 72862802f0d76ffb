import DepGraph.Event
import DepGraph.Syntax.Pattern

/-!
# Extracting specifiers

A pattern **matches** a node in every way in which nodes below it can be chosen as it asks
(`DepGraph.Syntax.matchesOf`). The **specifiers** of a tree are the captured texts with a role, of
all matches at all its nodes, in the order in which the matches are complete when the tree is gone
through from left to right (`DepGraph.Syntax.specifiers`).
-/

namespace DepGraph.Syntax

/-! ### Quotes -/

/-- The marks that quote a text. -/
def isQuoteMark (c : Char) : Bool := c == '\'' || c == '"' || c == '\x60'

/-- A text without a quote mark at its end; a line break after the mark does not hide it. -/
def dropEndQuote (cs : List Char) : List Char :=
  match cs.reverse with
  | '\n' :: q :: rest => if isQuoteMark q then rest.reverse ++ ['\n'] else cs
  | q :: rest => if isQuoteMark q then rest.reverse else cs
  | [] => []

/-- A text without a quote mark at its start and one at its end. -/
def trimQuotes : List Char → List Char
  | [] => []
  | c :: cs => if isQuoteMark c then dropEndQuote cs else dropEndQuote (c :: cs)

/-! ### Matches -/

/-- What a match captured: texts under names, in the order of the nodes. -/
abbrev Captures := List (String × List Char)

/-- A **match** of a description, in a tree whose nodes have as their places the numbers in which
they come. -/
structure Match where
  /-- What was captured. -/
  captures : Captures
  /-- The place of the last node that was needed. -/
  last : Nat

/-- A match with more captures before its own. -/
def Match.after (m : Match) (cs : Captures) : Match := { m with captures := cs ++ m.captures }

/-- The capture of a text, if it is captured under a name. -/
def captureOf (name : Option String) (text : List Char) : Captures :=
  match name with
  | none => []
  | some name => [(name, text)]

mutual

/-- The ways in which a description fits the node at a place. -/
def fits (shape : Shape) (place : Nat) : Node → List Match
  | .mk kind _ text children =>
    match shape with
    | .mk wanted capture below =>
      if kind = wanted then
        (fitsBelow below place (place + 1) children).map (·.after (captureOf capture text))
      else []

/-- The ways in which descriptions fit some of these nodes, in order, when the first of them is at a
place and the last node that was needed so far is at another. -/
def fitsBelow (wanted : List (Option Field × Shape)) (last place : Nat) : List Node → List Match
  | [] => if wanted.isEmpty then [⟨[], last⟩] else []
  | n :: ns =>
    match wanted with
    | [] => [⟨[], last⟩]
    | (field, shape) :: more =>
      (if field = none ∨ field = n.field then
        (fits shape place n).flatMap fun here =>
          (fitsBelow more here.last (place + n.size) ns).map (·.after here.captures)
      else []) ++ fitsBelow ((field, shape) :: more) last (place + n.size) ns

end

/-- Whether captures have the text that a pattern asks for. -/
def Pattern.admits (p : Pattern) (cs : Captures) : Bool :=
  match p.condition with
  | none => true
  | some (name, text) => cs.all fun c => c.1 != name || c.2 == text.toList

/-- The **matches** of a pattern at the node at a place. -/
def matchesOf (p : Pattern) (place : Nat) (n : Node) : List Match :=
  (fits p.shape place n).filter fun m => p.admits m.captures

/-- The specifiers among captures. -/
def inRoles (p : Pattern) (cs : Captures) : List (List Char) :=
  (cs.filter fun c => p.roles.contains c.1).map fun c => trimQuotes c.2

/-- What patterns **find** at the node at a place: the specifiers of each match, with the place by
which it is complete. -/
def findings (patterns : List Pattern) (place : Nat) (n : Node) : List (Nat × List (List Char)) :=
  patterns.flatMap fun p => (matchesOf p place n).map fun m => (m.last, inRoles p m.captures)

/-- What patterns find in a tree, by the nodes that they match. -/
def allFindings (patterns : List Pattern) (root : Node) : List (Nat × List (List Char)) :=
  root.preorder.zipIdx.flatMap fun n => findings patterns n.2 n.1

/-- Findings by their places, and one more before those of the same place. -/
def insertFinding (f : Nat × List (List Char)) :
    List (Nat × List (List Char)) → List (Nat × List (List Char))
  | [] => [f]
  | g :: gs => if f.1 ≤ g.1 then f :: g :: gs else g :: insertFinding f gs

/-- Findings by their places; those of the same place stay in their order. -/
def byPlace (found : List (Nat × List (List Char))) : List (Nat × List (List Char)) :=
  found.foldr insertFinding []

/-- The **specifiers** of a tree: matches are reported as soon as they are complete. -/
def specifiers (patterns : List Pattern) (root : Node) : List (List Char) :=
  (byPlace (allFindings patterns root)).flatMap (·.2)

/-! ### Extraction -/

/-- What a grammar made of a file. -/
structure Parsed where
  /-- The language that the file is taken for. -/
  tag : Language
  /-- The language whose grammar read it. -/
  grammar : Language
  /-- The tree. -/
  root : Node

/-- The **extracted** specifiers of a file whose tree has a root of this name, and the events of
extracting them: patterns that do not fit the grammar extract nothing. -/
def extractAs (rootName : String) (parsed : Parsed) : List String × List Event :=
  let patterns := patternsFor rootName
  match unknown? parsed.grammar patterns with
  | some u => ([], [.misfit parsed.tag.tag rootName u.message])
  | none => ((specifiers patterns parsed.root).map String.ofList, [])

/-- The extracted specifiers of a file. -/
def extract (parsed : Parsed) : List String × List Event :=
  extractAs parsed.root.kind.name parsed

end DepGraph.Syntax
