/-!
# The tokens of a program

A program is scanned into words, strings, marks and brackets; comments, blanks and what stands
between the tags of markup are dropped, and regular expressions are single operands. Templates and
markup are brackets of their own kind, as code stands in them.
-/

namespace DepGraph.Syntax.Program

/-- The kinds of bracket. -/
inductive Bracket
  /-- Parentheses. -/
  | round
  /-- Square brackets. -/
  | square
  /-- Braces, wherever they stand. -/
  | curly
  /-- A template between two backticks. -/
  | template
  /-- An element of markup. -/
  | markup
deriving DecidableEq, Repr

/-- A **token** of a program. -/
inductive Token
  /-- A name, a keyword or a number. -/
  | word (cs : List Char)
  /-- A string, by what stands between its quotes. -/
  | text (raw : List Char)
  /-- A regular expression. -/
  | expression
  /-- A mark. -/
  | mark (m : String)
  /-- The start of a bracket. -/
  | opening (b : Bracket)
  /-- The end of a bracket. -/
  | closing (b : Bracket)
deriving DecidableEq, Repr

/-- What of the language a grammar admits. -/
structure Dialect where
  /-- Whether elements of markup are expressions. -/
  markup : Bool
  /-- Whether there are types. -/
  types : Bool
deriving DecidableEq, Repr

end DepGraph.Syntax.Program
