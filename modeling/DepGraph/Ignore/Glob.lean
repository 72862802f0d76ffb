import DepGraph.Text.CodeRange

/-!
# Globs over paths

A glob is a list of **pieces**, read along a path from its start. A piece can go on in several ways:
`DepGraph.Ignore.Piece.rests` lists what it may leave of the path, and a glob matches where some
choice gets through all the pieces (`DepGraph.Ignore.begins`). What is left after the last piece
does not matter, as a glob that ends at a slash speaks for everything below.
-/

namespace DepGraph.Ignore

/-! ### Pieces -/

/-- A **piece** of a glob. -/
inductive Piece
  /-- This character. -/
  | letter (c : Char)
  /-- One character that is no slash. -/
  | glyph
  /-- Characters that are no slashes, or nothing. -/
  | run
  /-- At least one character, and no slash. -/
  | name
  /-- One character of those listed between brackets, or one of all the others. -/
  | oneOf (negated : Bool) (listed : List Char)
  /-- A slash. -/
  | slash
  /-- Nothing, or any directories down to a slash. -/
  | leading
  /-- Nothing, or a slash and what follows it. -/
  | between
  /-- A slash, or the end of the path. -/
  | boundary
deriving DecidableEq, Repr

/-- Whether a list between brackets names a character, alone or by a range `a-b`. A hyphen at either
end of the list is a hyphen. -/
def lists : List Char → Char → Bool
  | a :: '-' :: b :: more, c => (a ≤ c && c ≤ b) || lists more c
  | a :: more, c => a == c || lists more c
  | [], _ => false

/-- A path and all that is left of it by taking characters of this kind. -/
def restsWhile (p : Char → Bool) : List Char → List (List Char)
  | [] => [[]]
  | c :: cs => (c :: cs) :: if p c then restsWhile p cs else []

/-- A character that is no slash. -/
def inName (c : Char) : Bool := c != '/'

/-- A character that does not end a line. -/
def inLine (c : Char) : Bool := c != '\n'

/-- The path after one character of this kind. -/
def restsOne (p : Char → Bool) : List Char → List (List Char)
  | [] => []
  | c :: cs => if p c then [cs] else []

/-- The path after a slash. -/
def restsSlash : List Char → List (List Char) := restsOne (· == '/')

/-- **What a piece may leave** of a path that it starts. -/
def Piece.rests : Piece → List Char → List (List Char)
  | .letter c, cs => restsOne (· == c) cs
  | .glyph, cs => restsOne inName cs
  | .run, cs => restsWhile inName cs
  | .name, cs => (restsOne inName cs).flatMap (restsWhile inName)
  | .oneOf negated listed, cs => restsOne (fun c => lists listed c != negated) cs
  | .slash, cs => restsSlash cs
  | .leading, cs => cs :: ((restsOne inLine cs).flatMap (restsWhile inLine)).flatMap restsSlash
  | .between, cs => cs :: ((restsSlash cs).flatMap (restsOne inLine)).flatMap (restsWhile inLine)
  | .boundary, cs => if cs == [] || cs == ['\n'] then [cs] else restsSlash cs

/-- Whether a path **begins with** the pieces of a glob. -/
def begins : List Piece → List Char → Bool
  | [], _ => true
  | piece :: pieces, cs => (piece.rests cs).any (begins pieces)

/-! ### The expression of a glob -/

/-- The characters that an expression escapes. -/
def reserved : List Char := "()[]\x7b\x7d?*+-|^$\\.&~# \t\n\r\x0b\x0c".toList

/-- The expression that a piece stands for. -/
def Piece.expression : Piece → List Char
  | .letter c => if c ∈ reserved then ['\\', c] else [c]
  | .glyph => "[^/]".toList
  | .run => "[^/]*".toList
  | .name => "[^/]+".toList
  | .oneOf negated listed =>
    '[' :: (if negated then ['^'] else []) ++
      (listed.flatMap fun c => if c = '\\' then ['\\', '\\'] else [c]) ++ [']']
  | .slash => ['/']
  | .leading => "(?:.+/)?".toList
  | .between => "(?:/.+)?".toList
  | .boundary => "(?:/|$)".toList

/-- A **range that runs backwards**, with its place in the expression of its glob. -/
structure BadRange where
  /-- The character that the range starts with. -/
  first : Char
  /-- The character that it ends with. -/
  last : Char
  /-- The index of its first character. -/
  place : Nat
  /-- The whole expression. -/
  expression : List Char
deriving DecidableEq, Repr

/-- The first backward range of a list between brackets, with what stands before it. -/
def backward? : List Char → Option (List Char × Char × Char)
  | a :: '-' :: b :: more =>
    if b < a then some ([], a, b)
    else (backward? more).map fun r => (a :: '-' :: b :: r.1, r.2)
  | a :: more => (backward? more).map fun r => (a :: r.1, r.2)
  | [] => none

/-- The first backward range of a piece, with the length of the expression before it. -/
def Piece.backward? : Piece → Option (Nat × Char × Char)
  | .oneOf negated listed =>
    (Ignore.backward? listed).map fun r =>
      ((Piece.oneOf negated r.1).expression.length - 1, r.2)
  | _ => none

/-- The first backward range of some pieces, when their expression starts at this index. -/
def backwardFrom? (index : Nat) : List Piece → Option (Nat × Char × Char)
  | [] => none
  | piece :: pieces =>
    match piece.backward? with
    | some r => some (index + r.1, r.2)
    | none => backwardFrom? (index + piece.expression.length) pieces

/-- The first backward range of a glob. -/
def badRange? (pieces : List Piece) : Option BadRange :=
  (backwardFrom? 1 pieces).map fun r =>
    ⟨r.2.1, r.2.2, r.1, '^' :: pieces.flatMap Piece.expression⟩

/-- The message about a backward range. -/
def BadRange.message (r : BadRange) : String :=
  let spell (c : Char) : String := if c = '\\' then "\\\\" else String.singleton c
  let before := r.expression.take r.place
  "bad character range " ++ spell r.first ++ "-" ++ spell r.last ++
    " at position " ++ toString r.place ++
    if '\n' ∈ r.expression then
      " (line " ++ toString (before.count '\n' + 1) ++ ", column " ++
        toString ((before.reverse.takeWhile (· != '\n')).length + 1) ++ ")"
    else ""

end DepGraph.Ignore
