import DepGraph.Ignore.Glob
import DepGraph.Path.Basic
import DepGraph.Text.Blank
import DepGraph.Text.Quoted

/-!
# Ignore patterns

A line of an ignore file is a **pattern**, unless it is blank, a comment or a single slash. A
pattern is split at its slashes and becomes a glob over whole paths: a pattern of one segment
matches at any depth, any other one only from the top, and a pattern that ends in a slash only below
a directory. Two kinds of pattern that match whatever the names are have no glob.
-/

namespace DepGraph.Ignore

/-! ### What a pattern is -/

/-- Which paths a pattern matches. -/
inductive Shape
  /-- Every path. -/
  | everything
  /-- Every path with a slash. -/
  | nested
  /-- The paths that begin with a glob. -/
  | glob (pieces : List Piece)
deriving DecidableEq, Repr

/-- A **pattern**: the paths that it matches, and whether it takes them back in. -/
structure Pattern where
  /-- Whether the pattern takes back what earlier ones ignored. -/
  negated : Bool
  /-- Which paths it matches. -/
  shape : Shape
deriving DecidableEq, Repr

/-- Whether a pattern matches a path. -/
def Pattern.holds (p : Pattern) (path : List Char) : Bool :=
  match p.shape with
  | .everything => path.any inLine
  | .nested => path.contains '/'
  | .glob pieces => begins pieces path

/-- Why a line is no pattern. -/
inductive Refusal
  /-- The line ends in a backslash, or holds nothing but a mark. -/
  | malformed (line : String)
  /-- A range between brackets runs backwards. -/
  | badRange (range : BadRange)
deriving DecidableEq, Repr

/-- The message of a refusal. -/
def Refusal.message : Refusal → String
  | .malformed line => "Invalid git pattern: " ++ Text.quoteString line
  | .badRange range => range.message

/-! ### Segments -/

/-- What follows an opening bracket, if a closing one comes: whether the list is negated, and the
list. A closing bracket at its very start is part of the list. -/
def bracket? (cs : List Char) : Option (Bool × List Char) :=
  let negated := cs.head? == some '!' || cs.head? == some '^'
  match if negated then cs.drop 1 else cs with
  | [] => none
  | first :: rest =>
    if rest.contains ']' then some (negated, first :: rest.takeWhile (· != ']')) else none

/-- The pieces of a segment, of which `skip` characters belong to the bracket before; `none` if it
ends in a backslash. -/
def segmentFrom (skip : Nat) (escaped : Bool) : List Char → Option (List Piece)
  | [] => if escaped then none else some []
  | c :: cs =>
    match skip with
    | skip + 1 => segmentFrom skip false cs
    | 0 =>
      if escaped then (.letter c :: ·) <$> segmentFrom 0 false cs
      else if c = '\\' then segmentFrom 0 true cs
      else if c = '*' then (.run :: ·) <$> segmentFrom 0 false cs
      else if c = '?' then (.glyph :: ·) <$> segmentFrom 0 false cs
      else if c = '[' then
        match bracket? cs with
        | some (negated, listed) =>
          let covered := (if negated then 1 else 0) + listed.length + 1
          (.oneOf negated listed :: ·) <$> segmentFrom covered false cs
        | none => (.letter c :: ·) <$> segmentFrom 0 false cs
      else (.letter c :: ·) <$> segmentFrom 0 false cs

/-- The segment that stands for any number of directories. -/
def anyDepth : List Char := ['*', '*']

/-- The segment that stands for any name. -/
def anyName : List Char := ['*']

/-- The pieces of a segment. -/
def segment (cs : List Char) : Option (List Piece) :=
  if cs = anyName then some [.name] else segmentFrom 0 false cs

/-! ### From segments to pieces -/

/-- The segments counted from the top: a single one is found at any depth, and a slash at the front
only says that it is not. -/
def fromTop : List (List Char) → List (List Char)
  | [] :: rest => rest
  | [s] => if s = anyDepth then [s] else [anyDepth, s]
  | [s, []] => if s = anyDepth then [s, []] else [anyDepth, s, []]
  | segments => segments

/-- The segments with an empty last one, which asks for something below, spelled out. -/
def spellEnd : List (List Char) → List (List Char)
  | [] => []
  | [[]] => [anyDepth]
  | s :: rest => s :: spellEnd rest

/-- The segments with any number of directories named only once in a row. -/
def onceDeep : List (List Char) → List (List Char)
  | [] => []
  | s :: rest =>
    match onceDeep rest with
    | [] => [s]
    | t :: more => if s = anyDepth ∧ t = anyDepth then t :: more else s :: t :: more

/-- The pieces of segments that each follow a slash. -/
def pieces : List (List Char) → Option (List Piece)
  | [] => some [.boundary]
  | s :: rest =>
    if s = anyDepth then
      if rest = [] then some [.slash] else (.between :: ·) <$> pieces rest
    else
      match segment s, pieces rest with
      | some ps, some more => some (.slash :: ps ++ more)
      | _, _ => none

/-- The pieces of segments from the first one on, which follows no slash; after leading directories
the second one does not either. -/
def topPieces : List (List Char) → Option (List Piece)
  | [] => none
  | s :: rest =>
    if s = anyDepth then (.leading :: ·) <$> (pieces rest).map List.tail
    else (pieces (s :: rest)).map List.tail

/-- The shape of the segments of a line; `belowOnly` tells that the line ended in a slash. -/
def shape? (belowOnly : Bool) (segments : List (List Char)) : Option Shape :=
  match onceDeep (spellEnd (fromTop segments)) with
  | [] => none
  | normal =>
    if normal = [anyDepth] then some (if belowOnly then .nested else .everything)
    else if normal = [anyDepth, anyName] then some .everything
    else if normal = [anyDepth, anyName, anyDepth] then some .nested
    else (topPieces normal).map .glob

/-! ### Lines -/

/-- A line without the blanks at its end, unless a backslash keeps the last of them. -/
def trimEnd (line : List Char) : List Char :=
  if ['\\', ' '].isSuffixOf line then line
  else (line.reverse.dropWhile Text.isBlank).reverse

/-- The pattern with this text after its mark. -/
def ofBody (line : String) (negated : Bool) (body : List Char) : Except Refusal Pattern :=
  let segments := Path.components body
  match shape? (segments.getLast? == some []) segments with
  | none => .error (.malformed line)
  | some (.glob ps) =>
    match badRange? ps with
    | some range => .error (.badRange range)
    | none => .ok ⟨negated, .glob ps⟩
  | some shape => .ok ⟨negated, shape⟩

/-- The **pattern of a line**, if it holds one. -/
def ofLine (line : String) : Except Refusal (Option Pattern) :=
  match trimEnd line.toList with
  | [] | '#' :: _ | ['/'] => .ok none
  | '!' :: body => some <$> ofBody line true body
  | body => some <$> ofBody line false body

end DepGraph.Ignore
