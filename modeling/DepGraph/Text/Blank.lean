import DepGraph.Text.CodeRange

/-!
# Blank characters

A character is **blank** when it separates words: the characters with bidirectional class `WS`, `B`
or `S` or category `Zs`. Patterns over messages and the trimming of messages use this class.
-/

namespace DepGraph.Text

/-- The ranges of blank code points. -/
def blankRanges : List CodeRange :=
  [(9, 13), (28, 32), (133, 133), (160, 160), (5760, 5760), (8192, 8202), (8232, 8233),
    (8239, 8239), (8287, 8287), (12288, 12288)]

/-- Whether a character is blank. -/
def isBlank (c : Char) : Bool := inRanges blankRanges c.toNat

/-- The characters of a list without its blank ends. -/
def trimBlank (cs : List Char) : List Char :=
  ((cs.dropWhile isBlank).reverse.dropWhile isBlank).reverse

/-- Whether a list holds a character that is not blank. -/
def hasInk (cs : List Char) : Bool := cs.any fun c => !isBlank c

end DepGraph.Text
