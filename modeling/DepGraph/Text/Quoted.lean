import DepGraph.Text.CodePoint
import DepGraph.Text.Hex
import DepGraph.Text.Printable

/-!
# Quoted text

Messages show a path, a URL or a pattern between quotes, and what is not printable as an escape. The
quotes are single ones, unless the text holds a single quote and no double one, so that a quote is
escaped only where both kinds occur.
-/

namespace DepGraph.Text.Quoted

/-- The quote put around a text. -/
def quoteFor (t : Text) : Char :=
  let holds (c : Char) := t.any (·.val == c.toNat)
  if holds '\'' && !holds '"' then '"' else '\''

/-- One code point between two quotes. -/
def escape (quote : Char) (p : CodePoint) : List Char :=
  if p.val == quote.toNat || p.val == '\\'.toNat then ['\\', Char.ofNat p.val]
  else if p.val == '\t'.toNat then ['\\', 't']
  else if p.val == '\n'.toNat then ['\\', 'n']
  else if p.val == '\r'.toNat then ['\\', 'r']
  else if isPrintable p.val then [Char.ofNat p.val]
  else if p.val < 0x100 then '\\' :: 'x' :: hex 2 p.val
  else if p.val < 0x10000 then '\\' :: 'u' :: hex 4 p.val
  else '\\' :: 'U' :: hex 8 p.val

/-- A text between quotes. -/
def chars (t : Text) : List Char :=
  let quote := quoteFor t
  quote :: t.flatMap (escape quote) ++ [quote]

end Quoted

/-- A text between quotes, as a string. -/
def quoted (t : Text) : String := String.ofList (Quoted.chars t)

/-- A string between quotes. -/
def quoteString (s : String) : String := quoted (ofString s)

end DepGraph.Text
