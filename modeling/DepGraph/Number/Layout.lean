import DepGraph.Number.Shortest

/-!
# How floating point numbers are written

A **layout** holds the decisions that are left once the digits are known: which magnitudes are
written without an exponent, how the exponent looks, and what the special values are called.
-/

namespace DepGraph

/-- The decisions of a number format. -/
structure NumberLayout where
  /-- The least place of the point, counted from the first digit, that is written positionally. -/
  pointFrom : Int
  /-- The greatest such place. -/
  pointTo : Int
  /-- The least number of digits of an exponent. -/
  exponentWidth : Nat
  /-- The text of what is not a number. -/
  notANumber : String
  /-- The text of the positive infinity; the negative one has a minus sign before it. -/
  infinity : String

namespace NumberLayout

/-- Settings and messages: positional from `0.0001` to below `10 ^ 16`, with a point there. -/
def plain : NumberLayout where
  pointFrom := -3
  pointTo := 16
  exponentWidth := 2
  notANumber := "nan"
  infinity := "inf"

/-- Log lines: as in messages, with the special values spelled out. -/
def logged : NumberLayout := { plain with notANumber := "NaN", infinity := "Infinity" }

/-- The text of an exponent: a sign and enough digits. -/
def exponentChars (l : NumberLayout) (e : Int) : List Char :=
  let digits := Decimal.digitChars e.natAbs
  'e' :: (if e < 0 then '-' else '+') ::
    (List.replicate (l.exponentWidth - digits.length) '0' ++ digits)

/-- The text of a positive decimal. -/
def positiveChars (l : NumberLayout) (d : Decimal) : List Char :=
  let ds := ((Decimal.digitChars d.digits).reverse.dropWhile (· == '0')).reverse
  let point := d.magnitude
  if l.pointFrom ≤ point ∧ point ≤ l.pointTo then
    if point ≤ 0 then '0' :: '.' :: (List.replicate point.natAbs '0' ++ ds)
    else if (ds.length : Int) ≤ point then
      ds ++ List.replicate (point.toNat - ds.length) '0' ++ ['.', '0']
    else ds.take point.toNat ++ '.' :: ds.drop point.toNat
  else
    match ds with
    | [] => []
    | [c] => c :: l.exponentChars (point - 1)
    | c :: cs => c :: '.' :: cs ++ l.exponentChars (point - 1)

/-- The text of a floating point number. -/
def text (l : NumberLayout) (x : Float) : String :=
  if x.isNaN then l.notANumber
  else
    let negative := x.toBits.toNat / Nat.pow 2 63 == 1
    let body :=
      if x.isInf then l.infinity.toList
      else
        let b := Binary.ofFloat x
        if b.mant = 0 then ['0', '.', '0'] else l.positiveChars b.shortest
    String.ofList (if negative then '-' :: body else body)

end NumberLayout

end DepGraph
