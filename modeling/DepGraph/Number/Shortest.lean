import DepGraph.Number.Decimal

/-!
# The shortest decimal that reads back

Among the decimals that round to a given floating point number, the ones with the fewest digits are
shown, and among those the nearest. The search is exact: a positive number is a ratio of natural
numbers, the reals that round to it form an interval with rational ends, and for each count of
digits only the two neighbours of the number on that decimal grid have to be tried.
-/

namespace DepGraph

/-- A positive finite floating point number `mant * 2 ^ exp`. -/
structure Binary where
  /-- The mantissa. -/
  mant : Nat
  /-- The power of two that it counts. -/
  exp : Int
deriving DecidableEq, Repr

namespace Binary

/-- The magnitude of a finite floating point number, from its bits. -/
def ofFloat (x : Float) : Binary :=
  let bits := x.toBits.toNat
  let field : Nat := bits / Nat.pow 2 52 % Nat.pow 2 11
  let low : Nat := bits % Nat.pow 2 52
  if field = 0 then { mant := low, exp := -1074 }
  else { mant := Nat.pow 2 52 + low, exp := (field : Int) - 1075 }

/-- A number scaled by a power of two, as a ratio. -/
def scaleTwo (n : Nat) (e : Int) : Nat × Nat :=
  if e < 0 then (n, Nat.pow 2 e.natAbs) else (n * Nat.pow 2 e.toNat, 1)

/-- Four times the distance to the lower end of the interval, in units of the last place: the
neighbour below a power of two is only half as far away. -/
def lowerQuarters (b : Binary) : Nat := if b.mant = Nat.pow 2 52 ∧ b.exp ≠ -1074 then 1 else 2

/-- Whether the decimal `n * 10 ^ e` rounds to the number. The ends of the interval belong to it
when the mantissa is even. -/
def rounds (b : Binary) (n : Nat) (e : Int) : Bool :=
  let (p, q) := scaleTwo 1 (b.exp - 2)
  let (x, y) := if e < 0 then (n, Nat.pow 10 e.natAbs) else (n * Nat.pow 10 e.toNat, 1)
  let here := x * q
  let low := (4 * b.mant - b.lowerQuarters) * p * y
  let high := (4 * b.mant + 2) * p * y
  if b.mant % 2 = 0 then low ≤ here && here ≤ high else low < here && here < high

/-- The power of ten at or below the number. -/
def decade (b : Binary) : Int :=
  let (x, y) := scaleTwo b.mant b.exp
  if y ≤ x then Decimal.width (x / y) - 1
  else
    let w := Decimal.width (y / x)
    if y = x * Nat.pow 10 (w - 1) then 1 - (w : Int) else -(w : Int)

/-- The best decimal with `count` digits, if one of the two neighbours of the number on that grid
rounds to it; of two that do the nearer, and the even one when they are equally near. -/
def withDigits? (b : Binary) (count : Nat) : Option Decimal :=
  let e := b.decade - count + 1
  let (p, q) := scaleTwo b.mant b.exp
  let (x, y) := if e < 0 then (p * Nat.pow 10 e.natAbs, q) else (p, q * Nat.pow 10 e.toNat)
  let n := x / y
  let rest := x % y
  match b.rounds n e, b.rounds (n + 1) e with
  | true, true =>
    if 2 * rest < y || (2 * rest == y && n % 2 == 0) then some ⟨n, e⟩ else some ⟨n + 1, e⟩
  | true, false => some ⟨n, e⟩
  | false, true => some ⟨n + 1, e⟩
  | false, false => none

/-- The **shortest** decimal that rounds to the number; seventeen digits are always enough. -/
def shortest (b : Binary) : Decimal :=
  ((List.range 17).findSome? fun k => b.withDigits? (k + 1)).getD ⟨b.mant, 0⟩

end Binary

end DepGraph
