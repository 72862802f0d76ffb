import DepGraph.Number.Decimal
import DepGraph.Settings.Issue
import DepGraph.Text.Blank

/-!
# Numbers in settings

A setting that is a number may come as a text. Texts are read generously: padding at the ends, zeros
in front, single underscores between digits and, for an integer, a fraction of zeros do not count.
Only the digits from zero to nine are digits here.
-/

namespace DepGraph.Settings

/-- Whether a character is padding: blank, and none of the four separators of information. -/
def isPadding (c : Char) : Bool := Text.isBlank c && !(0x1c ≤ c.toNat && c.toNat ≤ 0x1f)

/-- The characters without padding at the ends. -/
def trimPadding (cs : List Char) : List Char :=
  ((cs.dropWhile isPadding).reverse.dropWhile isPadding).reverse

/-- Whether two underscores stand side by side. -/
def hasDoubleUnderscore : List Char → Bool
  | '_' :: '_' :: _ => true
  | _ :: cs => hasDoubleUnderscore cs
  | [] => false

/-- The characters without underscores, all of which have to stand alone and inside. -/
def dropUnderscores (cs : List Char) : Option (List Char) :=
  if cs.head? == some '_' || cs.getLast? == some '_' || hasDoubleUnderscore cs then none
  else some (cs.filter (· != '_'))

/-! ### Integers -/

/-- The characters without one plus sign in front, which no minus sign may follow. -/
def dropPlus : List Char → Option (List Char)
  | '+' :: '-' :: _ => none
  | '+' :: cs => some cs
  | cs => some cs

/-- The characters without zeros, and underscores among them, in front of other digits. -/
def dropZeros : List Char → Option (List Char)
  | '0' :: cs =>
    let zeros := '0' :: cs.takeWhile fun c => c == '0' || c == '_'
    match cs.dropWhile fun c => c == '0' || c == '_' with
    | [] => some (zeros.drop (zeros.length - 1))
    | '.' :: rest => some (zeros.drop (zeros.length - 1) ++ '.' :: rest)
    | c :: rest => if c.isDigit then some (c :: rest) else none
  | c :: cs => if c.isDigit || c == '-' then some (c :: cs) else none
  | [] => none

/-- The characters without a fraction that has zeros only, at least one of them. -/
def dropZeroFraction (cs : List Char) : List Char :=
  match cs.dropWhile (· != '.') with
  | '.' :: z :: zs => if (z :: zs).all (· == '0') then cs.takeWhile (· != '.') else cs
  | _ => cs

/-- The most characters of an integer that is read. -/
def integerWidth : Nat := 4300

/-- The natural number that digits without needless zeros spell. -/
def natural? : List Char → Option Nat
  | ['0'] => some 0
  | c :: cs =>
    if c != '0' && (c :: cs).all Char.isDigit then some (Decimal.ofDigits (c :: cs)) else none
  | [] => none

/-- The integer that a sign and digits spell. -/
def signed? : List Char → Option Int
  | '-' :: cs => (natural? cs).map fun n => -(n : Int)
  | cs => (natural? cs).map fun n => (n : Int)

/-- The characters of an integer without what does not count. -/
def bareInteger (cs : List Char) : Option (List Char) := do
  let cs ← dropPlus (trimPadding cs)
  let cs ← dropZeros cs
  dropUnderscores (dropZeroFraction cs)

/-- The **integer** that a text spells. -/
def readInteger (cs : List Char) : Checked Int :=
  match bareInteger cs with
  | none => .complain .unreadableInteger
  | some cs =>
    match signed? cs with
    | none => .complain .unreadableInteger
    | some n => if integerWidth < cs.length then .complain .hugeInteger else .passed n

/-! ### Numbers with a fraction -/

/-- A sign and what follows it. -/
def splitSign : List Char → Bool × List Char
  | '-' :: cs => (true, cs)
  | '+' :: cs => (false, cs)
  | cs => (false, cs)

/-- The power of ten that an exponent with its mark spells; no exponent is the power zero. -/
def exponent? : List Char → Option Int
  | [] => some 0
  | mark :: cs =>
    let (negative, ds) := splitSign cs
    if mark.toLower == 'e' && ds != [] && ds.all Char.isDigit then
      some (if negative then -(Decimal.ofDigits ds : Int) else Decimal.ofDigits ds)
    else none

/-- The number that digits, a point among them, and an exponent spell. -/
def unsigned? (cs : List Char) : Option Float :=
  let whole := cs.takeWhile Char.isDigit
  let rest := cs.drop whole.length
  let (fraction, rest) :=
    match rest with
    | '.' :: rest => (rest.takeWhile Char.isDigit, rest.dropWhile Char.isDigit)
    | rest => ([], rest)
  if whole == [] && fraction == [] then none
  else (exponent? rest).map fun e => (Decimal.ofParts whole fraction e).toFloat

/-- The words for numbers that no digits spell. -/
def special? (cs : List Char) : Option Float :=
  match String.ofList (cs.map Char.toLower) with
  | "inf" | "infinity" => some (1.0 / 0.0)
  | "nan" => some (0.0 / 0.0)
  | _ => none

/-- The number that a text without padding spells. -/
def number? (cs : List Char) : Option Float :=
  let (negative, rest) := splitSign cs
  (special? rest <|> unsigned? rest).map fun x => if negative then -x else x

/-- The **number** that a text spells. Padding and underscores do not go together. -/
def readNumber (cs : List Char) : Checked Float :=
  match number? (trimPadding cs) <|> (dropUnderscores cs).bind number? with
  | some x => .passed x
  | none => .complain .unreadableNumber

end DepGraph.Settings
