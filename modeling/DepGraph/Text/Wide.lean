import DepGraph.Text.Utf8

/-!
# Texts in wider units

A JSON text comes in UTF-8, UTF-16 or UTF-32. Which it is can be told from its first bytes
(`DepGraph.Wide.encodingOf`): by a mark at the start, or by where the zeros are among them, as a
JSON text starts with a character below 128.
-/

namespace DepGraph.Wide

/-- An **encoding** of a text; in the wide ones the high byte of a unit comes first or last. -/
inductive Encoding
  /-- Units of one byte. -/
  | utf8
  /-- Units of two bytes. -/
  | utf16 (highFirst : Bool)
  /-- Units of four bytes. -/
  | utf32 (highFirst : Bool)
deriving DecidableEq, Repr

/-- The encoding of a text without a mark at the start, told by its zeros. -/
def byZeros (bs : Bytes) : Encoding :=
  match bs with
  | [0, _] => .utf16 true
  | [_, 0] => .utf16 false
  | 0 :: b :: _ :: _ :: _ => if b == 0 then .utf32 true else .utf16 true
  | _ :: 0 :: c :: d :: _ => if c == 0 && d == 0 then .utf32 false else .utf16 false
  | _ => .utf8

/-- The **encoding** of a text, and its bytes without a mark at the start. -/
def encodingOf (bs : Bytes) : Encoding × Bytes :=
  match bs with
  | 0x00 :: 0x00 :: 0xfe :: 0xff :: rest => (.utf32 true, rest)
  | 0xff :: 0xfe :: 0x00 :: 0x00 :: rest => (.utf32 false, rest)
  | 0xfe :: 0xff :: rest => (.utf16 true, rest)
  | 0xff :: 0xfe :: rest => (.utf16 false, rest)
  | 0xef :: 0xbb :: 0xbf :: rest => (.utf8, rest)
  | bs => (byZeros bs, bs)

/-- The number that the bytes of a unit make. -/
def unit (highFirst : Bool) (bs : Bytes) : Nat :=
  (if highFirst then bs else bs.reverse).foldl (fun n b => n * 256 + b.toNat) 0

/-- The units of two bytes each, if no byte is left over. -/
def units16 (highFirst : Bool) : Bytes → Option (List Nat)
  | [] => some []
  | a :: b :: rest => (units16 highFirst rest).map (unit highFirst [a, b] :: ·)
  | _ => none

/-- The units of four bytes each, if no byte is left over. -/
def units32 (highFirst : Bool) : Bytes → Option (List Nat)
  | [] => some []
  | a :: b :: c :: d :: rest => (units32 highFirst rest).map (unit highFirst [a, b, c, d] :: ·)
  | _ => none

/-- The character with this number. -/
def char? (n : Nat) : Option Char := if n.isValidChar then some (Char.ofNat n) else none

/-- The characters of units of two bytes: two halves of a pair make one. -/
def chars16 : List Nat → Option (List Char)
  | [] => some []
  | h :: l :: rest =>
    if (CodePoint.ofNat h).isHigh && (CodePoint.ofNat l).isLow then
      match (CodePoint.ofPair (.ofNat h) (.ofNat l)).char?, chars16 rest with
      | some c, some cs => some (c :: cs)
      | _, _ => none
    else
      match char? h, chars16 (l :: rest) with
      | some c, some cs => some (c :: cs)
      | _, _ => none
  | [n] => (char? n).map fun c => [c]

/-- The **characters** of a text in the encoding that its first bytes tell. -/
def decode (bs : Bytes) : Option (List Char) :=
  match encodingOf bs with
  | (.utf8, rest) => (Utf8.decode rest).toOption
  | (.utf16 highFirst, rest) => (units16 highFirst rest).bind chars16
  | (.utf32 highFirst, rest) => (units32 highFirst rest).bind fun us => us.mapM char?

end DepGraph.Wide
