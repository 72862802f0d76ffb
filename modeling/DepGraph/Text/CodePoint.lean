/-!
# Text with surrogates

A notebook may spell half of a surrogate pair on its own, and such a half is no character. Text that
came out of a notebook is therefore a list of **code points**, surrogates included, and becomes a
list of characters only when none of them is a surrogate (`DepGraph.Text.chars?`).
-/

namespace DepGraph

/-- A **code point**: a number below `0x110000`, whether or not it is a surrogate. -/
structure CodePoint where
  /-- The number itself. -/
  val : Nat
  /-- Code points end at `0x10FFFF`. -/
  val_lt : val < 0x110000 := by decide
deriving DecidableEq, Repr

namespace CodePoint

instance : Inhabited CodePoint := ⟨{ val := 0 }⟩

/-- The code point of a character. -/
def ofChar (c : Char) : CodePoint where
  val := c.toNat
  val_lt := by
    have h := c.valid
    simp only [Char.toNat, UInt32.isValidChar, Nat.isValidChar, UInt32.toNat] at *
    omega

/-- A surrogate is one of the code points `0xD800` to `0xDFFF`, which stand for no character. -/
def isSurrogate (p : CodePoint) : Bool := 0xD800 ≤ p.val && p.val < 0xE000

/-- The first half of a surrogate pair. -/
def isHigh (p : CodePoint) : Bool := 0xD800 ≤ p.val && p.val < 0xDC00

/-- The second half of a surrogate pair. -/
def isLow (p : CodePoint) : Bool := 0xDC00 ≤ p.val && p.val < 0xE000

/-- The character of a code point, if it has one. -/
def char? (p : CodePoint) : Option Char :=
  if p.isSurrogate then none else some (Char.ofNat p.val)

/-- The code point of a number, and `0` for a number that is too large. -/
def ofNat (n : Nat) : CodePoint :=
  if h : n < 0x110000 then ⟨n, h⟩ else { val := 0 }

/-- The code point above `0xFFFF` that two halves of a pair spell together. -/
def ofPair (high low : CodePoint) : CodePoint :=
  ofNat (0x10000 + (high.val - 0xD800) * 0x400 + (low.val - 0xDC00))

/-- A character is never a surrogate. -/
@[simp] theorem isSurrogate_ofChar (c : Char) : (ofChar c).isSurrogate = false := by
  have h := c.valid
  simp only [UInt32.isValidChar, Nat.isValidChar] at h
  rw [Bool.eq_false_iff]
  intro hs
  simp only [isSurrogate, ofChar, Char.toNat, Bool.and_eq_true] at hs
  have lo := of_decide_eq_true hs.1
  have hi := of_decide_eq_true hs.2
  omega

/-- The character of a character's code point is that character. -/
@[simp] theorem char?_ofChar (c : Char) : (ofChar c).char? = some c := by
  rw [char?, isSurrogate_ofChar]
  simp [ofChar]

end CodePoint

/-- **Text**: a list of code points. -/
abbrev Text := List CodePoint

namespace Text

/-- The text of a list of characters. -/
def ofChars (cs : List Char) : Text := cs.map CodePoint.ofChar

/-- The text of a string. -/
def ofString (s : String) : Text := ofChars s.toList

/-- The characters of a text, or `none` if one of its code points is a surrogate. -/
def chars? : Text → Option (List Char)
  | [] => some []
  | p :: ps =>
    match p.char?, chars? ps with
    | some c, some cs => some (c :: cs)
    | _, _ => none

/-- The string of a text, or `none` if one of its code points is a surrogate. -/
def string? (t : Text) : Option String := t.chars?.map String.ofList

/-- The string of a text in which every surrogate is shown as the replacement character. -/
def display (t : Text) : String :=
  String.ofList (t.map fun p => (p.char?).getD (Char.ofNat 0xFFFD))

/-- Text made of characters has these characters. -/
@[simp] theorem chars?_ofChars (cs : List Char) : (ofChars cs).chars? = some cs := by
  induction cs with
  | nil => rfl
  | cons c cs ih =>
    simp only [ofChars] at ih
    simp [ofChars, chars?, ih]

/-- The text of a string is the text of no other. -/
@[simp] theorem ofString_inj {s t : String} : ofString s = ofString t ↔ s = t := by
  refine ⟨fun h => String.ext ?_, fun h => h ▸ rfl⟩
  have same := congrArg chars? h
  simpa only [ofString, chars?_ofChars, Option.some.injEq] using same

end Text

end DepGraph
