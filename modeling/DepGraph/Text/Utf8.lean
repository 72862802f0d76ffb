import DepGraph.Text.CodePoint
import DepGraph.Text.Hex

/-!
# UTF-8

Files are bytes. **Decoding** (`DepGraph.Utf8.decode`) reads them as characters and stops at the
first flaw, which it names with its place; **encoding** (`DepGraph.Utf8.encode`) writes a text as
bytes and is refused by the first run of surrogates, which no byte sequence stands for.
-/

namespace DepGraph

/-- The contents of a file. -/
abbrev Bytes := List UInt8

namespace Utf8

/-! ### Decoding -/

/-- What can be wrong with a byte sequence. -/
inductive Flaw
  /-- No character starts with this byte. -/
  | startByte
  /-- A byte that should continue a character does not. -/
  | continuation
  /-- The bytes end inside a character. -/
  | truncated
deriving DecidableEq, Repr

/-- The words for a flaw. -/
def Flaw.words : Flaw → String
  | .startByte => "invalid start byte"
  | .continuation => "invalid continuation byte"
  | .truncated => "unexpected end of data"

/-- Where decoding stopped, and why. -/
structure Undecodable where
  /-- The kind of flaw. -/
  flaw : Flaw
  /-- The index of the first byte of the flawed sequence. -/
  start : Nat
  /-- How many bytes of the sequence were read before the flaw showed. -/
  length : Nat
  /-- The first of these bytes. -/
  first : UInt8
deriving DecidableEq, Repr

/-- The message that goes with a flaw: one byte is shown, several only by their places. -/
def Undecodable.message (u : Undecodable) : String :=
  if u.length = 1 then
    "'utf-8' codec can't decode byte 0x" ++ String.ofList (Text.hex 2 u.first.toNat) ++
      " in position " ++ toString u.start ++ ": " ++ u.flaw.words
  else
    "'utf-8' codec can't decode bytes in position " ++ toString u.start ++ "-" ++
      toString (u.start + u.length - 1) ++ ": " ++ u.flaw.words

/-- A byte that can continue a character. -/
def isContinuation (b : UInt8) : Bool := 0x80 ≤ b && b < 0xC0

/-- A byte that can be the second of a character with this first byte: the bounds leave out overlong
forms, surrogates and what lies beyond the last code point. -/
def isSecond (first b : UInt8) : Bool :=
  isContinuation b &&
    (first != 0xE0 || 0xA0 ≤ b) && (first != 0xED || b < 0xA0) &&
    (first != 0xF0 || 0x90 ≤ b) && (first != 0xF4 || b < 0x90)

/-- The six bits that a continuation byte carries. -/
def low6 (b : UInt8) : Nat := b.toNat % 0x40

/-- The characters of a byte sequence that starts at index `start`. -/
def decodeFrom (start : Nat) : Bytes → Except Undecodable (List Char)
  | [] => .ok []
  | a :: rest =>
    if a < 0x80 then
      (Char.ofNat a.toNat :: ·) <$> decodeFrom (start + 1) rest
    else if a < 0xC2 || 0xF5 ≤ a then .error ⟨.startByte, start, 1, a⟩
    else
      match rest with
      | [] => .error ⟨.truncated, start, 1, a⟩
      | b :: rest =>
        if !isSecond a b then .error ⟨.continuation, start, 1, a⟩
        else if a < 0xE0 then
          (Char.ofNat (a.toNat % 0x20 * 0x40 + low6 b) :: ·) <$> decodeFrom (start + 2) rest
        else
          match rest with
          | [] => .error ⟨.truncated, start, 2, a⟩
          | c :: rest =>
            if !isContinuation c then .error ⟨.continuation, start, 2, a⟩
            else if a < 0xF0 then
              (Char.ofNat (a.toNat % 0x10 * 0x1000 + low6 b * 0x40 + low6 c) :: ·) <$>
                decodeFrom (start + 3) rest
            else
              match rest with
              | [] => .error ⟨.truncated, start, 3, a⟩
              | d :: rest =>
                if !isContinuation d then .error ⟨.continuation, start, 3, a⟩
                else
                  (Char.ofNat (a.toNat % 0x08 * 0x40000 + low6 b * 0x1000 + low6 c * 0x40 + low6 d)
                    :: ·) <$> decodeFrom (start + 4) rest

/-- The **characters** of a byte sequence, or its first flaw. -/
def decode (bs : Bytes) : Except Undecodable (List Char) := decodeFrom 0 bs

/-! ### Encoding -/

/-- The bytes of a character. -/
def encodeChar (c : Char) : Bytes :=
  let n := c.toNat
  if n < 0x80 then [n.toUInt8]
  else if n < 0x800 then [(0xC0 + n / 0x40).toUInt8, (0x80 + n % 0x40).toUInt8]
  else if n < 0x10000 then
    [(0xE0 + n / 0x1000).toUInt8, (0x80 + n / 0x40 % 0x40).toUInt8, (0x80 + n % 0x40).toUInt8]
  else
    [(0xF0 + n / 0x40000).toUInt8, (0x80 + n / 0x1000 % 0x40).toUInt8,
      (0x80 + n / 0x40 % 0x40).toUInt8, (0x80 + n % 0x40).toUInt8]

/-- The bytes of a list of characters. -/
def encodeChars (cs : List Char) : Bytes := cs.flatMap encodeChar

/-- The run of surrogates that kept a text from being encoded. -/
structure Unencodable where
  /-- The index of the first surrogate. -/
  start : Nat
  /-- How many surrogates stand there in a row. -/
  length : Nat
  /-- The first of them. -/
  first : CodePoint
deriving DecidableEq, Repr

/-- The message that goes with a run of surrogates. -/
def Unencodable.message (u : Unencodable) : String :=
  if u.length = 1 then
    "'utf-8' codec can't encode character '\\u" ++ String.ofList (Text.hex 4 u.first.val) ++
      "' in position " ++ toString u.start ++ ": surrogates not allowed"
  else
    "'utf-8' codec can't encode characters in position " ++ toString u.start ++ "-" ++
      toString (u.start + u.length - 1) ++ ": surrogates not allowed"

/-- The first run of surrogates of a text. -/
def firstSurrogates (t : Text) : Unencodable :=
  let rest := t.dropWhile fun p => !p.isSurrogate
  { start := (t.takeWhile fun p => !p.isSurrogate).length
    length := (rest.takeWhile (·.isSurrogate)).length
    first := rest.headD default }

/-- The **bytes** of a text, or its first run of surrogates. -/
def encode (t : Text) : Except Unencodable Bytes :=
  match t.chars? with
  | some cs => .ok (encodeChars cs)
  | none => .error (firstSurrogates t)

end Utf8

end DepGraph
