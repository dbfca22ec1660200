import ConditionalForms.Text.Quoted

/-!
# UTF-8 files

Decoding the bytes of a file, with the place and reason of the first ill-formed sequence, and the
reading of every line ending as a newline.
-/

namespace ConditionalForms.Text.Utf8

/-- Why a sequence of bytes is ill-formed. -/
inductive Reason where
  | start
  | continuation
  | unexpectedEnd
  deriving DecidableEq, Repr

def Reason.text : Reason → String
  | .start => "invalid start byte"
  | .continuation => "invalid continuation byte"
  | .unexpectedEnd => "unexpected end of data"

/-- The first ill-formed sequence: its first byte, its place, its length and what is wrong. -/
structure DecodingError where
  byte : UInt8
  position : Nat
  length : Nat
  reason : Reason
  deriving DecidableEq, Repr

def DecodingError.message (e : DecodingError) : String :=
  let place :=
    if e.length = 1 then
      "byte 0x" ++ String.ofList (hexDigits 2 e.byte.toNat) ++ s!" in position {e.position}"
    else s!"bytes in position {e.position}-{e.position + e.length - 1}"
  "'utf-8' codec can't decode " ++ place ++ ": " ++ e.reason.text

/-- A byte that continues a sequence. -/
def isTail (b : UInt8) : Bool := 0x80 ≤ b && b < 0xC0

/-- Whether `b` may stand second after the lead byte `lead`: shortest forms only, no surrogates. -/
def isSecond (lead b : UInt8) : Bool :=
  isTail b &&
    (if lead = 0xE0 then 0xA0 ≤ b
     else if lead = 0xED then b < 0xA0
     else if lead = 0xF0 then 0x90 ≤ b
     else if lead = 0xF4 then b < 0x90
     else true)

/-- The number of bytes of the sequence that a lead byte opens, 0 for a byte that opens none. -/
def width (lead : UInt8) : Nat :=
  if lead < 0x80 then 1
  else if lead < 0xC2 then 0
  else if lead < 0xE0 then 2
  else if lead < 0xF0 then 3
  else if lead < 0xF5 then 4
  else 0

def tailBits (b : UInt8) : Nat := b.toNat % 64

/-- Decodes bytes that start at the given position. -/
def decodeFrom (position : Nat) : List UInt8 → Except DecodingError (List Char)
  | [] => .ok []
  | a :: rest =>
    let fail (length : Nat) (reason : Reason) : Except DecodingError (List Char) :=
      .error ⟨a, position, length, reason⟩
    match width a with
    | 1 => (Char.ofNat a.toNat :: ·) <$> decodeFrom (position + 1) rest
    | 2 =>
      match rest with
      | [] => fail 1 .unexpectedEnd
      | b :: rest =>
        if isSecond a b then
          (Char.ofNat (a.toNat % 32 * 64 + tailBits b) :: ·) <$> decodeFrom (position + 2) rest
        else fail 1 .continuation
    | 3 =>
      match rest with
      | [] => fail 1 .unexpectedEnd
      | [b] => if isSecond a b then fail 2 .unexpectedEnd else fail 1 .continuation
      | b :: c :: rest =>
        if !isSecond a b then fail 1 .continuation
        else if !isTail c then fail 2 .continuation
        else
          (Char.ofNat ((a.toNat % 16 * 64 + tailBits b) * 64 + tailBits c) :: ·) <$>
            decodeFrom (position + 3) rest
    | 4 =>
      match rest with
      | [] => fail 1 .unexpectedEnd
      | [b] => if isSecond a b then fail 2 .unexpectedEnd else fail 1 .continuation
      | [b, c] =>
        if !isSecond a b then fail 1 .continuation
        else if !isTail c then fail 2 .continuation
        else fail 3 .unexpectedEnd
      | b :: c :: d :: rest =>
        if !isSecond a b then fail 1 .continuation
        else if !isTail c then fail 2 .continuation
        else if !isTail d then fail 3 .continuation
        else
          (Char.ofNat (((a.toNat % 8 * 64 + tailBits b) * 64 + tailBits c) * 64 + tailBits d) :: ·)
            <$> decodeFrom (position + 4) rest
    | _ => fail 1 .start

/-- Reads a carriage return, alone or before a newline, as a newline. -/
def joinLineEnds : List Char → List Char
  | [] => []
  | '\r' :: '\n' :: cs => '\n' :: joinLineEnds cs
  | c :: cs => (if c = '\r' then '\n' else c) :: joinLineEnds cs

/-- The text of a file: its bytes decoded, its line endings read as newlines. -/
def readText (bytes : List UInt8) : Except DecodingError (List Char) :=
  joinLineEnds <$> decodeFrom 0 bytes

end ConditionalForms.Text.Utf8
