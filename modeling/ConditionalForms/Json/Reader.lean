import ConditionalForms.Fault
import ConditionalForms.Json.Basic
import ConditionalForms.Number.Decimal
import ConditionalForms.Number.Scan
import ConditionalForms.Text.Character

/-!
# Reading JSON

A reader that says what it expected and where. Besides standard JSON it takes `NaN` and the two
infinities; of the fields of one name the last counts. A text that is no JSON is told from a text
that is, but holds an integer with too many digits or nests too deeply.
-/

namespace ConditionalForms.Json

/-- What is wrong where reading stops. -/
inductive Misreading where
  | expectedValue
  | expectedComma
  | expectedColon
  | expectedName
  | unterminated
  | controlCharacter
  | unicodeEscape
  | escape
  | extraData
  | byteOrderMark
  deriving DecidableEq, Repr

def Misreading.text : Misreading → String
  | .expectedValue => "Expecting value"
  | .expectedComma => "Expecting ',' delimiter"
  | .expectedColon => "Expecting ':' delimiter"
  | .expectedName => "Expecting property name enclosed in double quotes"
  | .unterminated => "Unterminated string starting at"
  | .controlCharacter => "Invalid control character at"
  | .unicodeEscape => "Invalid \\uXXXX escape"
  | .escape => "Invalid \\escape"
  | .extraData => "Extra data"
  | .byteOrderMark => "Unexpected UTF-8 BOM (decode using utf-8-sig)"

/-- Why reading failed. The place of a misreading is told by how many characters were left there. -/
inductive ReadFailure where
  | misread (what : Misreading) (left : Nat)
  | stopped (fault : Fault)
  deriving DecidableEq, Repr

namespace Reader

/-- A misreading at the given rest of the text. -/
def misread {α : Type} (what : Misreading) (rest : List Char) : Except ReadFailure α :=
  .error (.misread what rest.length)

def isSpace (c : Char) : Bool := c = ' ' || c = '\t' || c = '\n' || c = '\r'

def skipSpace (cs : List Char) : List Char := cs.dropWhile isSpace

def hexValue? (c : Char) : Option Nat :=
  if '0' ≤ c && c ≤ '9' then some (c.toNat - '0'.toNat)
  else if 'a' ≤ c && c ≤ 'f' then some (c.toNat - 'a'.toNat + 10)
  else if 'A' ≤ c && c ≤ 'F' then some (c.toNat - 'A'.toNat + 10)
  else none

/-- The UTF-16 unit of four hexadecimal digits. -/
def unit? (a b c d : Char) : Option Nat := do
  let a ← hexValue? a
  let b ← hexValue? b
  let c ← hexValue? c
  let d ← hexValue? d
  some (((a * 16 + b) * 16 + c) * 16 + d)

def shortEscape? : Char → Option Char
  | '"' => some '"'
  | '\\' => some '\\'
  | '/' => some '/'
  | 'b' => some '\x08'
  | 'f' => some '\x0c'
  | 'n' => some '\n'
  | 'r' => some '\r'
  | 't' => some '\t'
  | _ => none

/-- The character of two units, none unless they are a surrogate pair. -/
def pairChar? (hi lo : Nat) : Option Char :=
  if 0xD800 ≤ hi && hi < 0xDC00 && 0xDC00 ≤ lo && lo < 0xE000 then
    some (Char.ofNat (0x10000 + (hi - 0xD800) * 0x400 + (lo - 0xDC00)))
  else none

/-- A character as it stands, or a unit that was written as an escape. -/
abbrev Piece := Char ⊕ Nat

/-- The rest of a string after its opening quote, piece by piece. A string without an end is a
misreading at its `opening`, the text from the quote on. -/
def pieces (opening : List Char) : List Char → Except ReadFailure (List Piece × List Char)
  | [] => misread .unterminated opening
  | '"' :: cs => .ok ([], cs)
  | ['\\'] => misread .unterminated opening
  | '\\' :: 'u' :: a :: b :: c :: d :: cs =>
    match if cs.isEmpty then none else unit? a b c d with
    | none => .error (.misread .unicodeEscape (cs.length + 5))
    | some n => (pieces opening cs).map fun r => (.inr n :: r.1, r.2)
  | '\\' :: c :: cs =>
    if c = 'u' then misread .unicodeEscape (c :: cs)
    else
      match shortEscape? c with
      | none => misread .escape ('\\' :: c :: cs)
      | some e => (pieces opening cs).map fun r => (.inl e :: r.1, r.2)
  | c :: cs =>
    if c.toNat < 32 then misread .controlCharacter (c :: cs)
    else (pieces opening cs).map fun r => (.inl c :: r.1, r.2)

/-- Joins pieces into characters, two units of a surrogate pair into one; `held` is a unit that may
be the first of a pair. Half of a pair alone is read as the replacement character. -/
def joinPieces (held : Option Nat) : List Piece → List Char
  | [] => (held.map Text.characterAt).toList
  | .inl c :: ps => (held.map Text.characterAt).toList ++ c :: joinPieces none ps
  | .inr n :: ps =>
    match held with
    | none => joinPieces (some n) ps
    | some m =>
      match pairChar? m n with
      | some c => c :: joinPieces none ps
      | none => Text.characterAt m :: joinPieces (some n) ps

/-- The text of a string whose opening quote has been read. -/
def string (opening cs : List Char) : Except ReadFailure (String × List Char) :=
  (pieces opening cs).map fun r => (String.ofList (joinPieces none r.1), r.2)

/-- The digits that a text starts with. -/
def digits (cs : List Char) : List Char × List Char := cs.span Scan.isDigit

/-- A number: an integer, or a double when it has a fraction or an exponent. -/
def number (cs : List Char) : Except ReadFailure (Json × List Char) :=
  let (sign, body) := match cs with
    | '-' :: r => (['-'], r)
    | _ => ([], cs)
  match Scan.whole? digits body with
  | none => misread .expectedValue cs
  | some (whole, rest) =>
    let (frac, rest) := Scan.fraction digits rest
    let (exp, rest) := Scan.exponent digits rest
    if frac.isEmpty && exp.isEmpty then
      match Decimal.readInt (sign ++ whole) with
      | .value i => .ok (.int i, rest)
      | .tooLong digits => .error (.stopped (.integerTooLong digits))
      | .malformed => misread .expectedValue cs
    else
      match Decimal.readBinary64? (sign ++ whole ++ frac ++ exp) with
      | some x => .ok (.float x, rest)
      | none => misread .expectedValue cs

def words : List (List Char × Json) := [
  ("null".toList, .null), ("true".toList, .bool true), ("false".toList, .bool false),
  ("NaN".toList, .float .nan), ("Infinity".toList, .float (.infinite false)),
  ("-Infinity".toList, .float (.infinite true))]

/-- A word or a number. -/
def scalar (cs : List Char) : Except ReadFailure (Json × List Char) :=
  match words.find? fun w => w.1.isPrefixOf cs with
  | some (w, j) => .ok (j, cs.drop w.length)
  | none => number cs

mutual

/-- A value. `fuel` bounds the steps and `room` the levels of nesting. -/
def value : (fuel room : Nat) → List Char → Except ReadFailure (Json × List Char)
  | 0, _, cs => misread .expectedValue cs
  | fuel + 1, room, cs =>
    match cs with
    | '"' :: r => (string cs r).map fun s => (.text s.1, s.2)
    | '[' :: r =>
      match room with
      | 0 => .error (.stopped (.nestedTooDeeply .jsonList))
      | room + 1 =>
        match skipSpace r with
        | ']' :: r => .ok (.list [], r)
        | r => items fuel room [] r
    | '{' :: r =>
      match room with
      | 0 => .error (.stopped (.nestedTooDeeply .jsonObject))
      | room + 1 =>
        match skipSpace r with
        | '}' :: r => .ok (.object [], r)
        | r => members fuel room [] r
    | cs => scalar cs

/-- The items of a list up to its bracket, after the ones read before. -/
def items : (fuel room : Nat) → List Json → List Char → Except ReadFailure (Json × List Char)
  | 0, _, _, cs => misread .expectedValue cs
  | fuel + 1, room, before, cs => do
    let (v, r) ← value fuel room cs
    match skipSpace r with
    | ']' :: r => .ok (.list (before ++ [v]), r)
    | ',' :: r => items fuel room (before ++ [v]) (skipSpace r)
    | r => misread .expectedComma r

/-- The fields of an object up to its brace, after the ones read before. -/
def members : (fuel room : Nat) → List (String × Json) → List Char →
    Except ReadFailure (Json × List Char)
  | 0, _, _, cs => misread .expectedValue cs
  | fuel + 1, room, before, cs =>
    match cs with
    | '"' :: r => do
      let (k, r) ← string cs r
      match skipSpace r with
      | ':' :: r =>
        let (v, r) ← value fuel room (skipSpace r)
        let fields := Assoc.put k v before
        match skipSpace r with
        | '}' :: r => .ok (.object fields, r)
        | ',' :: r => members fuel room fields (skipSpace r)
        | r => misread .expectedComma r
      | r => misread .expectedColon r
    | cs => misread .expectedName cs

end

end Reader

/-- The greatest number of levels that a document may nest. -/
def nestingLimit : Nat := 988

/-- Reads a whole text as one value. -/
def read (cs : List Char) : Except ReadFailure Json :=
  if cs.head? = some (Char.ofNat 0xFEFF) then Reader.misread .byteOrderMark cs
  else do
    let (v, r) ← Reader.value (2 * cs.length + 1) nestingLimit (Reader.skipSpace cs)
    match Reader.skipSpace r with
    | [] => .ok v
    | r => Reader.misread .extraData r

/-- A place in a text: line and column, both from one. -/
structure Place where
  line : Nat
  column : Nat
  deriving DecidableEq, Repr

def placeAfter (before : List Char) : Place :=
  ⟨before.count '\n' + 1, (before.reverse.takeWhile (· ≠ '\n')).length + 1⟩

/-- The place in a text where the given number of characters are left. -/
def placeLeaving (cs : List Char) (left : Nat) : Place := placeAfter (cs.take (cs.length - left))

end ConditionalForms.Json
