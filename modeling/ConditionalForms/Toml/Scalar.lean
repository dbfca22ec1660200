import ConditionalForms.Json.Reader
import ConditionalForms.Toml.Value

/-!
# TOML scalars

Strings of the four kinds, numbers, dates and times. A function takes the text where its scalar
starts and gives the scalar and the text after it.
-/

namespace ConditionalForms.Toml

/-- Why a document was not read: it is no TOML, an integer in it has too many digits, or it nests
too deeply. -/
inductive ReadFailure where
  | malformed
  | tooLong (digits : Nat)
  | tooDeep
  deriving DecidableEq, Repr

namespace Scalar

open Scan (isDigit)

/-- A control character of ASCII other than the tab. -/
def isControl (c : Char) : Bool := (c.toNat < 32 && c ≠ '\t') || c.toNat = 127

def isSpace (c : Char) : Bool := c = ' ' || c = '\t'

/-- Space, tab and newline. -/
def isSpaceOrLine (c : Char) : Bool := isSpace c || c = '\n'

/-- A character that strings of several lines may not hold. -/
def isControlInLines (c : Char) : Bool := isControl c && c ≠ '\n'

/-- The rest of a literal string of one line. -/
def literalLine (cs : List Char) : Option (List Char × List Char) :=
  match cs.span (· ≠ '\'') with
  | (_, []) => none
  | (s, _ :: rest) => if s.any isControl then none else some (s, rest)

/-- Up to two quotation marks that belong to the string before them. -/
def trailingQuotes (quote : Char) : List Char → List Char × List Char
  | a :: b :: cs =>
    if a = quote then if b = quote then ([a, b], cs) else ([a], b :: cs) else ([], a :: b :: cs)
  | [a] => if a = quote then ([a], []) else ([], [a])
  | [] => ([], [])

/-- The text before three apostrophes, and the text after them. -/
def beforeApostrophes : List Char → Option (List Char × List Char)
  | [] => none
  | '\'' :: '\'' :: '\'' :: cs => some ([], cs)
  | c :: cs => (beforeApostrophes cs).map fun r => (c :: r.1, r.2)

def literalLines (cs : List Char) : Option (List Char × List Char) := do
  let (s, rest) ← beforeApostrophes cs
  if s.any isControlInLines then none
  else
    let (quotes, rest) := trailingQuotes '\'' rest
    some (s ++ quotes, rest)

/-- The escapes of a single letter are those of JSON, without the slash. -/
def shortEscape? (c : Char) : Option Char :=
  if c = '/' then none else Json.Reader.shortEscape? c

/-- Where within a basic string the reader is: in its text, after a backslash that should end its
line, or in the blank space that such a backslash hides. -/
inductive Mode where
  | text
  | lineEnd
  | gap
  deriving DecidableEq

/-- The rest of a basic string, of one line or of several. -/
def basic (lines : Bool) : Mode → List Char → Option (List Char × List Char)
  | _, [] => none
  | .lineEnd, c :: cs =>
    if isSpace c then basic lines .lineEnd cs
    else if c = '\n' then basic lines .gap cs
    else none
  | _, '"' :: cs =>
    if !lines then some ([], cs)
    else
      match cs with
      | '"' :: '"' :: cs => some ([], cs)
      | cs => (basic lines .text cs).map fun r => ('"' :: r.1, r.2)
  | _, '\\' :: 'u' :: a :: b :: c :: d :: cs => do
    let n ← Json.Reader.unit? a b c d
    let e ← Text.character? n
    (basic lines .text cs).map fun r => (e :: r.1, r.2)
  | _, '\\' :: 'U' :: a :: b :: c :: d :: a' :: b' :: c' :: d' :: cs => do
    let hi ← Json.Reader.unit? a b c d
    let lo ← Json.Reader.unit? a' b' c' d'
    let e ← Text.character? (hi * 0x10000 + lo)
    (basic lines .text cs).map fun r => (e :: r.1, r.2)
  | _, '\\' :: c :: cs =>
    if lines && isSpace c then basic lines .lineEnd cs
    else if lines && c = '\n' then basic lines .gap cs
    else do
      let e ← shortEscape? c
      (basic lines .text cs).map fun r => (e :: r.1, r.2)
  | mode, c :: cs =>
    if mode = .gap && isSpaceOrLine c then basic lines .gap cs
    else if c = '\\' || (if lines then isControlInLines c else isControl c) then none
    else (basic lines .text cs).map fun r => (c :: r.1, r.2)

/-- Drops the newline right after the opening marks. -/
def dropFirstLine : List Char → List Char
  | '\n' :: cs => cs
  | cs => cs

/-- A string of any of the four kinds. -/
def string? : List Char → Option (List Char × List Char)
  | '"' :: '"' :: '"' :: cs => do
    let (s, rest) ← basic true .text (dropFirstLine cs)
    let (quotes, rest) := trailingQuotes '"' rest
    some (s ++ quotes, rest)
  | '"' :: cs => basic false .text cs
  | '\'' :: '\'' :: '\'' :: cs => literalLines (dropFirstLine cs)
  | '\'' :: cs => literalLine cs
  | _ => none

/-- Digits of a class with single underscores between them, as far as they go. -/
def digitRun (ok : Char → Bool) : List Char → List Char × List Char
  | [] => ([], [])
  | c :: cs =>
    if ok c then
      match cs with
      | '_' :: d :: rest =>
        if ok d then
          let r := digitRun ok (d :: rest)
          (c :: '_' :: r.1, r.2)
        else ([c], '_' :: d :: rest)
      | cs =>
        let r := digitRun ok cs
        (c :: r.1, r.2)
    else ([], c :: cs)

/-- The decimal digits that a text starts with. -/
def digits (cs : List Char) : List Char × List Char := digitRun isDigit cs

/-- The value of digits in a base, underscores aside. -/
def radixValue (base : Nat) (ds : List Char) : Nat :=
  ds.foldl (fun n c => match Json.Reader.hexValue? c with
    | some d => base * n + d
    | none => n) 0

/-- An integer in base 16, 2 or 8. -/
def based? : List Char → Option (Nat × List Char)
  | '0' :: 'x' :: cs => go 16 (fun c => (Json.Reader.hexValue? c).isSome) cs
  | '0' :: 'b' :: cs => go 2 (fun c => c = '0' || c = '1') cs
  | '0' :: 'o' :: cs => go 8 (fun c => '0' ≤ c && c ≤ '7') cs
  | _ => none
where
  go (base : Nat) (ok : Char → Bool) (cs : List Char) : Option (Nat × List Char) :=
    match digitRun ok cs with
    | ([], _) => none
    | (ds, rest) => some (radixValue base ds, rest)

/-- A number: in base 16, 2 or 8, or a decimal integer or double. -/
def number? (cs : List Char) : Option (Except ReadFailure (Value × List Char)) :=
  match based? cs with
  | some (n, rest) => some (.ok (.int n, rest))
  | none => do
    let (sign, body) := match cs with
      | '+' :: r => (['+'], r)
      | '-' :: r => (['-'], r)
      | _ => ([], cs)
    let (ws, rest) ← Scan.whole? digits body
    let (fs, rest) := Scan.fraction digits rest
    let (es, rest) := Scan.exponent digits rest
    if fs.isEmpty && es.isEmpty then
      match Decimal.readInt (sign ++ ws) with
      | .value i => some (.ok (.int i, rest))
      | .tooLong digits => some (.error (.tooLong digits))
      | .malformed => none
    else
      (Decimal.readBinary64? (sign ++ ws ++ fs ++ es)).map fun x => .ok (.float x, rest)

/-- An infinity or `nan`, with an optional sign. -/
def specialFloat? (cs : List Char) : Option (Value × List Char) :=
  let (negative, body) := Decimal.splitSign cs
  if "inf".toList.isPrefixOf body then some (.float (.infinite negative), body.drop 3)
  else if "nan".toList.isPrefixOf body then some (.float .nan, body.drop 3)
  else none

def twoDigits? (low high : Nat) : List Char → Option (Nat × List Char)
  | a :: b :: cs =>
    if isDigit a && isDigit b then
      let n := radixValue 10 [a, b]
      if low ≤ n && n ≤ high then some (n, cs) else none
    else none
  | _ => none

/-- A given character. -/
def expect? (c : Char) : List Char → Option (List Char)
  | d :: cs => if c = d then some cs else none
  | [] => none

/-- The text after a time of day with an optional fraction of a second. -/
def afterTime? (cs : List Char) : Option (List Char) := do
  let (_, cs) ← twoDigits? 0 23 cs
  let cs ← expect? ':' cs
  let (_, cs) ← twoDigits? 0 59 cs
  let cs ← expect? ':' cs
  let (_, cs) ← twoDigits? 0 59 cs
  match cs with
  | '.' :: d :: rest => if isDigit d then some (rest.dropWhile isDigit) else some cs
  | _ => some cs

def afterOffset (cs : List Char) : List Char :=
  match cs with
  | [] => cs
  | c :: rest =>
    if c = 'Z' || c = 'z' then rest
    else if c = '+' || c = '-' then
      let offset := do
        let (_, r) ← twoDigits? 0 23 rest
        let r ← expect? ':' r
        let (_, r) ← twoDigits? 0 59 r
        some r
      offset.getD cs
    else cs

def daysIn (year month : Nat) : Nat :=
  if month = 2 then
    if year % 4 = 0 && (year % 100 ≠ 0 || year % 400 = 0) then 29 else 28
  else if month = 4 || month = 6 || month = 9 || month = 11 then 30
  else 31

/-- The written part of a text whose rest is known. -/
def writtenBefore (cs rest : List Char) : String :=
  String.ofList (cs.take (cs.length - rest.length))

/-- A date: whether the calendar has it, and the text after it. -/
def date? : List Char → Option (Bool × List Char)
  | a :: b :: c :: d :: cs => do
    if [a, b, c, d].all isDigit then
      let year := radixValue 10 [a, b, c, d]
      let cs ← expect? '-' cs
      let (month, cs) ← twoDigits? 1 12 cs
      let cs ← expect? '-' cs
      let (day, cs) ← twoDigits? 1 31 cs
      some (1 ≤ year && day ≤ daysIn year month, cs)
    else none
  | _ => none

/-- A date, a time, or a date with a time and an optional offset. -/
def moment? (cs : List Char) : Option (Except ReadFailure (Value × List Char)) :=
  match date? cs with
  | some (valid, rest) =>
    let withTime := match rest with
      | t :: r => if t = 'T' || t = 't' || t = ' ' then afterTime? r else none
      | [] => none
    if !valid then some (.error .malformed)
    else
      match withTime with
      | some r =>
        let r := afterOffset r
        some (.ok (.moment .dateTime (writtenBefore cs r), r))
      | none => some (.ok (.moment .date (writtenBefore cs rest), rest))
  | none => (afterTime? cs).map fun rest => .ok (.moment .time (writtenBefore cs rest), rest)

end Scalar

end ConditionalForms.Toml
