import ConditionalForms.Number.Binary64
import ConditionalForms.Text.Digit

/-!
# Decimal numerals

Reading integers and doubles from texts. Digits are those of every script, and a single underscore
may stand between two digits. An integer has at most `digitLimit` digits. What is written has the
digits of ASCII.
-/

namespace ConditionalForms.Decimal

/-- The value of digits, most significant first. -/
def ofDigits (ds : List Nat) : Nat := ds.foldl (fun n d => 10 * n + d) 0

/-- The values of one or more digits; a single underscore may stand between two of them. -/
def digits? : List Char → Option (List Nat)
  | [] => none
  | c :: cs =>
    match Text.digitValue? c with
    | none => none
    | some d =>
      match cs with
      | [] => some [d]
      | '_' :: rest => (digits? rest).map (d :: ·)
      | rest => (digits? rest).map (d :: ·)

/-- Splits off a sign: whether it is a minus, and the rest. -/
def splitSign : List Char → Bool × List Char
  | '-' :: cs => (true, cs)
  | '+' :: cs => (false, cs)
  | cs => (false, cs)

/-- The most digits of an integer that is read from text or written as text. -/
def digitLimit : Nat := 4300

/-- What reading an integer comes to. -/
inductive IntReading where
  | value (i : Int)
  | malformed
  | tooLong (digits : Nat)
  deriving DecidableEq, Repr

def signed (negative : Bool) (n : Nat) : Int := if negative then -(n : Int) else n

def readInt (cs : List Char) : IntReading :=
  let (negative, body) := splitSign cs
  match digits? body with
  | none => .malformed
  | some ds =>
    if ds.length ≤ digitLimit then .value (signed negative (ofDigits ds)) else .tooLong ds.length

/-- Whether an integer has few enough digits to be written as text. -/
def fitsDigits (i : Int) : Bool := i.natAbs < Nat.pow 10 digitLimit

/-- The digits of a number, with zeros in front of them up to a width. -/
def padded (width n : Nat) : List Char :=
  let ds := Nat.toDigits 10 n
  List.replicate (width - ds.length) '0' ++ ds

/-- The double nearest to `n · 10 ^ e`. Sizes far outside the range are not computed. -/
def scaled (negative : Bool) (n : Nat) (digits : Nat) (e : Int) : Binary64 :=
  if n = 0 then .finite negative 0
  else if 320 < e + digits then .infinite negative
  else if e + digits < -340 then .finite negative 0
  else if 0 ≤ e then .ofRatio negative (n * Nat.pow 10 e.toNat) 1
  else .ofRatio negative n (Nat.pow 10 (-e).toNat)

/-- Splits off the characters of a run of digits and underscores. -/
def spanDigits (cs : List Char) : List Char × List Char :=
  cs.span fun c => Text.isDigit c || c == '_'

/-- Digits that may be missing altogether. -/
def digitsOrNone? (cs : List Char) : Option (List Nat) :=
  if cs.isEmpty then some [] else digits? cs

/-- The exponent after a mantissa: nothing, or a letter `e`, an optional sign and digits. -/
def exponent? : List Char → Option Int
  | [] => some 0
  | c :: cs =>
    if c = 'e' || c = 'E' then
      let (negative, body) := splitSign cs
      (digits? body).map fun ds => signed negative (ofDigits ds)
    else none

/-- Reads digits with an optional point and an optional exponent. -/
def readPlain? (negative : Bool) (cs : List Char) : Option Binary64 := do
  let (whole, rest) := spanDigits cs
  let (fraction, rest) :=
    match rest with
    | '.' :: rest => spanDigits rest
    | _ => ([], rest)
  let ws ← digitsOrNone? whole
  let fs ← digitsOrNone? fraction
  let e ← exponent? rest
  if ws.isEmpty && fs.isEmpty then none
  else
    let ds := (ws ++ fs).dropWhile (· = 0)
    some (scaled negative (ofDigits ds) ds.length (e - fs.length))

/-- Reads a double: a number, an infinity or `nan`, with an optional sign. -/
def readBinary64? (cs : List Char) : Option Binary64 :=
  let (negative, body) := splitSign cs
  let word := body.map Char.toLower
  if word = "inf".toList || word = "infinity".toList then some (.infinite negative)
  else if word = "nan".toList then some .nan
  else readPlain? negative body

end ConditionalForms.Decimal
