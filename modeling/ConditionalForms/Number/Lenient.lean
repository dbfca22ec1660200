import ConditionalForms.Number.Decimal

/-!
# Lenient integer texts

Integers as people write them: with white space around them, a sign, zeros in front, single
underscores between digits, and a point with zeros after it. A text that is no plain integer as it
stands is cleaned of each of these in turn, and what is left has to be one. Only a text as it stands
can be too long: one that still is when it has been cleaned is no integer at all.
-/

namespace ConditionalForms.Lenient

def isSpace (c : Char) : Bool :=
  let n := c.toNat
  (9 ≤ n && n ≤ 13) || n == 32 || n == 133 || n == 160 || n == 5760 || (8192 ≤ n && n ≤ 8202) ||
    n == 8232 || n == 8233 || n == 8239 || n == 8287 || n == 12288

/-- A text without the white space around it. -/
def trim (cs : List Char) : List Char :=
  ((cs.dropWhile isSpace).reverse.dropWhile isSpace).reverse

/-- What an integer without zeros in front may start with: a digit that counts, or a minus sign. -/
def startsInteger (c : Char) : Bool := ('1' ≤ c && c ≤ '9') || c = '-'

/-- Takes away zeros, and the underscores among them, after the character `last` that is one of
these. The last of them stays if nothing but a fraction follows. -/
def skipZerosAfter (last : Char) : List Char → Option (List Char)
  | [] => some [last]
  | c :: cs =>
    if c = '0' || c = '_' then skipZerosAfter c cs
    else if startsInteger c then some (c :: cs)
    else if c = '.' then some (last :: c :: cs)
    else none

/-- Takes away the zeros in front of an integer; no result if it does not start like one. -/
def skipZeros? : List Char → Option (List Char)
  | [] => none
  | c :: cs =>
    if c = '0' then skipZerosAfter c cs else if startsInteger c then some (c :: cs) else none

/-- Takes away a plus sign and the zeros in front of an integer, also those after a minus sign. -/
def unsigned? : List Char → Option (List Char)
  | '+' :: '-' :: _ => none
  | '+' :: cs => skipZeros? cs
  | '-' :: cs => (skipZeros? cs).map ('-' :: ·)
  | cs => skipZeros? cs

/-- Takes away a fraction that is nothing but zeros. -/
def dropFraction (cs : List Char) : List Char :=
  match cs.span (· ≠ '.') with
  | (whole, '.' :: '0' :: zeros) => if zeros.all (· = '0') then whole else cs
  | _ => cs

/-- Whether two underscores stand next to each other. -/
def hasDoubleUnderscore : List Char → Bool
  | '_' :: '_' :: _ => true
  | _ :: cs => hasDoubleUnderscore cs
  | [] => false

/-- Takes away underscores that stand alone and within the text. -/
def dropUnderscores (cs : List Char) : List Char :=
  if cs.head? = some '_' || cs.getLast? = some '_' || hasDoubleUnderscore cs then cs
  else cs.filter (· ≠ '_')

/-- Reads a plain integer: a minus sign or none, and ASCII digits, of which the first is zero only
if it is the only one. The limit on digits counts the sign as well. -/
def readPlain (cs : List Char) : Decimal.IntReading :=
  let (negative, body) := match cs with
    | '-' :: body => (true, body)
    | body => (false, body)
  let (digits, rest) := body.span Char.isDigit
  match digits with
  | [] => .malformed
  | '0' :: _ :: _ => .malformed
  | ds =>
    let size := ds.length + (if negative then 1 else 0)
    if Decimal.digitLimit < size then .tooLong size
    else if rest.isEmpty then
      .value (Decimal.signed negative (Decimal.ofDigits (ds.map fun d => d.toNat - '0'.toNat)))
    else .malformed

/-- A text cleaned of all that a plain integer does without. -/
def clean? (cs : List Char) : Option (List Char) :=
  (unsigned? (trim cs)).map fun cs => dropUnderscores (dropFraction cs)

def readInt (s : String) : Decimal.IntReading :=
  match readPlain s.toList with
  | .malformed =>
    match (clean? s.toList).map readPlain with
    | some (.value i) => .value i
    | _ => .malformed
  | reading => reading

end ConditionalForms.Lenient
