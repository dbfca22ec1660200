import ConditionalForms.Number.Decimal

/-!
# Shortest decimal texts

A finite double is written with the fewest digits that read back as it, and of those with the
nearest. Digits stand in positional form while the decimal point falls within them or close by.
-/

namespace ConditionalForms.Shortest

/-- Decimal digits and the place of the point: `0.d₁d₂… · 10 ^ point`. -/
structure Digits where
  digits : Nat
  point : Int
  deriving DecidableEq, Repr

/-- How many powers of ten a positive size below one has to be multiplied by to reach one. -/
def leadingZeros (units : Nat) : Nat → Nat
  | 0 => 0
  | fuel + 1 => if Binary64.one ≤ units then 0 else leadingZeros (units * 10) fuel + 1

/-- The `point` for which `10 ^ (point - 1) ≤ units · 2⁻¹⁰⁷⁴ < 10 ^ point`. -/
def decimalPoint (units : Nat) : Int :=
  if Binary64.one ≤ units then (Nat.toDigits 10 (units / Binary64.one)).length
  else 1 - (leadingZeros units 400 : Int)

/-- The reals that read back as a size, in quarter units: the two ends and whether they belong. -/
structure Reach where
  low : Nat
  high : Nat
  closed : Bool

/-- Halfway to the two neighbours of a size; a power of two has its lower neighbour nearer by half.
-/
def reach (units : Nat) : Reach :=
  let place := Binary64.lastPlace units
  let below := if units = Nat.pow 2 units.log2 ∧ 1 < place then place else 2 * place
  ⟨4 * units - below, 4 * units + 2 * place, units / place % 2 = 0⟩

/-- Whether a ratio, in quarter units, lies within reach. -/
def Reach.holds (r : Reach) (num den : Nat) : Bool :=
  if r.closed then r.low * den ≤ num && num ≤ r.high * den
  else r.low * den < num && num < r.high * den

/-- The better of the two `count`-digit neighbours of a size that reads back as it. -/
def candidate? (units : Nat) (point : Int) (count : Nat) : Option Digits :=
  let e := point - count
  let up := Nat.pow 10 e.toNat
  let down := Nat.pow 10 (-e).toNat
  let num := units * down
  let den := Binary64.one * up
  let d := num / den
  let r := reach units
  let near (n : Nat) : Bool := r.holds (4 * n * den) down
  let left := num % den
  let lower : Digits := ⟨d, point⟩
  let upper : Digits := if d + 1 = Nat.pow 10 count then ⟨1, point + 1⟩ else ⟨d + 1, point⟩
  match near d, near (d + 1) with
  | false, false => none
  | true, false => some lower
  | false, true => some upper
  | true, true =>
    if 2 * left < den ∨ (2 * left = den ∧ d % 2 = 0) then some lower else some upper

/-- The shortest digits of a positive size. Seventeen digits always suffice. -/
def digits (units : Nat) : Digits :=
  let point := decimalPoint units
  ((List.range' 1 17).findSome? (candidate? units point)).getD ⟨0, 1⟩

/-- Where the format changes and what its special values are called. -/
structure Format where
  leastPoint : Int
  greatestPoint : Int
  /-- The least number of digits of an exponent. -/
  exponentWidth : Nat
  notANumber : String
  infinity : String

def dropZeros (ds : List Char) : List Char := (ds.reverse.dropWhile (· = '0')).reverse

def exponentText (f : Format) (e : Int) : List Char :=
  (if e < 0 then '-' else '+') :: Decimal.padded f.exponentWidth e.natAbs

/-- Digits with their point, in positional or exponent form. -/
def place (f : Format) (ds : List Char) (point : Int) : List Char :=
  if f.leastPoint ≤ point ∧ point ≤ f.greatestPoint then
    if point ≤ 0 then '0' :: '.' :: List.replicate (-point).toNat '0' ++ ds
    else
      let whole := ds.take point.toNat
      let fraction := ds.drop point.toNat
      whole ++ List.replicate (point.toNat - ds.length) '0' ++
        '.' :: (if fraction.isEmpty then ['0'] else fraction)
  else
    let mantissa := match ds with
      | d :: e :: rest => d :: '.' :: e :: rest
      | ds => ds
    mantissa ++ 'e' :: exponentText f (point - 1)

/-- The text of a double in a format. -/
def render (f : Format) : Binary64 → List Char
  | .nan => f.notANumber.toList
  | .infinite negative => (if negative then ['-'] else []) ++ f.infinity.toList
  | .finite negative units =>
    let body :=
      if units = 0 then ['0', '.', '0']
      else
        let s := digits units
        place f (dropZeros (Nat.toDigits 10 s.digits)) s.point
    (if negative then ['-'] else []) ++ body

/-- Sizes from 10⁻⁴ to 10¹⁶ are written in positional form. -/
def plain : Format := ⟨-3, 16, 2, "nan", "inf"⟩

end ConditionalForms.Shortest

namespace ConditionalForms.Binary64

def text (x : Binary64) : String := String.ofList (Shortest.render Shortest.plain x)

end ConditionalForms.Binary64
