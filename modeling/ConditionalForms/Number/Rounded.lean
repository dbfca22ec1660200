import ConditionalForms.Number.Shortest

/-!
# Rounded decimal texts

The size of a double rounded to a number of decimal places or to a number of digits, a tie to the
even one, and the texts of such numbers: positional, with an exponent, or whichever suits their
size. The alternate form of a text keeps the point, and the zeros at the end, that the plain form
leaves out.
-/

namespace ConditionalForms.Rounded

open Shortest (Digits)

/-- Digits after the point, and the point itself unless it would stand at the end of a plain text.
-/
def fraction (alternate : Bool) (ds : List Char) : List Char :=
  if ds.isEmpty && !alternate then [] else '.' :: ds

/-! ## Decimal places -/

/-- A size in units of `10 ^ -places`, rounded. -/
def scaled (units places : Nat) : Nat :=
  Binary64.roundDiv (units * Nat.pow 10 places) Binary64.one

def fixed (alternate : Bool) (places units : Nat) : List Char :=
  let ds := Decimal.padded (places + 1) (scaled units places)
  let whole := ds.length - places
  ds.take whole ++ fraction alternate (ds.drop whole)

/-! ## Significant digits -/

/-- A positive number of digits of a size, rounded. -/
def significant (units count : Nat) : Digits :=
  if units = 0 then ⟨0, 1⟩
  else
    let point := Shortest.decimalPoint units
    let e := point - count
    let n := Binary64.roundDiv (units * Nat.pow 10 (-e).toNat) (Binary64.one * Nat.pow 10 e.toNat)
    if n = Nat.pow 10 count then ⟨Nat.pow 10 (count - 1), point + 1⟩ else ⟨n, point⟩

/-- An exponent of at least two digits. -/
def exponent (e : Int) : List Char :=
  'e' :: (if e < 0 then '-' else '+') :: Decimal.padded 2 e.natAbs

/-- Digits with the point after the first one, and the exponent for the place of the point. -/
def withExponent (alternate : Bool) (ds : List Char) (point : Int) : List Char :=
  ds.take 1 ++ fraction alternate (ds.drop 1) ++ exponent (point - 1)

/-- Digits with the point at its place among them or outside. -/
def positional (alternate : Bool) (ds : List Char) (point : Int) : List Char :=
  if point ≤ 0 then '0' :: fraction alternate (List.replicate (-point).toNat '0' ++ ds)
  else
    let whole := point.toNat
    ds.take whole ++ List.replicate (whole - ds.length) '0' ++ fraction alternate (ds.drop whole)

/-- A size with an exponent and a number of decimal places before it. -/
def scientific (alternate : Bool) (places units : Nat) : List Char :=
  let d := significant units (places + 1)
  withExponent alternate (Decimal.padded (places + 1) d.digits) d.point

/-- A size with a number of digits, of which the plain text leaves out zeros at the end. The text
has an exponent if the point lies beyond these digits, or more than four places before them. -/
def general (alternate : Bool) (count units : Nat) : List Char :=
  let count := max count 1
  let d := significant units count
  let ds := Decimal.padded count d.digits
  let ds := if alternate then ds else Shortest.dropZeros ds
  if d.point ≤ -4 ∨ count < d.point then withExponent alternate ds d.point
  else positional alternate ds d.point

end ConditionalForms.Rounded
