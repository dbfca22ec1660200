/-!
# Double-precision numbers

A finite double is a whole number of units of 2⁻¹⁰⁷⁴, the least positive one, together with a sign,
so comparison, floor and rounding are exact arithmetic on naturals and integers. The main operation
is the rounding of a ratio to the nearest double, a tie to the even one.
-/

namespace ConditionalForms

/-- A double: not a number, an infinity, or a sign and a size in units of 2⁻¹⁰⁷⁴. -/
inductive Binary64 where
  | nan
  | infinite (negative : Bool)
  | finite (negative : Bool) (units : Nat)
  deriving DecidableEq, Repr, Inhabited

namespace Binary64

def one : Nat := Nat.pow 2 1074

/-- The size that no finite double reaches, 2¹⁰²⁴ in units. -/
def bound : Nat := Nat.pow 2 2098

/-- The quotient rounded to the nearest integer, a tie to the even one. -/
def roundDiv (num den : Nat) : Nat :=
  let q := num / den
  let r := num % den
  if 2 * r < den then q
  else if den < 2 * r then q + 1
  else q + q % 2

/-- The unit in the last place of a size whose integral part is `size`: 53 digits are kept. -/
def lastPlace (size : Nat) : Nat := Nat.pow 2 (size.log2 - 52)

/-- The ratio of two naturals, in units, rounded to 53 binary digits. -/
def roundUnits (num den : Nat) : Nat :=
  let place := lastPlace (num / den)
  roundDiv num (den * place) * place

/-- The double of a size in units: a size past the bound is infinite. -/
def ofUnits (negative : Bool) (units : Nat) : Binary64 :=
  if units < bound then finite negative units else infinite negative

/-- The double nearest to a ratio. -/
def ofRatio (negative : Bool) (num den : Nat) : Binary64 :=
  ofUnits negative (roundUnits (num * one) den)

/-- The double nearest to an integer. -/
def ofInt (i : Int) : Binary64 := ofRatio (i < 0) i.natAbs 1

def zero : Binary64 := finite false 0

/-- Whether the value is not a number. -/
def isNaN : Binary64 → Bool
  | nan => true
  | _ => false

/-- The position of a double on the line: an infinity's side, or a finite value in units. -/
def signedUnits (negative : Bool) (units : Nat) : Int :=
  if negative then -(units : Int) else units

/-- Strict order by value; nothing is ordered with what is not a number. -/
def lt : Binary64 → Binary64 → Bool
  | nan, _ | _, nan => false
  | infinite s, infinite t => s && !t
  | infinite s, finite _ _ => s
  | finite _ _, infinite t => !t
  | finite s u, finite t v => signedUnits s u < signedUnits t v

/-- Equality by value: both zeros are equal, and what is not a number equals nothing. -/
def eqv : Binary64 → Binary64 → Bool
  | infinite s, infinite t => s == t
  | finite s u, finite t v => signedUnits s u == signedUnits t v
  | _, _ => false

/-- Order by value. -/
def le (x y : Binary64) : Bool := lt x y || eqv x y

/-- The greatest integer at most the value, none for what is not finite. -/
def floor? : Binary64 → Option Int
  | finite s u => some (Int.fdiv (signedUnits s u) one)
  | _ => none

/-- The value as an integer, none when it is not one. -/
def toInt? : Binary64 → Option Int
  | finite s u => if u % one = 0 then some (signedUnits s (u / one)) else none
  | _ => none

end Binary64

end ConditionalForms
