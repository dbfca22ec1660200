import ConditionalForms.Number.Binary64
import Mathlib.Algebra.Order.Field.Basic
import Mathlib.Algebra.Order.Ring.Rat
import Mathlib.Data.Int.Cast.Lemmas
import Mathlib.Order.WithBot

/-! # The order of doubles

Every double but the one that is not a number is a point of the extended rational line, and doubles
are ordered as these points are. What is not a number is ordered with nothing.
-/

namespace ConditionalForms.Binary64

/-- The rational that some units of 2⁻¹⁰⁷⁴ come to. -/
def ofUnitCount (i : ℤ) : ℚ := i / one

/-- The exact value of a double as an extended rational; what is not a number has none. -/
def value? : Binary64 → Option (WithBot (WithTop ℚ))
  | nan => none
  | infinite negative => some (if negative then ⊥ else ⊤)
  | finite negative units => some (ofUnitCount (signedUnits negative units) : WithTop ℚ)

theorem isNaN_eq_false_iff {x : Binary64} : x.isNaN = false ↔ ∃ p, x.value? = some p := by
  cases x <;> simp [isNaN, value?]

/-! ## Units -/

theorem one_pos : 0 < one := by decide +kernel

theorem ofUnitCount_lt_iff {i j : ℤ} : ofUnitCount i < ofUnitCount j ↔ i < j := by
  have hone : (0 : ℚ) < one := Nat.cast_pos.mpr one_pos
  rw [ofUnitCount, ofUnitCount, div_lt_div_iff_of_pos_right hone, Int.cast_lt]

theorem ofUnitCount_inj {i j : ℤ} : ofUnitCount i = ofUnitCount j ↔ i = j := by
  have hone : (one : ℚ) ≠ 0 := (Nat.cast_pos.mpr one_pos).ne'
  rw [ofUnitCount, ofUnitCount, div_left_inj' hone, Int.cast_inj]

theorem finite_lt_top (r : ℚ) : ((r : WithTop ℚ) : WithBot (WithTop ℚ)) < ⊤ :=
  WithBot.coe_lt_coe.mpr (WithTop.coe_lt_top r)

/-! ## Comparisons -/

theorem lt_eq : ∀ {x y : Binary64} {p q : WithBot (WithTop ℚ)}, x.value? = some p →
    y.value? = some q → x.lt y = decide (p < q)
  | infinite s, infinite t, _, _, rfl, rfl => by cases s <;> cases t <;> simp [lt]
  | infinite s, finite _ _, _, _, rfl, rfl => by cases s <;> simp [lt]
  | finite _ _, infinite t, _, _, rfl, rfl => by cases t <;> simp [lt, finite_lt_top]
  | finite _ _, finite _ _, _, _, rfl, rfl => by simp [lt, ofUnitCount_lt_iff]

theorem eqv_eq : ∀ {x y : Binary64} {p q : WithBot (WithTop ℚ)}, x.value? = some p →
    y.value? = some q → x.eqv y = decide (p = q)
  | infinite s, infinite t, _, _, rfl, rfl => by cases s <;> cases t <;> simp [eqv]
  | infinite s, finite _ _, _, _, rfl, rfl => by cases s <;> simp [eqv]
  | finite _ _, infinite t, _, _, rfl, rfl => by cases t <;> simp [eqv, (finite_lt_top _).ne]
  | finite _ _, finite _ _, _, _, rfl, rfl => by simp [eqv, ofUnitCount_inj]; rfl

theorem le_eq {x y : Binary64} {p q : WithBot (WithTop ℚ)} (hx : x.value? = some p)
    (hy : y.value? = some q) : x.le y = decide (p ≤ q) := by
  rw [le, lt_eq hx hy, eqv_eq hx hy, Bool.eq_iff_iff]
  simp [le_iff_lt_or_eq]

end ConditionalForms.Binary64
