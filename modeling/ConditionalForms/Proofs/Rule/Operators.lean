import ConditionalForms.Proofs.Fault.Returning
import ConditionalForms.Proofs.Number.Ordering
import ConditionalForms.Rule.Compare

/-! # The operators as one algebra

Some operators compare texts as they are, some without regard to case, and some compare numbers. On
a value that is there they fit together: what holds of the very same texts holds of the folded ones,
and the numeric operators are a linear order, since no operand that is not a number gets as far as
being compared. Of null nothing holds, not even an inequality.
-/

namespace ConditionalForms

namespace Binary64

theorem isNaN_ofInt (i : Int) : (ofInt i).isNaN = false := by
  unfold ofInt ofRatio ofUnits
  split <;> rfl

end Binary64

namespace Rule

/-! ## The numbers of operands -/

theorem isNaN_of_textNumber? {s : String} {x : Binary64} (h : textNumber? s = some x) :
    x.isNaN = false := by
  simpa using (Option.filter_eq_some_iff.mp h).2

/-! ## What the operators hold of -/

/-- Whether an operator holds of a literal and a value with a text and a number of its own. -/
def Operator.holds (text : String) (number : Option Binary64) (expected : String)
    (op : Operator) : Bool :=
  if op.isNumeric then
    match number, textNumber? expected with
    | some x, some y => op.compareNumbers x y
    | _, _ => false
  else op.compareTexts text expected

section

variable {text expected : String} {number : Option Binary64} {op : Operator}

theorem holds_of_lacks (hop : op.isNumeric) (h : number = none ∨ textNumber? expected = none) :
    op.holds text number expected = false := by
  unfold Operator.holds
  rw [if_pos hop]
  rcases h with rfl | h
  · rfl
  · rw [h]
    cases number <;> rfl

theorem holds_of_numbers {x y : Binary64} (hop : op.isNumeric) (hx : number = some x)
    (hy : textNumber? expected = some y) :
    op.holds text number expected = op.compareNumbers x y := by
  unfold Operator.holds
  rw [if_pos hop, hx, hy]

theorem holds_of_notMem_known (hop : op ∉ Operator.known) :
    op.holds text number expected = (text == expected) := by
  cases op with
  | other symbol => rfl
  | _ => exact absurd (by decide) hop

theorem compare_eq_holds {j : Json} (hnull : j ≠ .null) (htext : asText? j = .ok text)
    (hnumber : asNumber? j = .ok number) :
    compare j op expected = .ok (op.holds text number expected) := by
  unfold compare Operator.holds
  split
  · contradiction
  · rw [htext, hnumber, Fault.ok_bind, Fault.ok_bind]
    cases number <;> cases textNumber? expected <;> split <;> rfl

end

theorem occursIn_self (p : List Char) : occursIn p p := by
  cases p with
  | nil => rfl
  | cons c cs => simp [occursIn]

/-! ## Laws -/

/-- The four numeric operators on two points of the extended rational line. -/
structure Ordered (p q : WithBot (WithTop ℚ)) (holds : Operator → Bool) : Prop where
  greater : holds .greater = decide (q < p)
  greaterEqual : holds .greaterEqual = decide (q ≤ p)
  less : holds .less = decide (p < q)
  lessEqual : holds .lessEqual = decide (p ≤ q)

/-- Exactly one of larger, smaller, and both weak comparisons at once is the case, and a weak
comparison is the negation of the strict one the other way. -/
structure Trichotomous (holds : Operator → Bool) : Prop where
  count_eq_one :
    [holds .greater, holds .less, holds .greaterEqual && holds .lessEqual].count true = 1
  greaterEqual : holds .greaterEqual = !holds .less
  lessEqual : holds .lessEqual = !holds .greater

theorem Ordered.trichotomous {p q : WithBot (WithTop ℚ)} {holds : Operator → Bool}
    (h : Ordered p q holds) : Trichotomous holds where
  count_eq_one := by
    rw [h.greater, h.less, h.greaterEqual, h.lessEqual]
    rcases lt_trichotomy p q with hlt | rfl | hgt
    · simp [hlt, hlt.le, hlt.not_gt, hlt.not_ge]
    · simp
    · simp [hgt, hgt.le, hgt.not_gt, hgt.not_ge]
  greaterEqual := by
    rw [h.greaterEqual, h.less, Bool.eq_iff_iff]
    simp
  lessEqual := by
    rw [h.lessEqual, h.greater, Bool.eq_iff_iff]
    simp

/-- Either an operand has no number and no numeric operator holds, or both have exact values that
the numeric operators order. -/
inductive Numeric (left right : Option Binary64) (holds : Operator → Bool) : Prop
  | unordered (lacks : left = none ∨ right = none) (fails : ∀ op, op.isNumeric → holds op = false)
  | ordered (x y : Binary64) (p q : WithBot (WithTop ℚ)) (left_eq : left = some x)
      (right_eq : right = some y) (left_value : x.value? = some p) (right_value : y.value? = some q)
      (order : Ordered p q holds) (trichotomous : Trichotomous holds)

/-- The operators fit together: there is one equality with a negation, stricter than containment
and laxer than any operator without a meaning of its own, and one order. -/
structure Consistent (left right : Option Binary64) (holds : Operator → Bool) : Prop where
  doubleEquals : holds .doubleEquals = holds .equals
  notEquals : holds .notEquals = !holds .equals
  strict : ∀ op ∉ Operator.known, holds op → holds .equals
  contains : holds .equals → holds .contains
  numeric : Numeric left right holds

section

variable {text expected : String} {number : Option Binary64}

theorem ordered_holds {x y : Binary64} {p q : WithBot (WithTop ℚ)} (hx : number = some x)
    (hy : textNumber? expected = some y) (hp : x.value? = some p) (hq : y.value? = some q) :
    Ordered p q (Operator.holds text number expected) where
  greater := (holds_of_numbers rfl hx hy).trans (Binary64.lt_eq hq hp)
  greaterEqual := (holds_of_numbers rfl hx hy).trans (Binary64.le_eq hq hp)
  less := (holds_of_numbers rfl hx hy).trans (Binary64.lt_eq hp hq)
  lessEqual := (holds_of_numbers rfl hx hy).trans (Binary64.le_eq hp hq)

theorem numeric_holds (hnumber : ∀ x, number = some x → x.isNaN = false) :
    Numeric number (textNumber? expected) (Operator.holds text number expected) := by
  by_cases hlacks : number = none ∨ textNumber? expected = none
  · exact .unordered hlacks fun op hop => holds_of_lacks hop hlacks
  · -- Both numbers are there, and neither of them is NaN, so that both have exact values.
    obtain ⟨hleft, hright⟩ := not_or.mp hlacks
    obtain ⟨x, hx⟩ := Option.ne_none_iff_exists'.mp hleft
    obtain ⟨y, hy⟩ := Option.ne_none_iff_exists'.mp hright
    obtain ⟨p, hp⟩ := Binary64.isNaN_eq_false_iff.mp (hnumber x hx)
    obtain ⟨q, hq⟩ := Binary64.isNaN_eq_false_iff.mp (isNaN_of_textNumber? hy)
    have horder : Ordered p q (Operator.holds text number expected) := ordered_holds hx hy hp hq
    exact .ordered x y p q hx hy hp hq horder horder.trichotomous

theorem consistent_holds (hnumber : ∀ x, number = some x → x.isNaN = false) :
    Consistent number (textNumber? expected) (Operator.holds text number expected) where
  doubleEquals := rfl
  notEquals := rfl
  strict op hop h := by
    rw [holds_of_notMem_known hop, beq_iff_eq] at h
    simp [Operator.holds, Operator.isNumeric, Operator.compareTexts, h]
  contains h := by
    have hfolded : Text.folded text = Text.folded expected := by
      simpa [Operator.holds, Operator.isNumeric, Operator.compareTexts] using h
    simp [Operator.holds, Operator.isNumeric, Operator.compareTexts, hfolded, occursIn_self]
  numeric := numeric_holds hnumber

end

/-! ## Texts and truth values -/

/-- Every operator can be asked of a value and a literal, and the answers fit together. -/
def Lawful (actual : Json) (expected : String) : Prop :=
  ∃ number holds, asNumber? actual = .ok number ∧
    (∀ op, compare actual op expected = .ok (holds op)) ∧
    Consistent number (textNumber? expected) holds

theorem lawful_of_asText? {actual : Json} {text : String} {number : Option Binary64}
    (hnull : actual ≠ .null) (htext : asText? actual = .ok text)
    (hnumber : asNumber? actual = .ok number) (hnan : ∀ x, number = some x → x.isNaN = false)
    (expected : String) : Lawful actual expected :=
  ⟨number, Operator.holds text number expected, hnumber,
    fun _ => compare_eq_holds hnull htext hnumber, consistent_holds hnan⟩

theorem lawful_bool (b : Bool) (expected : String) : Lawful (.bool b) expected := by
  apply lawful_of_asText? (by simp) rfl rfl
  intro x hx
  rw [← Option.some.inj hx, Binary64.isNaN_ofInt]

theorem lawful_text (s expected : String) : Lawful (.text s) expected :=
  lawful_of_asText? (by simp) rfl rfl (fun _ hx => isNaN_of_textNumber? hx) expected

/-- The operators are one algebra on truth values and texts, and nothing holds of null. -/
theorem compare_lawful (expected : String) :
    (∀ b, Lawful (.bool b) expected) ∧ (∀ s, Lawful (.text s) expected) ∧
      ∀ op, compare .null op expected = .ok false :=
  ⟨fun b => lawful_bool b expected, fun s => lawful_text s expected, fun _ => rfl⟩

end Rule

end ConditionalForms
