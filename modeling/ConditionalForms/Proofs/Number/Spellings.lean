import ConditionalForms.Proofs.Number.Numerals
import ConditionalForms.Proofs.Text.Scanning

/-! # Ways to write integers

An integer is written by its decimal digits, with single underscores between digits and a sign in
front of them. Reading gives back the integer of any size, as long as it has few enough digits.
-/

namespace ConditionalForms.Decimal

open Text (isBlank isDigit digitValue?)

/-- Digits as they may be written: a single underscore may stand between two of them. -/
inductive Grouped : List Char → List Char → Prop where
  | single (d : Char) : Grouped [d] [d]
  | next (d : Char) {ds cs : List Char} (h : Grouped ds cs) : Grouped (d :: ds) (d :: cs)
  | gap (d : Char) {ds cs : List Char} (h : Grouped ds cs) : Grouped (d :: ds) (d :: '_' :: cs)

/-- A way to write an integer: its decimal digits, with a minus sign if it is negative and an
optional plus sign if it is not. -/
inductive Writes : Int → List Char → Prop where
  | plain {n : Nat} {cs : List Char} (h : Grouped (Nat.toDigits 10 n) cs) : Writes n cs
  | plus {n : Nat} {cs : List Char} (h : Grouped (Nat.toDigits 10 n) cs) : Writes n ('+' :: cs)
  | minus {n : Nat} {cs : List Char} (hn : 0 < n) (h : Grouped (Nat.toDigits 10 n) cs) :
      Writes (-n) ('-' :: cs)

/-! ## Grouped digits -/

theorem grouped_self {ds : List Char} (h : ds ≠ []) : Grouped ds ds := by
  induction ds with
  | nil => exact absurd rfl h
  | cons d ds ih =>
      cases ds with
      | nil => exact .single d
      | cons e ds => exact .next d (ih (by simp))

/-- Grouped digits start with the first digit. -/
theorem Grouped.exists_cons {ds cs : List Char} (h : Grouped ds cs) :
    ∃ d ds' cs', ds = d :: ds' ∧ cs = d :: cs' := by
  cases h with
  | single d => exact ⟨d, [], [], rfl, rfl⟩
  | next d h => exact ⟨d, _, _, rfl, rfl⟩
  | gap d h => exact ⟨d, _, _, rfl, rfl⟩

theorem Grouped.mem {ds cs : List Char} (h : Grouped ds cs) : ∀ c ∈ cs, c ∈ ds ∨ c = '_' := by
  induction h with
  | single d => simp
  | next d h ih =>
      intro c hc
      rcases List.mem_cons.mp hc with rfl | hc
      · simp
      · exact (ih c hc).imp_left (List.mem_cons_of_mem d)
  | gap d h ih =>
      intro c hc
      rcases List.mem_cons.mp hc with rfl | hc
      · simp
      · rcases List.mem_cons.mp hc with rfl | hc
        · simp
        · exact (ih c hc).imp_left (List.mem_cons_of_mem d)

theorem Grouped.digits?_eq {ds cs : List Char} (h : Grouped ds cs) (hds : ∀ d ∈ ds, isDigit d) :
    digits? cs = some (ds.filterMap digitValue?) := by
  induction h with
  | single d => exact digits?_of_isDigit hds (by simp)
  | next d h ih =>
      obtain ⟨hd, hrest⟩ := List.forall_mem_cons.mp hds
      obtain ⟨value, hvalue⟩ := Option.isSome_iff_exists.mp hd
      obtain ⟨e, ds, cs, rfl, rfl⟩ := h.exists_cons
      have hunderscore : e ≠ '_' := ne_underscore_of_isDigit (hrest e (by simp))
      rw [List.filterMap_cons_some hvalue]
      simp [digits?, hvalue, hunderscore, ih hrest]
  | gap d h ih =>
      obtain ⟨hd, hrest⟩ := List.forall_mem_cons.mp hds
      obtain ⟨value, hvalue⟩ := Option.isSome_iff_exists.mp hd
      rw [List.filterMap_cons_some hvalue]
      simp [digits?, hvalue, ih hrest]

/-! ## Integers -/

section

variable {n : Nat} {cs : List Char}

theorem digits?_of_grouped (h : Grouped (Nat.toDigits 10 n) cs) :
    ∃ ds, digits? cs = some ds ∧ ds.length = (Nat.toDigits 10 n).length ∧ ofDigits ds = n := by
  have hdigits : ∀ d ∈ Nat.toDigits 10 n, isDigit d := fun d hd => isDigit_of_mem_toDigits hd
  exact ⟨_, h.digits?_eq hdigits, length_filterMap_digitValue? hdigits, valueOf_toDigits n⟩

/-- Digits without a sign are no negative number. -/
theorem splitSign_of_grouped (h : Grouped (Nat.toDigits 10 n) cs) : splitSign cs = (false, cs) := by
  obtain ⟨d, ds, cs, hds, rfl⟩ := h.exists_cons
  have hd : isDigit d := isDigit_of_mem_toDigits (by rw [hds]; simp)
  exact splitSign_cons_of_isDigit hd cs

end

theorem readInt_of_writes {n : Int} {cs : List Char} (h : Writes n cs)
    (hn : (Nat.toDigits 10 n.natAbs).length ≤ digitLimit) : readInt cs = .value n := by
  cases h with
  | plain h =>
      obtain ⟨ds, hdigits, hlength, hvalue⟩ := digits?_of_grouped h
      rw [Int.natAbs_natCast] at hn
      simp only [readInt, splitSign_of_grouped h, hdigits, hlength, hn, if_true, hvalue]
      rfl
  | plus h =>
      obtain ⟨ds, hdigits, hlength, hvalue⟩ := digits?_of_grouped h
      rw [Int.natAbs_natCast] at hn
      simp only [readInt, splitSign, hdigits, hlength, hn, if_true, hvalue]
      rfl
  | minus _ h =>
      obtain ⟨ds, hdigits, hlength, hvalue⟩ := digits?_of_grouped h
      rw [Int.natAbs_neg, Int.natAbs_natCast] at hn
      simp only [readInt, splitSign, hdigits, hlength, hn, if_true, hvalue]
      rfl

/-- The text of an integer is a way to write it. -/
theorem writes_toString (n : Int) : Writes n (toString n).toList := by
  cases n with
  | ofNat n =>
      have htext : (toString (Int.ofNat n)).toList = Nat.toDigits 10 n := toList_toString_natCast n
      rw [htext]
      exact .plain (grouped_self Nat.toDigits_ne_nil)
  | negSucc n =>
      rw [toList_toString_negSucc, Int.negSucc_eq]
      exact .minus (Nat.succ_pos n) (grouped_self Nat.toDigits_ne_nil)

/-- An integer with few enough digits is got back from its text. -/
theorem readInt_toString {n : Int} (h : fitsDigits n) : readInt (toString n).toList = .value n := by
  apply readInt_of_writes (writes_toString n)
  rw [length_toDigits_le_iff, fitsDigits_iff, Int.natAbs_natCast]
  exact fitsDigits_iff.mp h

/-- An integer is written without blanks. -/
theorem Writes.trim_eq {n : Int} {cs : List Char} (h : Writes n cs) : Text.trim cs = cs := by
  have hgrouped : ∀ {n : Nat} {cs : List Char}, Grouped (Nat.toDigits 10 n) cs →
      ∀ c ∈ cs, isBlank c = false := by
    intro n cs h c hc
    rcases h.mem c hc with hc | rfl
    · exact Text.not_isBlank_of_isDigit (isDigit_of_mem_toDigits hc)
    · decide
  have hmem : ∀ c ∈ cs, isBlank c = false := by
    cases h with
    | plain h => exact hgrouped h
    | plus h => exact List.forall_mem_cons.mpr ⟨by decide, hgrouped h⟩
    | minus _ h => exact List.forall_mem_cons.mpr ⟨by decide, hgrouped h⟩
  exact Text.trim_eq_self (fun c hc => hmem c (List.mem_of_head? hc))
    (fun c hc => hmem c (List.mem_of_getLast? hc))

end ConditionalForms.Decimal
