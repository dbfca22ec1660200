import ConditionalForms.Number.Decimal
import Mathlib.Algebra.Order.Ring.Nat
import Mathlib.Data.List.Induction

/-! # Runs of digits as numbers

A run of digits of any script reads as its number when it is short enough, however many zeros it
starts with. The text of a number is a run of digits that reads as that number.
-/

namespace ConditionalForms.Decimal

open Text (isDigit digitValue?)

/-- The number that a run of digits writes. -/
def valueOf (cs : List Char) : Nat := ofDigits (cs.filterMap digitValue?)

theorem length_filterMap_digitValue? {cs : List Char} (h : ∀ c ∈ cs, isDigit c) :
    (cs.filterMap digitValue?).length = cs.length := by
  induction cs with
  | nil => rfl
  | cons c cs ih =>
      obtain ⟨hc, hcs⟩ := List.forall_mem_cons.mp h
      obtain ⟨d, hd⟩ := Option.isSome_iff_exists.mp hc
      rw [List.filterMap_cons_some hd, List.length_cons, List.length_cons, ih hcs]

theorem ne_underscore_of_isDigit {c : Char} (h : isDigit c) : c ≠ '_' := by
  rintro rfl
  exact absurd h (by decide)

theorem digits?_of_isDigit {cs : List Char} (h : ∀ c ∈ cs, isDigit c) (hne : cs ≠ []) :
    digits? cs = some (cs.filterMap digitValue?) := by
  induction cs with
  | nil => exact absurd rfl hne
  | cons c cs ih =>
      obtain ⟨hc, hcs⟩ := List.forall_mem_cons.mp h
      obtain ⟨d, hd⟩ := Option.isSome_iff_exists.mp hc
      rw [List.filterMap_cons_some hd]
      cases cs with
      | nil => simp [digits?, hd]
      | cons c' cs =>
          have hunderscore : c' ≠ '_' := ne_underscore_of_isDigit (hcs c' (by simp))
          have hrest := ih hcs (by simp)
          simp [digits?, hd, hunderscore, hrest]

theorem splitSign_cons_of_isDigit {c : Char} (h : isDigit c) (cs : List Char) :
    splitSign (c :: cs) = (false, c :: cs) := by
  have hminus : c ≠ '-' := by
    rintro rfl
    exact absurd h (by decide)
  have hplus : c ≠ '+' := by
    rintro rfl
    exact absurd h (by decide)
  simp [splitSign, hminus, hplus]

theorem splitSign_of_isDigit {cs : List Char} (h : ∀ c ∈ cs, isDigit c) :
    splitSign cs = (false, cs) := by
  cases cs with
  | nil => rfl
  | cons c cs => exact splitSign_cons_of_isDigit (h c (by simp)) cs

theorem readInt_of_isDigit {cs : List Char} (h : ∀ c ∈ cs, isDigit c) (hne : cs ≠ []) :
    readInt cs = if cs.length ≤ digitLimit then .value (valueOf cs) else .tooLong cs.length := by
  rw [readInt, splitSign_of_isDigit h]
  simp only [digits?_of_isDigit h hne, length_filterMap_digitValue? h]
  rfl

/-! ## Sizes -/

theorem ofDigits_append_singleton (ds : List Nat) (d : Nat) :
    ofDigits (ds ++ [d]) = 10 * ofDigits ds + d := by
  rw [ofDigits, List.foldl_append]
  rfl

theorem ofDigits_lt {ds : List Nat} (h : ∀ d ∈ ds, d < 10) : ofDigits ds < 10 ^ ds.length := by
  induction ds using List.reverseRecOn with
  | nil => simp [ofDigits]
  | append_singleton ds d ih =>
      have hds : ofDigits ds < 10 ^ ds.length := ih fun e he => h e (by simp [he])
      have hd : d < 10 := h d (by simp)
      rw [ofDigits_append_singleton, List.length_append, List.length_singleton, pow_succ]
      omega

theorem valueOf_lt (cs : List Char) : valueOf cs < 10 ^ cs.length := by
  have hdigits : ∀ d ∈ cs.filterMap digitValue?, d < 10 := by
    intro d hd
    obtain ⟨c, -, hc⟩ := List.mem_filterMap.mp hd
    exact Text.digitValue?_lt hc
  exact (ofDigits_lt hdigits).trans_le
    (Nat.pow_le_pow_right (by omega) (List.length_filterMap_le _ _))

theorem fitsDigits_iff {i : Int} : fitsDigits i ↔ i.natAbs < 10 ^ digitLimit := by
  simp only [fitsDigits, decide_eq_true_eq, Nat.pow_eq]

/-- The least number with too many digits to be written. -/
theorem not_fitsDigits_pow : ¬fitsDigits (10 ^ digitLimit) := by
  rw [fitsDigits_iff]
  generalize digitLimit = n
  rw [Int.natAbs_pow]
  exact lt_irrefl _

theorem fitsDigits_of_natAbs_le {i : Int} (h : i.natAbs ≤ digitLimit) : fitsDigits i :=
  fitsDigits_iff.mpr (h.trans_lt (Nat.lt_pow_self (by decide)))

/-- A run of digits that can be read has a number that can be written. -/
theorem fitsDigits_valueOf {cs : List Char} (h : cs.length ≤ digitLimit) :
    fitsDigits (valueOf cs) := by
  have hlt : valueOf cs < 10 ^ digitLimit :=
    (valueOf_lt cs).trans_le (Nat.pow_le_pow_right (by omega) h)
  exact fitsDigits_iff.mpr hlt

/-! ## What is read -/

theorem lt_of_mem_digits? {cs : List Char} {ds : List Nat} (h : digits? cs = some ds) :
    ∀ d ∈ ds, d < 10 := by
  fun_induction digits? cs generalizing ds with
  | case1 => cases h
  | case2 => cases h
  | case3 c d hd =>
      cases h
      simpa using Text.digitValue?_lt hd
  | case4 c d hd rest ih | case5 c d hd rest _ _ ih =>
      obtain ⟨ds, hds, rfl⟩ := Option.map_eq_some_iff.mp h
      exact List.forall_mem_cons.mpr ⟨Text.digitValue?_lt hd, ih hds⟩

theorem natAbs_signed (negative : Bool) (n : Nat) : (signed negative n).natAbs = n := by
  cases negative <;> simp [signed]

/-- An integer that is read can be written, and one that is too long has too many digits. -/
theorem readInt_cases (cs : List Char) :
    readInt cs = .malformed ∨ (∃ i, readInt cs = .value i ∧ fitsDigits i) ∨
      ∃ digits, readInt cs = .tooLong digits ∧ digitLimit < digits := by
  rcases hsplit : splitSign cs with ⟨negative, body⟩
  cases hdigits : digits? body with
  | none => exact .inl (by simp only [readInt, hsplit, hdigits])
  | some ds =>
      by_cases hlength : ds.length ≤ digitLimit
      · have hlt : ofDigits ds < 10 ^ digitLimit :=
          (ofDigits_lt (lt_of_mem_digits? hdigits)).trans_le
            (Nat.pow_le_pow_right (by omega) hlength)
        refine .inr (.inl ⟨signed negative (ofDigits ds), ?_, ?_⟩)
        · simp only [readInt, hsplit, hdigits, hlength, if_true]
        · rwa [fitsDigits_iff, natAbs_signed]
      · refine .inr (.inr ⟨ds.length, ?_, by omega⟩)
        simp only [readInt, hsplit, hdigits, hlength, if_false]

theorem lt_of_readInt_eq_tooLong {cs : List Char} {digits : Nat}
    (h : readInt cs = .tooLong digits) : digitLimit < digits := by
  rcases readInt_cases cs with hread | ⟨i, hread, -⟩ | ⟨digits', hread, hlimit⟩
  · cases h.symm.trans hread
  · cases h.symm.trans hread
  · cases h.symm.trans hread
    exact hlimit

/-! ## Texts of numbers -/

theorem digitValue?_of_ascii {c : Char} (h : c.isDigit) : digitValue? c = some (c.toNat - 48) := by
  have hrange : 48 ≤ c.toNat ∧ c.toNat ≤ 48 + 9 := Char.isDigit_iff_toNat.mp h
  rw [digitValue?, Text.digitZeros, List.findSome?_cons, if_pos hrange]

theorem filterMap_digitValue?_of_ascii {cs : List Char} (h : ∀ c ∈ cs, c.isDigit) :
    cs.filterMap digitValue? = cs.map fun c => c.toNat - 48 := by
  induction cs with
  | nil => rfl
  | cons c cs ih =>
      obtain ⟨hc, hcs⟩ := List.forall_mem_cons.mp h
      rw [List.filterMap_cons_some (digitValue?_of_ascii hc), ih hcs, List.map_cons]

theorem isDigit_of_mem_toDigits {n : Nat} {c : Char} (h : c ∈ Nat.toDigits 10 n) : isDigit c := by
  have hc : c.isDigit := Nat.isDigit_of_mem_toDigits (by omega) (by omega) h
  rw [isDigit, digitValue?_of_ascii hc]
  rfl

theorem valueOf_toDigits (n : Nat) : valueOf (Nat.toDigits 10 n) = n := by
  have hdigits : ∀ c ∈ Nat.toDigits 10 n, c.isDigit :=
    fun c hc => Nat.isDigit_of_mem_toDigits (by omega) (by omega) hc
  rw [valueOf, filterMap_digitValue?_of_ascii hdigits, ofDigits, List.foldl_map]
  exact Nat.ofDigitChars_ten_toDigits

/-- A number does not start with a zero, unless it is zero. -/
theorem head?_toDigits_ne_zero {n : Nat} (h : 0 < n) : (Nat.toDigits 10 n).head? ≠ some '0' := by
  have hdigit : ∀ d < 10, 0 < d → Nat.digitChar d ≠ '0' := by decide
  induction n using Nat.strong_induction_on with
  | h n ih =>
      by_cases hsmall : n < 10
      · simpa [Nat.toDigits_of_lt_base hsmall] using hdigit n hsmall h
      · have hrest := ih (n / 10) (by omega) (by omega)
        obtain ⟨d, ds, hds⟩ :=
          List.exists_cons_of_ne_nil (Nat.toDigits_ne_nil (n := n / 10) (b := 10))
        rw [Nat.toDigits_of_base_le (by omega) (by omega), hds]
        rw [hds] at hrest
        simpa using hrest

theorem toList_toString_natCast (n : Nat) : (toString (n : Int)).toList = Nat.toDigits 10 n := by
  have hcast : toString (n : Int) = toString n := rfl
  rw [hcast, Nat.toString_eq_ofList_toDigits, String.toList_ofList]

theorem toList_toString_negSucc (n : Nat) :
    (toString (Int.negSucc n)).toList = '-' :: Nat.toDigits 10 (n + 1) := by
  have hsign : toString (Int.negSucc n) = "-" ++ toString (n + 1) := rfl
  simp [hsign]

/-- A number has few enough digits to be written when its text is short enough to be read. -/
theorem length_toDigits_le_iff {n : Nat} :
    (Nat.toDigits 10 n).length ≤ digitLimit ↔ fitsDigits n := by
  rw [fitsDigits_iff, Int.natAbs_natCast]
  exact Nat.length_toDigits_le_iff (by omega) (by decide)

end ConditionalForms.Decimal
