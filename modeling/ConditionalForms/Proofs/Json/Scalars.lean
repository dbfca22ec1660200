import ConditionalForms.Json.Reader
import ConditionalForms.Proofs.Number.Spellings

/-! # Blanks, words and numbers

What the reader takes in one go: a gap of blanks, a word such as `null`, and the digits of an
integer as they are written, up to what ends them.
-/

namespace ConditionalForms.Json.Reader

open Scan (isDigit whole? fraction exponent)

/-! ## Gaps -/

theorem skipSpace_append {gap : List Char} (h : ∀ c ∈ gap, isSpace c) (cs : List Char) :
    skipSpace (gap ++ cs) = skipSpace cs :=
  List.dropWhile_append_of_pos h

theorem skipSpace_cons {c : Char} (h : isSpace c = false) (cs : List Char) :
    skipSpace (c :: cs) = c :: cs := by
  simp [skipSpace, h]

/-- A text after which a number has ended. -/
def EndsNumber (rest : List Char) : Prop :=
  ∀ c ∈ rest.head?, isDigit c = false ∧ c ≠ '.' ∧ c ≠ 'e' ∧ c ≠ 'E'

theorem endsNumber_nil : EndsNumber [] := by simp [EndsNumber]

/-! ## Integers -/

theorem ne_of_isDigit {c d : Char} (hd : isDigit d) (hc : isDigit c = false) : c ≠ d := by
  rintro rfl
  rw [hc] at hd
  cases hd

theorem digits_append {ds rest : List Char} (hds : ∀ d ∈ ds, isDigit d) (hrest : EndsNumber rest) :
    digits (ds ++ rest) = (ds, rest) :=
  Text.span_eq_iff.mpr ⟨rfl, hds, fun c hc => (hrest c hc).1⟩

theorem isDigit_of_mem_toDigits {n : Nat} {c : Char} (h : c ∈ Nat.toDigits 10 n) : isDigit c :=
  Nat.isDigit_of_mem_toDigits (by omega) (by omega) h

theorem exists_toDigits_eq_cons (n : Nat) :
    ∃ d ds, isDigit d ∧ Nat.toDigits 10 n = d :: ds := by
  obtain ⟨d, ds, hds⟩ := List.exists_cons_of_ne_nil (Nat.toDigits_ne_nil (n := n) (b := 10))
  exact ⟨d, ds, isDigit_of_mem_toDigits (n := n) (hds ▸ List.mem_cons_self), hds⟩

theorem whole?_toDigits (n : Nat) {rest : List Char} (hrest : EndsNumber rest) :
    whole? digits (Nat.toDigits 10 n ++ rest) = some (Nat.toDigits 10 n, rest) := by
  have hspan := digits_append (fun _ h => isDigit_of_mem_toDigits (n := n) h) hrest
  by_cases hzero : n = 0
  · subst n
    rfl
  · have hfirst := Decimal.head?_toDigits_ne_zero (Nat.pos_of_ne_zero hzero)
    obtain ⟨d, ds, -, hds⟩ := exists_toDigits_eq_cons n
    rw [hds] at hfirst hspan ⊢
    have hd : d ≠ '0' := by simpa using hfirst
    simp only [List.cons_append] at hspan ⊢
    unfold whole?
    split
    · rename_i hcons
      exact absurd (List.cons.inj hcons).1 hd
    · rw [hspan]

theorem fraction_of_endsNumber {rest : List Char} (h : EndsNumber rest) :
    fraction digits rest = ([], rest) := by
  cases rest with
  | nil => rfl
  | cons c rest =>
      obtain ⟨-, hpoint, -, -⟩ := h c rfl
      simp [fraction, hpoint]

theorem exponent_of_endsNumber {rest : List Char} (h : EndsNumber rest) :
    exponent digits rest = ([], rest) := by
  cases rest with
  | nil => rfl
  | cons c rest =>
      obtain ⟨-, -, he, hE⟩ := h c rfl
      simp [exponent, he, hE]

theorem number_toString {i : Int} (hi : Decimal.fitsDigits i) {rest : List Char}
    (hrest : EndsNumber rest) : number ((toString i).toList ++ rest) = .ok (.int i, rest) := by
  have hread := Decimal.readInt_toString hi
  cases i with
  | ofNat n =>
      have htext : (toString (Int.ofNat n)).toList = Nat.toDigits 10 n :=
        Decimal.toList_toString_natCast n
      have hwhole := whole?_toDigits n hrest
      obtain ⟨d, ds, hd, hds⟩ := exists_toDigits_eq_cons n
      have hminus : d ≠ '-' := (ne_of_isDigit hd (by decide)).symm
      rw [htext, hds] at hread
      rw [htext]
      rw [hds] at hwhole ⊢
      simp only [List.cons_append] at hwhole ⊢
      simp [number, hminus, hwhole, fraction_of_endsNumber hrest, exponent_of_endsNumber hrest,
        hread]
  | negSucc n =>
      rw [Decimal.toList_toString_negSucc] at hread ⊢
      simp [number, whole?_toDigits (n + 1) hrest, fraction_of_endsNumber hrest,
        exponent_of_endsNumber hrest, hread]

/-! ## Words and numbers -/

theorem scalar_null (rest : List Char) : scalar ("null".toList ++ rest) = .ok (.null, rest) := rfl

theorem scalar_true (rest : List Char) : scalar ("true".toList ++ rest) = .ok (.bool true, rest) :=
  rfl

theorem scalar_false (rest : List Char) :
    scalar ("false".toList ++ rest) = .ok (.bool false, rest) := rfl

theorem exists_digit_of_toString (i : Int) :
    ∃ d cs, isDigit d ∧ ((toString i).toList = d :: cs ∨ (toString i).toList = '-' :: d :: cs) := by
  cases i with
  | ofNat n =>
      obtain ⟨d, cs, hd, hcs⟩ := exists_toDigits_eq_cons n
      exact ⟨d, cs, hd, .inl ((Decimal.toList_toString_natCast n).trans hcs)⟩
  | negSucc n =>
      obtain ⟨d, cs, hd, hcs⟩ := exists_toDigits_eq_cons (n + 1)
      exact ⟨d, cs, hd, .inr (by rw [Decimal.toList_toString_negSucc, hcs])⟩

/-- No word starts like a number. -/
theorem find?_words_toString (i : Int) (rest : List Char) :
    words.find? (fun w => w.1.isPrefixOf ((toString i).toList ++ rest)) = none := by
  obtain ⟨d, cs, hd, htext⟩ := exists_digit_of_toString i
  have hletters : ∀ c ∈ ['n', 't', 'f', 'N', 'I', '-'], c ≠ d := by
    have hnone : ∀ c ∈ ['n', 't', 'f', 'N', 'I', '-'], isDigit c = false := by simp [isDigit]
    exact fun c hc => ne_of_isDigit hd (hnone c hc)
  rcases htext with htext | htext
  · rw [htext]
    simp [words, List.isPrefixOf, hletters]
  · rw [htext]
    simp [words, List.isPrefixOf, hletters]

theorem scalar_toString {i : Int} (hi : Decimal.fitsDigits i) {rest : List Char}
    (hrest : EndsNumber rest) : scalar ((toString i).toList ++ rest) = .ok (.int i, rest) := by
  rw [scalar, find?_words_toString]
  exact number_toString hi hrest

end ConditionalForms.Json.Reader
