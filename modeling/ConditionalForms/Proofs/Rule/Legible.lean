import ConditionalForms.Proofs.Fault.Returning
import ConditionalForms.Proofs.Number.Numerals
import ConditionalForms.Proofs.Rule.Grammar

/-! # Rules that can be read

Reading a rule meets a fault only where a position is written with too many digits. Then the whole
rule cannot be read, whatever its other pieces are.
-/

namespace ConditionalForms

/-- The fault of an integer that has too many digits to be read. -/
def Fault.Overlong (fault : Fault) : Prop :=
  ∃ n, Decimal.digitLimit < n ∧ fault = .integerTooLong n

namespace Rule

open Decimal (digitLimit valueOf fitsDigits)

/-- Both positions of a piece have few enough digits. -/
def Piece.Short (p : Piece) : Prop :=
  p.sectionDigits.length ≤ digitLimit ∧ p.fieldDigits.length ≤ digitLimit

/-- No piece of a rule writes a position with too many digits; names have no positions. -/
def Legible : Dialect → String → Prop
  | .name, _ => True
  | .positional, raw => ∀ cs ∈ splitPieces raw.toList, ∀ p : Piece, p.Writes cs → p.Short

theorem legible_positional_iff {raw : String} :
    Legible .positional raw ↔ ∀ cs ∈ splitPieces raw.toList, ∀ p ∈ splitPiece? cs, p.Short := by
  simp [Legible, splitPiece?_eq_some_iff]

instance (p : Piece) : Decidable p.Short := inferInstanceAs (Decidable (_ ∧ _))

instance : ∀ d raw, Decidable (Legible d raw)
  | .name, _ => .isTrue trivial
  | .positional, _ => decidable_of_iff _ legible_positional_iff.symm

/-- A target whose positions have few enough digits to be written. -/
def Target.Writable : Target → Prop
  | .position i j => fitsDigits i ∧ ∀ k, j = some k → fitsDigits k
  | .names _ _ => True

/-! ## One piece -/

theorem readPiece_of_short {cs : List Char} {p : Piece} (h : p.Writes cs) (hs : p.Short) :
    readPiece cs =
      if (valueOf p.sectionDigits : Int) < 1 || (valueOf p.fieldDigits : Int) < 1 then
        .nonPositive (String.ofList cs)
      else .atom (p.atom (valueOf p.sectionDigits) (valueOf p.fieldDigits) cs) := by
  obtain ⟨hne, hds⟩ := h.sectionDigits
  obtain ⟨hne', hes⟩ := h.fieldDigits
  simp only [readPiece, h.splitPiece?_eq, Decimal.readInt_of_isDigit hds hne,
    Decimal.readInt_of_isDigit hes hne', if_pos hs.1, if_pos hs.2]

theorem readPiece_of_long_section {cs : List Char} {p : Piece} (h : p.Writes cs)
    (hlong : digitLimit < p.sectionDigits.length) :
    readPiece cs = .tooLong p.sectionDigits.length := by
  obtain ⟨hne, hds⟩ := h.sectionDigits
  simp only [readPiece, h.splitPiece?_eq, Decimal.readInt_of_isDigit hds hne,
    if_neg (not_le.mpr hlong)]

theorem readPiece_of_not_short {cs : List Char} {p : Piece} (h : p.Writes cs) (hs : ¬p.Short) :
    ∃ n, digitLimit < n ∧ readPiece cs = .tooLong n := by
  obtain ⟨hne, hds⟩ := h.sectionDigits
  obtain ⟨hne', hes⟩ := h.fieldDigits
  -- The position of the section is read first, so that it is the one that stops the reading.
  by_cases hsection : p.sectionDigits.length ≤ digitLimit
  · have hfield : ¬p.fieldDigits.length ≤ digitLimit := fun hfield => hs ⟨hsection, hfield⟩
    refine ⟨p.fieldDigits.length, by omega, ?_⟩
    simp only [readPiece, h.splitPiece?_eq, Decimal.readInt_of_isDigit hds hne,
      Decimal.readInt_of_isDigit hes hne', if_pos hsection, if_neg hfield]
  · exact ⟨_, not_le.mp hsection, readPiece_of_long_section h (not_le.mp hsection)⟩

theorem readPiece_of_not_writes {cs : List Char} (h : ∀ p : Piece, ¬p.Writes cs) :
    readPiece cs = .unmatched (String.ofList cs) := by
  have hnone : splitPiece? cs = none := by
    cases hp : splitPiece? cs with
    | none => rfl
    | some p => exact absurd (.of_splitPiece? hp) (h p)
  simp only [readPiece, hnone]

/-- All that a piece can read as. -/
theorem readPiece_cases (cs : List Char) :
    (∃ p : Piece, p.Writes cs ∧ ¬p.Short ∧ ∃ n, digitLimit < n ∧ readPiece cs = .tooLong n) ∨
      (∃ p : Piece, p.Writes cs ∧ p.Short ∧ readPiece cs =
        .atom (p.atom (valueOf p.sectionDigits) (valueOf p.fieldDigits) cs)) ∨
      readPiece cs = .nonPositive (String.ofList cs) ∨
      readPiece cs = .unmatched (String.ofList cs) := by
  by_cases hwrites : ∃ p : Piece, p.Writes cs
  · obtain ⟨p, hp⟩ := hwrites
    by_cases hs : p.Short
    · have hread := readPiece_of_short hp hs
      split at hread
      · exact .inr (.inr (.inl hread))
      · exact .inr (.inl ⟨p, hp, hs, hread⟩)
    · exact .inl ⟨p, hp, hs, readPiece_of_not_short hp hs⟩
  · exact .inr (.inr (.inr (readPiece_of_not_writes (not_exists.mp hwrites))))

theorem mem_positionalReadings_tooLong {raw : List Char} {n : Nat}
    (h : .tooLong n ∈ positionalReadings raw) :
    ∃ cs ∈ splitPieces raw, ∃ p : Piece, p.Writes cs ∧ ¬p.Short ∧ digitLimit < n := by
  obtain ⟨cs, hcs, hread⟩ := List.mem_map.mp h
  rcases readPiece_cases cs with ⟨p, hp, hlong, m, hm, hread'⟩ | ⟨p, -, -, hread'⟩ | hread' | hread'
  all_goals
    rw [hread] at hread'
    cases hread'
  exact ⟨cs, hcs, p, hp, hlong, hm⟩

theorem target_of_mem_positionalReadings {raw : List Char} {a : Atom}
    (h : .atom a ∈ positionalReadings raw) :
    ∃ p : Piece, p.Short ∧
      a.target = .position (valueOf p.sectionDigits) (some (valueOf p.fieldDigits)) := by
  obtain ⟨cs, -, hread⟩ := List.mem_map.mp h
  rcases readPiece_cases cs with ⟨p, -, -, n, -, hread'⟩ | ⟨p, -, hs, hread'⟩ | hread' | hread'
  all_goals
    rw [hread] at hread'
    cases hread'
  exact ⟨p, hs, rfl⟩

/-! ## Whole rules -/

theorem collect_returns {rs : List Reading} (h : ∀ n, .tooLong n ∉ rs) :
    ∃ atoms, collect rs = .ok atoms := by
  induction rs with
  | nil => exact ⟨[], rfl⟩
  | cons r rs ih =>
      obtain ⟨atoms, hatoms⟩ := ih fun n hn => h n (List.mem_cons_of_mem r hn)
      cases r with
      | atom a => exact ⟨a :: atoms, by rw [collect, hatoms, Fault.map_ok]⟩
      | unmatched text | nonPositive text => exact ⟨atoms, hatoms⟩
      | tooLong n => exact absurd List.mem_cons_self (h n)

/-- The first position that is too long stops the reading of a rule. -/
theorem collect_stops {rs : List Reading} {n : Nat} (h : .tooLong n ∈ rs) :
    ∃ m, .tooLong m ∈ rs ∧ collect rs = .error (.integerTooLong m) := by
  induction rs with
  | nil => cases h
  | cons r rs ih =>
      cases r with
      | tooLong m => exact ⟨m, List.mem_cons_self, rfl⟩
      | atom a =>
          obtain ⟨m, hm, hstop⟩ := ih (by simpa using h)
          exact ⟨m, List.mem_cons_of_mem _ hm, by rw [collect, hstop, Fault.map_error]⟩
      | unmatched text | nonPositive text =>
          obtain ⟨m, hm, hstop⟩ := ih (by simpa using h)
          exact ⟨m, List.mem_cons_of_mem _ hm, hstop⟩

theorem mem_readings_of_collect {rs : List Reading} {atoms : List Atom}
    (h : collect rs = .ok atoms) : ∀ a ∈ atoms, .atom a ∈ rs := by
  induction rs generalizing atoms with
  | nil =>
      cases h
      simp
  | cons r rs ih =>
      cases r with
      | tooLong n => cases h
      | atom b =>
          obtain ⟨rest, hrest, rfl⟩ := Fault.map_eq_ok_iff.mp h
          intro a ha
          rcases List.mem_cons.mp ha with rfl | ha
          · exact List.mem_cons_self
          · exact List.mem_cons_of_mem _ (ih hrest a ha)
      | unmatched text | nonPositive text =>
          exact fun a ha => List.mem_cons_of_mem _ (ih h a ha)

theorem tooLong_notMem_namedReadings (raw : List Char) (n : Nat) :
    .tooLong n ∉ namedReadings raw := by
  unfold namedReadings
  split
  · simp
  · split <;> simp

/-- An atom of the name dialect names its field. -/
theorem target_of_readNamed? {cs : List Char} {a : Atom} (h : readNamed? cs = some a) :
    ∃ sectionName fieldName, a.target = .names sectionName fieldName := by
  simp only [readNamed?, Option.bind_eq_bind, Option.bind_eq_some_iff] at h
  obtain ⟨⟨sectionName, rest⟩, -, h⟩ := h
  dsimp only at h
  split at h
  · simp only [Option.bind_eq_some_iff] at h
    obtain ⟨⟨fieldName, rest⟩, -, body, -, ⟨⟩⟩ := h
    exact ⟨_, _, rfl⟩
  · cases h

theorem readNamed?_of_mem {raw : List Char} {a : Atom} (h : .atom a ∈ namedReadings raw) :
    readNamed? (Text.trim raw) = some a := by
  unfold namedReadings at h
  split at h
  · cases h
  · split at h
    · obtain rfl : a = _ := by simpa using h
      assumption
    · simp at h

/-- Reading a rule meets no fault but a position with too many digits. -/
theorem parse_returnsIff (d : Dialect) (raw : String) :
    Fault.ReturnsIff (Legible d raw) Fault.Overlong (parse d raw) := by
  cases d with
  | name => exact .of_returns trivial (collect_returns fun n => tooLong_notMem_namedReadings _ n)
  | positional =>
      by_cases h : Legible .positional raw
      · apply Fault.ReturnsIff.of_returns h
        apply collect_returns
        intro n hn
        obtain ⟨cs, hcs, p, hp, hlong, -⟩ := mem_positionalReadings_tooLong hn
        exact hlong (h cs hcs p hp)
      · apply Fault.ReturnsIff.of_fault h
        simp only [Legible, not_forall] at h
        obtain ⟨cs, hcs, p, hp, hlong⟩ := h
        obtain ⟨n, -, hread⟩ := readPiece_of_not_short hp hlong
        obtain ⟨m, hm, hstop⟩ := collect_stops (List.mem_map.mpr ⟨cs, hcs, hread⟩)
        obtain ⟨-, -, -, -, -, hm⟩ := mem_positionalReadings_tooLong hm
        exact ⟨_, ⟨m, hm, rfl⟩, hstop⟩

/-- The positions of atoms that are read can be written. -/
theorem writable_of_parse {d : Dialect} {raw : String} {atoms : List Atom}
    (h : parse d raw = .ok atoms) : ∀ a ∈ atoms, a.target.Writable := by
  intro a ha
  have hmem := mem_readings_of_collect h a ha
  cases d with
  | name =>
      obtain ⟨sectionName, fieldName, htarget⟩ := target_of_readNamed? (readNamed?_of_mem hmem)
      rw [htarget]
      trivial
  | positional =>
      obtain ⟨p, hs, hposition⟩ := target_of_mem_positionalReadings hmem
      rw [hposition]
      refine ⟨Decimal.fitsDigits_valueOf hs.1, ?_⟩
      rintro k ⟨⟩
      exact Decimal.fitsDigits_valueOf hs.2

end Rule

end ConditionalForms
