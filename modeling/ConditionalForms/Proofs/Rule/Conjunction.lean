import ConditionalForms.Proofs.Rule.Verdicts

/-! # Rules as conjunctions

A rule that gives positions is the conjunction of its pieces. Two rules that are joined by a
separator read as the atoms of the first and then those of the second, whatever stands at the seam,
and are judged as both of them, the first failure giving the reason. The order of pieces has no part
in whether a rule is satisfied.
-/

namespace ConditionalForms.Rule

/-! ## Reading -/

/-- The atom that a reading gives, if it gives one. -/
def Reading.atom? : Reading → Option Atom
  | .atom a => some a
  | _ => none

/-- Readings are collected when no position among them is too long. -/
theorem collect_eq_ok_iff {rs : List Reading} {atoms : List Atom} :
    collect rs = .ok atoms ↔ (∀ n, .tooLong n ∉ rs) ∧ atoms = rs.filterMap Reading.atom? := by
  induction rs generalizing atoms with
  | nil => simp [collect, eq_comm]
  | cons r rs ih =>
      cases r with
      | atom a =>
          rw [collect, Fault.map_eq_ok_iff]
          simp only [ih, List.mem_cons, reduceCtorEq, false_or]
          constructor
          · rintro ⟨rest, ⟨hshort, rfl⟩, rfl⟩
            exact ⟨hshort, rfl⟩
          · rintro ⟨hshort, rfl⟩
            exact ⟨_, ⟨hshort, rfl⟩, rfl⟩
      | tooLong n => simpa [collect] using fun h => absurd rfl (h n).1
      | unmatched text | nonPositive text =>
          simpa [collect, Reading.atom?, List.filterMap_cons] using ih

/-- No piece reaches across a separator. -/
theorem splitPieces_append_cons {sep : Char} (h : sep = '\n' ∨ sep = ';') (xs ys : List Char) :
    splitPieces (xs ++ sep :: ys) = splitPieces xs ++ splitPieces ys := by
  unfold splitPieces
  rw [List.splitOnP_append_cons xs ys (by simpa using h), List.map_append, List.filter_append]

theorem positionalReadings_append_cons {sep : Char} (h : sep = '\n' ∨ sep = ';')
    (xs ys : List Char) :
    positionalReadings (xs ++ sep :: ys) = positionalReadings xs ++ positionalReadings ys := by
  rw [positionalReadings, splitPieces_append_cons h, List.map_append, ← positionalReadings,
    ← positionalReadings]

theorem parse_positional_eq_ok_iff {raw : String} {atoms : List Atom} :
    parse .positional raw = .ok atoms ↔ (∀ n, .tooLong n ∉ positionalReadings raw.toList) ∧
      atoms = (positionalReadings raw.toList).filterMap Reading.atom? :=
  collect_eq_ok_iff

theorem exists_separator {sep : String} (h : sep ∈ [";", "\n"]) :
    ∃ c, (c = '\n' ∨ c = ';') ∧ sep.toList = [c] := by
  rcases List.mem_pair.mp h with rfl | rfl
  · exact ⟨';', .inr rfl, rfl⟩
  · exact ⟨'\n', .inl rfl, rfl⟩

section

variable {x y z sep : String} {as bs : List Atom}

theorem parse_joined (hx : parse .positional x = .ok as) (hy : parse .positional y = .ok bs)
    (hsep : sep ∈ [";", "\n"]) : parse .positional (x ++ sep ++ y) = .ok (as ++ bs) := by
  obtain ⟨hshortx, rfl⟩ := parse_positional_eq_ok_iff.mp hx
  obtain ⟨hshorty, rfl⟩ := parse_positional_eq_ok_iff.mp hy
  obtain ⟨c, hc, htext⟩ := exists_separator hsep
  have hreadings : positionalReadings (x ++ sep ++ y).toList =
      positionalReadings x.toList ++ positionalReadings y.toList := by
    rw [String.toList_append, String.toList_append, htext, List.append_assoc,
      List.singleton_append, positionalReadings_append_cons hc]
  rw [parse_positional_eq_ok_iff, hreadings]
  refine ⟨?_, List.filterMap_append.symm⟩
  intro n hn
  exact (List.mem_append.mp hn).elim (hshortx n) (hshorty n)

/-- The same pieces in another order read as the same atoms in another order. -/
theorem exists_parse_of_perm (hx : parse .positional x = .ok as)
    (h : (splitPieces z.toList).Perm (splitPieces x.toList)) :
    ∃ cs, parse .positional z = .ok cs ∧ cs.Perm as := by
  obtain ⟨hshort, rfl⟩ := parse_positional_eq_ok_iff.mp hx
  have hreadings : (positionalReadings z.toList).Perm (positionalReadings x.toList) :=
    h.map readPiece
  refine ⟨_, parse_positional_eq_ok_iff.mpr ⟨?_, rfl⟩, hreadings.filterMap _⟩
  exact fun n hn => hshort n (hreadings.mem_iff.mp hn)

end

/-! ## Judging -/

/-- Going on after some atoms needs all of them to be satisfied. -/
theorem evaluateAll?_append (s : Schema) (as bs : List Atom) :
    evaluateAll? s (as ++ bs) =
      evaluateAll? s as >>= fun r => if r.satisfied then evaluateAll? s bs else .ok r := by
  induction as with
  | nil => rfl
  | cons a as ih =>
      simp only [List.cons_append, evaluateAll?]
      cases ha : a.evaluate? s with
      | error fault => rfl
      | ok r =>
          simp only [Fault.ok_bind]
          by_cases hr : r.satisfied
          · simp only [if_pos hr, ih]
          · simp only [if_neg hr, Fault.ok_bind]

/-- How a rule that joins two others is judged: it is satisfied if both are, and the first of them
that is not gives the reason. -/
def JudgedTogether (s : Schema) (x y joined : String) : Prop :=
  ∃ r q both, judge? .positional s x = .ok r ∧ judge? .positional s y = .ok q ∧
    judge? .positional s joined = .ok both ∧ (both.satisfied ↔ r.satisfied ∧ q.satisfied) ∧
    both.detail = if r.satisfied then q.detail else r.detail

/-- Two rules can be judged, and are both satisfied or both not. -/
def JudgedAlike (s : Schema) (x z : String) : Prop :=
  ∃ r q, judge? .positional s x = .ok r ∧ judge? .positional s z = .ok q ∧
    q.satisfied = r.satisfied

section

variable {x y z joined : String} {as bs cs : List Atom} {s : Schema}

theorem exists_judge?_of_parse (hs : s.IsPlain) (hx : parse .positional x = .ok as) :
    ∃ r, evaluateAll? s as = .ok r ∧ judge? .positional s x = .ok r := by
  obtain ⟨r, hr⟩ := evaluateAll?_returns hs (writable_of_parse hx)
  exact ⟨r, hr, by rw [judge?, hx, Fault.ok_bind, hr]⟩

theorem judgedTogether_of_parse (hs : s.IsPlain) (hx : parse .positional x = .ok as)
    (hy : parse .positional y = .ok bs) (hjoined : parse .positional joined = .ok (as ++ bs)) :
    JudgedTogether s x y joined := by
  obtain ⟨r, hr, hjudgex⟩ := exists_judge?_of_parse hs hx
  obtain ⟨q, hq, hjudgey⟩ := exists_judge?_of_parse hs hy
  have hboth : judge? .positional s joined = .ok (if r.satisfied then q else r) := by
    rw [judge?, hjoined, Fault.ok_bind, evaluateAll?_append, hr, Fault.ok_bind, hq]
    split <;> rfl
  refine ⟨r, q, _, hjudgex, hjudgey, hboth, ?_, ?_⟩
  · split <;> simp [*]
  · split <;> rfl

/-- Whether all atoms are satisfied does not hang on their order. -/
theorem judgedAlike_of_perm (hs : s.IsPlain) (hx : parse .positional x = .ok as)
    (hz : parse .positional z = .ok cs) (hperm : cs.Perm as) : JudgedAlike s x z := by
  obtain ⟨r, hr, hjudgex⟩ := exists_judge?_of_parse hs hx
  obtain ⟨q, hq, hjudgez⟩ := exists_judge?_of_parse hs hz
  refine ⟨r, q, hjudgex, hjudgez, Bool.eq_iff_iff.mpr ?_⟩
  have hall : (∀ a ∈ cs, a.Satisfied s) ↔ ∀ a ∈ as, a.Satisfied s :=
    forall_congr' fun a => imp_congr_left hperm.mem_iff
  simpa [← evaluateAll?_satisfied_iff, hr, hq] using hall

end

/-! ## Conjunctions -/

/-- What two rules that can be read come to when they are joined by a separator, and what the first
comes to when its pieces are put in another order. -/
structure Conjoined (x y : String) (as bs : List Atom) : Prop where
  atoms : ∀ sep ∈ [";", "\n"], parse .positional (x ++ sep ++ y) = .ok (as ++ bs)
  judged : ∀ sep ∈ [";", "\n"], ∀ s : Schema, s.IsPlain → JudgedTogether s x y (x ++ sep ++ y)
  reordered : ∀ z, (splitPieces z.toList).Perm (splitPieces x.toList) →
    (∃ cs, parse .positional z = .ok cs ∧ cs.Perm as) ∧
      ∀ s : Schema, s.IsPlain → JudgedAlike s x z

/-- Rules that give positions compose as conjunctions. -/
theorem conjoined_of_parse {x y : String} {as bs : List Atom} (hx : parse .positional x = .ok as)
    (hy : parse .positional y = .ok bs) : Conjoined x y as bs where
  atoms _ hsep := parse_joined hx hy hsep
  judged _ hsep _ hs := judgedTogether_of_parse hs hx hy (parse_joined hx hy hsep)
  reordered z hz := by
    obtain ⟨cs, hcs, hperm⟩ := exists_parse_of_perm hx hz
    exact ⟨⟨cs, hcs, hperm⟩, fun s hs => judgedAlike_of_perm hs hx hcs hperm⟩

/-- A rule that leaves a brace open at its end, after one atom. -/
def openRule : String := "1-1\x7b= a'\x7d;2-2\x7b="

def openAtom : Atom where
  target := .position 1 (some 1)
  expected := "a'"
  raw := "1-1\x7b= a'\x7d"

/-- A rule that starts with a brace that nothing opened, before one atom. -/
def closingRule : String := "x\x7d\n 1 - 2\x7b~\x7d"

def closingAtom : Atom where
  target := .position 1 (some 2)
  operator := .contains
  raw := "1 - 2\x7b~\x7d"

theorem conjoined_openRule :
    parse .positional openRule = .ok [openAtom] ∧
      parse .positional closingRule = .ok [closingAtom] ∧
      Conjoined openRule closingRule [openAtom] [closingAtom] := by
  have hopen : parse .positional openRule = .ok [openAtom] := by decide +kernel
  have hclosing : parse .positional closingRule = .ok [closingAtom] := by decide +kernel
  exact ⟨hopen, hclosing, conjoined_of_parse hopen hclosing⟩

end ConditionalForms.Rule
