import ConditionalForms.Proofs.Rule.Returning

/-! # What judging an atom comes to

An atom is satisfied exactly when its field is found and the comparison holds. The tests that come
before the comparison, for a missing value and for operands that are no numbers, agree with it and
only find the words for a failure. Of several atoms the first that is not satisfied decides.
-/

namespace ConditionalForms.Rule

open Fault (ReturnsIff)

/-! ## The comparison -/

/-- Where a number is lacking nothing compares. -/
theorem compare_of_lacksNumber? {a : Atom} {actual : Json}
    (h : a.lacksNumber? actual = .ok true) :
    compare actual a.operator a.expected = .ok false := by
  unfold Atom.lacksNumber? at h
  split at h
  · rename_i hnumeric
    obtain ⟨x, hx, hlacks⟩ := Fault.bind_eq_ok_iff.mp h
    have hlacks : x = none ∨ textNumber? a.expected = none := by simpa using hlacks
    unfold compare
    split
    · rfl
    · rw [if_pos hnumeric, hx, Fault.ok_bind]
      rcases hlacks with rfl | hexpected
      · rfl
      · rw [hexpected]
        cases x <;> rfl
  · cases h

variable {s : Schema} {a : Atom}

theorem Atom.verdict?_eq_holds_iff {v : Verdict} (h : a.verdict? s = .ok v) :
    v = .holds ↔
      ∃ f, resolve s a.target = .field f ∧ compare f.value a.operator a.expected = .ok true := by
  unfold Atom.verdict? at h
  split at h
  · rename_i f hf
    have hfound : (∃ g, resolve s a.target = .field g ∧
        compare g.value a.operator a.expected = .ok true) ↔
        compare f.value a.operator a.expected = .ok true := by
      simp [hf]
    rw [hfound]
    split at h
    · rename_i hnull
      obtain rfl : Verdict.noValue = v := Except.ok.inj h
      simp [hnull, compare]
    · obtain ⟨lacks, hlacks, h⟩ := Fault.bind_eq_ok_iff.mp h
      cases lacks with
      | true =>
          obtain ⟨text, -, h⟩ := Fault.bind_eq_ok_iff.mp h
          cases h
          simp [compare_of_lacksNumber? hlacks]
      | false =>
          obtain ⟨holds, hholds, h⟩ := Fault.bind_eq_ok_iff.mp h
          cases holds with
          | true =>
              cases h
              simp [hholds]
          | false =>
              obtain ⟨text, -, h⟩ := Fault.bind_eq_ok_iff.mp h
              cases h
              simp [hholds]
  · rename_i hmissing
    obtain ⟨reason, -, h⟩ := Fault.bind_eq_ok_iff.mp h
    cases h
    constructor
    · rintro ⟨⟩
    · rintro ⟨f, hf, -⟩
      exact absurd hf (hmissing f)

/-! ## The result of an atom -/

theorem Verdict.reason?_eq_none_iff {v : Verdict} : v.reason? a = none ↔ v = .holds := by
  cases v <;> simp [Verdict.reason?]

/-- What the result of an atom says: whether its field is found and compares, and if not, why, after
the target. -/
structure Atom.Answers (s : Schema) (a : Atom) (r : Result) : Prop where
  satisfied_iff : r.satisfied ↔
    ∃ f, resolve s a.target = .field f ∧ compare f.value a.operator a.expected = .ok true
  detail_of_satisfied : r.satisfied → r.detail = none
  detail_of_not_satisfied : r.satisfied = false →
    ∃ target reason, a.target.text? = .ok target ∧ r.detail = some (target ++ ": " ++ reason)

theorem Atom.answers_of_evaluate? {r : Result} (h : a.evaluate? s = .ok r) : a.Answers s r := by
  obtain ⟨v, hv, h⟩ := Fault.bind_eq_ok_iff.mp h
  obtain ⟨target, htarget, h⟩ := Fault.bind_eq_ok_iff.mp h
  have hholds := Atom.verdict?_eq_holds_iff hv
  split at h
  · rename_i hreason
    cases h
    have hv := Verdict.reason?_eq_none_iff.mp hreason
    exact ⟨by simpa using hholds.mp hv, fun _ => rfl, by simp⟩
  · rename_i reason hreason
    cases h
    have hv : v ≠ .holds := by
      rintro rfl
      cases hreason
    exact ⟨by simpa using fun f hf hcompare => hv (hholds.mpr ⟨f, hf, hcompare⟩), by simp,
      fun _ => ⟨target, reason, htarget, rfl⟩⟩

/-! ## Positions that cannot be written -/

theorem Target.indexText?_returnsIff (j : Option Int) :
    ReturnsIff (∀ k, j = some k → Decimal.fitsDigits k) (· = .integerUnprintable)
      (Target.indexText? j) := by
  by_cases h : ∀ k, j = some k → Decimal.fitsDigits k
  · exact .of_returns h (Target.indexText?_option h)
  · apply ReturnsIff.of_fault h
    obtain ⟨k, rfl, hk⟩ : ∃ k, j = some k ∧ ¬Decimal.fitsDigits k := by simpa using h
    refine ⟨_, rfl, ?_⟩
    rw [Target.indexText?, Json.ofInt?, Json.display?, Json.fitsDigits, if_neg hk]

/-- What is built from the texts of two positions can be built if both can be written. -/
theorem Target.positions_returnsIff {α : Type} (i : Int) (j : Option Int)
    (build : String → String → α) :
    ReturnsIff (Target.position i j).Writable (· = .integerUnprintable)
      (Target.indexText? (some i) >>= fun u =>
        Target.indexText? j >>= fun v => .ok (build u v)) := by
  have hparts := (indexText?_returnsIff (some i)).bind fun u =>
    (indexText?_returnsIff j).bind fun v =>
      ReturnsIff.of_returns (x := Except.ok (build u v)) trivial ⟨_, rfl⟩
  exact hparts.congr (by simp [Target.Writable])

theorem Target.text?_returnsIff (t : Target) :
    ReturnsIff t.Writable (· = .integerUnprintable) t.text? := by
  cases t with
  | position i j => exact positions_returnsIff i j fun u v => u ++ "-" ++ v
  | names sectionName fieldName => exact .of_returns trivial ⟨_, rfl⟩

theorem Target.partTexts?_returnsIff (t : Target) :
    ReturnsIff t.Writable (· = .integerUnprintable) t.partTexts? := by
  cases t with
  | position i j => exact positions_returnsIff i j Prod.mk
  | names sectionName fieldName => exact .of_returns trivial ⟨_, rfl⟩

theorem Resolution.eq_of_reason?_eq_error {t : Target} {found : Resolution} {e : Fault}
    (h : found.reason? t = .error e) : e = .integerUnprintable := by
  cases found with
  | field f => cases h
  | sectionMissing | fieldMissing =>
      rcases Fault.bind_eq_error_iff.mp h with hparts | ⟨_, -, h⟩
      · exact t.partTexts?_returnsIff.faults _ hparts
      · cases h

theorem Atom.eq_of_verdict?_eq_error (hs : s.IsPlain) {e : Fault} (h : a.verdict? s = .error e) :
    e = .integerUnprintable := by
  cases hf : resolve s a.target with
  | field f =>
      obtain ⟨v, hv⟩ := Atom.verdict?_returns_of_resolve hs hf
      rw [hv] at h
      cases h
  | sectionMissing | fieldMissing =>
      simp only [Atom.verdict?, hf] at h
      rcases Fault.bind_eq_error_iff.mp h with hreason | ⟨_, -, h⟩
      · exact Resolution.eq_of_reason?_eq_error hreason
      · cases h

/-- Over plain values judging an atom meets a fault exactly when a position cannot be written. -/
theorem Atom.evaluate?_returnsIff (hs : s.IsPlain) (a : Atom) :
    ReturnsIff a.target.Writable (· = .integerUnprintable) (a.evaluate? s) := by
  by_cases hwritable : a.target.Writable
  · exact .of_returns hwritable (Atom.evaluate?_returns hs hwritable)
  · apply ReturnsIff.of_fault hwritable
    obtain ⟨e, rfl, htext⟩ := a.target.text?_returnsIff.exists_fault hwritable
    cases hv : a.verdict? s with
    | ok v => exact ⟨_, rfl, by simp only [Atom.evaluate?, hv, htext, Fault.ok_bind]; rfl⟩
    | error e =>
        obtain rfl := Atom.eq_of_verdict?_eq_error hs hv
        exact ⟨_, rfl, by simp only [Atom.evaluate?, hv]; rfl⟩

/-! ## Atoms that must all hold -/

def Atom.Satisfied (s : Schema) (a : Atom) : Prop := ∃ r, a.evaluate? s = .ok r ∧ r.satisfied

theorem evaluateAll?_of_forall {as : List Atom} (h : ∀ a ∈ as, a.Satisfied s) :
    evaluateAll? s as = .ok ⟨true, none⟩ := by
  induction as with
  | nil => rfl
  | cons a as ih =>
      obtain ⟨⟨r, hr, hsatisfied⟩, has⟩ := List.forall_mem_cons.mp h
      rw [evaluateAll?, hr, Fault.ok_bind, if_pos hsatisfied, ih has]

/-- The first atom that is not satisfied decides, whatever the atoms after it are. -/
theorem evaluateAll?_of_not_satisfied {before : List Atom} (h : ∀ b ∈ before, b.Satisfied s)
    (ha : ¬a.Satisfied s) (after : List Atom) :
    evaluateAll? s (before ++ a :: after) = a.evaluate? s := by
  induction before with
  | nil =>
      rw [List.nil_append, evaluateAll?]
      cases hr : a.evaluate? s with
      | error e => rfl
      | ok r =>
          rw [Fault.ok_bind, if_neg fun hsatisfied => ha ⟨r, hr, hsatisfied⟩]
  | cons b before ih =>
      obtain ⟨⟨r, hr, hsatisfied⟩, hbefore⟩ := List.forall_mem_cons.mp h
      rw [List.cons_append, evaluateAll?, hr, Fault.ok_bind, if_pos hsatisfied, ih hbefore]

/-- Either all atoms are satisfied, or there is a first one that is not. -/
theorem forall_satisfied_or_exists_first (s : Schema) (as : List Atom) :
    (∀ a ∈ as, a.Satisfied s) ∨ ∃ before a after, as = before ++ a :: after ∧
      (∀ b ∈ before, b.Satisfied s) ∧ ¬a.Satisfied s := by
  induction as with
  | nil => exact .inl (List.forall_mem_nil _)
  | cons b as ih =>
      by_cases hb : b.Satisfied s
      · rcases ih with has | ⟨before, a, after, rfl, hbefore, ha⟩
        · exact .inl (List.forall_mem_cons.mpr ⟨hb, has⟩)
        · exact .inr ⟨b :: before, a, after, rfl, List.forall_mem_cons.mpr ⟨hb, hbefore⟩, ha⟩
      · exact .inr ⟨[], b, as, rfl, List.forall_mem_nil _, hb⟩

theorem evaluateAll?_satisfied_iff {as : List Atom} :
    (∃ r, evaluateAll? s as = .ok r ∧ r.satisfied) ↔ ∀ a ∈ as, a.Satisfied s := by
  constructor
  · rintro ⟨r, hr, hsatisfied⟩
    rcases forall_satisfied_or_exists_first s as with hall | ⟨before, a, after, rfl, hbefore, ha⟩
    · exact hall
    · rw [evaluateAll?_of_not_satisfied hbefore ha] at hr
      exact absurd ⟨r, hr, hsatisfied⟩ ha
  · exact fun h => ⟨_, evaluateAll?_of_forall h, rfl⟩

/-- A rule that is not satisfied says why, after the target of the atom that failed. -/
theorem exists_detail_of_judge? {d : Dialect} {raw : String} {r : Result}
    (h : judge? d s raw = .ok r) (hr : r.satisfied = false) :
    ∃ target reason, r.detail = some (target ++ ": " ++ reason) := by
  obtain ⟨as, -, h⟩ := Fault.bind_eq_ok_iff.mp h
  rcases forall_satisfied_or_exists_first s as with hall | ⟨before, a, after, rfl, hbefore, ha⟩
  · rw [evaluateAll?_of_forall hall] at h
    cases h
    cases hr
  · rw [evaluateAll?_of_not_satisfied hbefore ha] at h
    obtain ⟨target, reason, -, hdetail⟩ :=
      (Atom.answers_of_evaluate? h).detail_of_not_satisfied hr
    exact ⟨target, reason, hdetail⟩

end ConditionalForms.Rule
