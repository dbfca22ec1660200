import ConditionalForms.Proofs.Form.Uniform
import ConditionalForms.Proofs.Rule.Legible
import ConditionalForms.Rule.Evaluation

/-! # Rules that can be judged

Over plain values judging meets no fault of its own. A rule that can be read can be judged, and the
atoms that reading gives have positions that can be written into the reason of a failure.
-/

namespace ConditionalForms

namespace Json

theorem isPlain_iff {j : Json} :
    j.isPlain ↔ j = .null ∨ (∃ b, j = .bool b) ∨ ∃ s, j = .text s := by
  cases j <;> simp [isPlain]

end Json

namespace Rule

/-! ## Comparing plain values -/

theorem asText?_of_isPlain {j : Json} (h : j.isPlain) : ∃ s, asText? j = .ok s := by
  rcases Json.isPlain_iff.mp h with rfl | ⟨b, rfl⟩ | ⟨s, rfl⟩ <;> exact ⟨_, rfl⟩

theorem asNumber?_of_isPlain {j : Json} (h : j.isPlain) : ∃ x, asNumber? j = .ok x := by
  rcases Json.isPlain_iff.mp h with rfl | ⟨b, rfl⟩ | ⟨s, rfl⟩ <;> exact ⟨_, rfl⟩

theorem compare_of_isPlain {j : Json} (h : j.isPlain) (op : Operator) (expected : String) :
    ∃ b, compare j op expected = .ok b := by
  unfold compare
  split
  · exact ⟨false, rfl⟩
  · split
    · apply Fault.exists_bind_eq_ok (asNumber?_of_isPlain h)
      intro x
      split <;> exact ⟨_, rfl⟩
    · exact Fault.exists_bind_eq_ok (asText?_of_isPlain h) fun text => ⟨_, rfl⟩

theorem Atom.lacksNumber?_of_isPlain {j : Json} (h : j.isPlain) (a : Atom) :
    ∃ b, a.lacksNumber? j = .ok b := by
  unfold Atom.lacksNumber?
  split
  · exact Fault.exists_bind_eq_ok (asNumber?_of_isPlain h) fun x => ⟨_, rfl⟩
  · exact ⟨false, rfl⟩

/-! ## Targets in messages -/

theorem Target.indexText?_of_fitsDigits {i : Int} (h : Decimal.fitsDigits i) :
    ∃ s, Target.indexText? (some i) = .ok s :=
  ⟨_, by rw [Target.indexText?, Json.ofInt?, Json.display?, Json.fitsDigits, if_pos h]⟩

theorem Target.indexText?_option {j : Option Int} (h : ∀ k, j = some k → Decimal.fitsDigits k) :
    ∃ s, Target.indexText? j = .ok s := by
  cases j with
  | none => exact ⟨_, rfl⟩
  | some k => exact indexText?_of_fitsDigits (h k rfl)

theorem Target.Writable.text? {t : Target} (h : t.Writable) : ∃ s, t.text? = .ok s := by
  cases t with
  | position i j =>
      obtain ⟨u, hu⟩ := Target.indexText?_of_fitsDigits h.1
      obtain ⟨v, hv⟩ := Target.indexText?_option h.2
      exact ⟨u ++ "-" ++ v, by simp only [Target.text?, hu, hv, Fault.ok_bind]⟩
  | names sectionName fieldName => exact ⟨_, rfl⟩

theorem Target.Writable.partTexts? {t : Target} (h : t.Writable) : ∃ p, t.partTexts? = .ok p := by
  cases t with
  | position i j =>
      obtain ⟨u, hu⟩ := Target.indexText?_of_fitsDigits h.1
      obtain ⟨v, hv⟩ := Target.indexText?_option h.2
      exact ⟨(u, v), by simp only [Target.partTexts?, hu, hv, Fault.ok_bind]⟩
  | names sectionName fieldName => exact ⟨_, rfl⟩

theorem Resolution.reason?_of_writable {t : Target} (h : t.Writable) (r : Resolution) :
    ∃ reason, r.reason? t = .ok reason := by
  cases r with
  | field f => exact ⟨none, rfl⟩
  | sectionMissing => exact Fault.exists_bind_eq_ok h.partTexts? fun p => ⟨_, rfl⟩
  | fieldMissing => exact Fault.exists_bind_eq_ok h.partTexts? fun p => ⟨_, rfl⟩

/-! ## Judging -/

theorem mem_of_resolve {s : Schema} {t : Target} {f : Field} (h : resolve s t = .field f) :
    ∃ sec ∈ s.sections, f ∈ sec.fields := by
  cases t with
  | position i j =>
      simp only [resolve] at h
      split at h
      · cases h
      · rename_i sec hsec
        split at h
        · cases h
        · rename_i g hg
          cases h
          exact ⟨sec, List.mem_of_find?_eq_some hsec, List.mem_of_find?_eq_some hg⟩
  | names sectionName fieldName =>
      simp only [resolve] at h
      split at h
      · cases h
      · rename_i sec hsec
        split at h
        · cases h
        · rename_i g hg
          cases h
          exact ⟨sec, List.mem_of_find?_eq_some hsec, List.mem_of_find?_eq_some hg⟩

theorem Atom.verdict?_returns_of_resolve {s : Schema} (hs : s.IsPlain) {a : Atom} {f : Field}
    (hf : resolve s a.target = .field f) : ∃ v, a.verdict? s = .ok v := by
  obtain ⟨sec, hsec, hmem⟩ := mem_of_resolve hf
  have hplain := hs sec hsec f hmem
  simp only [Atom.verdict?, hf]
  split
  · exact ⟨.noValue, rfl⟩
  · apply Fault.exists_bind_eq_ok (a.lacksNumber?_of_isPlain hplain)
    intro lacks
    split
    · exact Fault.exists_bind_eq_ok (asText?_of_isPlain hplain) fun text => ⟨_, rfl⟩
    · apply Fault.exists_bind_eq_ok (compare_of_isPlain hplain a.operator a.expected)
      intro holds
      split
      · exact ⟨.holds, rfl⟩
      · exact Fault.exists_bind_eq_ok (asText?_of_isPlain hplain) fun text => ⟨_, rfl⟩

theorem Atom.verdict?_returns {s : Schema} (hs : s.IsPlain) {a : Atom} (ha : a.target.Writable) :
    ∃ v, a.verdict? s = .ok v := by
  cases hf : resolve s a.target with
  | field f => exact Atom.verdict?_returns_of_resolve hs hf
  | sectionMissing | fieldMissing =>
      simp only [Atom.verdict?, hf]
      exact Fault.exists_bind_eq_ok (Resolution.reason?_of_writable ha _) fun reason => ⟨_, rfl⟩

theorem Atom.evaluate?_returns {s : Schema} (hs : s.IsPlain) {a : Atom} (ha : a.target.Writable) :
    ∃ r, a.evaluate? s = .ok r := by
  apply Fault.exists_bind_eq_ok (Atom.verdict?_returns hs ha)
  intro v
  apply Fault.exists_bind_eq_ok ha.text?
  intro target
  split <;> exact ⟨_, rfl⟩

theorem evaluateAll?_returns {s : Schema} (hs : s.IsPlain) {as : List Atom}
    (has : ∀ a ∈ as, a.target.Writable) : ∃ r, evaluateAll? s as = .ok r := by
  induction as with
  | nil => exact ⟨_, rfl⟩
  | cons a as ih =>
      obtain ⟨ha, has⟩ := List.forall_mem_cons.mp has
      apply Fault.exists_bind_eq_ok (Atom.evaluate?_returns hs ha)
      intro r
      split
      · exact ih has
      · exact ⟨r, rfl⟩

/-- Over plain values a rule that can be read can be judged, and another one cannot. -/
theorem judge?_returnsIff {s : Schema} (hs : s.IsPlain) (d : Dialect) (raw : String) :
    Fault.ReturnsIff (Legible d raw) Fault.Overlong (judge? d s raw) := by
  obtain ⟨hreturns, hfaults⟩ := parse_returnsIff d raw
  unfold judge?
  cases hparse : parse d raw with
  | error fault =>
      have hlong : ¬Legible d raw := by simpa [hparse] using hreturns
      exact .of_fault hlong ⟨fault, hfaults fault hparse, rfl⟩
  | ok atoms =>
      have hlegible : Legible d raw := hreturns.mp ⟨atoms, hparse⟩
      exact .of_returns hlegible (evaluateAll?_returns hs (writable_of_parse hparse))

end Rule

end ConditionalForms
