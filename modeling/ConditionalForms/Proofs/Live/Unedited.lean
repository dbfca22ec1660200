import ConditionalForms.Proofs.Live.Revision
import ConditionalForms.Proofs.Rule.Verdicts

/-! # Forms before any edit

A form that has just been loaded holds no values, and nothing holds of a value that is missing, not
even an inequality. Until the first edit a rule that asks for anything at all hides what it is
about, whatever it asks for, and a rule that asks for nothing shows it.
-/

namespace ConditionalForms

/-- No field holds a value. -/
def Schema.Unanswered (s : Schema) : Prop := ∀ sec ∈ s.sections, ∀ f ∈ sec.fields, f.value = .null

theorem Schema.unanswered_ofRows (d : String) (rows : List Row) : (ofRows d rows).Unanswered :=
  fun _ hsec _ hf => value_of_mem_ofRows hsec hf

/-! ## Rules -/

namespace Rule

variable {s : Schema}

theorem Atom.not_satisfied_of_unanswered (hs : s.Unanswered) (a : Atom) : ¬a.Satisfied s := by
  rintro ⟨r, hr, hsatisfied⟩
  obtain ⟨f, hf, hcompare⟩ := (Atom.answers_of_evaluate? hr).satisfied_iff.mp hsatisfied
  obtain ⟨sec, hsec, hmem⟩ := mem_of_resolve hf
  -- Whatever the operator is, the field that was found holds nothing to compare.
  rw [hs sec hsec f hmem] at hcompare
  cases hcompare

/-- A rule that can be judged is satisfied if it reads as no atom at all. -/
theorem exists_parse_of_unanswered {d : Dialect} {raw : String} {r : Result} (hs : s.Unanswered)
    (h : judge? d s raw = .ok r) :
    ∃ atoms, parse d raw = .ok atoms ∧ (r.satisfied ↔ atoms = []) := by
  obtain ⟨atoms, hatoms, h⟩ := Fault.bind_eq_ok_iff.mp h
  have hall : r.satisfied ↔ ∀ a ∈ atoms, a.Satisfied s := by
    simp [← evaluateAll?_satisfied_iff, h]
  refine ⟨atoms, hatoms, hall.trans ?_⟩
  rw [List.eq_nil_iff_forall_not_mem]
  exact forall₂_congr fun a _ => iff_false_intro (a.not_satisfied_of_unanswered hs)

end Rule

/-! ## Standings -/

open Rule (Dialect Atom parse)

/-- A field shows if its own rule reads as no atom, and neither does that of its section. -/
structure Field.ShownUnasked (d : Dialect) (atoms : List Atom) (f : Field) (own : List Atom) :
    Prop where
  reads : parse d f.rule = .ok own
  visible : f.standing.visible ↔ own = [] ∧ atoms = []

/-- A section shows if its rule reads as no atom, and its fields accordingly. -/
structure Section.ShownUnasked (d : Dialect) (sec : Section) (atoms : List Atom) : Prop where
  reads : parse d sec.rule = .ok atoms
  visible : sec.standing.visible ↔ atoms = []
  fields : ∀ f ∈ sec.fields, ∃ own, f.ShownUnasked d atoms own

namespace Visibility

variable {d : Dialect} {now : Schema} {sec : Section}

theorem FieldStands.exists_shownUnasked {f : Field} {r : Rule.Result} {atoms : List Atom}
    (hnow : now.Unanswered) (hsec : sec.standing.visible ↔ atoms = [])
    (h : FieldStands d now sec f r) : ∃ own, f.ShownUnasked d atoms own := by
  obtain ⟨own, hown, hsatisfied⟩ := Rule.exists_parse_of_unanswered hnow h.judged
  refine ⟨own, hown, ?_⟩
  rw [h.visible, Bool.and_eq_true, hsec, hsatisfied, and_comm]

theorem SectionStands.exists_shownUnasked {r : Rule.Result} (hnow : now.Unanswered)
    (h : SectionStands d now sec r) : ∃ atoms, sec.ShownUnasked d atoms := by
  obtain ⟨atoms, hatoms, hsatisfied⟩ := Rule.exists_parse_of_unanswered hnow h.judged
  have hvisible : sec.standing.visible ↔ atoms = [] := by rw [h.visible, hsatisfied]
  refine ⟨atoms, hatoms, hvisible, ?_⟩
  intro f hf
  obtain ⟨q, hq⟩ := h.fields f hf
  exact hq.exists_shownUnasked hnow hvisible

end Visibility

/-! ## Loading -/

namespace LiveForm

/-- After records or rows have been loaded, in either dialect, the rules of all parts can be read. A
section shows exactly when its rule reads as no atom, and a field exactly when neither its own rule
nor that of its section reads as one. -/
theorem shownUnasked_of_loads {l m : LiveForm} {start : Action} (hstart : start.Loads)
    (h : (l.step start).returned = .ok m) :
    ∀ sec ∈ m.form.sections, ∃ atoms, sec.ShownUnasked l.settings.dialect atoms := by
  obtain ⟨form, hform, h⟩ := hstart.prepares h
  obtain ⟨rows, rfl⟩ := hstart.exists_rows hform
  obtain ⟨-, report, hreport, rfl⟩ := replace_returned_iff.mp h
  intro sec hsec
  obtain ⟨r, hr⟩ := (Visibility.pass_settled hreport).stands sec hsec
  exact hr.exists_shownUnasked (Schema.unanswered_ofRows _ rows)

/-- A field that asks for a value other than the empty text, and a section that asks for a value
that contains it. The rule of the last field reads as no atom, but its section is hidden. -/
def guardedRecords : Json := .list [
  .object [("section", .text "Check"), ("field_name", .text "Notes")],
  .object [("section", .text "Check"), ("field_name", .text "Outcome"),
    ("field_criteria", .text "1-1\x7b!=\x7d")],
  .object [("section", .text "Repair"), ("section_criteria", .text "1-1\x7b~\x7d"),
    ("field_name", .text "Cost"), ("field_criteria", .text "whenever")]]

def guardedForm : Schema where
  sections := [
    { name := "Check", position := 1, fields := [
        { name := "Notes", position := 1 },
        { name := "Outcome", rule := "1-1\x7b!=\x7d", position := 2 }] },
    { name := "Repair", rule := "1-1\x7b~\x7d", position := 2, fields := [
        { name := "Cost", rule := "whenever", position := 1 }] }]

theorem buildFrom_guardedRecords (d : String) :
    Builder.buildFrom d guardedRecords = .ok guardedForm :=
  Builder.buildFrom_of_pairwise rfl (by decide) (by decide)

theorem shownUnasked_of_loads_guarded :
    ∃ m, ((fresh { dialect := .positional } true).step (.load guardedRecords)).returned = .ok m ∧
      ∀ sec ∈ m.form.sections, ∃ atoms, sec.ShownUnasked .positional atoms := by
  have hreturns :
      ((fresh { dialect := .positional } true).step (.load guardedRecords)).returned.isOk := by
    simp only [step, load, buildFrom_guardedRecords]
    decide +kernel
  obtain ⟨m, hm⟩ := Fault.exists_eq_ok_of_isOk hreturns
  exact ⟨m, hm, shownUnasked_of_loads (.load guardedRecords) hm⟩

end LiveForm

end ConditionalForms
