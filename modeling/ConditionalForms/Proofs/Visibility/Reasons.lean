import ConditionalForms.Proofs.Rule.Verdicts
import ConditionalForms.Proofs.Visibility.Tally

/-! # Reasons in reports

A report has words of its own for what is hidden for no known reason. A pass never needs them: what
it hides is hidden by an atom that says why, or by the section around it.
-/

namespace ConditionalForms

/-! ## Reports -/

namespace Report

/-- The words for what is hidden for no known reason. -/
def unexplained : String := "criteria not satisfied"

/-- What is hidden has a reason in words of its own. -/
def Explains (s : Standing) : Prop :=
  s.visible = false → ∃ text, s.detail = some text ∧ text ≠ "" ∧ text ≠ unexplained

/-- No reason of a report is the words for having none. -/
def Explained (r : Report) : Prop := ∀ entry ∈ r.details, entry.2 ≠ unexplained

/-- The reason of something hidden is the one that its standing gives. -/
theorem Explains.detail_eq {s : Standing} (h : Explains s) (hidden : s.visible = false) :
    s.detail = some (reason s) := by
  obtain ⟨text, hdetail, hne, -⟩ := h hidden
  simp [reason, hdetail, hne]

theorem reason_ne_unexplained {s : Standing} (h : Explains s) (hidden : s.visible = false) :
    reason s ≠ unexplained := by
  obtain ⟨text, hdetail, -, hwords⟩ := h hidden
  rwa [Option.some.inj ((h.detail_eq hidden).symm.trans hdetail)]

theorem explains_of_mem_hidden {form : Schema}
    (h : ∀ sec ∈ form.sections, Explains sec.standing ∧ ∀ f ∈ sec.fields, Explains f.standing) :
    ∀ item ∈ form.hidden, Explains item.2 := by
  rintro ⟨key, s⟩ hitem
  obtain ⟨-, sec, hsec, hsame | ⟨f, hf, hsame⟩⟩ := Schema.mem_hidden_iff.mp hitem
  · cases hsame
    exact (h sec hsec).1
  · cases hsame
    exact (h sec hsec).2 f hf

/-- A report of parts that are hidden for reasons gives those reasons. -/
theorem explained_ofForm {form : Schema}
    (h : ∀ sec ∈ form.sections, Explains sec.standing ∧ ∀ f ∈ sec.fields, Explains f.standing) :
    (ofForm form).Explained := by
  intro e he
  rw [ofForm_eq] at he
  obtain ⟨⟨key, s⟩, hitem, rfl⟩ := List.mem_map.mp (Assoc.mem_of_mem_ofPairs he)
  have hidden := (Schema.mem_hidden_iff.mp hitem).1
  exact reason_ne_unexplained (explains_of_mem_hidden h _ hitem) hidden

theorem append_colon_ne_unexplained (target reason : String) :
    target ++ ": " ++ reason ≠ unexplained := by
  intro h
  have hcolon : ':' ∈ unexplained.toList := by
    rw [← h]
    simp
  exact absurd hcolon (by decide)

theorem hiddenSectionDetail_ne_unexplained (name : String) :
    Visibility.hiddenSectionDetail name ≠ unexplained := by
  intro h
  have hfirst := congrArg (·.toList.head?) h
  simp [Visibility.hiddenSectionDetail, unexplained] at hfirst

end Report

namespace Visibility

open Fault (ReturnsIff)
open Report (Explains)
open Rule (Atom Dialect evaluateAll?)

/-! ## Passes -/

theorem SectionStands.explains {d : Dialect} {now : Schema} {sec : Section} {r : Rule.Result}
    (h : SectionStands d now sec r) : Explains sec.standing := by
  intro hidden
  rw [h.visible] at hidden
  obtain ⟨target, reason, hdetail⟩ := Rule.exists_detail_of_judge? h.judged hidden
  exact ⟨_, h.detail.trans hdetail, by simp, Report.append_colon_ne_unexplained target reason⟩

theorem FieldStands.explains {d : Dialect} {now : Schema} {sec : Section} {f : Field}
    {r : Rule.Result} (h : FieldStands d now sec f r) : Explains f.standing := by
  intro hidden
  by_cases hsec : sec.standing.visible
  · have hr : r.satisfied = false := by rwa [h.visible, hsec, Bool.true_and] at hidden
    obtain ⟨target, reason, hdetail⟩ := Rule.exists_detail_of_judge? h.judged hr
    refine ⟨_, ?_, by simp, Report.append_colon_ne_unexplained target reason⟩
    rw [h.detail, if_pos hsec, hdetail]
  · refine ⟨hiddenSectionDetail sec.name, ?_, ?_,
      Report.hiddenSectionDetail_ne_unexplained sec.name⟩
    · rw [h.detail, if_neg hsec, hiddenSectionDetail]
    · simp [hiddenSectionDetail]

theorem Stands.explains {d : Dialect} {now form : Schema} (h : Stands d now form) :
    ∀ sec ∈ form.sections, Explains sec.standing ∧ ∀ f ∈ sec.fields, Explains f.standing := by
  intro sec hsec
  obtain ⟨r, hr⟩ := h sec hsec
  refine ⟨hr.explains, ?_⟩
  intro f hf
  obtain ⟨q, hq⟩ := hr.fields f hf
  exact hq.explains

/-- How atoms, rules and passes judge a form. -/
structure Judges (s : Schema) : Prop where
  returns : ∀ a : Atom, ReturnsIff a.target.Writable (· = .integerUnprintable) (a.evaluate? s)
  answers : ∀ (a : Atom) (r : Rule.Result), a.evaluate? s = .ok r → a.Answers s r
  all_iff : ∀ as : List Atom,
    (∃ r, evaluateAll? s as = .ok r ∧ r.satisfied) ↔ ∀ a ∈ as, a.Satisfied s
  first : ∀ (before : List Atom) (a : Atom) (after : List Atom),
    (∀ b ∈ before, b.Satisfied s) → ¬a.Satisfied s →
      evaluateAll? s (before ++ a :: after) = a.evaluate? s
  explained : ∀ (d : Dialect) (report : Report), (pass d s).report = .ok report →
    report.Explained ∧ ∀ sec ∈ (pass d s).form.sections,
      Explains sec.standing ∧ ∀ f ∈ sec.fields, Explains f.standing

/-- Over plain values an atom whose positions can be written is satisfied exactly when its field is
found and compares, and says otherwise why; the first atom that is not satisfied is the result of
all; and a pass has a reason for all that it hides. -/
theorem judges_of_isPlain {s : Schema} (hs : s.IsPlain) : Judges s where
  returns := Atom.evaluate?_returnsIff hs
  answers _ _ h := Atom.answers_of_evaluate? h
  all_iff _ := Rule.evaluateAll?_satisfied_iff
  first _ _ after hbefore ha := Rule.evaluateAll?_of_not_satisfied hbefore ha after
  explained d report h := by
    obtain ⟨hform, rfl⟩ := pass_eq_ok_iff.mp h
    have hexplains := (stands_of_judged? hform).explains
    exact ⟨Report.explained_ofForm hexplains, hexplains⟩

theorem judges_crossedForm : crossedForm.IsPlain ∧ Judges crossedForm := by
  have hplain : crossedForm.IsPlain := by
    simp [Schema.IsPlain, crossedForm, Json.isPlain]
  exact ⟨hplain, judges_of_isPlain hplain⟩

/-! ## Positions that cannot be written -/

/-- An atom whose section has too many digits. -/
def unwritableAtom : Atom where
  target := .position (10 ^ Decimal.digitLimit) (some 1)
  expected := "x"

/-- A form in which that atom finds its field. -/
def unwritableForm : Schema where
  sections := [{ name := "General", position := 10 ^ Decimal.digitLimit, fields := [
    { name := "Condition", position := 1, value := .text "X" }] }]

/-- An atom whose section cannot be written has no result where its section is missing, and none
where its field is found and compares. -/
theorem not_answers_unwritable :
    Rule.resolve {} unwritableAtom.target = .sectionMissing ∧
      unwritableAtom.evaluate? {} = .error .integerUnprintable ∧
      (∃ f, Rule.resolve unwritableForm unwritableAtom.target = .field f ∧
        Rule.compare f.value unwritableAtom.operator unwritableAtom.expected = .ok true) ∧
      unwritableAtom.evaluate? unwritableForm = .error .integerUnprintable := by
  have hwritable : ¬unwritableAtom.target.Writable := fun h => Decimal.not_fitsDigits_pow h.1
  have hfault {s : Schema} (hs : s.IsPlain) :
      unwritableAtom.evaluate? s = .error .integerUnprintable := by
    obtain ⟨e, rfl, he⟩ := (Atom.evaluate?_returnsIff hs unwritableAtom).exists_fault hwritable
    exact he
  have hfound : Rule.resolve unwritableForm unwritableAtom.target =
      .field { name := "Condition", position := 1, value := .text "X" } := by
    simp [Rule.resolve, unwritableForm, unwritableAtom, Schema.sectionAt?, Section.fieldAt?]
  have hplain : unwritableForm.IsPlain := by
    simp [Schema.IsPlain, unwritableForm, Json.isPlain]
  exact ⟨rfl, hfault (List.forall_mem_nil _), ⟨_, hfound, rfl⟩, hfault hplain⟩

end Visibility

end ConditionalForms
