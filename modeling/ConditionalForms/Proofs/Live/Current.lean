import ConditionalForms.Proofs.Form.Built
import ConditionalForms.Proofs.Live.Run
import ConditionalForms.Proofs.Review.LastWrite
import ConditionalForms.Proofs.Visibility.Standing

/-! # Live forms are current

Whatever was done with a live form, as long as every operation returned, its standings and its
report are those of its present values.
-/

namespace ConditionalForms

namespace LiveForm

open Visibility (pass Stands)

/-! ## Forms before their pass -/

/-- An operation hands over a form of rows, or the present form with other values. -/
theorem Prepares.rows_or_blank {l : LiveForm} {a : Action} {form : Schema} (h : Prepares l a form) :
    (∃ rows, form = Schema.ofRows l.settings.defaultSection rows) ∨ form.blank = l.form.blank := by
  cases h with
  | load h => exact .inl (Builder.exists_rows_of_buildFrom h)
  | loadRows rows => exact .inl ⟨rows, rfl⟩
  | loadResponse _ _ => exact .inl ⟨_, rfl⟩
  | edit name value => exact .inr (Schema.blank_setValue name value l.form)
  | recompute => exact .inr rfl
  | apply p => exact .inr (Review.blank_applyValues p l.form)
  | applyData h => exact .inr (Review.blank_applyValues _ l.form)

/-- A form with an error has no sections, and no operation hands over another one. -/
theorem Prepares.sections_of_error {l : LiveForm} {a : Action} {form : Schema}
    (h : Prepares l a form) (hl : l.form.error ≠ none → l.form.sections = []) :
    form.error ≠ none → form.sections = [] := by
  intro herror
  rcases h.rows_or_blank with ⟨rows, rfl⟩ | hblank
  · exact absurd rfl herror
  · rw [Schema.sections_eq_nil_iff_of_blank_eq hblank]
    apply hl
    rwa [← Schema.error_eq_of_blank_eq hblank]

/-! ## The invariant -/

/-- The standings of a live form are those of its present values; its report, if there is one, is
that of a new pass, which would change nothing; and a form with an error has no sections. -/
structure Current (l : LiveForm) : Prop where
  stands : Stands l.settings.dialect l.form l.form
  report : ∀ report, l.report = some report →
    (pass l.settings.dialect l.form).report = .ok report ∧ l.recompute.returned = .ok l
  error : l.form.error ≠ none → l.form.sections = []

theorem current_fresh (settings : Settings) (traced : Bool) : Current (fresh settings traced) where
  stands := by simp [Stands, fresh]
  report := by simp [fresh]
  error := by simp [fresh]

theorem current_cleared (l : LiveForm) (message : String) : Current (l.cleared message) where
  stands := by simp [Stands, cleared]
  report := by simp [cleared]
  error := by simp [cleared]

/-- A pass that returns does not change anything when it is run again. -/
theorem recompute_of_replace {l l' : LiveForm} {form : Schema}
    (h : (l.replace form).returned = .ok l') : l'.recompute.returned = .ok l' := by
  obtain ⟨⟨-, hafter⟩, report, hreport, rfl⟩ := replace_returned_iff.mp h
  have hsame := Visibility.pass_unmarked l.settings.dialect form
  obtain ⟨hagain, hreport'⟩ := Visibility.pass_congr hreport hsame
  rw [recompute_eq_replace, replace_returned_iff]
  refine ⟨⟨hafter, ?_⟩, report, hreport', ?_⟩
  · simp only [hagain]
    exact hafter
  · simp only [hagain]

theorem current_of_replace {l l' : LiveForm} {form : Schema}
    (herror : form.error ≠ none → form.sections = [])
    (h : (l.replace form).returned = .ok l') : Current l' := by
  have hagain := recompute_of_replace h
  obtain ⟨-, report, hreport, rfl⟩ := replace_returned_iff.mp h
  have hsame := Visibility.pass_unmarked l.settings.dialect form
  constructor
  · have hjudged := (Visibility.pass_eq_ok_iff.mp hreport).1
    exact (Visibility.stands_of_judged? hjudged).congr hsame.symm
  · rintro _ ⟨⟩
    exact ⟨(Visibility.pass_congr hreport hsame).2, hagain⟩
  · have hblank := Schema.blank_congr hsame
    intro hafter
    rw [Schema.sections_eq_nil_iff_of_blank_eq hblank]
    apply herror
    rwa [← Schema.error_eq_of_blank_eq hblank]

theorem current_step {l l' : LiveForm} {a : Action} (hl : Current l)
    (h : (l.step a).returned = .ok l') : Current l' := by
  rcases step_returned_iff.mp h with ⟨message, -, rfl⟩ | ⟨form, hform, h⟩
  · exact current_cleared l message
  · exact current_of_replace (hform.sections_of_error hl.error) h

/-! ## When there is a report -/

/-- Whether an operation clears the form in place of running a pass. -/
def Action.Clearing (a : Action) : Prop := ∃ message, Clears a message

/-- Some pass of a run has not been followed by an operation that clears the form. Every operation
that returns either clears the form or runs a pass. -/
def PassedSinceCleared (as : List Action) : Prop :=
  ∃ before a after, as = before ++ a :: after ∧ ¬a.Clearing ∧ ∀ b ∈ after, ¬b.Clearing

theorem not_passedSinceCleared_nil : ¬PassedSinceCleared [] := by
  rintro ⟨before, a, after, h, -⟩
  simp at h

/-- Only the last operation counts. -/
theorem passedSinceCleared_append_singleton (as : List Action) (a : Action) :
    PassedSinceCleared (as ++ [a]) ↔ ¬a.Clearing := by
  constructor
  · rintro ⟨before, b, after, h, hb, hafter⟩
    rcases List.eq_nil_or_concat after with rfl | ⟨after, c, rfl⟩
    · obtain ⟨-, rfl⟩ : as = before ∧ a = b := by simpa using h
      exact hb
    · have hsplit : as ++ [a] = (before ++ b :: after) ++ [c] := by simpa using h
      obtain rfl : a = c := List.singleton_inj.mp (List.append_inj' hsplit rfl).2
      exact hafter a (by simp)
  · intro ha
    exact ⟨as, a, [], rfl, ha, by simp⟩

theorem Prepares.not_clearing {l : LiveForm} {a : Action} {form : Schema} (h : Prepares l a form) :
    ¬a.Clearing := by
  rintro ⟨message, hclears⟩
  cases hclears with
  | fail => cases h
  | response herrors =>
      cases h with
      | loadResponse hnone _ => simp [herrors] at hnone

theorem report_step {l l' : LiveForm} {a : Action} (h : (l.step a).returned = .ok l') :
    l'.report = none ↔ a.Clearing := by
  rcases step_returned_iff.mp h with ⟨message, hclears, rfl⟩ | ⟨form, hform, h⟩
  · exact ⟨fun _ => ⟨message, hclears⟩, fun _ => rfl⟩
  · obtain ⟨-, report, -, rfl⟩ := replace_returned_iff.mp h
    simp [hform.not_clearing]

theorem report_run {settings : Settings} {traced : Bool} {as : List Action} {l : LiveForm}
    (h : (fresh settings traced).run as = .ok l) : l.report = none ↔ ¬PassedSinceCleared as := by
  rcases List.eq_nil_or_concat as with rfl | ⟨as, a, rfl⟩
  · cases h
    simp [fresh, not_passedSinceCleared_nil]
  · rw [List.concat_eq_append] at h ⊢
    rw [run_append] at h
    obtain ⟨m, -, h⟩ := Fault.bind_eq_ok_iff.mp h
    obtain ⟨l', hstep, hl'⟩ := Fault.bind_eq_ok_iff.mp h
    cases hl'
    rw [passedSinceCleared_append_singleton, report_step hstep, not_not]

/-- After every run of operations that all return, with any settings and traced or not, a live form
is current, and it lacks a report exactly while no pass has run since it was last cleared. -/
theorem current_of_run {settings : Settings} {traced : Bool} {as : List Action} {l : LiveForm}
    (h : (fresh settings traced).run as = .ok l) :
    Current l ∧ (l.report = none ↔ ¬PassedSinceCleared as) :=
  ⟨run_invariant (fun _ _ _ _ hm hstep => current_step hm hstep) (current_fresh settings traced) h,
    report_run h⟩

/-- A run that shows a section, clears the form, loads it again and writes two values for one name.
-/
def visitRun : List Action := [
  .load visitRecords, .edit "Outcome" (.text "broken"), .fail (.list [.text "gone", .text "late"]),
  .load visitRecords, .edit "Notes" (.bool true), .recompute,
  .apply { sections := [
    { name := "Visit", fields := [
        { name := "Notes", value := .text "first" }, { name := "Notes", value := .text "second" },
        { name := "Outcome", value := .text "Broken" }] }] }]

theorem current_of_run_visitRun :
    ∃ l, (fresh {} true).run visitRun = .ok l ∧ Current l ∧
      (l.report = none ↔ ¬PassedSinceCleared visitRun) := by
  have hreturns : ((fresh {} true).run visitRun).isOk := by
    simp only [visitRun, run, step, load, buildFrom_visitRecords]
    decide +kernel
  obtain ⟨l, hl⟩ := Fault.exists_eq_ok_of_isOk hreturns
  exact ⟨l, hl, current_of_run hl⟩

end LiveForm

end ConditionalForms
