import ConditionalForms.Proofs.Live.Addressing
import ConditionalForms.Proofs.Visibility.Returning

/-! # Operations that fail leave everything as it was

An operation can fail before it has changed anything, or in the pass that it runs in the end: at a
rule that cannot be judged, or at a snapshot that is refused. In the dialect of names all rules can
be judged over values such as a user gives, so that whatever a failure leaves behind comes from a
refused snapshot. If the snapshots take all forms of such values, failures leave nothing, and a run
comes to the same without its operations that failed.
-/

namespace ConditionalForms.LiveForm

open Visibility (pass)

/-! ## One operation -/

/-- The operations whose values are such as a user gives. -/
def Action.IsPlain : Action → Prop
  | .edit _ value => value.isPlain
  | .apply p => p.IsPlain
  | _ => True

theorem Prepares.isPlain {l : LiveForm} {a : Action} {form : Schema} (h : Prepares l a form)
    (ha : a.IsPlain) (hl : l.form.IsPlain) : form.IsPlain := by
  cases h with
  | load h =>
      obtain ⟨rows, rfl⟩ := Builder.exists_rows_of_buildFrom h
      exact Schema.isPlain_ofRows _ rows
  | loadRows rows => exact Schema.isPlain_ofRows _ rows
  | loadResponse _ _ => exact Schema.isPlain_ofRows _ _
  | edit name value => exact hl.setValue name ha
  | recompute => exact hl
  | apply p => exact isPlain_applyValues hl ha
  | applyData hp => exact isPlain_applyValues hl (Review.Payload.isPlain_of_ofJson hp)

/-- An operation on a traced form fails at a snapshot, of the form that it hands to the pass or of
what the pass makes of that. The form of the snapshot is kept, beside the report of the pass before.
-/
structure FailsAtSnapshot (refusal : Schema.Refusal) (l : LiveForm) (a : Action) (kept : Schema) :
    Prop where
  traced : l.traced
  handed : ∃ form, Prepares l a form ∧ (kept = form ∨ kept = (pass l.settings.dialect form).form)
  fault : refusal kept = (l.step a refusal).fault
  after : (l.step a refusal).after = { l with form := kept }

/-- A form that is refused as it is handed to the pass is kept. -/
theorem failsAtSnapshot_of_prepares {refusal : Schema.Refusal} {l : LiveForm} {a : Action}
    {form : Schema} {fault : Fault} (htraced : l.traced) (hform : Prepares l a form)
    (hrefused : refusal form = some fault) :
    (l.step a refusal).fault = some fault ∧ FailsAtSnapshot refusal l a form := by
  have hbefore := refused?_eq_some_iff.mpr ⟨htraced, hrefused⟩
  obtain ⟨heard, hstep⟩ := hform.exists_step_eq refusal
  have hstopped : l.replace form refusal = .stopped { l with form } fault := by
    simp only [replace, recompute, refused?_withForm, hbefore]
  rw [hstopped] at hstep
  refine ⟨by rw [hstep]; rfl, htraced, ⟨form, hform, .inl rfl⟩, ?_, ?_⟩
  · rw [hstep]
    exact hrefused
  · rw [hstep]
    rfl

/-- In the dialect of names, over plain values, a failure that leaves something behind is one of a
snapshot. -/
theorem after_eq_or_failsAtSnapshot {refusal : Schema.Refusal} {l : LiveForm} {a : Action}
    (hdialect : l.settings.dialect = .name) (hplain : l.form.IsPlain) (ha : a.IsPlain)
    (h : (l.step a refusal).fault ≠ none) :
    (l.step a refusal).after = l ∨ ∃ kept, FailsAtSnapshot refusal l a kept := by
  rcases step_cases refusal l a with
    ⟨fault, heard, hstep⟩ | ⟨message, -, hstep⟩ | ⟨form, heard, hform, hstep⟩
  · rw [hstep]
    exact .inl rfl
  · exact absurd (Turn.returned_eq_ok_iff.mp hstep).1 h
  · right
    have hlegible : form.Legible l.settings.dialect := hdialect ▸ form.legible_name
    obtain ⟨report, hreport⟩ :=
      (Visibility.pass_returnsIff (hform.isPlain ha hplain) _).returns.mpr hlegible
    rcases replace_cases refusal l form with
      ⟨fault, kept, heard', hstops, hstopped⟩ | ⟨report', -, -, hreturned⟩
    · rw [hstopped] at hstep
      cases hstops with
      | before hrefused =>
          obtain ⟨htraced, hrefusal⟩ := refused?_eq_some_iff.mp hrefused
          exact ⟨form, htraced, ⟨form, hform, .inl rfl⟩, hstep ▸ hrefusal, hstep ▸ rfl⟩
      | rule _ hfault => cases hfault.symm.trans hreport
      | after _ _ hrefused =>
          obtain ⟨htraced, hrefusal⟩ := refused?_eq_some_iff.mp hrefused
          exact ⟨_, htraced, ⟨form, hform, .inr rfl⟩, hstep ▸ hrefusal, hstep ▸ rfl⟩
    · rw [hstep] at h
      exact absurd (Turn.returned_eq_ok_iff.mp hreturned).1 h

/-! ## Live forms of the dialect of names -/

/-- A live form of the dialect of names, over values such as a user gives, whose snapshots, if there
are any, take all forms of such values. -/
structure PlainlyNamed (refusal : Schema.Refusal) (l : LiveForm) : Prop where
  dialect : l.settings.dialect = .name
  plain : l.form.IsPlain
  takes : l.traced → refusal.TakesPlain

theorem PlainlyNamed.after_eq_of_fault {refusal : Schema.Refusal} {l : LiveForm}
    (hl : l.PlainlyNamed refusal) {a : Action} (ha : a.IsPlain)
    (h : (l.step a refusal).fault ≠ none) : (l.step a refusal).after = l := by
  rcases after_eq_or_failsAtSnapshot hl.dialect hl.plain ha h with hafter | ⟨kept, hkept⟩
  · exact hafter
  · obtain ⟨form, hform, hsame⟩ := hkept.handed
    have hplain := hform.isPlain ha hl.plain
    have hkeptplain : kept.IsPlain := by
      rcases hsame with rfl | rfl
      · exact hplain
      · exact hplain.congr (Visibility.pass_unmarked _ form).symm
    rw [← hkept.fault] at h
    exact absurd (hl.takes hkept.traced kept hkeptplain) h

theorem PlainlyNamed.step {refusal : Schema.Refusal} {l : LiveForm} (hl : l.PlainlyNamed refusal)
    {a : Action} (ha : a.IsPlain) : (l.step a refusal).after.PlainlyNamed refusal := by
  rcases step_cases refusal l a with
    ⟨fault, heard, hstep⟩ | ⟨message, -, hstep⟩ | ⟨form, heard, hform, hstep⟩
  · rw [hstep]
    exact hl
  · rw [(Turn.returned_eq_ok_iff.mp hstep).2]
    exact ⟨hl.dialect, by simp [Schema.IsPlain, cleared], hl.takes⟩
  · obtain ⟨hsettings, htraced, hsame⟩ := replace_after refusal l form
    rw [hstep]
    exact
      { dialect := (congrArg Settings.dialect hsettings).trans hl.dialect
        plain := (hform.isPlain ha hl.plain).congr hsame.symm
        takes := fun h => hl.takes (htraced.symm.trans h) }

/-! ## Runs -/

/-- The operations among some that return when all are carried out one after another. -/
def returning (l : LiveForm) (as : List Action) (refusal : Schema.Refusal := Schema.refusal?) :
    List Action :=
  match as with
  | [] => []
  | a :: as =>
    let t := l.step a refusal
    match t.fault with
    | none => a :: t.after.returning as refusal
    | some _ => t.after.returning as refusal

theorem PlainlyNamed.run_returning {refusal : Schema.Refusal} {l : LiveForm}
    (hl : l.PlainlyNamed refusal) {as : List Action} (has : ∀ a ∈ as, a.IsPlain) :
    (l.afterAll as refusal).PlainlyNamed refusal ∧
      l.run (l.returning as refusal) refusal = .ok (l.afterAll as refusal) := by
  induction as generalizing l with
  | nil => exact ⟨hl, rfl⟩
  | cons a as ih =>
      obtain ⟨ha, has⟩ := List.forall_mem_cons.mp has
      obtain ⟨hplain, hrun⟩ := ih (hl.step ha) has
      refine ⟨hplain, ?_⟩
      rw [returning]
      cases hfault : (l.step a refusal).fault with
      | none =>
          have hreturned := Turn.returned_eq_ok_iff.mpr ⟨hfault, rfl⟩
          simp only [run, hreturned, Fault.ok_bind]
          exact hrun
      | some fault =>
          have hafter := hl.after_eq_of_fault ha (by simp [hfault])
          have hall : l.afterAll (a :: as) refusal = (l.step a refusal).after.afterAll as refusal :=
            rfl
          rw [hall]
          rwa [hafter] at hrun ⊢

/-- In the dialect of names, over values such as a user gives, an operation that fails leaves the
live form as it was: its form with all values, standings and the error, and its report. However many
operations are carried out, failing or not, the values stay such as a user gives, and those that
return lead to the same alone. All that this asks of the snapshots of a traced form is that none is
refused while the values are such. Whatever they refuse, an operation that fails leaves everything
as it was, but for a form whose snapshot was refused; and that is kept whenever it is refused as it
is handed to the pass. -/
theorem untouched_of_fault (refusal : Schema.Refusal) {l : LiveForm}
    (hdialect : l.settings.dialect = .name) (hplain : l.form.IsPlain) :
    ((l.traced → refusal.TakesPlain) →
      (∀ a : Action, a.IsPlain → (l.step a refusal).fault ≠ none →
        (l.step a refusal).after = l) ∧
      ∀ as : List Action, (∀ a ∈ as, a.IsPlain) →
        (l.afterAll as refusal).form.IsPlain ∧
          l.run (l.returning as refusal) refusal = .ok (l.afterAll as refusal)) ∧
    (∀ a : Action, a.IsPlain → (l.step a refusal).fault ≠ none →
      (l.step a refusal).after = l ∨ ∃ kept, FailsAtSnapshot refusal l a kept) ∧
    ∀ a form fault, l.traced → Prepares l a form → refusal form = some fault →
      (l.step a refusal).fault = some fault ∧ FailsAtSnapshot refusal l a form := by
  refine ⟨fun htakes => ?_, fun a ha h => after_eq_or_failsAtSnapshot hdialect hplain ha h,
    fun _ _ _ => failsAtSnapshot_of_prepares⟩
  have hl : l.PlainlyNamed refusal := ⟨hdialect, hplain, htakes⟩
  refine ⟨fun a ha hfault => hl.after_eq_of_fault ha hfault, ?_⟩
  intro as has
  obtain ⟨hafter, hrun⟩ := hl.run_returning has
  exact ⟨hafter.plain, hrun⟩

/-- Operations of which the second and the fourth fail. -/
def stumblingRun : List Action := [
  .edit "Notes" (.bool true), .applyData (.list []), .edit "Outcome" (.text "broken"),
  .load (.list [.object [], .int 3])]

theorem untouched_of_fault_visit :
    ∃ l, ((fresh {} true).step (.load visitRecords)).returned = .ok l ∧
      l.settings.dialect = .name ∧ l.form.IsPlain ∧ Schema.Refusal.TakesPlain Schema.refusal? ∧
      (l.step (.applyData (.list []))).fault ≠ none ∧ (l.step (.applyData (.list []))).after = l ∧
      (∀ a ∈ stumblingRun, a.IsPlain) ∧ (l.afterAll stumblingRun).form.IsPlain ∧
      l.run (l.returning stumblingRun) = .ok (l.afterAll stumblingRun) := by
  have hreturns : ((fresh {} true).step (.load visitRecords)).returned.isOk := by
    simp only [step, load, buildFrom_visitRecords]
    decide +kernel
  obtain ⟨l, hl⟩ := Fault.exists_eq_ok_of_isOk hreturns
  have htakes := Schema.takesPlain_refusal?
  have hfresh : (fresh {} true).PlainlyNamed Schema.refusal? :=
    ⟨rfl, by simp [Schema.IsPlain, fresh], fun _ => htakes⟩
  obtain ⟨hdialect, hplain, -⟩ : l.PlainlyNamed Schema.refusal? :=
    (Turn.returned_eq_ok_iff.mp hl).2 ▸ hfresh.step (a := .load visitRecords) trivial
  obtain ⟨hstep, hrun⟩ := (untouched_of_fault Schema.refusal? hdialect hplain).1 fun _ => htakes
  have hfault : (l.step (.applyData (.list []))).fault ≠ none := Option.some_ne_none _
  have has : ∀ a ∈ stumblingRun, a.IsPlain := by simp [stumblingRun, Action.IsPlain, Json.isPlain]
  exact ⟨l, hl, hdialect, hplain, htakes, hfault, hstep _ trivial hfault, has, hrun _ has⟩

end ConditionalForms.LiveForm
