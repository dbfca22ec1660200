import ConditionalForms.Proofs.Form.Addresses
import ConditionalForms.Proofs.Live.Revision

/-! # Addresses in a live form

A form is addressed by the rows that it was built from, and stays so however often values are
changed and passes are run, whether these return or not.
-/

namespace ConditionalForms

open Visibility (pass)

/-- What edits, passes and reviews can make of a form, one after another. -/
inductive Schema.Reworks (s : Schema) : Schema → Prop where
  | same : Reworks s s
  | edit {t} (name : String) (value : Json) (h : Reworks s t) :
      Reworks s (LiveForm.setValue name value t)
  | pass {t} (d : Rule.Dialect) (h : Reworks s t) : Reworks s (pass d t).form
  | apply {t} (p : Review.Payload) (h : Reworks s t) : Reworks s (Review.applyValues p t)

theorem Schema.Reworks.blank_eq {s t : Schema} (h : s.Reworks t) : t.blank = s.blank := by
  induction h with
  | same => rfl
  | edit name value _ ih => exact (Schema.blank_setValue name value _).trans ih
  | pass d _ ih => exact (Schema.blank_congr (Visibility.pass_unmarked d _)).trans ih
  | apply p _ ih => exact (Review.blank_applyValues p _).trans ih

namespace LiveForm

/-- The operations that keep the form that there is, apart from values and standings. -/
inductive Action.Keeps : Action → Prop where
  | edit (name value) : Keeps (.edit name value)
  | recompute : Keeps .recompute
  | apply (p) : Keeps (.apply p)
  | applyData (j) : Keeps (.applyData j)

/-- What is left after some operations, whether they have returned or not. -/
def afterAll (l : LiveForm) (as : List Action) (refusal : Schema.Refusal := Schema.refusal?) :
    LiveForm :=
  as.foldl (fun l a => (l.step a refusal).after) l

theorem reworks_replace {s form : Schema} (l : LiveForm) (h : s.Reworks form) :
    s.Reworks (l.replace form).after.form := by
  obtain ⟨kept, report, hkept, hafter⟩ := exists_replace_after Schema.refusal? l form
  rw [hafter]
  rcases hkept with rfl | rfl
  · exact h
  · exact .pass _ h

theorem reworks_step {s : Schema} {l : LiveForm} {a : Action} (ha : a.Keeps)
    (hl : s.Reworks l.form) : s.Reworks (l.step a).after.form := by
  cases ha with
  | edit name value => exact reworks_replace l (.edit name value hl)
  | recompute => exact reworks_replace l hl
  | apply p => exact reworks_replace l (.apply p hl)
  | applyData j =>
      simp only [step, applyData]
      cases Review.Payload.ofJson j with
      | error fault => exact hl
      | ok p => exact reworks_replace l (.apply p hl)

theorem reworks_afterAll {s : Schema} {l : LiveForm} {as : List Action}
    (has : ∀ a ∈ as, a.Keeps) (hl : s.Reworks l.form) : s.Reworks (l.afterAll as).form := by
  induction as generalizing l with
  | nil => exact hl
  | cons a as ih =>
      obtain ⟨ha, has⟩ := List.forall_mem_cons.mp has
      exact ih has (reworks_step ha hl)

/-- Records that make a form have rows, and the form is addressed by these rows for ever: as it is
built, after any reworking, and in any live form that loads the records and keeps the form. -/
theorem addressed_of_buildFrom {d : String} {records : Json} {form : Schema}
    (h : Builder.buildFrom d records = .ok form) :
    ∃ items rows, Row.records records = .ok items ∧ items.mapM Row.ofRecord = .ok rows ∧
      (∀ t, form.Reworks t → t.Addressed d rows) ∧
      ∀ (l : LiveForm) (as : List Action), l.settings.defaultSection = d → (∀ a ∈ as, a.Keeps) →
        (l.afterAll (.load records :: as)).form.Addressed d rows := by
  obtain ⟨items, hitems, hbuild⟩ := Fault.bind_eq_ok_iff.mp h
  obtain ⟨rows, hrows, hform⟩ := Fault.bind_eq_ok_iff.mp hbuild
  obtain rfl : Schema.ofRows d rows = form := Except.ok.inj hform
  have haddressed : ∀ t, (Schema.ofRows d rows).Reworks t → t.Addressed d rows :=
    fun t ht => Schema.addressed_of_blank_eq ht.blank_eq
  refine ⟨items, rows, hitems, hrows, haddressed, ?_⟩
  intro l as hd has
  apply haddressed
  have hload : (l.step (.load records)).after.form =
      (l.replace (Schema.ofRows d rows)).after.form := by
    simp only [step, load, hd, h]
    rfl
  apply reworks_afterAll has
  rw [hload]
  exact reworks_replace l .same

/-- Records of three sections in turn, which are displayed in another order, and so are the fields
of the first. -/
def interleavedRecords : Json := .list [
  .object [("section", .text "Repair"), ("field_name", .text "Cost"), ("field_order", .int 2)],
  .object [("section", .text "Visit"), ("section_order", .text " 1 "),
    ("field_name", .text "Notes")],
  .object [("section", .text " Repair\t"), ("field_name", .text "Part"),
    ("field_order", .float (.finite false 0))],
  .object [("section", .text "  "), ("field_name", .text "Remark")]]

theorem addressed_of_buildFrom_interleaved :
    ∃ form, Builder.buildFrom "Other" interleavedRecords = .ok form ∧
      ∃ items rows, Row.records interleavedRecords = .ok items ∧
        items.mapM Row.ofRecord = .ok rows ∧
        (∀ t, form.Reworks t → t.Addressed "Other" rows) ∧
        ∀ (l : LiveForm) (as : List Action), l.settings.defaultSection = "Other" →
          (∀ a ∈ as, a.Keeps) →
            (l.afterAll (.load interleavedRecords :: as)).form.Addressed "Other" rows := by
  have hbuilt : (Builder.buildFrom "Other" interleavedRecords).isOk := rfl
  obtain ⟨form, hform⟩ := Fault.exists_eq_ok_of_isOk hbuilt
  exact ⟨form, hform, addressed_of_buildFrom hform⟩

end LiveForm

end ConditionalForms
