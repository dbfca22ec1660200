import ConditionalForms.Proofs.Live.Current
import ConditionalForms.Proofs.Review.Snapshot

/-! # Revising a loaded form

Once a form is loaded, edits and reviews change its values alone and keep it uniform. Two live forms
that were loaded alike and revised apart are made the same by writing the payload of one to the
other.
-/

namespace ConditionalForms

namespace Schema

/-- No form is refused whose values are such as a user gives: null, truth values and texts of whole
characters can always be written. -/
def Refusal.TakesPlain (refusal : Refusal) : Prop :=
  ∀ form : Schema, form.IsPlain → refusal form = none

theorem IsPlain.fitsLevels {s : Schema} (h : s.IsPlain) : s.fitsLevels := by
  rw [Schema.fitsLevels, List.all_eq_true]
  intro f hf
  obtain ⟨sec, hsec, hf⟩ := List.mem_flatMap.mp hf
  simp [Json.fitsLevels, Json.levels_of_isPlain (h sec hsec f hf), Json.levelLimit]

theorem takesPlain_refusal? : Refusal.TakesPlain refusal? := by
  intro form hplain
  rw [refusal?, if_pos hplain.fitsLevels]

end Schema

namespace LiveForm

open Review (Payload applyValues)

/-- Both snapshots of a form of plain values are taken. -/
theorem taken_of_isPlain {refusal : Schema.Refusal} {l : LiveForm} {form : Schema}
    (htakes : l.traced → refusal.TakesPlain) (hplain : form.IsPlain) : Taken refusal l form := by
  have htaken (kept : Schema) (hkept : kept.IsPlain) : l.refused? refusal kept = none := by
    rw [refused?, ite_eq_right_iff]
    exact fun htraced => htakes htraced kept hkept
  exact
    { before := htaken form hplain
      after := htaken _ (hplain.congr (Visibility.pass_unmarked l.settings.dialect form).symm) }

/-- The operations that load records or rows. -/
inductive Action.Loads : Action → Prop where
  | load (records) : Loads (.load records)
  | loadRows (rows) : Loads (.loadRows rows)

/-- The operations that keep the form, with other values such as a user gives. -/
inductive Action.Revises : Action → Prop where
  | edit (name) {value} (h : value.isPlain) : Revises (.edit name value)
  | recompute : Revises .recompute
  | apply {p} (h : p.IsPlain) : Revises (.apply p)
  | applyData (j) : Revises (.applyData j)

/-! ## What revisions keep -/

/-- A live form that was loaded with some settings and has the blank of a form since. Fields that
share section and name share their value, which is such as a user gives. -/
structure Revised (settings : Settings) (form : Schema) (l : LiveForm) : Prop where
  settings : l.settings = settings
  blank : l.form.blank = form.blank
  uniform : l.form.Uniform
  plain : l.form.IsPlain

/-- Replacing the form keeps the settings, and sets standings alone, even when a fault stops it. -/
theorem replace_after (refusal : Schema.Refusal) (l : LiveForm) (form : Schema) :
    (l.replace form refusal).after.settings = l.settings ∧
      (l.replace form refusal).after.traced = l.traced ∧
        (l.replace form refusal).after.form.unmarked = form.unmarked := by
  obtain ⟨kept, report, hkept, hafter⟩ := exists_replace_after refusal l form
  rw [hafter]
  refine ⟨rfl, rfl, ?_⟩
  rcases hkept with rfl | rfl
  · rfl
  · exact Visibility.pass_unmarked l.settings.dialect form

theorem revised_replace {settings : Settings} {form next : Schema} {l : LiveForm}
    (hsettings : l.settings = settings) (hblank : next.blank = form.blank)
    (huniform : next.Uniform) (hplain : next.IsPlain) :
    Revised settings form (l.replace next).after := by
  obtain ⟨hkept, -, hsame⟩ := replace_after Schema.refusal? l next
  exact
    { settings := hkept.trans hsettings
      blank := (Schema.blank_congr hsame).trans hblank
      uniform := huniform.congr hsame.symm
      plain := hplain.congr hsame.symm }

theorem uniform_applyValues {s : Schema} (hs : s.Uniform) (p : Payload) :
    (applyValues p s).Uniform := by
  rw [Review.applyValues_eq]
  apply hs.withValues
  intro _ f g hname hvalue
  rw [hname, hvalue]

theorem isPlain_applyValues {s : Schema} (hs : s.IsPlain) {p : Payload} (hp : p.IsPlain) :
    (applyValues p s).IsPlain := by
  rw [Review.applyValues_eq]
  apply hs.withValues
  intro i f hf
  apply Review.forall_lastValue (q := (·.isPlain = true)) _ hf
  intro r hr
  obtain ⟨sec, hsec, hr⟩ := Review.exists_mem_of_mem_sources hr
  exact hp sec hsec r hr

theorem revised_apply {settings : Settings} {form : Schema} {l : LiveForm}
    (hl : Revised settings form l) {p : Payload} (hp : p.IsPlain) :
    Revised settings form (l.apply p).after :=
  revised_replace (l := l) hl.settings ((Review.blank_applyValues p l.form).trans hl.blank)
    (uniform_applyValues hl.uniform p) (isPlain_applyValues hl.plain hp)

theorem revised_step {settings : Settings} {form : Schema} {l : LiveForm} {a : Action}
    (ha : a.Revises) (hl : Revised settings form l) : Revised settings form (l.step a).after := by
  cases ha with
  | @edit name value hvalue =>
      exact revised_replace hl.settings ((Schema.blank_setValue name value l.form).trans hl.blank)
        (hl.uniform.setValue name value) (hl.plain.setValue name hvalue)
  | recompute =>
      rw [step, recompute_eq_replace]
      exact revised_replace hl.settings hl.blank hl.uniform hl.plain
  | apply hp => exact revised_apply hl hp
  | applyData j =>
      cases hj : Payload.ofJson j with
      | error fault => simpa [step, applyData, hj, Turn.stopped] using hl
      | ok p => simpa [step, applyData, hj] using revised_apply hl (Payload.isPlain_of_ofJson hj)

/-! ## Loading, then revising -/

theorem Action.Loads.exists_rows {l : LiveForm} {a : Action} {form : Schema} (ha : a.Loads)
    (h : Prepares l a form) : ∃ rows, form = Schema.ofRows l.settings.defaultSection rows := by
  cases ha with
  | load records =>
      cases h with
      | load h => exact Builder.exists_rows_of_buildFrom h
  | loadRows rows =>
      cases h
      exact ⟨rows, rfl⟩

/-- What is loaded hangs on the settings alone. -/
theorem Action.Loads.form_eq {l m : LiveForm} {a : Action} {form form' : Schema} (ha : a.Loads)
    (hsettings : m.settings = l.settings) (hl : Prepares l a form) (hm : Prepares m a form') :
    form' = form := by
  cases ha with
  | load records =>
      cases hl with
      | load hl =>
          cases hm with
          | load hm =>
              rw [hsettings, hl] at hm
              exact (Except.ok.inj hm).symm
  | loadRows rows =>
      cases hl
      cases hm
      rw [hsettings]

theorem Action.Loads.prepares {l l' : LiveForm} {a : Action} (ha : a.Loads)
    (h : (l.step a).returned = .ok l') :
    ∃ form, Prepares l a form ∧ (l.replace form).returned = .ok l' := by
  rcases step_returned_iff.mp h with ⟨message, hclears, -⟩ | hprepared
  · cases ha <;> cases hclears
  · exact hprepared

theorem revised_of_loads {l l' : LiveForm} {a : Action} {form : Schema} (ha : a.Loads)
    (hform : Prepares l a form) (h : (l.replace form).returned = .ok l') :
    Revised l.settings form l' := by
  obtain ⟨-, rfl⟩ := Turn.returned_eq_ok_iff.mp h
  obtain ⟨rows, rfl⟩ := ha.exists_rows hform
  exact revised_replace rfl rfl (Schema.uniform_ofRows _ rows) (Schema.isPlain_ofRows _ rows)

/-- After a pass has returned, revisions that all return keep a form revised and settled. -/
theorem revised_run {settings : Settings} {form : Schema} {l s : LiveForm} {as : List Action}
    (has : ∀ a ∈ as, a.Revises) (hl : Revised settings form l)
    (hagain : l.recompute.returned = .ok l) (h : l.run as = .ok s) :
    Revised settings form s ∧ s.recompute.returned = .ok s := by
  refine run_invariant (p := fun m => Revised settings form m ∧ m.recompute.returned = .ok m) ?_
    ⟨hl, hagain⟩ h
  rintro a ha m m' ⟨hm, -⟩ hstep
  constructor
  · obtain ⟨-, rfl⟩ := Turn.returned_eq_ok_iff.mp hstep
    exact revised_step (has a ha) hm
  · rcases step_returned_iff.mp hstep with ⟨message, hclears, -⟩ | ⟨next, -, hnext⟩
    · cases has a ha <;> cases hclears
    · exact recompute_of_replace hnext

/-! ## Writing one to the other -/

/-- The payload of a settled live form makes another one that was loaded alike the same. -/
theorem apply_ofSchema {settings : Settings} {form : Schema} {s t : LiveForm}
    (hs : Revised settings form s) (hagain : s.recompute.returned = .ok s)
    (ht : Revised settings form t) :
    (t.apply (.ofSchema s.form)).returned = .ok { t with form := s.form, report := s.report } := by
  obtain ⟨-, report, hreport, hkept⟩ := replace_returned_iff.mp hagain
  have hform : s.form = (Visibility.pass s.settings.dialect s.form).form :=
    congrArg LiveForm.form hkept
  have hsreport : s.report = some report := congrArg LiveForm.report hkept
  have hsame := Review.unmarked_applyValues_ofSchema hs.uniform (ht.blank.trans hs.blank.symm)
  obtain ⟨hafter, hreport'⟩ := Visibility.pass_congr hreport hsame
  change (t.replace (applyValues (.ofSchema s.form) t.form)).returned = _
  have htaken := taken_of_isPlain (l := t) (fun _ => Schema.takesPlain_refusal?)
    (hs.plain.congr hsame.symm)
  rw [replace_returned_iff]
  refine ⟨htaken, report, ?_, ?_⟩
  · rwa [ht.settings, ← hs.settings]
  · rw [ht.settings, ← hs.settings, hafter, ← hform, hsreport]

/-- Two live forms with the same settings load the same and are revised apart. The payload of the
one can be had, as itself and as data; writing it to the other, either way, returns and leaves the
other with the form and the report of the first; and writing it to the first changes nothing. -/
theorem apply_review_of_run {l m s t : LiveForm} {start : Action} {as bs : List Action}
    (hstart : start.Loads) (hsettings : m.settings = l.settings) (has : ∀ a ∈ as, a.Revises)
    (hbs : ∀ b ∈ bs, b.Revises) (hs : l.run (start :: as) = .ok s)
    (ht : m.run (start :: bs) = .ok t) :
    ∃ p j, s.review? = .ok p ∧ p.toJson? = .ok j ∧
      (t.apply p).returned = .ok { t with form := s.form, report := s.report } ∧
      (t.applyData j).returned = .ok { t with form := s.form, report := s.report } ∧
      (s.apply p).returned = .ok s ∧ (s.applyData j).returned = .ok s := by
  obtain ⟨l', hl, hs⟩ := Fault.bind_eq_ok_iff.mp hs
  obtain ⟨m', hm, ht⟩ := Fault.bind_eq_ok_iff.mp ht
  obtain ⟨form, hform, hl⟩ := hstart.prepares hl
  obtain ⟨form', hform', hm⟩ := hstart.prepares hm
  obtain rfl := hstart.form_eq hsettings hform hform'
  obtain ⟨hrevised, hagain⟩ :=
    revised_run has (revised_of_loads hstart hform hl) (recompute_of_replace hl) hs
  obtain ⟨hrevised', -⟩ :=
    revised_run hbs (hsettings ▸ revised_of_loads hstart hform' hm) (recompute_of_replace hm) ht
  have hplain := Payload.isPlain_ofSchema hrevised.plain
  have happly := apply_ofSchema hrevised hagain hrevised'
  have hself := apply_ofSchema hrevised hagain hrevised
  refine ⟨.ofSchema s.form, _, Payload.ofSchema?_eq_ok hrevised.plain,
    Payload.toJson?_eq_ok hplain, happly, ?_, hself, ?_⟩
  · rwa [applyData, Payload.ofJson_toJson hplain]
  · rwa [applyData, Payload.ofJson_toJson hplain]

theorem apply_review_of_run_visit :
    ∃ s t p j,
      (fresh {} false).run [.load visitRecords, .edit "Notes" (.text "a"), .recompute] = .ok s ∧
      (fresh {} true).run [.load visitRecords, .edit "Outcome" (.text "broken"),
        .applyData (.object [])] = .ok t ∧
      s.review? = .ok p ∧ p.toJson? = .ok j ∧
      (t.apply p).returned = .ok { t with form := s.form, report := s.report } ∧
      (t.applyData j).returned = .ok { t with form := s.form, report := s.report } ∧
      (s.apply p).returned = .ok s ∧ (s.applyData j).returned = .ok s := by
  have hfirst : ((fresh {} false).run
      [.load visitRecords, .edit "Notes" (.text "a"), .recompute]).isOk := by
    simp only [run, step, load, buildFrom_visitRecords]
    decide +kernel
  have hsecond : ((fresh {} true).run
      [.load visitRecords, .edit "Outcome" (.text "broken"), .applyData (.object [])]).isOk := by
    simp only [run, step, load, buildFrom_visitRecords]
    decide +kernel
  obtain ⟨s, hs⟩ := Fault.exists_eq_ok_of_isOk hfirst
  obtain ⟨t, ht⟩ := Fault.exists_eq_ok_of_isOk hsecond
  have has : ∀ a ∈ [Action.edit "Notes" (.text "a"), .recompute], a.Revises := by
    simpa using ⟨.edit "Notes" rfl, .recompute⟩
  have hbs : ∀ b ∈ [Action.edit "Outcome" (.text "broken"), .applyData (.object [])],
      b.Revises := by
    simpa using ⟨.edit "Outcome" rfl, .applyData _⟩
  have hsettings : (fresh {} true).settings = (fresh {} false).settings := rfl
  obtain ⟨p, j, h⟩ := apply_review_of_run (.load visitRecords) hsettings has hbs hs ht
  exact ⟨s, t, p, j, hs, ht, h⟩

end LiveForm

end ConditionalForms
