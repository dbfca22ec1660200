import ConditionalForms.LiveForm
import ConditionalForms.Proofs.Fault.Returning

/-! # Runs of a live form

An operation that returns either clears the form or hands a form to a visibility pass, and the pass
returns when both its snapshots are taken and all rules can be judged. A run is a row of operations
that all return, and what each of them keeps the whole run keeps.
-/

namespace ConditionalForms.LiveForm

open Visibility (pass)

@[simp] theorem Turn.returned_precededBy (heard : List Entry) (t : Turn) :
    (t.precededBy heard).returned = t.returned := rfl

@[simp] theorem Turn.returned_stopped (l : LiveForm) (fault : Fault) (heard : List Entry) :
    (Turn.stopped l fault heard).returned = .error fault := rfl

theorem Turn.precededBy_precededBy (heard earlier : List Entry) (t : Turn) :
    (t.precededBy heard).precededBy earlier = t.precededBy (earlier ++ heard) := by
  simp only [precededBy, List.append_assoc]

theorem Turn.returned_eq_ok_iff {t : Turn} {l : LiveForm} :
    t.returned = .ok l ↔ t.fault = none ∧ t.after = l := by
  unfold Turn.returned
  cases t.fault <;> simp

def fresh (settings : Settings) (traced : Bool) : LiveForm := { settings, traced }

def cleared (l : LiveForm) (message : String) : LiveForm :=
  { l with form := { error := some message }, report := none }

/-- Carries out operations one after another, as long as they return. -/
def run (l : LiveForm) (as : List Action) (refusal : Schema.Refusal := Schema.refusal?) :
    Except Fault LiveForm :=
  match as with
  | [] => .ok l
  | a :: as => (l.step a refusal).returned >>= fun next => next.run as refusal

/-! ## One pass -/

/-- Whether a snapshot is refused does not hang on the form that a live form has. -/
@[simp] theorem refused?_withForm (l : LiveForm) (form : Schema) (refusal : Schema.Refusal) :
    LiveForm.refused? { l with form } refusal = l.refused? refusal := rfl

theorem refused?_eq_some_iff {l : LiveForm} {refusal : Schema.Refusal} {form : Schema}
    {fault : Fault} :
    l.refused? refusal form = some fault ↔ l.traced ∧ refusal form = some fault := by
  rw [refused?, Option.ite_none_right_eq_some]

theorem recompute_eq_replace (l : LiveForm) : l.recompute = l.replace l.form := rfl

/-- Both snapshots of a pass over a form are taken, if any are. -/
structure Taken (refusal : Schema.Refusal) (l : LiveForm) (form : Schema) : Prop where
  before : l.refused? refusal form = none
  after : l.refused? refusal (pass l.settings.dialect form).form = none

/-- What stops a pass over a form in place of the present one, and what it leaves: the snapshot
before the pass, a rule that cannot be judged, or the snapshot after the pass. -/
inductive Stops (refusal : Schema.Refusal) (l : LiveForm) (form : Schema) :
    Fault → LiveForm → Prop where
  | before {fault} (h : l.refused? refusal form = some fault) :
      Stops refusal l form fault { l with form }
  | rule {fault} (hbefore : l.refused? refusal form = none)
      (h : (pass l.settings.dialect form).report = .error fault) :
      Stops refusal l form fault { l with form := (pass l.settings.dialect form).form }
  | after {fault report} (hbefore : l.refused? refusal form = none)
      (hreport : (pass l.settings.dialect form).report = .ok report)
      (h : l.refused? refusal (pass l.settings.dialect form).form = some fault) :
      Stops refusal l form fault { l with form := (pass l.settings.dialect form).form }

/-- A pass over a form in place of the present one is stopped, or both snapshots are taken and all
rules judged. -/
theorem replace_cases (refusal : Schema.Refusal) (l : LiveForm) (form : Schema) :
    (∃ fault kept heard, Stops refusal l form fault kept ∧
        l.replace form refusal = .stopped kept fault heard) ∨
      ∃ report, Taken refusal l form ∧ (pass l.settings.dialect form).report = .ok report ∧
        (l.replace form refusal).returned =
          .ok { l with form := (pass l.settings.dialect form).form, report := some report } := by
  simp only [replace, recompute, refused?_withForm]
  cases hbefore : l.refused? refusal form with
  | some fault => exact .inl ⟨fault, _, _, .before hbefore, rfl⟩
  | none =>
      cases hreport : (pass l.settings.dialect form).report with
      | error fault => exact .inl ⟨fault, _, _, .rule hbefore hreport, rfl⟩
      | ok report =>
          cases hafter : l.refused? refusal (pass l.settings.dialect form).form with
          | some fault => exact .inl ⟨fault, _, _, .after hbefore hreport hafter, rfl⟩
          | none => exact .inr ⟨report, ⟨hbefore, hafter⟩, rfl, rfl⟩

/-- A pass over a form in place of the present one returns when both snapshots are taken and all its
rules can be judged. -/
theorem replace_returned_iff {refusal : Schema.Refusal} {l l' : LiveForm} {form : Schema} :
    (l.replace form refusal).returned = .ok l' ↔
      Taken refusal l form ∧ ∃ report, (pass l.settings.dialect form).report = .ok report ∧
        l' = { l with form := (pass l.settings.dialect form).form, report := some report } := by
  rcases replace_cases refusal l form with
    ⟨fault, kept, heard, hstops, hstopped⟩ | ⟨report, htaken, hreport, hreturned⟩
  · rw [hstopped, Turn.returned_stopped]
    refine iff_of_false (by simp) ?_
    rintro ⟨htaken, report, hreport, -⟩
    cases hstops with
    | before h => cases h.symm.trans htaken.before
    | rule _ h => cases h.symm.trans hreport
    | after _ _ h => cases h.symm.trans htaken.after
  · rw [hreturned, hreport, Except.ok.injEq]
    constructor
    · rintro rfl
      exact ⟨htaken, report, rfl, rfl⟩
    · rintro ⟨-, report', hreport', rfl⟩
      rw [Except.ok.inj hreport']

/-- Whatever a pass over a form in place of the present one comes to, what is left has that form, as
it was before the pass or after it. -/
theorem exists_replace_after (refusal : Schema.Refusal) (l : LiveForm) (form : Schema) :
    ∃ kept report, (kept = form ∨ kept = (pass l.settings.dialect form).form) ∧
      (l.replace form refusal).after = { l with form := kept, report } := by
  rcases replace_cases refusal l form with
    ⟨fault, kept, heard, hstops, hstopped⟩ | ⟨report, -, -, hreturned⟩
  · rw [hstopped]
    cases hstops with
    | before => exact ⟨_, l.report, .inl rfl, rfl⟩
    | rule => exact ⟨_, l.report, .inr rfl, rfl⟩
    | after => exact ⟨_, l.report, .inr rfl, rfl⟩
  · exact ⟨_, some report, .inr rfl, (Turn.returned_eq_ok_iff.mp hreturned).2⟩

/-! ## One operation -/

/-- The operations that clear the form when they return, with the message that is left. -/
inductive Clears : Action → String → Prop where
  | fail {errors messages} (h : messages? errors = .ok messages) :
      Clears (.fail errors) ("; ".intercalate messages)
  | response {data errors message messages}
      (h : Response.errorTexts? errors = .ok (message :: messages)) :
      Clears (.loadResponse data errors) ("; ".intercalate (message :: messages))

/-- The form that an operation hands to the visibility pass. -/
inductive Prepares (l : LiveForm) : Action → Schema → Prop where
  | load {records form} (h : Builder.buildFrom l.settings.defaultSection records = .ok form) :
      Prepares l (.load records) form
  | loadRows (rows) : Prepares l (.loadRows rows) (Schema.ofRows l.settings.defaultSection rows)
  | loadResponse {data errors rows} (herrors : Response.errorTexts? errors = .ok [])
      (hrows : Response.rows? data l.settings.metadataObject = .ok rows) :
      Prepares l (.loadResponse data errors) (Schema.ofRows l.settings.defaultSection rows)
  | edit (name value) : Prepares l (.edit name value) (setValue name value l.form)
  | recompute : Prepares l .recompute l.form
  | apply (p) : Prepares l (.apply p) (Review.applyValues p l.form)
  | applyData {j p} (h : Review.Payload.ofJson j = .ok p) :
      Prepares l (.applyData j) (Review.applyValues p l.form)

/-- An operation that hands a form to the pass comes to what the pass comes to. -/
theorem Prepares.exists_step_eq (refusal : Schema.Refusal) {l : LiveForm} {a : Action}
    {form : Schema} (h : Prepares l a form) :
    ∃ heard, l.step a refusal = (l.replace form refusal).precededBy heard := by
  cases h with
  | load hform =>
      simp only [step, LiveForm.load, hform]
      exact ⟨_, rfl⟩
  | loadRows rows => exact ⟨_, rfl⟩
  | loadResponse herrors hrows =>
      simp only [step, LiveForm.loadResponse, herrors, hrows]
      exact ⟨_, Turn.precededBy_precededBy _ _ _⟩
  | edit name value => exact ⟨_, rfl⟩
  | recompute => exact ⟨[], rfl⟩
  | apply p => exact ⟨_, rfl⟩
  | applyData hp =>
      simp only [step, LiveForm.applyData, hp]
      exact ⟨_, rfl⟩

/-- All that an operation can do: stop at once, clear the form, or hand a form to a pass. -/
theorem step_cases (refusal : Schema.Refusal) (l : LiveForm) (a : Action) :
    (∃ fault heard, l.step a refusal = .stopped l fault heard) ∨
      (∃ message, Clears a message ∧ (l.step a refusal).returned = .ok (l.cleared message)) ∨
        ∃ form heard, Prepares l a form ∧
          l.step a refusal = (l.replace form refusal).precededBy heard := by
  cases a with
  | load records =>
      simp only [step, load]
      cases hform : Builder.buildFrom l.settings.defaultSection records with
      | error fault => exact .inl ⟨fault, _, rfl⟩
      | ok form => exact .inr (.inr ⟨form, _, .load hform, rfl⟩)
  | loadRows rows => exact .inr (.inr ⟨_, _, .loadRows rows, rfl⟩)
  | loadResponse data errors =>
      simp only [step, loadResponse]
      cases herrors : Response.errorTexts? errors with
      | error fault => exact .inl ⟨fault, [], rfl⟩
      | ok messages =>
          cases messages with
          | cons message messages => exact .inr (.inl ⟨_, .response herrors, rfl⟩)
          | nil =>
              cases hrows : Response.rows? data l.settings.metadataObject with
              | error fault => exact .inl ⟨fault, [], rfl⟩
              | ok rows =>
                  exact .inr (.inr
                    ⟨_, _, .loadResponse herrors hrows, Turn.precededBy_precededBy _ _ _⟩)
  | fail errors =>
      simp only [step, fail]
      cases hmessages : messages? errors with
      | error fault => exact .inl ⟨fault, [], rfl⟩
      | ok messages => exact .inr (.inl ⟨_, .fail hmessages, rfl⟩)
  | edit name value => exact .inr (.inr ⟨_, _, .edit name value, rfl⟩)
  | recompute => exact .inr (.inr ⟨_, [], .recompute, rfl⟩)
  | apply p => exact .inr (.inr ⟨_, _, .apply p, rfl⟩)
  | applyData j =>
      simp only [step, applyData]
      cases hp : Review.Payload.ofJson j with
      | error fault => exact .inl ⟨fault, [], rfl⟩
      | ok p => exact .inr (.inr ⟨_, _, .applyData hp, rfl⟩)

/-- All that an operation that returns can do. -/
theorem step_returned_iff {refusal : Schema.Refusal} {l l' : LiveForm} {a : Action} :
    (l.step a refusal).returned = .ok l' ↔
      (∃ message, Clears a message ∧ l' = l.cleared message) ∨
        ∃ form, Prepares l a form ∧ (l.replace form refusal).returned = .ok l' := by
  constructor
  · intro h
    rcases step_cases refusal l a with
      ⟨fault, heard, hstep⟩ | ⟨message, hclears, hstep⟩ | ⟨form, heard, hform, hstep⟩
    · rw [hstep] at h
      cases h
    · exact .inl ⟨message, hclears, Except.ok.inj (h.symm.trans hstep)⟩
    · rw [hstep, Turn.returned_precededBy] at h
      exact .inr ⟨form, hform, h⟩
  · rintro (⟨message, hclears, rfl⟩ | ⟨form, hform, h⟩)
    · cases hclears with
      | fail hmessages => simp only [step, fail, hmessages]; rfl
      | response herrors => simp only [step, loadResponse, herrors]; rfl
    · obtain ⟨heard, hstep⟩ := hform.exists_step_eq refusal
      rw [hstep]
      exact h

/-! ## Runs -/

/-- What every operation of a run keeps the run keeps. -/
theorem run_invariant {p : LiveForm → Prop} {refusal : Schema.Refusal} {as : List Action}
    {l l' : LiveForm} (hstep : ∀ a ∈ as, ∀ m m', p m → (m.step a refusal).returned = .ok m' → p m')
    (hl : p l) (h : l.run as refusal = .ok l') : p l' := by
  induction as generalizing l with
  | nil =>
      cases h
      exact hl
  | cons a as ih =>
      obtain ⟨m, hm, h⟩ := Fault.bind_eq_ok_iff.mp h
      exact ih (fun b hb => hstep b (by simp [hb])) (hstep a (by simp) l m hl hm) h

theorem run_append (refusal : Schema.Refusal) (l : LiveForm) (as bs : List Action) :
    l.run (as ++ bs) refusal = l.run as refusal >>= fun next => next.run bs refusal := by
  induction as generalizing l with
  | nil => rfl
  | cons a as ih =>
      simp only [List.cons_append, run]
      cases (l.step a refusal).returned with
      | error fault => rfl
      | ok m => exact ih m

end ConditionalForms.LiveForm
