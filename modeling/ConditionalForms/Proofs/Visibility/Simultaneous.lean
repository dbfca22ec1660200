import ConditionalForms.Proofs.Rule.Frame
import ConditionalForms.Visibility.Pass

/-! # Judging all rules at once

A pass changes the form that it walks through while it judges the rules against it. Here all rules
are judged against the form as it was before, and the report is counted from the form as it is
after. A pass comes to the same, since rules do not look at what it changes.
-/

namespace ConditionalForms

/-! ## The report of a form -/

namespace Report

def addFields (sectionName : String) (r : Report) (fs : List Field) : Report :=
  fs.foldl (fun r f => r.addField (fieldKey sectionName f.name) f.standing) r

def addWhole (r : Report) (s : Section) : Report :=
  (r.addSection s.name s.standing).addFields s.name s.fields

/-- The report of the standings of a form. -/
def ofForm (form : Schema) : Report := form.sections.foldl addWhole {}

end Report

namespace Visibility

open Rule (Dialect)

/-! ## Simultaneous judgement -/

def judgedField? (d : Dialect) (now : Schema) (sec : Section) (f : Field) : Except Fault Field :=
  (Rule.judge? d now f.rule).map fun r => { f with standing := fieldStanding sec r }

def judgedSection? (d : Dialect) (now : Schema) (sec : Section) : Except Fault Section := do
  let r ← Rule.judge? d now sec.rule
  let sec := { sec with standing := sectionStanding r }
  let fields ← sec.fields.mapM (judgedField? d now sec)
  .ok { sec with fields }

/-- A form, all its rules judged against the form as it is. -/
def judged? (d : Dialect) (form : Schema) : Except Fault Schema := do
  let sections ← form.sections.mapM (judgedSection? d form)
  .ok { form with sections }

theorem unmarked_of_judgedField? {d : Dialect} {now : Schema} {sec : Section} {f g : Field}
    (h : judgedField? d now sec f = .ok g) : g.unmarked = f.unmarked := by
  obtain ⟨r, -, rfl⟩ := Fault.map_eq_ok_iff.mp h
  rfl

/-! ### Standings do not matter -/

theorem judgedSection?_unmarked (d : Dialect) (now : Schema) (sec : Section) :
    judgedSection? d now sec.unmarked = judgedSection? d now sec := by
  simp only [judgedSection?, Section.unmarked, List.mapM_map]
  rfl

theorem judgedSection?_congr {now now' : Schema} (h : now.unmarked = now'.unmarked) (d : Dialect) :
    judgedSection? d now = judgedSection? d now' := by
  have hfield : judgedField? d now = judgedField? d now' := by
    funext sec f
    rw [judgedField?, judgedField?, Rule.judge?_congr h]
  funext sec
  simp only [judgedSection?, Rule.judge?_congr h, hfield]

theorem judged?_unmarked (d : Dialect) (form : Schema) :
    judged? d form.unmarked = judged? d form := by
  have hsection : judgedSection? d form.unmarked ∘ Section.unmarked = judgedSection? d form := by
    funext sec
    rw [Function.comp_apply, judgedSection?_unmarked,
      judgedSection?_congr (Schema.unmarked_unmarked form)]
  simp only [judged?, Schema.unmarked_sections, List.mapM_map, hsection]
  rfl

theorem judged?_congr {form form' : Schema} (h : form.unmarked = form'.unmarked) (d : Dialect) :
    judged? d form = judged? d form' := by
  rw [← judged?_unmarked, h, judged?_unmarked]

/-! ## The walk as a computation -/

/-- What a walk to the end leaves behind: the parts and the report, or the fault that stopped it. -/
def Walk.result {α : Type} (w : Walk α) : Except Fault (List α × Report) :=
  match w.fault with
  | none => .ok (w.parts, w.report)
  | some fault => .error fault

theorem Walk.result_eq_ok_iff {α : Type} {w : Walk α} {parts : List α} {report : Report} :
    w.result = .ok (parts, report) ↔ w.fault = none ∧ w.parts = parts ∧ w.report = report := by
  unfold Walk.result
  cases w.fault <;> simp

theorem Walk.result_eq_error_iff {α : Type} {w : Walk α} {fault : Fault} :
    w.result = .error fault ↔ w.fault = some fault := by
  unfold Walk.result
  cases w.fault <;> simp

/-! ## One step of a walk -/

theorem walkFields_cons_result (d : Dialect) (sec : Section) (around : List Field → Schema)
    (done : List Field) (report : Report) (f : Field) (rest : List Field) :
    (walkFields d sec around done report (f :: rest)).result =
      (Rule.judge? d (around (done ++ f :: rest)) f.rule >>= fun r =>
        let g := { f with standing := fieldStanding sec r }
        (walkFields d sec around (done ++ [g])
          (report.addField (Report.fieldKey sec.name g.name) g.standing) rest).result) := by
  simp only [walkFields]
  cases Rule.judge? d (around (done ++ f :: rest)) f.rule <;> rfl

theorem walkSections_cons_result (d : Dialect) (form : Schema) (done : List Section)
    (report : Report) (sec : Section) (rest : List Section) :
    (walkSections d form done report (sec :: rest)).result =
      (Rule.judge? d { form with sections := done ++ sec :: rest } sec.rule >>= fun r =>
        let judged := { sec with standing := sectionStanding r }
        (walkFields d judged
          (fun fields => { form with sections := done ++ { judged with fields } :: rest }) []
          (report.addSection judged.name judged.standing) sec.fields).result >>= fun inner =>
        (walkSections d form (done ++ [{ judged with fields := inner.1 }]) inner.2
          rest).result) := by
  simp only [walkSections]
  cases Rule.judge? d { form with sections := done ++ sec :: rest } sec.rule with
  | error fault => rfl
  | ok r =>
      simp only [Fault.ok_bind]
      split
      · rename_i fault hfault
        rw [Walk.result_eq_error_iff.mpr hfault]
        rfl
      · rename_i hfault
        rw [Walk.result_eq_ok_iff.mpr ⟨hfault, rfl, rfl⟩]
        rfl

/-! ## The walk judges as if at once -/

/-- Walking through fields of a section: whatever was set before, rules are judged as against a form
that differs in standings alone. -/
theorem walkFields_result (d : Dialect) (now : Schema) (sec : Section)
    (around : List Field → Schema) (done rest : List Field) (report : Report)
    (h : ∀ fields, fields.map Field.unmarked = (done ++ rest).map Field.unmarked →
      (around fields).unmarked = now.unmarked) :
    (walkFields d sec around done report rest).result =
      (rest.mapM (judgedField? d now sec)).map fun fs =>
        (done ++ fs, report.addFields sec.name fs) := by
  induction rest generalizing done report with
  | nil => simp [walkFields, Walk.result, Report.addFields]
  | cons f rest ih =>
      rw [walkFields_cons_result, Rule.judge?_congr (h _ rfl), Fault.mapM_cons, judgedField?]
      cases Rule.judge? d now f.rule with
      | error fault => rfl
      | ok r =>
          simp only [Fault.ok_bind, Fault.map_ok]
          rw [ih _ _ fun fields hfields => h fields (by simpa using hfields)]
          cases rest.mapM (judgedField? d now sec) with
          | error fault => rfl
          | ok fs => simp [Report.addFields]

theorem walkSections_result (d : Dialect) (now form : Schema) (done rest : List Section)
    (report : Report) (h : { form with sections := done ++ rest }.unmarked = now.unmarked) :
    (walkSections d form done report rest).result =
      (rest.mapM (judgedSection? d now)).map fun ss =>
        (done ++ ss, ss.foldl Report.addWhole report) := by
  induction rest generalizing done report with
  | nil => simp [walkSections, Walk.result]
  | cons sec rest ih =>
      rw [walkSections_cons_result, Rule.judge?_congr h, Fault.mapM_cons, judgedSection?]
      cases Rule.judge? d now sec.rule with
      | error fault => rfl
      | ok r =>
          simp only [Fault.ok_bind]
          rw [walkFields_result d now]
          · cases hfields : sec.fields.mapM (judgedField? d now _) with
            | error fault => rfl
            | ok fs =>
                simp only [Fault.map_ok, Fault.ok_bind, List.nil_append]
                rw [ih]
                · cases rest.mapM (judgedSection? d now) with
                  | error fault => rfl
                  | ok ss => simp [Report.addWhole]
                · have hsame :=
                    Fault.map_eq_of_mapM_eq_ok (fun _ _ => unmarked_of_judgedField?) hfields
                  rw [← h, Schema.unmarked_eq_iff]
                  simpa [Section.unmarked] using hsame
          · intro fields hfields
            rw [← h, Schema.unmarked_eq_iff]
            simpa [Section.unmarked] using hfields

/-! ## The pass -/

theorem walk_result (d : Dialect) (form : Schema) :
    (walkSections d form [] {} form.sections).result =
      (judged? d form).map fun form' => (form'.sections, Report.ofForm form') := by
  rw [walkSections_result d form form [] form.sections {} rfl, judged?]
  cases form.sections.mapM (judgedSection? d form) <;> rfl

/-- A pass reports what judging all rules at once reports, and meets a fault exactly when that does.
-/
theorem pass_report (d : Dialect) (form : Schema) :
    (pass d form).report = (judged? d form).map Report.ofForm := by
  have hwalk := walk_result d form
  unfold pass
  cases hjudged : judged? d form with
  | error fault =>
      rw [hjudged, Fault.map_error, Walk.result_eq_error_iff] at hwalk
      simp [hwalk]
  | ok form' =>
      rw [hjudged, Fault.map_ok, Walk.result_eq_ok_iff] at hwalk
      simp [hwalk]

/-- A pass that returns leaves the form with all rules judged at once. -/
theorem pass_form {d : Dialect} {form form' : Schema} (h : judged? d form = .ok form') :
    (pass d form).form = form' := by
  have hwalk := walk_result d form
  rw [h, Fault.map_ok, Walk.result_eq_ok_iff] at hwalk
  obtain ⟨sections, hsections, hform⟩ := Fault.bind_eq_ok_iff.mp h
  cases hform
  simp [pass, hwalk]

end Visibility

end ConditionalForms
