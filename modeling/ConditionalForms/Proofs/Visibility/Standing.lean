import ConditionalForms.Proofs.Visibility.Simultaneous

/-! # What a pass comes to

After a pass every part of a form stands as its rule makes it stand, judged against the form as it
was before. Standings from before have no part in it, so that a second pass changes nothing.
-/

namespace ConditionalForms.Visibility

open Rule (Dialect)

/-- A field stands as its section and the result of its own rule make it stand. Its own rule counts
as satisfied even where the section is hidden. -/
structure FieldStands (d : Dialect) (now : Schema) (sec : Section) (f : Field) (r : Rule.Result) :
    Prop where
  judged : Rule.judge? d now f.rule = .ok r
  satisfied : f.standing.satisfied = r.satisfied
  visible : f.standing.visible = (sec.standing.visible && r.satisfied)
  detail : f.standing.detail =
    if sec.standing.visible then r.detail
    else some ("section " ++ Text.quoted sec.name ++ " hidden")

/-- A section stands as the result of its rule makes it stand, and so do its fields. -/
structure SectionStands (d : Dialect) (now : Schema) (sec : Section) (r : Rule.Result) : Prop where
  judged : Rule.judge? d now sec.rule = .ok r
  satisfied : sec.standing.satisfied = r.satisfied
  visible : sec.standing.visible = r.satisfied
  detail : sec.standing.detail = r.detail
  fields : ∀ f ∈ sec.fields, ∃ q, FieldStands d now sec f q

/-- Every part of a form stands as its rule, judged against the form `now`, makes it stand. -/
def Stands (d : Dialect) (now form : Schema) : Prop :=
  ∀ sec ∈ form.sections, ∃ r, SectionStands d now sec r

theorem FieldStands.standing_eq {d : Dialect} {now : Schema} {sec : Section} {f : Field}
    {r : Rule.Result} (h : FieldStands d now sec f r) : f.standing = fieldStanding sec r := by
  rw [fieldStanding, ← h.visible, ← h.satisfied, hiddenSectionDetail, ← h.detail]

theorem SectionStands.standing_eq {d : Dialect} {now : Schema} {sec : Section} {r : Rule.Result}
    (h : SectionStands d now sec r) : sec.standing = sectionStanding r := by
  calc sec.standing
      = ⟨sec.standing.visible, sec.standing.satisfied, sec.standing.detail⟩ := rfl
    _ = ⟨r.satisfied, r.satisfied, r.detail⟩ := by rw [h.visible, h.satisfied, h.detail]

theorem fieldStands_of_judgedField? {d : Dialect} {now : Schema} {sec : Section} {f g : Field}
    (h : judgedField? d now sec f = .ok g) : ∃ r, FieldStands d now sec g r := by
  obtain ⟨r, hr, rfl⟩ := Fault.map_eq_ok_iff.mp h
  exact ⟨r, hr, rfl, rfl, rfl⟩

theorem sectionStands_of_judgedSection? {d : Dialect} {now : Schema} {sec sec' : Section}
    (h : judgedSection? d now sec = .ok sec') : ∃ r, SectionStands d now sec' r := by
  obtain ⟨r, hr, h⟩ := Fault.bind_eq_ok_iff.mp h
  obtain ⟨fields, hfields, h⟩ := Fault.bind_eq_ok_iff.mp h
  cases h
  refine ⟨r, hr, rfl, rfl, rfl, ?_⟩
  intro f hf
  obtain ⟨q, hq⟩ := Fault.forall_of_mapM_eq_ok (fun _ _ => fieldStands_of_judgedField?) hfields f hf
  exact ⟨q, hq.judged, hq.satisfied, hq.visible, hq.detail⟩

theorem stands_of_judged? {d : Dialect} {form form' : Schema} (h : judged? d form = .ok form') :
    Stands d form form' := by
  obtain ⟨sections, hsections, h⟩ := Fault.bind_eq_ok_iff.mp h
  cases h
  exact Fault.forall_of_mapM_eq_ok (fun _ _ => sectionStands_of_judgedSection?) hsections

/-- Standings follow as well from any form with the same values, such as the judged one itself. -/
theorem Stands.congr {d : Dialect} {now now' form : Schema} (h : now.unmarked = now'.unmarked)
    (hs : Stands d now form) : Stands d now' form := by
  intro sec hsec
  obtain ⟨r, hr⟩ := hs sec hsec
  refine ⟨r, Rule.judge?_congr h d sec.rule ▸ hr.judged, hr.satisfied, hr.visible, hr.detail, ?_⟩
  intro f hf
  obtain ⟨q, hq⟩ := hr.fields f hf
  exact ⟨q, Rule.judge?_congr h d f.rule ▸ hq.judged, hq.satisfied, hq.visible, hq.detail⟩

/-! ## What passes keep -/

theorem walkFields_unmarked (d : Dialect) (sec : Section) (around : List Field → Schema)
    (done rest : List Field) (report : Report) :
    (walkFields d sec around done report rest).parts.map Field.unmarked =
      (done ++ rest).map Field.unmarked := by
  induction rest generalizing done report with
  | nil => simp [walkFields]
  | cons f rest ih =>
      rw [walkFields]
      cases Rule.judge? d (around (done ++ f :: rest)) f.rule with
      | error fault => rfl
      | ok r =>
          dsimp only
          rw [ih]
          simp

theorem walkSections_unmarked (d : Dialect) (form : Schema) (done rest : List Section)
    (report : Report) :
    (walkSections d form done report rest).parts.map Section.unmarked =
      (done ++ rest).map Section.unmarked := by
  induction rest generalizing done report with
  | nil => simp [walkSections]
  | cons sec rest ih =>
      rw [walkSections]
      cases Rule.judge? d { form with sections := done ++ sec :: rest } sec.rule with
      | error fault => rfl
      | ok r =>
          dsimp only
          split
          · simp [Section.unmarked, walkFields_unmarked]
          · rw [ih]
            simp [Section.unmarked, walkFields_unmarked]

/-- A pass changes standings alone, even one that a fault stops. -/
theorem pass_unmarked (d : Dialect) (form : Schema) :
    (pass d form).form.unmarked = form.unmarked := by
  have hwalk := walkSections_unmarked d form [] form.sections {}
  rw [Schema.unmarked_eq_iff]
  unfold pass
  dsimp only
  split <;> exact ⟨hwalk, rfl⟩

/-! ## Passes that return -/

/-- A pass returns exactly when all rules can be judged at once, and then leaves just that. -/
theorem pass_eq_ok_iff {d : Dialect} {form : Schema} {report : Report} :
    (pass d form).report = .ok report ↔
      judged? d form = .ok (pass d form).form ∧ report = Report.ofForm (pass d form).form := by
  rw [pass_report, Fault.map_eq_ok_iff]
  constructor
  · rintro ⟨form', hform, rfl⟩
    rw [pass_form hform]
    exact ⟨hform, rfl⟩
  · rintro ⟨hform, rfl⟩
    exact ⟨_, hform, rfl⟩

/-- A pass comes to the same over forms that differ in standings alone. -/
theorem pass_congr {d : Dialect} {form other : Schema} {report : Report}
    (h : (pass d form).report = .ok report) (hsame : other.unmarked = form.unmarked) :
    (pass d other).form = (pass d form).form ∧ (pass d other).report = .ok report := by
  obtain ⟨hform, -⟩ := pass_eq_ok_iff.mp h
  refine ⟨pass_form ((judged?_congr hsame d).trans hform), ?_⟩
  rw [pass_report, judged?_congr hsame, ← pass_report, h]

/-- What a pass that returns has done: all rules are judged against the form before it, nothing but
standings has changed, what stood before has had no part in it, and a second pass changes nothing.
-/
structure Settled (d : Dialect) (before after : Schema) (report : Report) : Prop where
  stands : Stands d before after
  unmarked : after.unmarked = before.unmarked
  counted : report = Report.ofForm after
  independent : ∀ other : Schema, other.unmarked = before.unmarked →
    (pass d other).form = after ∧ (pass d other).report = .ok report
  again : (pass d after).form = after ∧ (pass d after).report = .ok report

/-- The walk through a form in place comes to the same as judging every rule at once against the
form before the pass. -/
theorem pass_settled {d : Dialect} {form : Schema} {report : Report}
    (h : (pass d form).report = .ok report) : Settled d form (pass d form).form report := by
  obtain ⟨hform, hreport⟩ := pass_eq_ok_iff.mp h
  exact
    { stands := stands_of_judged? hform
      unmarked := pass_unmarked d form
      counted := hreport
      independent := fun other hother => pass_congr h hother
      again := pass_congr h (pass_unmarked d form) }

/-- A form whose rules point forwards, backwards and at their own field, with a section name and a
field name that occur twice and with standings that no pass would leave. -/
def crossedForm : Schema where
  sections := [
    { name := "General", rule := "[Damage].[Cost]{~7}", fields := [
        { name := "Condition", value := .text "Worn", rule := "[General].[Condition]{=worn}"
          standing := ⟨false, true, some "stale"⟩ },
        { name := "Condition", value := .bool true, rule := "[Damage].[Cost]{=8}" }] },
    { name := "Damage", rule := "[General].[Condition]{!=worn}"
      standing := ⟨true, false, some "stale"⟩, fields := [
        { name := "Cost", value := .text "17" }] },
    { name := "General", rule := "[General].[Missing]{=}" }]

def crossedReport : Report where
  visibleSections := 1
  visibleFields := 1
  hiddenSections := ["Damage", "General"]
  hiddenFields := ["General.Condition", "Damage.Cost"]
  details := [
    ("General.Condition", "[Damage].[Cost]: '17' = '8' is false"),
    ("Damage", "[General].[Condition]: 'Worn' != 'worn' is false"),
    ("Damage.Cost", "section 'Damage' hidden"),
    ("General", "[General].[Missing]: field 'Missing' not found in section 'General'")]

theorem pass_settled_crossedForm :
    (pass .name crossedForm).report = .ok crossedReport ∧
      Settled .name crossedForm (pass .name crossedForm).form crossedReport := by
  have hreport : (pass .name crossedForm).report = .ok crossedReport := rfl
  exact ⟨hreport, pass_settled hreport⟩

end ConditionalForms.Visibility
