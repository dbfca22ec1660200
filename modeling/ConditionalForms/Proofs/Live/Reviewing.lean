import ConditionalForms.Proofs.Live.Revision
import ConditionalForms.Proofs.Review.Outcome

/-! # Reviewing a loaded form in a session

A form is loaded and edited, its payload goes through a session, and what the session submits is
written back.
-/

namespace ConditionalForms.LiveForm

open Review

/-- A live form after some edits, whether the pass of each of them has returned or not. -/
def edited (l : LiveForm) (edits : List (String × Json)) : LiveForm :=
  edits.foldl (fun l e => (l.edit e.1 e.2).after) l

theorem revised_edited {settings : Settings} {form : Schema} {l : LiveForm}
    {edits : List (String × Json)} (hedits : ∀ e ∈ edits, e.2.isPlain)
    (hl : Revised settings form l) : Revised settings form (l.edited edits) := by
  induction edits generalizing l with
  | nil => exact hl
  | cons e edits ih =>
      obtain ⟨he, hedits⟩ := List.forall_mem_cons.mp hedits
      exact ih hedits (revised_step (.edit e.1 he) hl)

/-- What writing back the payload of a session makes of a form, in which the session was given some
values to set. -/
structure Reviewed (set : String → String → Option Json) (before after : Schema) : Prop where
  /-- A value that was set is found in the form unless the field has a namesake that holds another
  one. -/
  survives : ∀ sectionName name value, set sectionName name = some value →
    (after.value? sectionName name = some value ↔
      before.Single sectionName name ∨ before.value? sectionName name = some value)
  /-- Where it is not, the old value is. -/
  lost : ∀ sectionName name value, set sectionName name = some value →
    ¬before.Single sectionName name →
      ∃ old, before.value? sectionName name = some old ∧ after.value? sectionName name = some old
  /-- Fields for which no value was set keep theirs. -/
  kept : ∀ (i : Nat) (sec : Section), before.sections[i]? = some sec →
    ∃ sec', after.sections[i]? = some sec' ∧ sec'.name = sec.name ∧
      ∀ (j : Nat) (f : Field), sec.fields[j]? = some f → set sec.name f.name = none →
        ∃ f', sec'.fields[j]? = some f' ∧ f'.name = f.name ∧ f'.value = f.value

theorem reviewed_of_withSingles {set : String → String → Option Json} {before after : Schema}
    (hset : ∀ sectionName name, set sectionName name ≠ none →
      before.namesakes sectionName name ≠ [])
    (h : after.unmarked = (before.withSingles set).unmarked) : Reviewed set before after := by
  have hvalue : ∀ sectionName name value, set sectionName name = some value →
      ∃ old, before.value? sectionName name = some old ∧ after.value? sectionName name =
        some (if before.Single sectionName name then value else old) := by
    intro sectionName name value hsome
    obtain ⟨f, fs, hfs⟩ := List.exists_cons_of_ne_nil (hset sectionName name (by simp [hsome]))
    have hold : before.value? sectionName name = some f.value := by
      simp [Schema.value?_eq_head?, hfs]
    refine ⟨f.value, hold, ?_⟩
    rw [Schema.value?_congr h, Schema.value?_withSingles, hold, hsome]
    rfl
  constructor
  · intro sectionName name value hsome
    obtain ⟨old, hold, hafter⟩ := hvalue sectionName name value hsome
    rw [hafter, hold]
    by_cases hsingle : before.Single sectionName name <;> simp [hsingle]
  · intro sectionName name value hsome hsingle
    obtain ⟨old, hold, hafter⟩ := hvalue sectionName name value hsome
    exact ⟨old, hold, by rw [hafter, if_neg hsingle]⟩
  · intro i sec hsec
    obtain ⟨sec', hsec', hname, hfields⟩ := Schema.exists_section_of_mapFields h hsec
    refine ⟨sec', hsec', hname, ?_⟩
    intro j f hf hnone
    obtain ⟨f', hf', hfname, hfvalue⟩ := hfields j f hf
    exact ⟨f', hf', hfname, by simpa [hnone] using hfvalue⟩

/-- A form is loaded and edited, and any number of values are set in a session on its payload. When
what the session submits is written back, a value that was set stays exactly where the field is the
only one of its name in the section, or held that value before. -/
theorem reviewed_session {l m : LiveForm} {start : Action} {edits : List (String × Json)}
    (hstart : start.Loads) (hload : (l.step start).returned = .ok m)
    (hedits : ∀ e ∈ edits, e.2.isPlain) (cs : List Setting) :
    ∃ p answers q s, (m.edited edits).review? = .ok p ∧
      (Session.opened p).setAll cs = .ok (answers, s) ∧ s.submit = .ok (q, {}) ∧
      Reviewed (lastSet cs answers) (m.edited edits).form
        ((m.edited edits).apply q).after.form := by
  obtain ⟨form, hform, hreplace⟩ := hstart.prepares hload
  have hrevised := revised_edited hedits (revised_of_loads hstart hform hreplace)
  obtain ⟨answers, q, hsetAll, hq⟩ := setAll_opened (.ofSchema (m.edited edits).form) cs
  refine ⟨_, answers, q, _, Payload.ofSchema?_eq_ok hrevised.plain, hsetAll, rfl, ?_⟩
  apply reviewed_of_withSingles
  · intro sectionName name hsome
    simpa [held_ofSchema] using hq.found sectionName name hsome
  · rw [← applyValues_of_setAll hrevised.uniform hq]
    exact (replace_after Schema.refusal? (m.edited edits) _).2.2

theorem reviewed_session_visit :
    ∃ m, ((fresh {} false).step (.load visitRecords)).returned = .ok m ∧
      ∃ p answers q s, (m.edited [("Outcome", .text "broken")]).review? = .ok p ∧
        (Session.opened p).setAll [⟨"Visit", "Notes", .text "seen"⟩, ⟨"Visit", "Outcome", .null⟩] =
          .ok (answers, s) ∧
        s.submit = .ok (q, {}) ∧
        Reviewed
          (lastSet [⟨"Visit", "Notes", .text "seen"⟩, ⟨"Visit", "Outcome", .null⟩] answers)
          (m.edited [("Outcome", .text "broken")]).form
          ((m.edited [("Outcome", .text "broken")]).apply q).after.form := by
  have hreturns : ((fresh {} false).step (.load visitRecords)).returned.isOk := by
    simp only [step, load, buildFrom_visitRecords]
    decide +kernel
  obtain ⟨m, hm⟩ := Fault.exists_eq_ok_of_isOk hreturns
  exact ⟨m, hm, reviewed_session (.load visitRecords) hm (by simp [Json.isPlain]) _⟩

/-- Of two fields with one name, the session sets the first and says so, and the value is lost. -/
theorem not_survives_visit :
    ∃ m p s q, ((fresh {} false).load visitRecords).returned = .ok m ∧ m.review? = .ok p ∧
      (Session.opened p).set "Visit" "Notes" (.text "seen") = .ok (true, s) ∧
      s.submit = .ok (q, {}) ∧ (m.apply q).fault = none ∧
      (m.apply q).after.form.value? "Visit" "Notes" = some .null := by
  simp only [load, buildFrom_visitRecords]
  exact ⟨_, _, _, _, rfl, rfl, rfl, rfl, rfl, rfl⟩

end ConditionalForms.LiveForm
