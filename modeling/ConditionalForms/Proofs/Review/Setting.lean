import ConditionalForms.Proofs.Fault.Returning
import ConditionalForms.Proofs.Review.Namesakes
import ConditionalForms.Review.Session

/-! # Setting values in a session

A session sets the first field of a name in the first section of a name. Of the values that the
namesakes of a field hold, that replaces the first, and leaves all others.
-/

namespace ConditionalForms.Review

def valuesOf (name : String) (fs : List ReviewField) : List Json :=
  (fs.filter (·.name = name)).map (·.value)

/-- Some values, the first one replaced if there is something to replace it by. -/
def replaceHead (value? : Option Json) (vs : List Json) : List Json :=
  match value? with
  | some value => value :: vs.tail
  | none => vs

/-- Of two values that replace the first one, the later stays. -/
theorem replaceHead_replaceHead (later? earlier? : Option Json) (vs : List Json) :
    replaceHead later? (replaceHead earlier? vs) = replaceHead (later?.or earlier?) vs := by
  cases later? <;> cases earlier? <;> rfl

/-! ## Setting one value -/

theorem setField_eq_none_iff {name : String} {value : Json} {fs : List ReviewField} :
    setField name value fs = none ↔ valuesOf name fs = [] := by
  induction fs with
  | nil => simp [setField, valuesOf]
  | cons f fs ih =>
      by_cases hname : f.name = name
      · simp [setField, valuesOf, hname]
      · simpa [setField, valuesOf, hname] using ih

theorem valuesOf_setField {name : String} {value : Json} {fs fs' : List ReviewField}
    (h : setField name value fs = some fs') (name' : String) :
    valuesOf name' fs' = replaceHead (if name = name' then some value else none)
      (valuesOf name' fs) := by
  induction fs generalizing fs' with
  | nil => cases h
  | cons f fs ih =>
      by_cases hname : f.name = name
      · obtain rfl : { f with value } :: fs = fs' := by simpa [setField, hname] using h
        by_cases hsame : name = name'
        · simp [valuesOf, replaceHead, hname, hsame]
        · simp [valuesOf, replaceHead, hname, hsame]
      · obtain ⟨gs, hgs, rfl⟩ : ∃ gs, setField name value fs = some gs ∧ f :: gs = fs' := by
          simpa [setField, hname] using h
        have hrest := ih hgs
        by_cases hsame : f.name = name'
        · have hother : name ≠ name' := fun he => hname (hsame.trans he.symm)
          simpa [valuesOf, replaceHead, hsame, hother] using hrest
        · simpa [valuesOf, hsame] using hrest

theorem Payload.held_nil (sectionName name : String) :
    (⟨[]⟩ : Payload).held sectionName name = [] := rfl

theorem Payload.held_cons (s : ReviewSection) (ss : List ReviewSection)
    (sectionName name : String) :
    (⟨s :: ss⟩ : Payload).held sectionName name =
      if s.name = sectionName then valuesOf name s.fields
      else (⟨ss⟩ : Payload).held sectionName name := by
  by_cases hname : s.name = sectionName <;> simp [held, namesakes, valuesOf, hname]

theorem setSection_eq_none_iff {sectionName name : String} {value : Json}
    {ss : List ReviewSection} :
    setSection sectionName name value ss = none ↔ (⟨ss⟩ : Payload).held sectionName name = [] := by
  induction ss with
  | nil => simp [setSection, Payload.held_nil]
  | cons s ss ih =>
      rw [setSection, Payload.held_cons]
      split
      · rw [Option.map_eq_none_iff, setField_eq_none_iff]
      · rw [Option.map_eq_none_iff, ih]

theorem names_setSection {sectionName name : String} {value : Json} {ss ss' : List ReviewSection}
    (h : setSection sectionName name value ss = some ss') : ss'.map (·.name) = ss.map (·.name) := by
  induction ss generalizing ss' with
  | nil => cases h
  | cons s ss ih =>
      rw [setSection] at h
      split at h
      · obtain ⟨fields, -, rfl⟩ := Option.map_eq_some_iff.mp h
        rfl
      · obtain ⟨ts, hts, rfl⟩ := Option.map_eq_some_iff.mp h
        simp [ih hts]

theorem held_setSection {sectionName name : String} {value : Json} {ss ss' : List ReviewSection}
    (h : setSection sectionName name value ss = some ss') (sectionName' name' : String) :
    (⟨ss'⟩ : Payload).held sectionName' name' =
      replaceHead (if sectionName = sectionName' ∧ name = name' then some value else none)
        ((⟨ss⟩ : Payload).held sectionName' name') := by
  induction ss generalizing ss' with
  | nil => cases h
  | cons s ss ih =>
      rw [setSection] at h
      split at h
      · rename_i hname
        obtain ⟨fields, hfields, rfl⟩ := Option.map_eq_some_iff.mp h
        rw [Payload.held_cons, Payload.held_cons]
        by_cases hsame : s.name = sectionName'
        · have hiff : sectionName = sectionName' ∧ name = name' ↔ name = name' := by
            simp [← hname, hsame]
          simp only [hsame, if_true, hiff]
          exact valuesOf_setField hfields name'
        · have hother : ¬(sectionName = sectionName' ∧ name = name') := by
            simp [← hname, hsame]
          simp [hsame, hother, replaceHead]
      · rename_i hname
        obtain ⟨ts, hts, rfl⟩ := Option.map_eq_some_iff.mp h
        rw [Payload.held_cons, Payload.held_cons]
        by_cases hsame : s.name = sectionName'
        · have hother : ¬(sectionName = sectionName' ∧ name = name') := by
            rintro ⟨rfl, -⟩
            exact hname hsame
          simp [hsame, hother, replaceHead]
        · simp only [hsame, if_false]
          exact ih hts

variable {p q : Payload} {sectionName name : String} {value : Json}

/-- A value is set exactly where some field can hold it. -/
theorem Payload.set?_eq_none_iff :
    p.set? sectionName name value = none ↔ p.held sectionName name = [] := by
  rw [set?, Option.map_eq_none_iff, setSection_eq_none_iff]

theorem Payload.names_set? (h : p.set? sectionName name value = some q) :
    q.sections.map (·.name) = p.sections.map (·.name) := by
  obtain ⟨sections, hsections, rfl⟩ := Option.map_eq_some_iff.mp h
  exact names_setSection hsections

/-- Setting a value replaces the first value of the namesakes, and no other value at all. -/
theorem Payload.held_set? (h : p.set? sectionName name value = some q)
    (sectionName' name' : String) :
    q.held sectionName' name' =
      replaceHead (if sectionName = sectionName' ∧ name = name' then some value else none)
        (p.held sectionName' name') := by
  obtain ⟨sections, hsections, rfl⟩ := Option.map_eq_some_iff.mp h
  exact held_setSection hsections sectionName' name'

/-! ## Setting one value after another -/

/-- A value to be set, and where. -/
structure Setting where
  sectionName : String
  name : String
  value : Json

/-- Sets values one after another, and tells of each whether there was a field for it. -/
def Session.setAll (s : Session) : List Setting → Except Fault (List Bool × Session)
  | [] => .ok ([], s)
  | c :: cs => do
    let (answer, s) ← s.set c.sectionName c.name c.value
    let (answers, s) ← s.setAll cs
    .ok (answer :: answers, s)

theorem Session.set_opened (p : Payload) (sectionName name : String) (value : Json) :
    (opened p).set sectionName name value =
      .ok (match p.set? sectionName name value with
        | some q => (true, opened q)
        | none => (false, opened p)) := by
  rw [set, opened, payload?, Fault.ok_bind]
  cases p.set? sectionName name value <;> rfl

/-- The last value that was set in the fields of a name, by what the session answered. -/
def lastSet (cs : List Setting) (answers : List Bool) (sectionName name : String) : Option Json :=
  let kept := (cs.zip answers).filter fun (c, answer) =>
    answer && c.sectionName = sectionName && c.name = name
  kept.getLast?.map (·.1.value)

theorem lastSet_cons_false (c : Setting) (cs : List Setting) (answers : List Bool)
    (sectionName name : String) :
    lastSet (c :: cs) (false :: answers) sectionName name =
      lastSet cs answers sectionName name := by
  simp [lastSet]

theorem lastSet_cons_true (c : Setting) (cs : List Setting) (answers : List Bool)
    (sectionName name : String) :
    lastSet (c :: cs) (true :: answers) sectionName name =
      (lastSet cs answers sectionName name).or
        (if c.sectionName = sectionName ∧ c.name = name then some c.value else none) := by
  by_cases hname : c.sectionName = sectionName ∧ c.name = name
  · simp only [lastSet, List.zip_cons_cons]
    rw [List.filter_cons_of_pos (by simpa using hname), List.getLast?_cons, if_pos hname]
    cases List.getLast? _ <;> rfl
  · simp only [lastSet, List.zip_cons_cons]
    rw [List.filter_cons_of_neg (by simpa using hname), if_neg hname, Option.or_none]

/-- What setting values has done to a payload. -/
structure SetAll (cs : List Setting) (answers : List Bool) (p q : Payload) : Prop where
  names : q.sections.map (·.name) = p.sections.map (·.name)
  held : ∀ sectionName name, q.held sectionName name =
    replaceHead (lastSet cs answers sectionName name) (p.held sectionName name)
  found : ∀ sectionName name, lastSet cs answers sectionName name ≠ none →
    p.held sectionName name ≠ []

/-- A session that was opened takes all values that are set, one after another. -/
theorem setAll_opened (p : Payload) (cs : List Setting) :
    ∃ answers q, (Session.opened p).setAll cs = .ok (answers, Session.opened q) ∧
      SetAll cs answers p q := by
  induction cs generalizing p with
  | nil => exact ⟨[], p, rfl, rfl, fun _ _ => rfl, fun _ _ h => absurd rfl h⟩
  | cons c cs ih =>
      cases hset : p.set? c.sectionName c.name c.value with
      | none =>
          obtain ⟨answers, q, hrun, hq⟩ := ih p
          refine ⟨false :: answers, q, ?_, hq.names, ?_, ?_⟩
          · rw [Session.setAll, Session.set_opened, hset]
            simp [hrun]
          · simpa only [lastSet_cons_false] using hq.held
          · simpa only [lastSet_cons_false] using hq.found
      | some p' =>
          obtain ⟨answers, q, hrun, hq⟩ := ih p'
          refine ⟨true :: answers, q, ?_, hq.names.trans (Payload.names_set? hset), ?_, ?_⟩
          · rw [Session.setAll, Session.set_opened, hset]
            simp [hrun]
          · intro sectionName name
            rw [hq.held, Payload.held_set? hset, replaceHead_replaceHead, lastSet_cons_true]
          · intro sectionName name hsome
            rw [lastSet_cons_true] at hsome
            by_cases hname : c.sectionName = sectionName ∧ c.name = name
            · obtain ⟨rfl, rfl⟩ := hname
              intro hheld
              rw [Payload.set?_eq_none_iff.mpr hheld] at hset
              cases hset
            · rw [if_neg hname, Option.or_none] at hsome
              simpa [Payload.held_set? hset, hname, replaceHead] using hq.found _ _ hsome

end ConditionalForms.Review
