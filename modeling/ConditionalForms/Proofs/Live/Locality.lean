import ConditionalForms.Proofs.Live.Revision
import ConditionalForms.Proofs.Rule.Reads

/-! # Edits act locally

An edit sets the values of one name, and a pass then gives every part of the form its standing anew.
Parts whose rules read no field of that name are given the standing that they had.
-/

namespace ConditionalForms

/-- What an edit of a name does to a form, part by part. A part whose rule ignores the name keeps
its standing; a field hangs on the rule of its section as well. -/
structure Schema.EditedLocally (d : Rule.Dialect) (name : String) (value : Json)
    (before after : Schema) : Prop where
  /-- Nothing but values and standings changes. -/
  blank : after.blank = before.blank
  values : ∀ (i : Nat) (sec sec' : Section), before.sections[i]? = some sec →
    after.sections[i]? = some sec' → ∀ (j : Nat) (f f' : Field), sec.fields[j]? = some f →
      sec'.fields[j]? = some f' → f'.value = if f.name = name then value else f.value
  sections : ∀ (i : Nat) (sec sec' : Section), before.sections[i]? = some sec →
    after.sections[i]? = some sec' → Rule.Ignores d before name sec.rule →
      sec'.standing = sec.standing
  fields : ∀ (i : Nat) (sec sec' : Section), before.sections[i]? = some sec →
    after.sections[i]? = some sec' → Rule.Ignores d before name sec.rule →
      ∀ (j : Nat) (f f' : Field), sec.fields[j]? = some f → sec'.fields[j]? = some f' →
        Rule.Ignores d before name f.rule → f'.standing = f.standing

/-! ## Two forms side by side -/

section Beside

variable {d : Rule.Dialect} {s t : Schema} {name : String} {value : Json}

/-- Sections at one place of two forms, of which the one has the values of the other but for those
of a name. -/
theorem Schema.beside_of_setValue (h : t.unmarked = (LiveForm.setValue name value s).unmarked)
    {i : Nat} {sec sec' : Section} (hsec : s.sections[i]? = some sec)
    (hsec' : t.sections[i]? = some sec') :
    sec'.name = sec.name ∧ sec'.rule = sec.rule ∧
      ∀ (j : Nat) (f f' : Field), sec.fields[j]? = some f → sec'.fields[j]? = some f' →
        f'.rule = f.rule ∧ f'.value = if f.name = name then value else f.value := by
  have hsections := congrArg (fun u : Schema => u.sections[i]?) h
  simp only [unmarked_sections, LiveForm.setValue, mapFields, List.getElem?_map, hsec, hsec',
    Option.map_some, Option.some.injEq] at hsections
  have hname := congrArg Section.name hsections
  have hrule := congrArg Section.rule hsections
  refine ⟨hname, hrule, ?_⟩
  intro j f f' hf hf'
  have hfields := congrArg (fun u : Section => u.fields[j]?) hsections
  simp only [Section.unmarked_fields, List.getElem?_map, hf, hf', Option.map_some,
    Option.some.injEq] at hfields
  have hrule := congrArg Field.rule hfields
  have hvalue := congrArg Field.value hfields
  rw [Field.unmarked_rule, Field.unmarked_rule] at hrule
  rw [Field.unmarked_value, Field.unmarked_value] at hvalue
  rw [hrule, hvalue]
  split <;> exact ⟨rfl, rfl⟩

/-- A rule that ignores a name comes to the same in two forms that differ in standings and in the
values of that name. -/
theorem Rule.judge?_of_ignores (h : t.unmarked = (LiveForm.setValue name value s).unmarked)
    {raw : String} (hraw : Ignores d s name raw) : judge? d t raw = judge? d s raw :=
  (judge?_congr h d raw).trans (judge?_setValue hraw value)

/-- The rule of the second section of a visit hangs on the outcome and not on the notes. -/
example : Rule.Ignores .name visitForm "Notes" "[Visit].[Outcome]\x7b=broken\x7d" ∧
    ¬Rule.Ignores .name visitForm "Outcome" "[Visit].[Outcome]\x7b=broken\x7d" := by
  decide +kernel

namespace Visibility

theorem SectionStands.eq_of_ignores {sec sec' : Section} {r r' : Rule.Result}
    (hs : SectionStands d s sec r) (ht : SectionStands d t sec' r')
    (h : t.unmarked = (LiveForm.setValue name value s).unmarked) (hrule : sec'.rule = sec.rule)
    (hignores : Rule.Ignores d s name sec.rule) : sec'.standing = sec.standing := by
  have hjudged := ht.judged
  rw [hrule, Rule.judge?_of_ignores h hignores, hs.judged] at hjudged
  rw [ht.standing_eq, hs.standing_eq, Except.ok.inj hjudged]

theorem FieldStands.eq_of_ignores {sec sec' : Section} {f f' : Field} {r r' : Rule.Result}
    (hs : FieldStands d s sec f r) (ht : FieldStands d t sec' f' r')
    (h : t.unmarked = (LiveForm.setValue name value s).unmarked) (hrule : f'.rule = f.rule)
    (hignores : Rule.Ignores d s name f.rule) (hname : sec'.name = sec.name)
    (hstanding : sec'.standing = sec.standing) : f'.standing = f.standing := by
  have hjudged := ht.judged
  rw [hrule, Rule.judge?_of_ignores h hignores, hs.judged] at hjudged
  rw [ht.standing_eq, hs.standing_eq, fieldStanding, fieldStanding, hname, hstanding,
    Except.ok.inj hjudged]

/-- Two forms stand as their own rules make them stand, and the one has the values of the other but
for those of a name. -/
theorem editedLocally_of_stands (hs : Stands d s s) (ht : Stands d t t)
    (h : t.unmarked = (LiveForm.setValue name value s).unmarked) :
    s.EditedLocally d name value t := by
  have hsections : ∀ (i : Nat) (sec sec' : Section), s.sections[i]? = some sec →
      t.sections[i]? = some sec' → Rule.Ignores d s name sec.rule →
        sec'.standing = sec.standing := by
    intro i sec sec' hsec hsec' hignores
    obtain ⟨-, hrule, -⟩ := Schema.beside_of_setValue h hsec hsec'
    obtain ⟨r, hr⟩ := hs sec (List.mem_of_getElem? hsec)
    obtain ⟨r', hr'⟩ := ht sec' (List.mem_of_getElem? hsec')
    exact hr.eq_of_ignores hr' h hrule hignores
  constructor
  case blank => exact (Schema.blank_congr h).trans (Schema.blank_setValue name value s)
  case values =>
    intro i sec sec' hsec hsec' j f f' hf hf'
    obtain ⟨-, -, hfields⟩ := Schema.beside_of_setValue h hsec hsec'
    exact (hfields j f f' hf hf').2
  case sections => exact hsections
  case fields =>
    intro i sec sec' hsec hsec' hignores j f f' hf hf' hignores'
    obtain ⟨hname, -, hfields⟩ := Schema.beside_of_setValue h hsec hsec'
    obtain ⟨r, hr⟩ := hs sec (List.mem_of_getElem? hsec)
    obtain ⟨r', hr'⟩ := ht sec' (List.mem_of_getElem? hsec')
    obtain ⟨q, hq⟩ := hr.fields f (List.mem_of_getElem? hf)
    obtain ⟨q', hq'⟩ := hr'.fields f' (List.mem_of_getElem? hf')
    exact hq.eq_of_ignores hq' h (hfields j f f' hf hf').1 hignores' hname
      (hsections i sec sec' hsec hsec' hignores)

end Visibility

end Beside

namespace LiveForm

/-! ## Edits of a live form -/

theorem settings_of_run {l l' : LiveForm} {as : List Action} (h : l.run as = .ok l') :
    l'.settings = l.settings := by
  refine run_invariant (p := fun m => m.settings = l.settings) ?_ rfl h
  intro a _ m m' hm hstep
  rcases step_returned_iff.mp hstep with ⟨message, -, rfl⟩ | ⟨form, -, hreplace⟩
  · exact hm
  · obtain ⟨-, rfl⟩ := Turn.returned_eq_ok_iff.mp hreplace
    exact (replace_after Schema.refusal? m form).1.trans hm

/-- To whatever state operations that return have brought a live form, an edit of it that returns
acts locally. -/
theorem editedLocally_of_run {settings : Settings} {traced : Bool} {as : List Action}
    {l l' : LiveForm} {name : String} {value : Json} (h : (fresh settings traced).run as = .ok l)
    (hedit : (l.edit name value).returned = .ok l') :
    l.form.EditedLocally settings.dialect name value l'.form := by
  have hcurrent : Current l :=
    run_invariant (fun _ _ _ _ hm hstep => current_step hm hstep) (current_fresh settings traced) h
  have hcurrent' : Current l' := current_step (a := .edit name value) hcurrent hedit
  obtain ⟨-, rfl⟩ := Turn.returned_eq_ok_iff.mp hedit
  obtain ⟨hsettings, -, hsame⟩ := replace_after Schema.refusal? l (setValue name value l.form)
  have hstands' := hcurrent'.stands
  rw [show (l.edit name value).after.settings = l.settings from hsettings] at hstands'
  have hlocal := Visibility.editedLocally_of_stands hcurrent.stands hstands' hsame
  rwa [settings_of_run h] at hlocal

theorem editedLocally_of_run_visit :
    ∃ l l', (fresh {} true).run visitRun = .ok l ∧
      (l.edit "Notes" (.text "seen")).returned = .ok l' ∧
      l.form.EditedLocally .name "Notes" (.text "seen") l'.form := by
  have hreturns : ((fresh {} true).run (visitRun ++ [.edit "Notes" (.text "seen")])).isOk := by
    simp only [visitRun, List.cons_append, List.nil_append, run, step, load, buildFrom_visitRecords]
    decide +kernel
  obtain ⟨l', hl'⟩ := Fault.exists_eq_ok_of_isOk hreturns
  rw [run_append] at hl'
  obtain ⟨l, hl, hl'⟩ := Fault.bind_eq_ok_iff.mp hl'
  obtain ⟨m, hm, -⟩ := Fault.bind_eq_ok_iff.mp hl'
  exact ⟨l, m, hl, hm, editedLocally_of_run hl hm⟩

end LiveForm

end ConditionalForms
