import ConditionalForms.Proofs.Live.Reviewing
import ConditionalForms.Proofs.Visibility.Returning

/-! # Only the last edit of a name counts

Passes leave no trace in a loaded form: once its rules have been read, edits always return, and what
they lead to hangs on the last value that each name was given.
-/

namespace ConditionalForms

/-- The value that some edits give to a name in the end. -/
def lastEdit (edits : List (String × Json)) (name : String) : Option Json :=
  (edits.filter (·.1 = name)).getLast?.map (·.2)

theorem lastEdit_cons (e : String × Json) (edits : List (String × Json)) (name : String) :
    lastEdit (e :: edits) name =
      (lastEdit edits name).or (if name = e.1 then some e.2 else none) := by
  unfold lastEdit
  by_cases h : e.1 = name
  · rw [List.filter_cons_of_pos (by simpa using h), List.getLast?_cons, if_pos h.symm]
    cases (edits.filter (·.1 = name)).getLast? <;> rfl
  · rw [List.filter_cons_of_neg (by simpa using h), if_neg (Ne.symm h), Option.or_none]

namespace Schema

/-! ## Values after edits -/

theorem withValues_congr {s : Schema} {v w : Nat → Field → Json}
    (h : ∀ f ∈ s.allFields, ∀ i, v i f = w i f) : s.withValues v = s.withValues w := by
  have hsections : ∀ (i : Nat) (sec : Section), s.sections[i]? = some sec →
      sec.fields.map (fun f => { f with value := v i f }) =
        sec.fields.map fun f => { f with value := w i f } := by
    intro i sec hsec
    apply List.map_congr_left
    intro f hf
    rw [h f (List.mem_flatMap.mpr ⟨sec, List.mem_of_getElem? hsec, hf⟩) i]
  rw [withValues, withValues]
  congr 1
  apply List.ext_getElem?
  intro i
  rw [List.getElem?_mapIdx, List.getElem?_mapIdx]
  cases hsec : s.sections[i]? with
  | none => rw [Option.map_none, Option.map_none]
  | some sec => rw [Option.map_some, Option.map_some, hsections i sec hsec]

theorem unmarked_setValue (name : String) (value : Json) (s : Schema) :
    (LiveForm.setValue name value s).unmarked = LiveForm.setValue name value s.unmarked := by
  have hfield : Field.unmarked ∘ (fun f => if f.name = name then { f with value } else f) =
      (fun f => if f.name = name then { f with value } else f) ∘ Field.unmarked := by
    funext f
    by_cases h : f.name = name <;> simp [h, Field.unmarked]
  simp only [LiveForm.setValue, mapFields, unmarked, Section.unmarked, List.map_map, hfield,
    Function.comp_def]

/-- The form after some edits, without passes between them. -/
def setValues (edits : List (String × Json)) (s : Schema) : Schema :=
  edits.foldl (fun s e => LiveForm.setValue e.1 e.2 s) s

theorem unmarked_setValues (edits : List (String × Json)) (s : Schema) :
    (s.setValues edits).unmarked = s.unmarked.setValues edits := by
  induction edits generalizing s with
  | nil => rfl
  | cons e edits ih =>
      rw [setValues, List.foldl_cons, ← setValues, ih, unmarked_setValue]
      rfl

theorem setValues_eq_withValues (edits : List (String × Json)) (s : Schema) :
    s.setValues edits = s.withValues fun _ f => (lastEdit edits f.name).getD f.value := by
  induction edits generalizing s with
  | nil => exact s.withValues_self.symm
  | cons e edits ih =>
      rw [setValues, List.foldl_cons, ← setValues, ih, setValue_eq_withValues,
        withValues_withValues]
      congr 1
      funext _ f
      rw [lastEdit_cons]
      cases lastEdit edits f.name with
      | some value => rfl
      | none => by_cases h : f.name = e.1 <;> simp [h]

theorem setValue_of_unknown {s : Schema} {name : String} (h : s.findFields name = [])
    (value : Json) : LiveForm.setValue name value s = s := by
  have hnone : ∀ f ∈ s.allFields, f.name ≠ name := by
    simpa [findFields] using h
  have hsame : s.withValues (fun _ f => if f.name = name then value else f.value) =
      s.withValues fun _ f => f.value :=
    withValues_congr fun f hf _ => if_neg (hnone f hf)
  rw [setValue_eq_withValues, hsame, withValues_self]

end Schema

namespace LiveForm

/-! ## Steady forms -/

/-- A live form over plain values that a pass has been run through and would not change. -/
structure Steady (l : LiveForm) : Prop where
  plain : l.form.IsPlain
  again : l.recompute.returned = .ok l

/-- A steady live form is known by its settings and its values. -/
theorem Steady.eq_of_unmarked_eq {l m : LiveForm} (hl : l.Steady) (hm : m.Steady)
    (hsettings : m.settings = l.settings) (htraced : m.traced = l.traced)
    (hsame : m.form.unmarked = l.form.unmarked) : m = l := by
  obtain ⟨-, report, hreport, hkept⟩ := replace_returned_iff.mp hl.again
  obtain ⟨-, report', hreport', hkept'⟩ := replace_returned_iff.mp hm.again
  obtain ⟨hform, hsome⟩ := Visibility.pass_congr hreport hsame
  rw [hsettings, hsome] at hreport'
  obtain rfl := Except.ok.inj hreport'
  rw [hkept, hkept', hsettings, htraced, hform]

/-- An edit of a steady live form returns, and what it leaves is steady. -/
theorem Steady.edit {l : LiveForm} (hl : l.Steady) (name : String) {value : Json}
    (hvalue : value.isPlain) :
    (l.edit name value).returned = .ok (l.edit name value).after ∧
      (l.edit name value).after.Steady := by
  obtain ⟨-, report, hreport, -⟩ := replace_returned_iff.mp hl.again
  -- The pass that would change nothing has read all rules, and an edit leaves them as they are.
  have hlegible := (Visibility.pass_returnsIff hl.plain _).returns.mp ⟨report, hreport⟩
  have hplain := hl.plain.setValue name hvalue
  have hnext := hlegible.congr (Schema.blank_setValue name value l.form).symm
  obtain ⟨report', hreport'⟩ := (Visibility.pass_returnsIff hplain _).returns.mpr hnext
  have hreturned : (l.edit name value).returned = .ok { l with
      form := (Visibility.pass l.settings.dialect (setValue name value l.form)).form
      report := some report' } :=
    replace_returned_iff.mpr
      ⟨taken_of_isPlain (fun _ => Schema.takesPlain_refusal?) hplain, report', hreport', rfl⟩
  obtain ⟨-, hafter⟩ := Turn.returned_eq_ok_iff.mp hreturned
  rw [hafter]
  refine ⟨hreturned, ?_, recompute_of_replace hreturned⟩
  exact hplain.congr (Visibility.pass_unmarked _ _).symm

theorem steady_of_loads {l m : LiveForm} {start : Action} (hstart : start.Loads)
    (h : (l.step start).returned = .ok m) : m.Steady := by
  obtain ⟨form, hform, h⟩ := hstart.prepares h
  exact ⟨(revised_of_loads hstart hform h).plain, recompute_of_replace h⟩

/-! ## Runs of edits -/

/-- Some edits as operations. -/
def edits (es : List (String × Json)) : List Action := es.map fun e => .edit e.1 e.2

theorem Steady.run_edits {l : LiveForm} (hl : l.Steady) {es : List (String × Json)}
    (hes : ∀ e ∈ es, e.2.isPlain) :
    l.run (edits es) = .ok (l.edited es) ∧ (l.edited es).Steady := by
  induction es generalizing l with
  | nil => exact ⟨rfl, hl⟩
  | cons e es ih =>
      obtain ⟨he, hes⟩ := List.forall_mem_cons.mp hes
      obtain ⟨hreturned, hafter⟩ := hl.edit e.1 he
      obtain ⟨hrun, hsteady⟩ := ih hafter hes
      refine ⟨?_, hsteady⟩
      change ((l.edit e.1 e.2).returned >>= fun next => next.run (edits es)) = _
      rw [hreturned]
      exact hrun

/-- What edits leave, whether they have returned or not, up to standings. -/
theorem edited_after (l : LiveForm) (es : List (String × Json)) :
    (l.edited es).settings = l.settings ∧ (l.edited es).traced = l.traced ∧
      (l.edited es).form.unmarked = (l.form.setValues es).unmarked := by
  induction es generalizing l with
  | nil => exact ⟨rfl, rfl, rfl⟩
  | cons e es ih =>
      obtain ⟨hsettings, htraced, hform⟩ := ih (l.edit e.1 e.2).after
      obtain ⟨hsettings', htraced', hform'⟩ :=
        replace_after Schema.refusal? l (setValue e.1 e.2 l.form)
      refine ⟨hsettings.trans hsettings', htraced.trans htraced', hform.trans ?_⟩
      rw [Schema.unmarked_setValues, Schema.unmarked_setValues]
      change Schema.setValues es (l.replace (setValue e.1 e.2 l.form)).after.form.unmarked = _
      rw [hform', Schema.unmarked_setValue]
      rfl

/-- Records are loaded, and two sequences of edits follow. All edits return. If the sequences agree
on what they give last to the name of each field, they leave the same form and the same report. An
edit of a name that no field has leaves everything as it is. -/
theorem edited_eq_of_lastEdit {l m : LiveForm} {start : Action} {es fs : List (String × Json)}
    (hstart : start.Loads) (hload : (l.step start).returned = .ok m)
    (hes : ∀ e ∈ es, e.2.isPlain) (hfs : ∀ e ∈ fs, e.2.isPlain)
    (hlast : ∀ f ∈ m.form.allFields, lastEdit es f.name = lastEdit fs f.name) :
    m.run (edits es) = .ok (m.edited es) ∧ m.run (edits fs) = .ok (m.edited fs) ∧
      m.edited es = m.edited fs ∧
      ∀ name value, (m.edited es).form.findFields name = [] →
        ((m.edited es).edit name value).returned = .ok (m.edited es) := by
  have hsteady := steady_of_loads hstart hload
  obtain ⟨hrun, hafter⟩ := hsteady.run_edits hes
  obtain ⟨hrun', hafter'⟩ := hsteady.run_edits hfs
  obtain ⟨hsettings, htraced, hform⟩ := edited_after m es
  obtain ⟨hsettings', htraced', hform'⟩ := edited_after m fs
  have hvalues : m.form.setValues es = m.form.setValues fs := by
    rw [Schema.setValues_eq_withValues, Schema.setValues_eq_withValues]
    exact Schema.withValues_congr fun f hf _ => by rw [hlast f hf]
  refine ⟨hrun, hrun', ?_, ?_⟩
  · apply hafter'.eq_of_unmarked_eq hafter (hsettings.trans hsettings'.symm)
      (htraced.trans htraced'.symm)
    rw [hform, hform', hvalues]
  · intro name value hunknown
    change ((m.edited es).replace (setValue name value (m.edited es).form)).returned = _
    rw [Schema.setValue_of_unknown hunknown]
    exact hafter.again

/-- Edits that show the second section for a while, one of a name that no field has, and the same
values given in another order. -/
def wanderingEdits : List (String × Json) :=
  [("Outcome", .text "broken"), ("Notes", .bool true), ("Nobody", .text "x"),
    ("Outcome", .text "sold")]

def directEdits : List (String × Json) :=
  [("Outcome", .text "sold"), ("Notes", .null), ("Notes", .bool true)]

theorem edited_eq_of_lastEdit_visit :
    ∃ m, ((fresh {} true).step (.load visitRecords)).returned = .ok m ∧
      m.run (edits wanderingEdits) = .ok (m.edited wanderingEdits) ∧
      m.run (edits directEdits) = .ok (m.edited directEdits) ∧
      m.edited wanderingEdits = m.edited directEdits ∧
      ∀ name value, (m.edited wanderingEdits).form.findFields name = [] →
        ((m.edited wanderingEdits).edit name value).returned = .ok (m.edited wanderingEdits) := by
  have hreturns : ((fresh {} true).step (.load visitRecords)).fault = none ∧
      ∀ f ∈ ((fresh {} true).step (.load visitRecords)).after.form.allFields,
        f.name ∈ ["Outcome", "Notes", "Cost"] := by
    simp only [step, load, buildFrom_visitRecords]
    decide +kernel
  obtain ⟨hfault, hnames⟩ := hreturns
  have hload := Turn.returned_eq_ok_iff.mpr ⟨hfault, rfl⟩
  have hlast : ∀ name ∈ ["Outcome", "Notes", "Cost"],
      lastEdit wanderingEdits name = lastEdit directEdits name := by
    simp [wanderingEdits, directEdits, lastEdit]
  exact ⟨_, hload, edited_eq_of_lastEdit (.load visitRecords) hload (by decide) (by decide)
    fun f hf => hlast f.name (hnames f hf)⟩

end LiveForm

end ConditionalForms
