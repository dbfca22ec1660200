import ConditionalForms.Proofs.Form.Uniform
import ConditionalForms.Proofs.Visibility.Reasons

/-! # Reasons under one key

A report keeps the reasons of sections under their names, and those of fields under the names of
section and field with a dot in between. Of hidden parts with one key the last one has its reason
there, so every part keeps its own exactly when no two of them share a key. Names can only bring
that about with a dot in a section name or with a field name that a section repeats.
-/

namespace ConditionalForms

/-! ## Keys -/

/-- No section name has a dot in it, and no section has two fields of one name. -/
def Schema.ClearlyKeyed (s : Schema) : Prop :=
  ∀ sec ∈ s.sections, '.' ∉ sec.name.toList ∧ (sec.fields.map (·.name)).Nodup

theorem Schema.ClearlyKeyed.congr {s t : Schema} (h : s.blank = t.blank) (hs : s.ClearlyKeyed) :
    t.ClearlyKeyed := by
  have hnames : ∀ u : Schema, u.ClearlyKeyed ↔ u.blank.ClearlyKeyed := by
    intro u
    simp [ClearlyKeyed, blank, Section.blank, Function.comp_def, Field.blank]
  rwa [hnames, ← h, ← hnames]

namespace Report

theorem toList_fieldKey (sectionName name : String) :
    (fieldKey sectionName name).toList = sectionName.toList ++ '.' :: name.toList := by
  simp [fieldKey]

theorem fieldKey_injective (sectionName : String) : Function.Injective (fieldKey sectionName) := by
  intro name name' h
  have hlists := congrArg String.toList h
  rw [toList_fieldKey, toList_fieldKey, List.append_cancel_left_eq, List.cons.injEq] at hlists
  exact String.toList_injective hlists.2

end Report

namespace Section

theorem keys_keyed (sec : Section) : sec.keyed.map (·.1) =
    sec.name :: (sec.fields.map (·.name)).map (Report.fieldKey sec.name) := by
  simp [keyed, Function.comp_def]

/-- Up to its first dot every key of a section is the name of the section. -/
theorem takeWhile_of_mem_keys {sec : Section} (hdot : '.' ∉ sec.name.toList) {key : String}
    (hkey : key ∈ sec.keyed.map (·.1)) : key.toList.takeWhile (· ≠ '.') = sec.name.toList := by
  have hname : ∀ c ∈ sec.name.toList, decide (c ≠ '.') := by
    intro c hc
    exact decide_eq_true fun he => hdot (he ▸ hc)
  rw [keys_keyed] at hkey
  rcases List.mem_cons.mp hkey with rfl | hkey
  · exact List.takeWhile_eq_self_iff.mpr hname
  · obtain ⟨name, -, rfl⟩ := List.mem_map.mp hkey
    rw [Report.toList_fieldKey, List.takeWhile_append_of_pos hname]
    simp

theorem nodup_keys_keyed {sec : Section} (hdot : '.' ∉ sec.name.toList)
    (hfields : (sec.fields.map (·.name)).Nodup) : (sec.keyed.map (·.1)).Nodup := by
  rw [keys_keyed, List.nodup_cons]
  refine ⟨?_, hfields.map (Report.fieldKey_injective sec.name)⟩
  intro hname
  obtain ⟨name, -, hkey⟩ := List.mem_map.mp hname
  apply hdot
  rw [← hkey, Report.toList_fieldKey]
  exact List.mem_append_right _ List.mem_cons_self

end Section

theorem Schema.ClearlyKeyed.nodup_hidden {s : Schema} (h : s.ClearlyKeyed)
    (hnames : (s.sections.map (·.name)).Nodup) : (s.hidden.map (·.1)).Nodup := by
  have hkeys : ((s.sections.flatMap Section.keyed).map (·.1)).Nodup := by
    rw [List.map_flatMap, List.nodup_flatMap]
    refine ⟨fun sec hsec => Section.nodup_keys_keyed (h sec hsec).1 (h sec hsec).2, ?_⟩
    have hdistinct := List.pairwise_map.mp hnames
    refine hdistinct.imp_of_mem ?_
    intro sec sec' hsec hsec' hne key hkey hkey'
    apply hne
    apply String.toList_injective
    rw [← Section.takeWhile_of_mem_keys (h sec hsec).1 hkey,
      ← Section.takeWhile_of_mem_keys (h sec' hsec').1 hkey']
  exact hkeys.sublist (List.filter_sublist.map _)

/-! ## Reasons -/

namespace Report

/-- The entry under a key is the reason that a standing gives. -/
def Tells (r : Report) (key : String) (s : Standing) : Prop :=
  ∃ text, s.detail = some text ∧ Assoc.get? r.details key = some text

/-- Each hidden part of a form has its own reason in a report, and an entry of its own. -/
structure KeepsReasons (form : Schema) (r : Report) : Prop where
  sections : ∀ sec ∈ form.sections, sec.standing.visible = false → r.Tells sec.name sec.standing
  fields : ∀ sec ∈ form.sections, ∀ f ∈ sec.fields, f.standing.visible = false →
    r.Tells (fieldKey sec.name f.name) f.standing
  count : r.details.length = r.hiddenCount

theorem length_hidden_keyed (ss : List Section) :
    ((ss.flatMap Section.keyed).filter (!·.2.visible)).length =
      (ss.filter (!·.standing.visible)).length + (ss.flatMap Section.hiddenKeys).length := by
  induction ss with
  | nil => rfl
  | cons sec ss ih =>
      have hfields : ((sec.fields.map fun f => (fieldKey sec.name f.name, f.standing)).filter
          (!·.2.visible)).length = sec.hiddenKeys.length := by
        simp [Section.hiddenKeys, List.filter_map, Function.comp_def]
      rw [List.flatMap_cons, List.flatMap_cons, List.filter_append, List.length_append,
        List.length_append, ih, Section.keyed]
      cases hvisible : sec.standing.visible <;>
        simp only [List.filter_cons, hvisible, hfields, Bool.not_true, Bool.not_false, if_true,
          Bool.false_eq_true, if_false, List.length_cons] <;> omega

theorem hiddenCount_ofForm (form : Schema) : (ofForm form).hiddenCount = form.hidden.length := by
  rw [hiddenCount, ofForm_eq, Schema.hidden, length_hidden_keyed, List.length_map]

section Explained

variable {form : Schema}

/-- Of the hidden parts with one key the last one has its reason there. -/
theorem tells_of_last (h : ∀ item ∈ form.hidden, Explains item.2)
    {before after : List (String × Standing)} {key : String} {s : Standing}
    (hsplit : form.hidden = before ++ (key, s) :: after) (hlast : key ∉ after.map (·.1)) :
    (ofForm form).Tells key s := by
  have hmem : (key, s) ∈ form.hidden := by simp [hsplit]
  have hhidden := ((Schema.mem_hidden_iff).mp hmem).1
  refine ⟨reason s, (h _ hmem).detail_eq hhidden, ?_⟩
  have hentries : form.hidden.map entry =
      before.map entry ++ entry (key, s) :: after.map entry := by
    rw [hsplit, List.map_append, List.map_cons]
  have hkeys : (entry (key, s)).1 ∉ (after.map entry).map (·.1) := by
    simpa [entry] using hlast
  rw [ofForm_eq, hentries]
  exact Assoc.get?_ofPairs_of_last hkeys

theorem keepsReasons_ofForm_iff (h : ∀ item ∈ form.hidden, Explains item.2) :
    (ofForm form).KeepsReasons form ↔ (form.hidden.map (·.1)).Nodup := by
  have hcount : (ofForm form).details.length = (ofForm form).hiddenCount ↔
      (form.hidden.map (·.1)).Nodup := by
    have hkeys : (form.hidden.map entry).map (·.1) = form.hidden.map (·.1) := by
      simp [entry, Function.comp_def]
    rw [hiddenCount_ofForm, ofForm_eq, ← hkeys, ← Assoc.length_ofPairs_eq_iff, List.length_map]
  refine ⟨fun hkeeps => hcount.mp hkeeps.count, fun hnodup => ?_⟩
  have htells : ∀ key s, (key, s) ∈ form.hidden → (ofForm form).Tells key s := by
    intro key s hmem
    obtain ⟨before, after, hsplit⟩ := List.append_of_mem hmem
    refine tells_of_last h hsplit ?_
    rw [hsplit, List.map_append, List.map_cons, List.nodup_append] at hnodup
    exact (List.nodup_cons.mp hnodup.2.1).1
  exact
    { sections := fun sec hsec hidden =>
        htells _ _ (Schema.mem_hidden_iff.mpr ⟨hidden, sec, hsec, .inl rfl⟩)
      fields := fun sec hsec f hf hidden =>
        htells _ _ (Schema.mem_hidden_iff.mpr ⟨hidden, sec, hsec, .inr ⟨f, hf, rfl⟩⟩)
      count := hcount.mpr hnodup }

end Explained

end Report

namespace Visibility

open Rule (Dialect)

/-- After a pass over a form that records make, whatever its values are, the last hidden part under
a key has its own reason in the report. All hidden parts have theirs, with as many entries as there
are hidden parts, exactly when no two of them share a key; and that is so whenever section names
have no dot and sections no field name twice. -/
theorem keepsReasons_iff_of_buildFrom {d : Dialect} {title : String} {records : Json}
    {built form : Schema} {report : Report}
    (hbuilt : Builder.buildFrom title records = .ok built) (hform : form.blank = built.blank)
    (hreport : (pass d form).report = .ok report) :
    (∀ before key s after, (pass d form).form.hidden = before ++ (key, s) :: after →
        key ∉ after.map (·.1) → report.Tells key s) ∧
      (report.KeepsReasons (pass d form).form ↔
        ((pass d form).form.hidden.map (·.1)).Nodup) ∧
      (built.ClearlyKeyed → report.KeepsReasons (pass d form).form) := by
  obtain ⟨rows, rfl⟩ := Builder.exists_rows_of_buildFrom hbuilt
  have hblank : (pass d form).form.blank = (Schema.ofRows title rows).blank :=
    (Schema.blank_congr (pass_unmarked d form)).trans hform
  obtain ⟨hjudged, rfl⟩ := pass_eq_ok_iff.mp hreport
  have hexplains := Report.explains_of_mem_hidden (stands_of_judged? hjudged).explains
  have hkeeps := Report.keepsReasons_ofForm_iff hexplains
  refine ⟨fun before key s after => Report.tells_of_last hexplains, hkeeps, ?_⟩
  intro hclear
  apply hkeeps.mpr
  apply (hclear.congr hblank.symm).nodup_hidden
  rw [Schema.names_eq_of_blank_eq hblank]
  exact Schema.nodup_names_ofRows title rows

theorem keepsReasons_iff_of_buildFrom_visit :
    ∃ report, (pass .name visitForm).report = .ok report ∧
      report.KeepsReasons (pass .name visitForm).form := by
  have hreturns : (pass .name visitForm).report.isOk := rfl
  obtain ⟨report, hreport⟩ := Fault.exists_eq_ok_of_isOk hreturns
  obtain ⟨-, hkeeps, -⟩ :=
    keepsReasons_iff_of_buildFrom (buildFrom_visitRecords "Other") rfl hreport
  -- A name that the first section repeats does no harm, as long as those fields are visible.
  exact ⟨report, hreport, hkeeps.mpr (by decide +kernel)⟩

/-! ## A section named like the key of a field -/

/-- Records that repeat no name. The name of the second section has a dot in it. -/
def dottedRecords : Json := .list [
  .object [("section", .text "Visit"), ("field_name", .text "Notes"),
    ("field_criteria", .text "[Visit].[Notes]\x7b=seen\x7d")],
  .object [("section", .text "Visit.Notes"), ("field_name", .text "Author"),
    ("section_criteria", .text "[Repair].[Cost]\x7b>7\x7d")]]

def dottedForm : Schema where
  sections := [
    { name := "Visit", position := 1, fields := [
        { name := "Notes", rule := "[Visit].[Notes]\x7b=seen\x7d", position := 1 }] },
    { name := "Visit.Notes", rule := "[Repair].[Cost]\x7b>7\x7d", position := 2
      fields := [{ name := "Author", position := 1 }] }]

def dottedReport : Report where
  visibleSections := 1
  hiddenSections := ["Visit.Notes"]
  hiddenFields := ["Visit.Notes", "Visit.Notes.Author"]
  details := [
    ("Visit.Notes", "[Repair].[Cost]: section 'Repair' not found"),
    ("Visit.Notes.Author", "section 'Visit.Notes' hidden")]

/-- A hidden field has the reason of a hidden section in the report, and its own is lost: there are
three hidden parts and two entries. -/
theorem not_keepsReasons_dotted :
    Builder.buildFrom "Other" dottedRecords = .ok dottedForm ∧
      (pass .name dottedForm).report = .ok dottedReport ∧
      ("Visit.Notes", ⟨false, false, some "[Visit].[Notes]: actual value is null"⟩) ∈
        (pass .name dottedForm).form.hidden ∧
      Assoc.get? dottedReport.details "Visit.Notes" =
        some "[Repair].[Cost]: section 'Repair' not found" ∧
      dottedReport.details.length = 2 ∧ dottedReport.hiddenCount = 3 ∧
      ¬dottedReport.KeepsReasons (pass .name dottedForm).form := by
  have hbuilt : Builder.buildFrom "Other" dottedRecords = .ok dottedForm :=
    Builder.buildFrom_of_pairwise rfl (by decide) (by decide)
  refine ⟨hbuilt, rfl, List.mem_of_getElem? (i := 0) rfl, rfl, rfl, rfl, ?_⟩
  intro hkeeps
  exact absurd hkeeps.count (by decide)

end Visibility

end ConditionalForms
