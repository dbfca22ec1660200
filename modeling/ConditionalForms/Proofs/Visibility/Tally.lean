import ConditionalForms.Proofs.Assoc.Overwriting
import ConditionalForms.Proofs.Visibility.Standing

/-! # Reports and the standings they are about

The report of a pass counts what the pass leaves visible and lists what it leaves hidden, in display
order and as often as it is there. Its reasons are about what it lists, each name and each key once.
-/

namespace ConditionalForms

/-! ## The parts of a form -/

/-- A section and its fields with the keys that they are reported under, in the order of a pass. -/
def Section.keyed (sec : Section) : List (String × Standing) :=
  (sec.name, sec.standing) ::
    sec.fields.map fun f => (Report.fieldKey sec.name f.name, f.standing)

/-- The keys of the hidden fields of a section. -/
def Section.hiddenKeys (sec : Section) : List String :=
  (sec.fields.filter (!·.standing.visible)).map fun f => Report.fieldKey sec.name f.name

namespace Schema

/-- The hidden parts of a form with the keys that they are reported under, in the order of a pass.
-/
def hidden (form : Schema) : List (String × Standing) :=
  (form.sections.flatMap Section.keyed).filter (!·.2.visible)

theorem mem_hidden_iff {form : Schema} {key : String} {s : Standing} :
    (key, s) ∈ form.hidden ↔ s.visible = false ∧ ∃ sec ∈ form.sections,
      (key, s) = (sec.name, sec.standing) ∨
        ∃ f ∈ sec.fields, (key, s) = (Report.fieldKey sec.name f.name, f.standing) := by
  simp only [hidden, Section.keyed, List.mem_filter, List.mem_flatMap, List.mem_cons, List.mem_map,
    Bool.not_eq_true', eq_comm (a := (key, s))]
  exact and_comm

end Schema

/-! ## Counting -/

namespace Report

/-- The entry of a report for something hidden. -/
def entry (item : String × Standing) : String × String := (item.1, reason item.2)

theorem addFields_eq (sectionName : String) (r : Report) (fs : List Field) :
    r.addFields sectionName fs =
      { r with
        visibleFields := r.visibleFields + fs.countP (·.standing.visible)
        hiddenFields := r.hiddenFields ++
          (fs.filter (!·.standing.visible)).map fun f => fieldKey sectionName f.name
        details := Assoc.putAll r.details
          (((fs.map fun f => (fieldKey sectionName f.name, f.standing)).filter
            (!·.2.visible)).map entry) } := by
  induction fs generalizing r with
  | nil => simp [addFields, Assoc.putAll]
  | cons f fs ih =>
      rw [addFields, List.foldl_cons, ← addFields, ih]
      cases hvisible : f.standing.visible with
      | true => simp [addField, hvisible, Nat.add_right_comm, ← Nat.add_assoc]
      | false => simp [addField, hvisible, Assoc.putAll, entry]

theorem addWhole_eq (r : Report) (sec : Section) :
    r.addWhole sec =
      { visibleSections := r.visibleSections + [sec].countP (·.standing.visible)
        visibleFields := r.visibleFields + sec.fields.countP (·.standing.visible)
        hiddenSections := r.hiddenSections ++ ([sec].filter (!·.standing.visible)).map (·.name)
        hiddenFields := r.hiddenFields ++ sec.hiddenKeys
        details := Assoc.putAll r.details ((sec.keyed.filter (!·.2.visible)).map entry) } := by
  rw [addWhole, addFields_eq]
  cases hvisible : sec.standing.visible with
  | true => simp [addSection, hvisible, Section.hiddenKeys, Section.keyed]
  | false => simp [addSection, hvisible, Section.hiddenKeys, Section.keyed, Assoc.putAll, entry]

theorem foldl_addWhole_eq (ss : List Section) (r : Report) :
    ss.foldl addWhole r =
      { visibleSections := r.visibleSections + ss.countP (·.standing.visible)
        visibleFields := r.visibleFields + (ss.flatMap (·.fields)).countP (·.standing.visible)
        hiddenSections := r.hiddenSections ++ (ss.filter (!·.standing.visible)).map (·.name)
        hiddenFields := r.hiddenFields ++ ss.flatMap Section.hiddenKeys
        details := Assoc.putAll r.details
          (((ss.flatMap Section.keyed).filter (!·.2.visible)).map entry) } := by
  induction ss generalizing r with
  | nil => simp [Assoc.putAll]
  | cons sec ss ih =>
      have hcons : sec :: ss = [sec] ++ ss := rfl
      rw [List.foldl_cons, ih, addWhole_eq]
      simp only [hcons, List.countP_append, List.filter_append, List.map_append,
        List.flatMap_append, List.flatMap_singleton, Assoc.putAll_append, Nat.add_assoc,
        List.append_assoc]

/-- The report of the standings of a form, part by part. -/
theorem ofForm_eq (form : Schema) :
    ofForm form =
      { visibleSections := form.sections.countP (·.standing.visible)
        visibleFields := form.allFields.countP (·.standing.visible)
        hiddenSections := (form.sections.filter (!·.standing.visible)).map (·.name)
        hiddenFields := form.sections.flatMap Section.hiddenKeys
        details := Assoc.ofPairs (form.hidden.map entry) } := by
  rw [ofForm, foldl_addWhole_eq]
  simp only [Nat.zero_add, List.nil_append]
  rfl

/-- A report counts what is visible of a form and lists what is hidden, and has reasons for just
that. -/
structure Tallies (form : Schema) (r : Report) : Prop where
  visibleSections : r.visibleSections = form.sections.countP (·.standing.visible)
  visibleFields : r.visibleFields = form.allFields.countP (·.standing.visible)
  /-- Hidden sections are listed in display order, as often as there are any of that name. -/
  hiddenSections : r.hiddenSections = (form.sections.filter (!·.standing.visible)).map (·.name)
  hiddenFields : r.hiddenFields = form.sections.flatMap Section.hiddenKeys
  sections : r.visibleSections + r.hiddenSections.length = form.sections.length
  fields : r.visibleFields + r.hiddenFields.length = form.allFields.length
  /-- A hidden section hides its fields. -/
  cascade : ∀ sec ∈ form.sections, sec.standing.visible = false → ∀ f ∈ sec.fields,
    f.standing.visible = false ∧ fieldKey sec.name f.name ∈ r.hiddenFields
  keys : ∀ key, key ∈ r.details.map (·.1) ↔ key ∈ r.hiddenSections ∨ key ∈ r.hiddenFields
  once : (r.details.map (·.1)).Nodup

theorem mem_hiddenKeys_iff {sec : Section} {key : String} :
    key ∈ sec.hiddenKeys ↔
      ∃ f ∈ sec.fields, f.standing.visible = false ∧ fieldKey sec.name f.name = key := by
  simp [Section.hiddenKeys, and_assoc]

theorem countP_add_length_hidden {α : Type} (visible : α → Bool) (xs : List α) :
    xs.countP visible + (xs.filter (!visible ·)).length = xs.length := by
  rw [← List.countP_eq_length_filter, List.length_eq_countP_add_countP visible]
  simp

theorem length_flatMap_hiddenKeys (ss : List Section) :
    (ss.flatMap Section.hiddenKeys).length =
      ((ss.flatMap (·.fields)).filter (!·.standing.visible)).length := by
  induction ss with
  | nil => rfl
  | cons sec ss ih => simp [ih, Section.hiddenKeys]

/-- The keys of the reasons are those of the hidden parts. -/
theorem mem_keys_details_ofForm {form : Schema} {key : String} :
    key ∈ (ofForm form).details.map (·.1) ↔
      key ∈ (ofForm form).hiddenSections ∨ key ∈ (ofForm form).hiddenFields := by
  have hkeys : key ∈ (ofForm form).details.map (·.1) ↔ ∃ s, (key, s) ∈ form.hidden := by
    rw [ofForm_eq, Assoc.mem_keys_ofPairs, List.map_map]
    simp [entry]
  rw [hkeys, ofForm_eq]
  simp only [Schema.mem_hidden_iff, List.mem_map, List.mem_filter, List.mem_flatMap,
    mem_hiddenKeys_iff, Prod.mk.injEq, Bool.not_eq_true']
  constructor
  · rintro ⟨s, hidden, sec, hsec, ⟨rfl, rfl⟩ | ⟨f, hf, rfl, rfl⟩⟩
    · exact .inl ⟨sec, ⟨hsec, hidden⟩, rfl⟩
    · exact .inr ⟨sec, hsec, f, hf, hidden, rfl⟩
  · rintro (⟨sec, ⟨hsec, hidden⟩, rfl⟩ | ⟨sec, hsec, f, hf, hidden, rfl⟩)
    · exact ⟨_, hidden, sec, hsec, .inl ⟨rfl, rfl⟩⟩
    · exact ⟨_, hidden, sec, hsec, .inr ⟨f, hf, rfl, rfl⟩⟩

/-- The report of a form in which hidden sections hide their fields. -/
theorem tallies_ofForm {form : Schema}
    (h : ∀ sec ∈ form.sections, sec.standing.visible = false → ∀ f ∈ sec.fields,
      f.standing.visible = false) : (ofForm form).Tallies form where
  visibleSections := by rw [ofForm_eq]
  visibleFields := by rw [ofForm_eq]
  hiddenSections := by rw [ofForm_eq]
  hiddenFields := by rw [ofForm_eq]
  sections := by
    rw [ofForm_eq, List.length_map]
    exact countP_add_length_hidden _ form.sections
  fields := by
    rw [ofForm_eq, length_flatMap_hiddenKeys]
    exact countP_add_length_hidden _ form.allFields
  cascade := by
    intro sec hsec hidden f hf
    have hfield := h sec hsec hidden f hf
    refine ⟨hfield, ?_⟩
    rw [ofForm_eq]
    exact List.mem_flatMap.mpr ⟨sec, hsec, mem_hiddenKeys_iff.mpr ⟨f, hf, hfield, rfl⟩⟩
  keys _ := mem_keys_details_ofForm
  once := by
    rw [ofForm_eq]
    exact Assoc.nodup_keys_ofPairs _

end Report

namespace Visibility

open Rule (Dialect)

theorem Stands.hides_fields {d : Dialect} {now form : Schema} (h : Stands d now form) :
    ∀ sec ∈ form.sections, sec.standing.visible = false → ∀ f ∈ sec.fields,
      f.standing.visible = false := by
  intro sec hsec hidden f hf
  obtain ⟨r, hr⟩ := h sec hsec
  obtain ⟨q, hq⟩ := hr.fields f hf
  rw [hq.visible, hidden, Bool.false_and]

/-- The report of a pass that returns tallies with the standings that the pass leaves. -/
theorem tallies_of_pass {d : Dialect} {form : Schema} {report : Report}
    (h : (pass d form).report = .ok report) : report.Tallies (pass d form).form := by
  obtain ⟨hform, rfl⟩ := pass_eq_ok_iff.mp h
  exact Report.tallies_ofForm (stands_of_judged? hform).hides_fields

/-- A form with two hidden fields of one name, and a hidden section that is named like their key. -/
def namesakeForm : Schema where
  sections := [
    { name := "Visit", fields := [
        { name := "Notes", rule := "[Visit].[Outcome]{=broken}" },
        { name := "Notes", rule := "[Repair].[Cost]{>7}" },
        { name := "Outcome", value := .text "Worn" }] },
    { name := "Visit.Notes", rule := "[Visit].[Notes]{!=}", fields := [{ name := "Author" }] }]

def namesakeReport : Report where
  visibleSections := 1
  visibleFields := 1
  hiddenSections := ["Visit.Notes"]
  hiddenFields := ["Visit.Notes", "Visit.Notes", "Visit.Notes.Author"]
  details := [
    ("Visit.Notes", "[Visit].[Notes]: actual value is null"),
    ("Visit.Notes.Author", "section 'Visit.Notes' hidden")]

theorem tallies_of_pass_namesakeForm :
    (pass .name namesakeForm).report = .ok namesakeReport ∧
      namesakeReport.Tallies (pass .name namesakeForm).form := by
  have hreport : (pass .name namesakeForm).report = .ok namesakeReport := rfl
  exact ⟨hreport, tallies_of_pass hreport⟩

end Visibility

end ConditionalForms
