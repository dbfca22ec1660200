import ConditionalForms.Proofs.Fault.Returning
import ConditionalForms.Proofs.Review.Codec
import ConditionalForms.Proofs.Review.Namesakes

/-! # Snapshots written back

A snapshot lists every field with its value. Written to a form with the same sections and fields,
it makes the values those of the form that it was taken from, provided that this form is uniform.
-/

namespace ConditionalForms.Review

/-! ## Taking a snapshot -/

def ReviewField.ofField (f : Field) : ReviewField where
  name := f.name
  typeTag := f.typeTag
  value := f.value
  rule := f.rule
  standing := f.standing
  flags := .ofKind f.kind
  options := f.options

def ReviewSection.ofSection (s : Section) : ReviewSection where
  name := s.name
  order := s.order
  rule := s.rule
  standing := s.standing
  fields := s.fields.map ReviewField.ofField

/-- The snapshot of a form. -/
def Payload.ofSchema (s : Schema) : Payload := ⟨s.sections.map ReviewSection.ofSection⟩

theorem ReviewField.ofField?_eq_ok {f : Field} (h : f.value.isPlain) :
    ReviewField.ofField? f = .ok (.ofField f) := by
  simp only [ReviewField.ofField?, Json.checkPlain_of_isPlain h]
  rfl

theorem ReviewSection.ofSection?_eq_ok {s : Section} (h : ∀ f ∈ s.fields, f.value.isPlain) :
    ReviewSection.ofSection? s = .ok (.ofSection s) := by
  rw [ReviewSection.ofSection?,
    Fault.mapM_eq_ok_of_forall fun f hf => ReviewField.ofField?_eq_ok (h f hf)]
  rfl

theorem Payload.ofSchema?_eq_ok {s : Schema} (h : s.IsPlain) :
    Payload.ofSchema? s = .ok (.ofSchema s) := by
  rw [Payload.ofSchema?,
    Fault.mapM_eq_ok_of_forall fun sec hsec => ReviewSection.ofSection?_eq_ok (h sec hsec)]
  rfl

theorem Payload.isPlain_ofSchema {s : Schema} (h : s.IsPlain) : (Payload.ofSchema s).IsPlain := by
  intro q hq
  obtain ⟨sec, hsec, rfl⟩ := List.mem_map.mp hq
  intro r hr
  obtain ⟨f, hf, rfl⟩ := List.mem_map.mp hr
  exact h sec hsec f hf

theorem Payload.names_ofSchema (s : Schema) :
    (Payload.ofSchema s).sections.map (·.name) = s.sections.map (·.name) := by
  simp [Payload.ofSchema, Function.comp_def, ReviewSection.ofSection]

theorem Payload.namesakes_ofSchema (s : Schema) (sectionName name : String) :
    (Payload.ofSchema s).namesakes sectionName name =
      (s.namesakes sectionName name).map ReviewField.ofField := by
  have hfind : (s.sections.map ReviewSection.ofSection).find? (·.name = sectionName) =
      (s.section? sectionName).map ReviewSection.ofSection := by
    rw [List.find?_map]
    rfl
  rw [Payload.namesakes, Payload.ofSchema, hfind, Schema.namesakes]
  cases s.section? sectionName with
  | none => rfl
  | some sec =>
      simp only [Option.map_some, ReviewSection.ofSection, List.filter_map]
      rfl

/-! ## Writing it back -/

theorem held_ofSchema (s : Schema) (sectionName name : String) :
    (Payload.ofSchema s).held sectionName name =
      (s.namesakes sectionName name).map (·.value) := by
  rw [Payload.held, Payload.namesakes_ofSchema, List.map_map]
  rfl

/-- Namesakes in a uniform form hold one value. -/
theorem held_ofSchema_of_mem {s : Schema} (hs : s.Uniform) {sec : Section}
    (hsec : sec ∈ s.sections) {f : Field} (hf : f ∈ sec.fields) :
    (Payload.ofSchema s).held sec.name f.name =
      List.replicate (s.namesakes sec.name f.name).length f.value := by
  rw [held_ofSchema, List.eq_replicate_iff, List.length_map]
  refine ⟨rfl, ?_⟩
  intro value hvalue
  obtain ⟨g, hg, rfl⟩ := List.mem_map.mp hvalue
  rw [Schema.namesakes_of_mem hs.names hsec] at hg
  obtain ⟨hg, hname⟩ := List.mem_filter.mp hg
  exact hs.agree sec hsec g hg f hf (by simpa using hname)

theorem lastValue_ofSchema {s : Schema} (hs : s.Uniform) {sec : Section} (hsec : sec ∈ s.sections)
    {f : Field} (hf : f ∈ sec.fields) (own : Json) :
    lastValue ((Payload.ofSchema s).namesakes sec.name f.name) own = f.value := by
  have hlength : (s.namesakes sec.name f.name).length ≠ 0 := by
    simpa using Schema.namesakes_ne_nil hs.names hsec hf
  rw [lastValue_namesakes, held_ofSchema_of_mem hs hsec hf, List.getLast?_replicate, if_neg hlength]
  rfl

/-- The snapshot of a uniform form carries its values over to any form with the same blank. -/
theorem unmarked_applyValues_ofSchema {s t : Schema} (hs : s.Uniform) (ht : t.blank = s.blank) :
    (applyValues (.ofSchema s) t).unmarked = s.unmarked := by
  have hnames := Schema.names_eq_of_blank_eq ht
  apply Schema.unmarked_eq_of_blank_eq
  · rw [blank_applyValues, ht]
  · rw [applyValues_eq_mapFields (hnames ▸ hs.names) (hnames ▸ Payload.names_ofSchema s)]
    intro i sec sec' hsec hsec' hname j f g hf hg hfname
    obtain ⟨tsec, -, rfl⟩ := List.mem_map.mp (List.mem_of_getElem? hsec')
    obtain ⟨tfield, -, rfl⟩ := List.mem_map.mp (List.mem_of_getElem? hg)
    have hsecname : tsec.name = sec.name := hname
    have hfieldname : tfield.name = f.name := hfname
    have hlast := lastValue_ofSchema hs (List.mem_of_getElem? hsec) (List.mem_of_getElem? hf)
      tfield.value
    rwa [← hsecname, ← hfieldname] at hlast

end ConditionalForms.Review
