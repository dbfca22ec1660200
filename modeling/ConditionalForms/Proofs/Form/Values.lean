import ConditionalForms.Proofs.Form.Unmarked
import ConditionalForms.LiveForm

/-! # Forms with other values

Edits and reviews change the values of a form and nothing else. `Schema.blank` is what they keep,
and a form is known by its blank and its values, up to standings.
-/

namespace ConditionalForms

/-- The field without value and standing. -/
def Field.blank (f : Field) : Field := { f with value := .null, standing := {} }

def Section.blank (s : Section) : Section :=
  { s with fields := s.fields.map Field.blank, standing := {} }

namespace Schema

def blank (s : Schema) : Schema := { s with sections := s.sections.map Section.blank }

/-- The form with other values, each given by the index of its section and its field. -/
def withValues (v : Nat → Field → Json) (s : Schema) : Schema :=
  { s with sections := s.sections.mapIdx fun i sec =>
      { sec with fields := sec.fields.map fun f => { f with value := v i f } } }

/-! ## What is kept -/

theorem blank_unmarked (s : Schema) : s.unmarked.blank = s.blank := by
  simp [unmarked, blank, Section.unmarked, Section.blank, Function.comp_def, Field.unmarked,
    Field.blank]

theorem blank_congr {s t : Schema} (h : s.unmarked = t.unmarked) : s.blank = t.blank := by
  rw [← blank_unmarked, h, blank_unmarked]

theorem blank_withValues (v : Nat → Field → Json) (s : Schema) :
    (s.withValues v).blank = s.blank := by
  have hsections : (s.withValues v).sections.map Section.blank = s.sections.map Section.blank := by
    apply List.ext_getElem?
    intro i
    cases hsec : s.sections[i]? <;>
      simp [withValues, hsec, Section.blank, Function.comp_def, Field.blank]
  rw [blank, hsections]
  rfl

theorem error_eq_of_blank_eq {s t : Schema} (h : s.blank = t.blank) : s.error = t.error := by
  have herror := congrArg Schema.error h
  exact herror

theorem names_eq_of_blank_eq {s t : Schema} (h : s.blank = t.blank) :
    s.sections.map (·.name) = t.sections.map (·.name) := by
  have hnames := congrArg (fun u : Schema => u.sections.map (·.name)) h
  simpa [blank, Section.blank, Function.comp_def] using hnames

theorem sections_eq_nil_iff_of_blank_eq {s t : Schema} (h : s.blank = t.blank) :
    s.sections = [] ↔ t.sections = [] := by
  rw [← List.map_eq_nil_iff, names_eq_of_blank_eq h, List.map_eq_nil_iff]

/-! ## Setting values -/

@[simp] theorem withValues_self (s : Schema) : (s.withValues fun _ f => f.value) = s := by
  have hsections : s.sections.mapIdx (fun _ sec => sec) = s.sections := by
    apply List.ext_getElem?
    simp
  simp [withValues, hsections]

theorem withValues_withValues (v w : Nat → Field → Json) (s : Schema) :
    (s.withValues v).withValues w = s.withValues fun i f => w i { f with value := v i f } := by
  simp [withValues, Function.comp_def]

theorem names_withValues (v : Nat → Field → Json) (s : Schema) :
    (s.withValues v).sections.map (·.name) = s.sections.map (·.name) :=
  names_eq_of_blank_eq (blank_withValues v s)

theorem setValue_eq_withValues (name : String) (value : Json) (s : Schema) :
    LiveForm.setValue name value s =
      s.withValues fun _ f => if f.name = name then value else f.value := by
  have hfield (f : Field) : (if f.name = name then { f with value } else f) =
      { f with value := if f.name = name then value else f.value } := by
    split <;> rfl
  have hsections : ∀ g : Section → Section, s.sections.mapIdx (fun _ sec => g sec) =
      s.sections.map g := by
    intro g
    apply List.ext_getElem?
    simp
  simp only [LiveForm.setValue, mapFields, withValues, hfield, hsections]

theorem blank_setValue (name : String) (value : Json) (s : Schema) :
    (LiveForm.setValue name value s).blank = s.blank := by
  rw [setValue_eq_withValues, blank_withValues]

end Schema

/-! ## Blanks and values -/

theorem Field.unmarked_eq_of_blank_eq {f g : Field} (h : g.blank = f.blank)
    (hvalue : g.value = f.value) : g.unmarked = f.unmarked := by
  cases f
  cases g
  simp_all [Field.blank, Field.unmarked]

theorem Section.unmarked_eq_of_blank_eq {sec sec' : Section} (h : sec'.blank = sec.blank)
    (hvalue : ∀ (j : Nat) (f g : Field), sec.fields[j]? = some f → sec'.fields[j]? = some g →
      g.name = f.name → g.value = f.value) :
    sec'.unmarked = sec.unmarked := by
  have hblanks := congrArg Section.fields h
  have hfields : sec'.fields.map Field.unmarked = sec.fields.map Field.unmarked := by
    apply map_eq_of_map_eq hblanks
    intro j g f hg hf hblank
    have hname := congrArg Field.name hblank
    exact Field.unmarked_eq_of_blank_eq hblank (hvalue j f g hf hg hname)
  simp only [Section.blank, Section.mk.injEq] at h
  simp only [Section.unmarked, h, hfields]

/-- The parts of a form that other values were set in are where they were. -/
theorem Schema.exists_section_of_mapFields {s t : Schema} {v : Section → Field → Json}
    (h : t.unmarked = (s.mapFields fun sec f => { f with value := v sec f }).unmarked) {i : Nat}
    {sec : Section} (hsec : s.sections[i]? = some sec) :
    ∃ sec', t.sections[i]? = some sec' ∧ sec'.name = sec.name ∧
      ∀ (j : Nat) (f : Field), sec.fields[j]? = some f →
        ∃ f', sec'.fields[j]? = some f' ∧ f'.name = f.name ∧ f'.value = v sec f := by
  have hsections := ((Schema.unmarked_eq_iff _ _).mp h).1
  rw [mapFields, List.map_map] at hsections
  obtain ⟨sec', hsec', hsame⟩ := exists_getElem?_of_map_eq hsections hsec
  have hname := congrArg Section.name hsame
  refine ⟨sec', hsec', hname, ?_⟩
  intro j f hf
  have hfields := congrArg Section.fields hsame
  rw [Section.unmarked_fields, Function.comp_apply, Section.unmarked_fields,
    List.map_map] at hfields
  obtain ⟨f', hf', hsame⟩ := exists_getElem?_of_map_eq hfields hf
  have hfname := congrArg Field.name hsame
  have hvalue := congrArg Field.value hsame
  exact ⟨f', hf', hfname, hvalue⟩

/-- A form is known by its blank and its values, up to standings. -/
theorem Schema.unmarked_eq_of_blank_eq {s t : Schema} (h : t.blank = s.blank)
    (hvalue : ∀ (i : Nat) (sec sec' : Section), s.sections[i]? = some sec →
      t.sections[i]? = some sec' → sec'.name = sec.name → ∀ (j : Nat) (f g : Field),
        sec.fields[j]? = some f → sec'.fields[j]? = some g → g.name = f.name → g.value = f.value) :
    t.unmarked = s.unmarked := by
  have hblanks := congrArg Schema.sections h
  rw [Schema.unmarked_eq_iff]
  refine ⟨?_, Schema.error_eq_of_blank_eq h⟩
  apply map_eq_of_map_eq hblanks
  intro i sec' sec hsec' hsec hblank
  have hname := congrArg Section.name hblank
  exact Section.unmarked_eq_of_blank_eq hblank (hvalue i sec sec' hsec hsec' hname)

end ConditionalForms
