import ConditionalForms.Form.Basic

/-! # Forms without standings

What is left of a form when the standings of all its parts are taken back: names, types, orders,
options, rules, positions and values. Looking something up by name or position goes through.
-/

namespace ConditionalForms

/-- The field with the standing that it has before any pass. -/
def Field.unmarked (f : Field) : Field := { f with standing := {} }

def Section.unmarked (s : Section) : Section :=
  { s with fields := s.fields.map Field.unmarked, standing := {} }

def Schema.unmarked (s : Schema) : Schema := { s with sections := s.sections.map Section.unmarked }

/-- Lists with one image have items at the same places, whose images are the same. -/
theorem exists_getElem?_of_map_eq {α β γ : Type} {f : α → γ} {g : β → γ} {xs : List α} {ys : List β}
    (h : xs.map f = ys.map g) {i : Nat} {y : β} (hy : ys[i]? = some y) :
    ∃ x, xs[i]? = some x ∧ f x = g y := by
  have hi := congrArg (fun zs : List γ => zs[i]?) h
  simpa [hy] using hi

/-- Lists with one image have one image under another function too, if items at the same place do.
-/
theorem map_eq_of_map_eq {α β γ : Type} {f : α → β} {g : α → γ} {xs ys : List α}
    (h : xs.map f = ys.map f)
    (hitems : ∀ (i : Nat) (x y : α), xs[i]? = some x → ys[i]? = some y → f x = f y → g x = g y) :
    xs.map g = ys.map g := by
  apply List.ext_getElem?
  intro i
  cases hy : ys[i]? with
  | none =>
      have hi := congrArg (fun zs : List β => zs[i]?) h
      have hx : xs[i]? = none := by simpa [hy] using hi
      simp [hx, hy]
  | some y =>
      obtain ⟨x, hx, hsame⟩ := exists_getElem?_of_map_eq h hy
      simp [hx, hy, hitems i x y hx hy hsame]

namespace Field

@[simp] theorem unmarked_name (f : Field) : f.unmarked.name = f.name := rfl
@[simp] theorem unmarked_value (f : Field) : f.unmarked.value = f.value := rfl
@[simp] theorem unmarked_rule (f : Field) : f.unmarked.rule = f.rule := rfl
@[simp] theorem unmarked_position (f : Field) : f.unmarked.position = f.position := rfl
@[simp] theorem unmarked_unmarked (f : Field) : f.unmarked.unmarked = f.unmarked := rfl

@[simp] theorem unmarked_with_standing (f : Field) (s : Standing) :
    { f with standing := s }.unmarked = f.unmarked := rfl

end Field

namespace Section

@[simp] theorem unmarked_name (s : Section) : s.unmarked.name = s.name := rfl
@[simp] theorem unmarked_rule (s : Section) : s.unmarked.rule = s.rule := rfl
@[simp] theorem unmarked_position (s : Section) : s.unmarked.position = s.position := rfl
@[simp] theorem unmarked_fields (s : Section) :
    s.unmarked.fields = s.fields.map Field.unmarked := rfl

@[simp] theorem unmarked_unmarked (s : Section) : s.unmarked.unmarked = s.unmarked := by
  simp [unmarked, Function.comp_def]

theorem field?_unmarked (s : Section) (name : String) :
    s.unmarked.field? name = (s.field? name).map Field.unmarked := by
  rw [field?, unmarked_fields, List.find?_map]
  rfl

theorem fieldAt?_unmarked (s : Section) (position : Int) :
    s.unmarked.fieldAt? position = (s.fieldAt? position).map Field.unmarked := by
  rw [fieldAt?, unmarked_fields, List.find?_map]
  rfl

end Section

namespace Schema

@[simp] theorem unmarked_sections (s : Schema) :
    s.unmarked.sections = s.sections.map Section.unmarked := rfl

@[simp] theorem unmarked_unmarked (s : Schema) : s.unmarked.unmarked = s.unmarked := by
  simp [unmarked, Function.comp_def]

theorem section?_unmarked (s : Schema) (name : String) :
    s.unmarked.section? name = (s.section? name).map Section.unmarked := by
  rw [section?, unmarked_sections, List.find?_map]
  rfl

theorem sectionAt?_unmarked (s : Schema) (position : Int) :
    s.unmarked.sectionAt? position = (s.sectionAt? position).map Section.unmarked := by
  rw [sectionAt?, unmarked_sections, List.find?_map]
  rfl

theorem unmarked_eq_iff (s t : Schema) :
    s.unmarked = t.unmarked ↔
      s.sections.map Section.unmarked = t.sections.map Section.unmarked ∧ s.error = t.error := by
  simp [unmarked]

end Schema

end ConditionalForms
