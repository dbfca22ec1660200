import ConditionalForms.Proofs.Form.Values
import ConditionalForms.Proofs.Rule.Frame

/-! # The fields that a rule reads

A rule reads the fields that its atoms look up, and no other part of a form. Setting the values of a
name leaves the result of every rule that reads no field of that name.
-/

namespace ConditionalForms.Rule

/-! ## What is looked up -/

/-- What was found, with its field changed. -/
def Resolution.mapField (g : Field → Field) : Resolution → Resolution
  | .field f => .field (g f)
  | .sectionMissing => .sectionMissing
  | .fieldMissing => .fieldMissing

/-- A change that keeps names and positions keeps where targets lead to. -/
theorem resolve_mapFields {g : Field → Field} (hname : ∀ f, (g f).name = f.name)
    (hposition : ∀ f, (g f).position = f.position) (s : Schema) (t : Target) :
    resolve (s.mapFields fun _ => g) t = (resolve s t).mapField g := by
  cases t with
  | position i j =>
      simp only [resolve, Schema.sectionAt?, Schema.mapFields, List.find?_map, Function.comp_def]
      cases s.sections.find? (·.position = i) with
      | none => rfl
      | some sec =>
          simp only [Option.map_some, Section.fieldAt?, List.find?_map, Function.comp_def,
            hposition]
          cases sec.fields.find? (·.position = j.getD 0) <;> rfl
  | names sectionName fieldName =>
      simp only [resolve, Schema.section?, Schema.mapFields, List.find?_map, Function.comp_def]
      cases s.sections.find? (·.name = sectionName.getD "") with
      | none => rfl
      | some sec =>
          simp only [Option.map_some, Section.field?, List.find?_map, Function.comp_def, hname]
          cases sec.fields.find? (·.name = fieldName.getD "") <;> rfl

/-! ## What is judged -/

theorem Atom.evaluate?_of_resolve {s t : Schema} {a : Atom}
    (h : resolve s a.target = resolve t a.target) : a.evaluate? s = a.evaluate? t := by
  simp only [Atom.evaluate?, Atom.verdict?, h]

theorem evaluateAll?_of_resolve {s t : Schema} {as : List Atom}
    (h : ∀ a ∈ as, resolve s a.target = resolve t a.target) :
    evaluateAll? s as = evaluateAll? t as := by
  induction as with
  | nil => rfl
  | cons a as ih =>
      obtain ⟨ha, has⟩ := List.forall_mem_cons.mp h
      simp only [evaluateAll?, Atom.evaluate?_of_resolve ha, ih has]

/-- No atom of a rule looks up a field of a name. -/
def Ignores (d : Dialect) (s : Schema) (name raw : String) : Prop :=
  ∀ atoms, parse d raw = .ok atoms → ∀ a ∈ atoms, ∀ f, resolve s a.target = .field f →
    f.name ≠ name

instance (s : Schema) (t : Target) (name : String) :
    Decidable (∀ f, resolve s t = .field f → f.name ≠ name) :=
  match h : resolve s t with
  | .field f => decidable_of_iff (f.name ≠ name) (by simp)
  | .sectionMissing | .fieldMissing => isTrue (by simp)

instance (d : Dialect) (s : Schema) (name raw : String) : Decidable (Ignores d s name raw) :=
  match h : parse d raw with
  | .ok atoms =>
    decidable_of_iff (∀ a ∈ atoms, ∀ f, resolve s a.target = .field f → f.name ≠ name)
      (by simp [Ignores, h])
  | .error _ => isTrue (by simp [Ignores, h])

/-- An atom that looks up no field of a name finds the same after the values of the name are set. -/
theorem resolve_setValue {s : Schema} {t : Target} {name : String}
    (h : ∀ f, resolve s t = .field f → f.name ≠ name) (value : Json) :
    resolve (LiveForm.setValue name value s) t = resolve s t := by
  rw [LiveForm.setValue, resolve_mapFields]
  · cases hfound : resolve s t with
    | field f => simp only [Resolution.mapField, if_neg (h f hfound)]
    | sectionMissing => rfl
    | fieldMissing => rfl
  · intro f
    split <;> rfl
  · intro f
    split <;> rfl

theorem judge?_setValue {d : Dialect} {s : Schema} {name raw : String}
    (h : Ignores d s name raw) (value : Json) :
    judge? d (LiveForm.setValue name value s) raw = judge? d s raw := by
  unfold judge?
  cases hparse : parse d raw with
  | error fault => rfl
  | ok atoms =>
      exact evaluateAll?_of_resolve fun a ha => resolve_setValue (h atoms hparse a ha) value

end ConditionalForms.Rule
