import ConditionalForms.Review.Session

/-! # Places in a payload

A value is set at one place: at the first field of its name in the first section of its name.
Setting values moves nothing, so that a name stands for the same place as long as a payload is under
review.
-/

namespace ConditionalForms

/-- Items that are all mapped to themselves. -/
theorem mapIdx_eq_self {α : Type} {f : Nat → α → α} {xs : List α} (h : ∀ i x, f i x = x) :
    xs.mapIdx f = xs := by
  apply List.ext_getElem?
  intro i
  rw [List.getElem?_mapIdx]
  cases xs[i]? <;> simp [h]

namespace Review

namespace Payload

/-- The payload with other values, each given by the index of its section and its own. -/
def withValues (v : Nat × Nat → ReviewField → Json) (p : Payload) : Payload :=
  ⟨p.sections.mapIdx fun i s =>
    { s with fields := s.fields.mapIdx fun j f => { f with value := v (i, j) f } }⟩

/-- The payload with another value at one place. -/
def withValueAt (place : Nat × Nat) (value : Json) (p : Payload) : Payload :=
  p.withValues fun q f => if q = place then value else f.value

/-- The place of the first field of a name in the first section of a name. -/
def place? (p : Payload) (sectionName name : String) : Option (Nat × Nat) := do
  let i ← p.sections.findIdx? (·.name = sectionName)
  let s ← p.sections[i]?
  let j ← s.fields.findIdx? (·.name = name)
  some (i, j)

@[simp] theorem withValues_self (p : Payload) : (p.withValues fun _ f => f.value) = p := by
  simp [withValues, mapIdx_eq_self]

theorem withValues_withValues (v w : Nat × Nat → ReviewField → Json) (p : Payload) :
    (p.withValues v).withValues w = p.withValues fun q f => w q { f with value := v q f } := by
  simp [withValues, Function.comp_def]

theorem withValues_cons (v : Nat × Nat → ReviewField → Json) (s : ReviewSection)
    (ss : List ReviewSection) :
    (⟨s :: ss⟩ : Payload).withValues v =
      ⟨{ s with fields := s.fields.mapIdx fun j f => { f with value := v (0, j) f } } ::
        ((⟨ss⟩ : Payload).withValues fun q => v (q.1 + 1, q.2)).sections⟩ := by
  simp [withValues]

@[simp] theorem place?_nil (sectionName name : String) :
    (⟨[]⟩ : Payload).place? sectionName name = none := rfl

theorem place?_cons (s : ReviewSection) (ss : List ReviewSection) (sectionName name : String) :
    (⟨s :: ss⟩ : Payload).place? sectionName name =
      if s.name = sectionName then (s.fields.findIdx? (·.name = name)).map (0, ·)
      else ((⟨ss⟩ : Payload).place? sectionName name).map fun q => (q.1 + 1, q.2) := by
  simp only [place?, List.findIdx?_cons]
  by_cases hname : s.name = sectionName
  · cases hj : s.fields.findIdx? (·.name = name) <;> simp [hname, hj]
  · cases ss.findIdx? (·.name = sectionName) with
    | none => simp [hname]
    | some i =>
        cases hs : ss[i]? with
        | none => simp [hname, hs]
        | some t => cases ht : t.fields.findIdx? (·.name = name) <;> simp [hname, hs, ht]

theorem findIdx?_withValues (v : Nat → ReviewField → Json) (fs : List ReviewField)
    (name : String) :
    (fs.mapIdx fun j f => { f with value := v j f }).findIdx? (·.name = name) =
      fs.findIdx? (·.name = name) := by
  induction fs generalizing v with
  | nil => rfl
  | cons f fs ih => simp [List.findIdx?_cons, ih fun j => v (j + 1)]

/-- Other values leave every name at its place. -/
theorem place?_withValues (v : Nat × Nat → ReviewField → Json) (p : Payload)
    (sectionName name : String) :
    (p.withValues v).place? sectionName name = p.place? sectionName name := by
  obtain ⟨ss⟩ := p
  induction ss generalizing v with
  | nil => rfl
  | cons s ss ih =>
      rw [withValues_cons, place?_cons, place?_cons, ih, findIdx?_withValues fun j => v (0, j)]

end Payload

/-! ## Setting a value -/

theorem setField_eq (name : String) (value : Json) (fs : List ReviewField) :
    setField name value fs = (fs.findIdx? (·.name = name)).map fun j =>
      fs.mapIdx fun k f => { f with value := if k = j then value else f.value } := by
  induction fs with
  | nil => rfl
  | cons f fs ih =>
      rw [setField, List.findIdx?_cons]
      by_cases hname : f.name = name
      · simp [hname, mapIdx_eq_self]
      · simp [hname, ih, Function.comp_def]

theorem setSection_eq (sectionName name : String) (value : Json) (ss : List ReviewSection) :
    setSection sectionName name value ss =
      ((⟨ss⟩ : Payload).place? sectionName name).map fun place =>
        ((⟨ss⟩ : Payload).withValueAt place value).sections := by
  induction ss with
  | nil => rfl
  | cons s ss ih =>
      rw [setSection, Payload.place?_cons]
      split
      · rw [setField_eq, Option.map_map, Option.map_map]
        congr 1
        funext j
        simp [Payload.withValueAt, Payload.withValues_cons]
      · rw [ih, Option.map_map, Option.map_map]
        congr 1
        funext q
        simp [Payload.withValueAt, Payload.withValues_cons, Prod.ext_iff, mapIdx_eq_self]

/-- Setting a value changes one place, or nothing where there is no such field. -/
theorem Payload.set?_eq (p : Payload) (sectionName name : String) (value : Json) :
    p.set? sectionName name value =
      (p.place? sectionName name).map fun place => p.withValueAt place value := by
  rw [set?, setSection_eq, Option.map_map]
  rfl

end Review

end ConditionalForms
