import ConditionalForms.Proofs.Form.Addresses
import ConditionalForms.Proofs.Form.Uniform
import ConditionalForms.Proofs.Review.LastWrite

/-! # Namesakes

The fields of one name in one section. A payload whose sections are named like those of a form
writes to the namesakes of a field what its own namesakes of that field hold, one after another.
-/

namespace ConditionalForms

/-- Among items of distinct names a name picks at most one. -/
theorem filter_name_eq {α : Type} {name : α → String} {xs : List α} (h : (xs.map name).Nodup)
    (a : String) : xs.filter (name · = a) = (xs.find? (name · = a)).toList := by
  induction xs with
  | nil => rfl
  | cons x xs ih =>
      obtain ⟨hnew, hxs⟩ := List.nodup_cons.mp h
      by_cases hx : name x = a
      · have hrest : ∀ y ∈ xs, name y ≠ a := by
          intro y hy hya
          exact hnew (hx ▸ hya ▸ List.mem_map_of_mem hy)
        simpa [hx] using hrest
      · simp [hx, ih hxs]

/-! ## Forms -/

namespace Schema

/-- The fields of a name in the first section of a name. -/
def namesakes (s : Schema) (sectionName name : String) : List Field :=
  match s.section? sectionName with
  | some sec => sec.fields.filter (·.name = name)
  | none => []

theorem namesakes_of_mem {s : Schema} (h : (s.sections.map (·.name)).Nodup) {sec : Section}
    (hsec : sec ∈ s.sections) (name : String) :
    s.namesakes sec.name name = sec.fields.filter (·.name = name) := by
  rw [namesakes, section?_of_mem h hsec]

theorem namesakes_ne_nil {s : Schema} (h : (s.sections.map (·.name)).Nodup) {sec : Section}
    (hsec : sec ∈ s.sections) {f : Field} (hf : f ∈ sec.fields) :
    s.namesakes sec.name f.name ≠ [] := by
  rw [namesakes_of_mem h hsec]
  exact List.ne_nil_of_mem (List.mem_filter.mpr ⟨hf, by simp⟩)

end Schema

namespace Review

/-! ## Payloads -/

def Payload.namesakes (p : Payload) (sectionName name : String) : List ReviewField :=
  match p.sections.find? (·.name = sectionName) with
  | some sec => sec.fields.filter (·.name = name)
  | none => []

/-- The values of the fields of a name in the first section of a name. -/
def Payload.held (p : Payload) (sectionName name : String) : List Json :=
  (p.namesakes sectionName name).map (·.value)

theorem lastValue_namesakes (p : Payload) (sectionName name : String) (own : Json) :
    lastValue (p.namesakes sectionName name) own =
      ((p.held sectionName name).getLast?).getD own := by
  rw [lastValue, Payload.held, List.getLast?_map]

/-- A payload section named like some section of a form writes to the one of its own name. -/
theorem takesFrom_iff {form : Schema} (h : (form.sections.map (·.name)).Nodup) {i : Nat}
    {sec : Section} (hsec : form.sections[i]? = some sec) {q : ReviewSection}
    (hq : q.name ∈ form.sections.map (·.name)) : takesFrom form i q ↔ q.name = sec.name := by
  obtain ⟨hi, rfl⟩ := List.getElem?_eq_some_iff.mp hsec
  rw [takesFrom_iff_reaches]
  constructor
  · rintro (⟨⟨other, hother, hname⟩, -⟩ | hforeign)
    · obtain rfl := Option.some.inj (hsec.symm.trans hother)
      exact hname.symm
    · obtain ⟨other, hother, hname⟩ := List.mem_map.mp hq
      exact absurd hname (hforeign other hother)
  · intro hname
    refine .inl ⟨⟨_, hsec, hname.symm⟩, ?_⟩
    intro earlier hmem hsame
    obtain ⟨j, hj, rfl⟩ := List.mem_take_iff_getElem.mp hmem
    have hdistinct := List.pairwise_iff_getElem.mp (List.pairwise_map.mp h)
    exact hdistinct j i (by omega) hi (by omega) (hsame.trans hname)

variable {p : Payload} {form : Schema}

theorem sources_eq_namesakes (h : (form.sections.map (·.name)).Nodup)
    (hp : p.sections.map (·.name) = form.sections.map (·.name)) {i : Nat} {sec : Section}
    (hsec : form.sections[i]? = some sec) (name : String) :
    sources p form i name = p.namesakes sec.name name := by
  have hfilter : p.sections.filter (takesFrom form i) = p.sections.filter (·.name = sec.name) := by
    apply List.filter_congr
    intro q hq
    rw [Bool.eq_iff_iff, takesFrom_iff h hsec (hp ▸ List.mem_map_of_mem hq), decide_eq_true_iff]
  rw [sources, hfilter, filter_name_eq (hp ▸ h), Payload.namesakes]
  cases p.sections.find? (·.name = sec.name) <;> simp

/-- Writing back a payload whose sections are named like those of the form. -/
theorem applyValues_eq_mapFields (h : (form.sections.map (·.name)).Nodup)
    (hp : p.sections.map (·.name) = form.sections.map (·.name)) :
    applyValues p form = form.mapFields fun sec g =>
      { g with value := lastValue (p.namesakes sec.name g.name) g.value } := by
  have hsections : (applyValues p form).sections = form.sections.map fun sec =>
      { sec with fields := sec.fields.map fun g =>
          { g with value := lastValue (p.namesakes sec.name g.name) g.value } } := by
    apply List.ext_getElem?
    intro i
    rw [applyValues_eq, Schema.withValues, List.getElem?_mapIdx, List.getElem?_map]
    cases hsec : form.sections[i]? with
    | none => rfl
    | some sec => simp only [Option.map_some, sources_eq_namesakes h hp hsec]
  rw [Schema.mapFields, ← hsections, applyValues_eq]
  rfl

end Review

end ConditionalForms
