import ConditionalForms.Proofs.Review.Setting
import ConditionalForms.Proofs.Review.Snapshot

/-! # What a session comes to

A session sets one field of a name, and writing its payload back goes through all namesakes. Of a
value that was set nothing is left where the field has a namesake, whose own value is written last.
-/

namespace ConditionalForms

namespace Schema

/-- The value of the first field of a name in the first section of a name. -/
def value? (s : Schema) (sectionName name : String) : Option Json :=
  (s.section? sectionName).bind fun sec => (sec.field? name).map (·.value)

/-- One field alone has a name in the first section of a name. -/
def Single (s : Schema) (sectionName name : String) : Prop :=
  (s.namesakes sectionName name).length = 1

instance (s : Schema) (sectionName name : String) : Decidable (s.Single sectionName name) :=
  inferInstanceAs (Decidable (_ = _))

/-- The form with values set by section and field name, wherever a field is the only one. -/
def withSingles (set : String → String → Option Json) (s : Schema) : Schema :=
  s.mapFields fun sec f =>
    { f with value :=
        if s.Single sec.name f.name then (set sec.name f.name).getD f.value else f.value }

theorem value?_eq_head? (s : Schema) (sectionName name : String) :
    s.value? sectionName name = (s.namesakes sectionName name).head?.map (·.value) := by
  rw [value?, namesakes]
  cases s.section? sectionName with
  | none => rfl
  | some sec =>
      simp only [Option.bind_some, Section.field?, List.head?_filter]

theorem value?_unmarked (s : Schema) (sectionName name : String) :
    s.unmarked.value? sectionName name = s.value? sectionName name := by
  rw [value?, section?_unmarked, value?]
  cases s.section? sectionName with
  | none => rfl
  | some sec =>
      simp only [Option.map_some, Option.bind_some, Section.field?_unmarked, Option.map_map]
      rfl

theorem value?_congr {s t : Schema} (h : s.unmarked = t.unmarked) (sectionName name : String) :
    s.value? sectionName name = t.value? sectionName name := by
  rw [← value?_unmarked, h, value?_unmarked]

theorem mapFields_congr {s : Schema} {f g : Section → Field → Field}
    (h : ∀ sec ∈ s.sections, ∀ x ∈ sec.fields, f sec x = g sec x) :
    s.mapFields f = s.mapFields g := by
  rw [mapFields, mapFields]
  congr 1
  apply List.map_congr_left
  intro sec hsec
  rw [List.map_congr_left (h sec hsec)]

theorem value?_withSingles (set : String → String → Option Json) (s : Schema)
    (sectionName name : String) :
    (s.withSingles set).value? sectionName name = (s.value? sectionName name).map fun old =>
      if s.Single sectionName name then (set sectionName name).getD old else old := by
  have hsection : (s.withSingles set).section? sectionName =
      (s.section? sectionName).map fun sec =>
        { sec with fields := sec.fields.map fun f =>
            { f with value :=
                if s.Single sec.name f.name then (set sec.name f.name).getD f.value
                else f.value } } := by
    rw [section?, withSingles, mapFields, List.find?_map]
    rfl
  rw [value?, hsection, value?]
  cases hsec : s.section? sectionName with
  | none => rfl
  | some sec =>
      obtain rfl : sec.name = sectionName := by simpa using List.find?_some hsec
      simp only [Option.map_some, Option.bind_some, Section.field?, List.find?_map]
      have hfield : sec.fields.find? ((fun f => decide (f.name = name)) ∘ fun f =>
          { f with value :=
              if s.Single sec.name f.name then (set sec.name f.name).getD f.value
              else f.value }) = sec.fields.find? (·.name = name) := rfl
      rw [hfield]
      cases hf : sec.fields.find? (·.name = name) with
      | none => rfl
      | some f =>
          obtain rfl : f.name = name := by simpa using List.find?_some hf
          rfl

end Schema

namespace Review

/-! ## The payload of a session, written back -/

theorem getLast?_replaceHead_replicate (value? : Option Json) (old : Json) {n : Nat} (hn : n ≠ 0) :
    (replaceHead value? (List.replicate n old)).getLast? =
      some (if n = 1 then value?.getD old else old) := by
  obtain ⟨n, rfl⟩ := Nat.exists_eq_succ_of_ne_zero hn
  cases value? with
  | none => simp [replaceHead, List.replicate_succ']
  | some value =>
      rw [replaceHead, List.replicate_succ, List.tail_cons, List.getLast?_cons]
      cases n with
      | zero => rfl
      | succ n => simp [List.replicate_succ']

/-- What is left of the values set in a session on the snapshot of a uniform form. -/
theorem applyValues_of_setAll {s : Schema} (hs : s.Uniform) {cs : List Setting}
    {answers : List Bool} {q : Payload} (h : SetAll cs answers (.ofSchema s) q) :
    applyValues q s = s.withSingles (lastSet cs answers) := by
  rw [applyValues_eq_mapFields hs.names (h.names.trans (Payload.names_ofSchema s))]
  apply Schema.mapFields_congr
  intro sec hsec f hf
  have hlength : (s.namesakes sec.name f.name).length ≠ 0 := by
    simpa using Schema.namesakes_ne_nil hs.names hsec hf
  rw [lastValue_namesakes, h.held, held_ofSchema_of_mem hs hsec hf,
    getLast?_replaceHead_replicate _ _ hlength]
  rfl

end Review

end ConditionalForms
