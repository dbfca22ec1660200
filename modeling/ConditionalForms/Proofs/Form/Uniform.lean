import ConditionalForms.Proofs.Form.Built
import ConditionalForms.Proofs.Form.Values

/-! # Uniform forms

Rows may repeat the name of a field within a section. Whatever is written to one of the fields is
written to all of them, so that they always hold one value. Reviews depend on that.
-/

namespace ConditionalForms.Schema

/-- Sections have distinct names, and fields of one name in one section hold one value. -/
structure Uniform (s : Schema) : Prop where
  names : (s.sections.map (·.name)).Nodup
  agree : ∀ sec ∈ s.sections, ∀ f ∈ sec.fields, ∀ g ∈ sec.fields,
    f.name = g.name → f.value = g.value

/-- All values are such as a user gives. -/
def IsPlain (s : Schema) : Prop := ∀ sec ∈ s.sections, ∀ f ∈ sec.fields, f.value.isPlain

/-! ## Built forms -/

theorem uniform_ofRows (d : String) (rows : List Row) : (ofRows d rows).Uniform where
  names := nodup_names_ofRows d rows
  agree := by
    intro sec hsec f hf g hg _
    rw [value_of_mem_ofRows hsec hf, value_of_mem_ofRows hsec hg]

theorem isPlain_ofRows (d : String) (rows : List Row) : (ofRows d rows).IsPlain := by
  intro sec hsec f hf
  rw [value_of_mem_ofRows hsec hf]
  rfl

/-! ## Standings do not matter -/

theorem uniform_unmarked (s : Schema) : s.unmarked.Uniform ↔ s.Uniform := by
  constructor
  · rintro ⟨hnames, hagree⟩
    refine ⟨by simpa [Function.comp_def] using hnames, ?_⟩
    intro sec hsec f hf g hg
    exact hagree sec.unmarked (List.mem_map_of_mem hsec) f.unmarked (List.mem_map_of_mem hf)
      g.unmarked (List.mem_map_of_mem hg)
  · rintro ⟨hnames, hagree⟩
    refine ⟨by simpa [Function.comp_def] using hnames, ?_⟩
    simpa using hagree

theorem isPlain_unmarked (s : Schema) : s.unmarked.IsPlain ↔ s.IsPlain := by
  simp [IsPlain]

theorem Uniform.congr {s t : Schema} (h : s.unmarked = t.unmarked) (hs : s.Uniform) :
    t.Uniform := by
  rwa [← uniform_unmarked, ← h, uniform_unmarked]

theorem IsPlain.congr {s t : Schema} (h : s.unmarked = t.unmarked) (hs : s.IsPlain) :
    t.IsPlain := by
  rwa [← isPlain_unmarked, ← h, isPlain_unmarked]

/-! ## Setting values -/

/-- Values that hang on the section, the name and the present value alone keep a form uniform. -/
theorem Uniform.withValues {s : Schema} {v : Nat → Field → Json} (hs : s.Uniform)
    (hv : ∀ i f g, f.name = g.name → f.value = g.value → v i f = v i g) :
    (s.withValues v).Uniform := by
  refine ⟨by rw [names_withValues]; exact hs.names, ?_⟩
  intro sec hsec f hf g hg hname
  obtain ⟨i, hi, rfl⟩ := List.mem_mapIdx.mp hsec
  obtain ⟨f₀, hf₀, rfl⟩ := List.mem_map.mp hf
  obtain ⟨g₀, hg₀, rfl⟩ := List.mem_map.mp hg
  exact hv i f₀ g₀ hname (hs.agree _ (List.getElem_mem hi) f₀ hf₀ g₀ hg₀ hname)

theorem IsPlain.withValues {s : Schema} {v : Nat → Field → Json} (hs : s.IsPlain)
    (hv : ∀ i f, f.value.isPlain → (v i f).isPlain) : (s.withValues v).IsPlain := by
  intro sec hsec f hf
  obtain ⟨i, hi, rfl⟩ := List.mem_mapIdx.mp hsec
  obtain ⟨f₀, hf₀, rfl⟩ := List.mem_map.mp hf
  exact hv i f₀ (hs _ (List.getElem_mem hi) f₀ hf₀)

theorem Uniform.setValue {s : Schema} (hs : s.Uniform) (name : String) (value : Json) :
    (LiveForm.setValue name value s).Uniform := by
  rw [setValue_eq_withValues]
  apply hs.withValues
  intro _ f g hname hvalue
  rw [hname, hvalue]

theorem IsPlain.setValue {s : Schema} (hs : s.IsPlain) (name : String) {value : Json}
    (hvalue : value.isPlain) : (LiveForm.setValue name value s).IsPlain := by
  rw [setValue_eq_withValues]
  apply hs.withValues
  intro _ f hf
  split
  · exact hvalue
  · exact hf

end ConditionalForms.Schema
