import ConditionalForms.Proofs.Form.Merging
import ConditionalForms.Proofs.Form.Sorting

/-! # Forms of shuffled records

The order of records counts for positions, for the rules of sections, and where two keys are equal.
Where all keys are distinct, shuffled records make a form that is the same in everything else.
-/

namespace ConditionalForms

open Builder (titles rowsOf gather arrange arrangeFields buildFrom)

/-! ## Without places -/

/-- A field without its position. -/
def Field.unplaced (f : Field) : Field := { f with position := 0 }

/-- A section without what the order of its rows settles: its rule, and all positions. -/
def Section.unplaced (s : Section) : Section :=
  { s with rule := "", fields := s.fields.map Field.unplaced, position := 0 }

def Schema.unplaced (s : Schema) : Schema := { s with sections := s.sections.map Section.unplaced }

@[simp] theorem Field.sortKey_unplaced (f : Field) : f.unplaced.sortKey = f.sortKey := rfl

@[simp] theorem Section.sortKey_unplaced (s : Section) : s.unplaced.sortKey = s.sortKey := rfl

@[simp] theorem Row.unplaced_toField (r : Row) (position : Nat) :
    (r.toField position).unplaced = r.toField 0 := by
  simp [Field.unplaced, Row.toField]

/-- No two sections of a form have one key, and no two fields of one section. -/
structure Schema.DistinctKeys (s : Schema) : Prop where
  sections : (s.sections.map Section.sortKey).Nodup
  fields : ∀ sec ∈ s.sections, (sec.fields.map Field.sortKey).Nodup

theorem Schema.DistinctKeys.unplaced {s : Schema} (h : s.DistinctKeys) :
    s.unplaced.DistinctKeys where
  sections := by
    rw [Schema.unplaced, List.map_map]
    exact h.sections
  fields := by
    intro sec hsec
    obtain ⟨placed, hplaced, rfl⟩ := List.mem_map.mp hsec
    rw [Section.unplaced, List.map_map]
    exact h.fields placed hplaced

/-! ## Sections of shuffled rows -/

theorem min?_eq_of_perm {is js : List Int} (h : is.Perm js) : is.min? = js.min? := by
  cases hmin : js.min? with
  | none =>
      obtain rfl := List.min?_eq_none_iff.mp hmin
      rw [h.eq_nil, List.min?_nil]
  | some i =>
      obtain ⟨hi, hleast⟩ := List.min?_eq_some_iff.mp hmin
      exact List.min?_eq_some_iff.mpr ⟨h.mem_iff.mpr hi, fun j hj => hleast j (h.mem_iff.mp hj)⟩

namespace Section

/-- The section of some rows, without its rule and positions. -/
def unplacedOf (name : String) (rs : List Row) : Section where
  name := name
  order := (Row.orders rs).min?
  fields := SortKey.sort Field.sortKey (rs.map (·.toField 0))

variable {name : String} {position : Nat} {rs : List Row}

theorem unplaced_fields_ofRows :
    (ofRows name position rs).fields.map Field.unplaced = rs.map (·.toField 0) := by
  rw [fields_ofRows]
  apply List.ext_getElem?
  intro n
  simp only [List.getElem?_map, List.getElem?_mapIdx, Option.map_map, Function.comp_def,
    Row.unplaced_toField]

theorem unplaced_ofRows (h : rs ≠ []) :
    (arrangeFields (ofRows name position rs)).unplaced = unplacedOf name rs := by
  have horder : (ofRows name position rs).order = (Row.orders rs).min? := (merges_ofRows h).order
  have hfields : (SortKey.sort Field.sortKey (ofRows name position rs).fields).map Field.unplaced =
      SortKey.sort Field.sortKey (rs.map (·.toField 0)) := by
    rw [SortKey.map_sort Field.sortKey_unplaced, unplaced_fields_ofRows]
  simp only [unplaced, arrangeFields, unplacedOf, name_ofRows, standing_ofRows, horder, hfields]

theorem unplacedOf_eq_of_perm {rs' : List Row} (h : rs.Perm rs')
    (hkeys : ((unplacedOf name rs).fields.map Field.sortKey).Nodup) :
    unplacedOf name rs = unplacedOf name rs' := by
  have horder : (Row.orders rs).min? = (Row.orders rs').min? := min?_eq_of_perm (h.filterMap _)
  have hdistinct : ((rs.map (·.toField 0)).map Field.sortKey).Nodup :=
    ((SortKey.perm_sort _).map Field.sortKey).nodup_iff.mp hkeys
  have hfields := SortKey.sort_eq_of_perm (h.map (·.toField 0)) hdistinct
  rw [unplacedOf, unplacedOf, horder, hfields]

end Section

/-! ## Forms of shuffled rows -/

namespace Builder

theorem nodup_titles (d : String) (rows : List Row) : (titles d rows).Nodup := by
  rw [← names_gather]
  exact nodup_names_gather d rows

theorem titles_perm {d : String} {rows rows' : List Row} (h : rows.Perm rows') :
    (titles d rows).Perm (titles d rows') := by
  rw [List.perm_ext_iff_of_nodup (nodup_titles d rows) (nodup_titles d rows')]
  intro name
  simp only [mem_titles, h.mem_iff]

/-- The sections of some rows, without their rules and positions, as the rows first name them. -/
def unplacedSections (d : String) (rows : List Row) : List Section :=
  (titles d rows).map fun name => Section.unplacedOf name (rowsOf d rows name)

theorem unplaced_gather (d : String) (rows : List Row) :
    ((gather d rows).map arrangeFields).map Section.unplaced = unplacedSections d rows := by
  rw [gather_eq, unplacedSections]
  apply List.ext_getElem?
  intro k
  rw [List.getElem?_map, List.getElem?_map, List.getElem?_mapIdx, List.getElem?_map]
  cases hk : (titles d rows)[k]? with
  | none => rfl
  | some name =>
      have hrows : rowsOf d rows name ≠ [] := by
        rw [ne_eq, rowsOf_eq_nil_iff, not_not]
        exact List.mem_of_getElem? hk
      simp only [Option.map_some, Section.unplaced_ofRows hrows]

/-- Rows in another order make the same sections in another order, where the fields of each section
have distinct keys. -/
theorem unplacedSections_perm {d : String} {rows rows' : List Row} (h : rows.Perm rows')
    (hkeys : ∀ sec ∈ unplacedSections d rows, (sec.fields.map Field.sortKey).Nodup) :
    (unplacedSections d rows).Perm (unplacedSections d rows') := by
  -- Each name has the same section either way; only then are the names themselves permuted.
  have hsame : (titles d rows).map (fun name => Section.unplacedOf name (rowsOf d rows name)) =
      (titles d rows).map fun name => Section.unplacedOf name (rowsOf d rows' name) := by
    apply List.map_congr_left
    intro name hname
    exact Section.unplacedOf_eq_of_perm (h.filter _) (hkeys _ (List.mem_map_of_mem hname))
  rw [unplacedSections, hsame]
  exact (titles_perm h).map _

end Builder

namespace Schema

theorem unplaced_ofRows (d : String) (rows : List Row) :
    (ofRows d rows).unplaced =
      { sections := SortKey.sort Section.sortKey (Builder.unplacedSections d rows) } := by
  have hsections : (arrange (gather d rows)).map Section.unplaced =
      SortKey.sort Section.sortKey (Builder.unplacedSections d rows) := by
    rw [arrange, SortKey.map_sort Section.sortKey_unplaced, Builder.unplaced_gather]
  rw [unplaced, ofRows, hsections]

theorem unplaced_ofRows_eq_of_perm {d : String} {rows rows' : List Row} (h : rows.Perm rows')
    (hkeys : (ofRows d rows).DistinctKeys) :
    (ofRows d rows).unplaced = (ofRows d rows').unplaced := by
  obtain ⟨hsections, hfields⟩ := hkeys.unplaced
  rw [unplaced_ofRows] at hsections hfields
  have hperm : (SortKey.sort Section.sortKey (Builder.unplacedSections d rows)).Perm
      (Builder.unplacedSections d rows) := SortKey.perm_sort _
  have hsame : (Builder.unplacedSections d rows).Perm (Builder.unplacedSections d rows') :=
    Builder.unplacedSections_perm h fun sec hsec => hfields sec (hperm.mem_iff.mpr hsec)
  have hdistinct := (hperm.map Section.sortKey).nodup_iff.mp hsections
  rw [unplaced_ofRows, unplaced_ofRows, SortKey.sort_eq_of_perm hsame hdistinct]

end Schema

/-- Shuffled records make the same form, but for the rules of sections and all positions, where its
keys are distinct. -/
theorem unplaced_eq_of_buildFrom_perm {d : String} {records records' : List Json} {form : Schema}
    (hperm : records.Perm records') (h : buildFrom d (.list records) = .ok form)
    (hkeys : form.DistinctKeys) :
    ∃ form', buildFrom d (.list records') = .ok form' ∧ form'.unplaced = form.unplaced := by
  obtain ⟨rows, hrows, rfl⟩ := Builder.buildFrom_eq_ok_iff.mp h
  obtain ⟨rows', hrows', hperm'⟩ := Fault.exists_mapM_eq_ok_of_perm hperm.symm hrows
  refine ⟨_, Builder.buildFrom_eq_ok_iff.mpr ⟨rows', hrows', rfl⟩, ?_⟩
  exact (Schema.unplaced_ofRows_eq_of_perm hperm'.symm hkeys).symm

theorem unplaced_eq_of_buildFrom_perm_merged :
    mergedRecords.Perm mergedRecords.reverse ∧
      buildFrom "Other" (.list mergedRecords) = .ok mergedForm ∧ mergedForm.DistinctKeys ∧
      ∃ form', buildFrom "Other" (.list mergedRecords.reverse) = .ok form' ∧
        form'.unplaced = mergedForm.unplaced := by
  have hperm : mergedRecords.Perm mergedRecords.reverse := (List.reverse_perm _).symm
  have hkeys : mergedForm.DistinctKeys := ⟨by decide, by decide⟩
  exact ⟨hperm, buildFrom_mergedRecords, hkeys,
    unplaced_eq_of_buildFrom_perm hperm buildFrom_mergedRecords hkeys⟩

end ConditionalForms
