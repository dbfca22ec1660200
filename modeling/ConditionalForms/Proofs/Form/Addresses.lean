import ConditionalForms.Proofs.Form.Grouping
import ConditionalForms.Proofs.Form.Values
import Mathlib.Data.List.Perm.Basic

/-! # Addresses among the rows

A pair of positions tells the place of a section among the sections that the rows name, and of a
field among the rows of that section. Sorting for display leaves both as they are, and so does
everything that changes values or standings.
-/

namespace ConditionalForms

open Builder (titles rowsOf gather arrange arrangeFields)

/-- Among items of distinct keys a key picks the item that has it. -/
theorem find?_key_eq_some_iff {α κ : Type} [DecidableEq κ] {key : α → κ} {xs : List α}
    (h : (xs.map key).Nodup) {a : κ} {x : α} :
    xs.find? (key · = a) = some x ↔ x ∈ xs ∧ key x = a := by
  induction xs with
  | nil => simp
  | cons y ys ih =>
      obtain ⟨hnew, hys⟩ := List.nodup_cons.mp h
      by_cases hy : key y = a
      · rw [List.find?_cons_of_pos (by simpa using hy)]
        constructor
        · rintro ⟨⟩
          exact ⟨List.mem_cons_self, hy⟩
        · rintro ⟨hx, hxa⟩
          rcases List.mem_cons.mp hx with rfl | hx
          · rfl
          · exact absurd (List.mem_map.mpr ⟨x, hx, hxa.trans hy.symm⟩) hnew
      · rw [List.find?_cons_of_neg (by simpa using hy), ih hys, List.mem_cons]
        constructor
        · rintro ⟨hx, hxa⟩
          exact ⟨.inr hx, hxa⟩
        · rintro ⟨rfl | hx, hxa⟩
          · exact absurd hxa hy
          · exact ⟨hx, hxa⟩

/-- Places counted from one ascend. -/
theorem pairwise_mapIdx {α β : Type} {position : β → Int} {f : Nat → α → β}
    (h : ∀ i x, position (f i x) = i + 1) (xs : List α) :
    (xs.mapIdx f).Pairwise (position · < position ·) := by
  apply List.pairwise_iff_getElem.mpr
  intro i j hi hj hij
  simp only [List.getElem_mapIdx, h]
  omega

theorem nodup_map_mapIdx {α β : Type} {position : β → Int} {f : Nat → α → β}
    (h : ∀ i x, position (f i x) = i + 1) (xs : List α) :
    ((xs.mapIdx f).map position).Nodup :=
  List.pairwise_map.mpr ((pairwise_mapIdx h xs).imp Int.ne_of_lt)

@[simp] theorem Row.blank_toField (r : Row) (position : Nat) :
    (r.toField position).blank = r.toField position := by
  simp only [Row.toField, Field.blank]

theorem Builder.map_blank_rowFields (d : String) (rows : List Row) :
    (rowFields d rows).map Field.blank = rowFields d rows := by
  rw [List.map_congr_left (g := id), List.map_id]
  intro f hf
  obtain ⟨k, hk, rfl⟩ := List.mem_mapIdx.mp hf
  exact Row.blank_toField _ _

/-! ## Distinct positions -/

/-- No two sections of a form share their position, and no two fields of a section. -/
structure Schema.Placed (s : Schema) : Prop where
  sections : (s.sections.map (·.position)).Nodup
  fields : ∀ sec ∈ s.sections, (sec.fields.map (·.position)).Nodup

theorem Schema.Placed.resolve_eq_field_iff {s : Schema} (hs : s.Placed) {i j : Int} {f : Field} :
    Rule.resolve s (.position i (some j)) = .field f ↔
      ∃ sec ∈ s.sections, sec.position = i ∧ f ∈ sec.fields ∧ f.position = j := by
  have hsection (sec : Section) :
      s.sectionAt? i = some sec ↔ sec ∈ s.sections ∧ sec.position = i :=
    find?_key_eq_some_iff hs.sections
  constructor
  · intro h
    simp only [Rule.resolve] at h
    split at h
    · cases h
    · rename_i sec hsec
      obtain ⟨hmem, hi⟩ := (hsection sec).mp hsec
      split at h
      · cases h
      · rename_i g hg
        cases h
        have hfound := (find?_key_eq_some_iff (hs.fields sec hmem)).mp hg
        exact ⟨sec, hmem, hi, hfound.1, hfound.2⟩
  · rintro ⟨sec, hmem, hi, hf, hj⟩
    have hfield : sec.fieldAt? j = some f :=
      (find?_key_eq_some_iff (hs.fields sec hmem)).mpr ⟨hf, hj⟩
    simp only [Rule.resolve, (hsection sec).mpr ⟨hmem, hi⟩, Option.getD_some, hfield]

namespace Schema

theorem section?_of_mem {s : Schema} (h : (s.sections.map (·.name)).Nodup) {sec : Section}
    (hsec : sec ∈ s.sections) : s.section? sec.name = some sec :=
  (find?_key_eq_some_iff h).mpr ⟨hsec, rfl⟩

/-- Every field has its like, at the same place, in every form with the same blank. -/
theorem exists_mem_of_blank_eq {s t : Schema} (h : s.blank = t.blank) {sec : Section}
    (hsec : sec ∈ s.sections) : ∃ sec' ∈ t.sections, sec'.blank = sec.blank := by
  have hsections : s.sections.map Section.blank = t.sections.map Section.blank :=
    congrArg Schema.sections h
  exact List.mem_map.mp (hsections ▸ List.mem_map_of_mem hsec)

theorem Placed.congr {s t : Schema} (h : s.blank = t.blank) (hs : s.Placed) : t.Placed := by
  have hpositions : s.sections.map (·.position) = t.sections.map (·.position) := by
    have hsections := congrArg (fun u : Schema => u.sections.map (·.position)) h
    simpa [blank, Section.blank, Function.comp_def] using hsections
  refine ⟨hpositions ▸ hs.sections, ?_⟩
  intro sec hsec
  obtain ⟨sec', hsec', hblank⟩ := exists_mem_of_blank_eq h.symm hsec
  have hfields : sec'.fields.map (·.position) = sec.fields.map (·.position) := by
    have hfields := congrArg (fun u : Section => u.fields.map (·.position)) hblank
    simpa [Section.blank, Field.blank, Function.comp_def] using hfields
  exact hfields ▸ hs.fields sec' hsec'

/-! ## Sections and fields of a built form -/

theorem mem_sections_ofRows {d : String} {rows : List Row} {sec : Section} :
    sec ∈ (ofRows d rows).sections ↔ ∃ (k : Nat) (name : String), (titles d rows)[k]? = some name ∧
      sec = arrangeFields (Section.ofRows name (k + 1) (rowsOf d rows name)) := by
  have hmem : sec ∈ (ofRows d rows).sections ↔ sec ∈ (gather d rows).map arrangeFields :=
    (Builder.perm_arrange _).mem_iff
  rw [hmem, Builder.gather_eq]
  constructor
  · intro h
    obtain ⟨s, hs, rfl⟩ := List.mem_map.mp h
    obtain ⟨k, hk, rfl⟩ := List.mem_mapIdx.mp hs
    exact ⟨k, _, List.getElem?_eq_getElem hk, rfl⟩
  · rintro ⟨k, name, hk, rfl⟩
    obtain ⟨hlt, rfl⟩ := List.getElem?_eq_some_iff.mp hk
    exact List.mem_map_of_mem (List.mem_mapIdx.mpr ⟨k, hlt, rfl⟩)

theorem mem_fields_arrangeFields_ofRows {name : String} {position : Nat} {rs : List Row}
    {f : Field} :
    f ∈ (arrangeFields (Section.ofRows name position rs)).fields ↔
      ∃ (n : Nat) (r : Row), rs[n]? = some r ∧ f = r.toField (n + 1) := by
  rw [Builder.mem_fields_arrangeFields, Section.fields_ofRows, List.mem_mapIdx]
  constructor
  · rintro ⟨n, hn, rfl⟩
    exact ⟨n, _, List.getElem?_eq_getElem hn, rfl⟩
  · rintro ⟨n, r, hr, rfl⟩
    obtain ⟨hn, rfl⟩ := List.getElem?_eq_some_iff.mp hr
    exact ⟨n, hn, rfl⟩

theorem placed_ofRows (d : String) (rows : List Row) : (ofRows d rows).Placed where
  sections := by
    have hperm := (Builder.perm_arrange (gather d rows)).map (·.position)
    rw [ofRows, hperm.nodup_iff, List.map_map, Builder.gather_eq]
    apply nodup_map_mapIdx
    intro k name
    simp [arrangeFields]
  fields := by
    intro sec hsec
    obtain ⟨k, name, -, rfl⟩ := mem_sections_ofRows.mp hsec
    have hperm : (arrangeFields (Section.ofRows name (k + 1) (rowsOf d rows name))).fields.Perm
        (Section.ofRows name (k + 1) (rowsOf d rows name)).fields := List.mergeSort_perm _ _
    rw [(hperm.map _).nodup_iff, Section.fields_ofRows]
    apply nodup_map_mapIdx
    intro n r
    simp [Row.toField]

theorem perm_allFields_ofRows (d : String) (rows : List Row) :
    (ofRows d rows).allFields.Perm (Builder.rowFields d rows) := by
  have hsorted : ((gather d rows).map arrangeFields).flatMap (·.fields) =
      (gather d rows).flatMap fun s => (arrangeFields s).fields := by
    rw [List.flatMap_map]
  have hfields : ((gather d rows).flatMap fun s => (arrangeFields s).fields).Perm
      ((gather d rows).flatMap (·.fields)) :=
    List.Perm.flatMap_left _ fun s _ => List.mergeSort_perm _ _
  have hsections : (ofRows d rows).allFields.Perm
      (((gather d rows).map arrangeFields).flatMap (·.fields)) :=
    (Builder.perm_arrange _).flatMap_right _
  rw [hsorted] at hsections
  exact (hsections.trans hfields).trans (Builder.perm_fields_gather d rows)

theorem perm_names_ofRows (d : String) (rows : List Row) :
    ((ofRows d rows).sections.map (·.name)).Perm (titles d rows) := by
  have hperm := (Builder.perm_arrange (gather d rows)).map (·.name)
  have hnames : ((gather d rows).map arrangeFields).map (·.name) = titles d rows := by
    rw [List.map_map, ← Builder.names_gather]
    rfl
  rwa [hnames] at hperm

/-- A pair of positions is that of a field just where a row has them, and the field is made of that
row. -/
theorem resolve_ofRows_eq_field_iff {d : String} {rows : List Row} {i j : Int} {f : Field} :
    Rule.resolve (ofRows d rows) (.position i (some j)) = .field f ↔
      ∃ (k n : Nat) (name : String) (r : Row), (titles d rows)[k]? = some name ∧ i = k + 1 ∧
        (rowsOf d rows name)[n]? = some r ∧ j = n + 1 ∧ f = r.toField (n + 1) := by
  rw [(placed_ofRows d rows).resolve_eq_field_iff]
  constructor
  · rintro ⟨sec, hsec, hi, hf, hj⟩
    obtain ⟨k, name, hk, rfl⟩ := mem_sections_ofRows.mp hsec
    obtain ⟨n, r, hn, rfl⟩ := mem_fields_arrangeFields_ofRows.mp hf
    refine ⟨k, n, name, r, hk, ?_, hn, ?_, rfl⟩
    · simpa [arrangeFields] using hi.symm
    · simpa [Row.toField] using hj.symm
  · rintro ⟨k, n, name, r, hk, rfl, hn, rfl, rfl⟩
    refine ⟨_, mem_sections_ofRows.mpr ⟨k, name, hk, rfl⟩, ?_,
      mem_fields_arrangeFields_ofRows.mpr ⟨n, r, hn, rfl⟩, ?_⟩
    · simp [arrangeFields]
    · simp [Row.toField]

/-! ## Addresses after changes of values -/

/-- Forms with one blank have their fields at the same positions. -/
theorem Placed.resolve_congr {s t : Schema} (hs : s.Placed) (h : s.blank = t.blank) {i j : Int}
    {f : Field} (hf : Rule.resolve s (.position i (some j)) = .field f) :
    ∃ g, Rule.resolve t (.position i (some j)) = .field g ∧ g.blank = f.blank := by
  obtain ⟨sec, hsec, hi, hmem, hj⟩ := hs.resolve_eq_field_iff.mp hf
  obtain ⟨sec', hsec', hblank⟩ := exists_mem_of_blank_eq h hsec
  have hfields : sec.fields.map Field.blank = sec'.fields.map Field.blank :=
    congrArg Section.fields hblank.symm
  obtain ⟨g, hg, hgf⟩ := List.mem_map.mp (hfields ▸ List.mem_map_of_mem hmem)
  have hposition := congrArg Section.position hblank
  have hplace := congrArg Field.position hgf
  refine ⟨g, (hs.congr h).resolve_eq_field_iff.mpr ⟨sec', hsec', ?_, hg, ?_⟩, hgf⟩
  · exact hposition.trans hi
  · exact hplace.trans hj

/-- The rows of the section at a place among the sections named, counted from one. -/
def rowsAt (d : String) (rows : List Row) (i : Int) : List Row :=
  ((titles d rows)[(i - 1).toNat]?).elim [] (rowsOf d rows)

/-- A form that has one section a name and one field a row, each to be found by the place that the
rows give it. -/
structure Addressed (d : String) (rows : List Row) (s : Schema) : Prop where
  names : (s.sections.map (·.name)).Perm (titles d rows)
  nodup : (s.sections.map (·.name)).Nodup
  fields : (s.allFields.map Field.blank).Perm (Builder.rowFields d rows)
  found : ∀ i j : Int, (∃ f, Rule.resolve s (.position i (some j)) = .field f) ↔
    1 ≤ i ∧ i ≤ (titles d rows).length ∧ 1 ≤ j ∧ j ≤ (rowsAt d rows i).length
  made : ∀ (i j : Int) (f : Field), Rule.resolve s (.position i (some j)) = .field f →
    ∃ r, (rowsAt d rows i)[(j - 1).toNat]? = some r ∧ f.blank = r.toField j.toNat

theorem rowsAt_of_getElem? {d : String} {rows : List Row} {k : Nat} {name : String}
    (h : (titles d rows)[k]? = some name) : rowsAt d rows (k + 1) = rowsOf d rows name := by
  have hk : ((k : Int) + 1 - 1).toNat = k := by omega
  rw [rowsAt, hk, h, Option.elim_some]

theorem addressed_ofRows (d : String) (rows : List Row) : Addressed d rows (ofRows d rows) where
  names := perm_names_ofRows d rows
  nodup := nodup_names_ofRows d rows
  fields := by
    rw [← Builder.map_blank_rowFields]
    exact (perm_allFields_ofRows d rows).map _
  found := by
    intro i j
    constructor
    · rintro ⟨f, hf⟩
      obtain ⟨k, n, name, r, hk, rfl, hn, rfl, -⟩ := resolve_ofRows_eq_field_iff.mp hf
      obtain ⟨hklt, -⟩ := List.getElem?_eq_some_iff.mp hk
      obtain ⟨hnlt, -⟩ := List.getElem?_eq_some_iff.mp hn
      rw [rowsAt_of_getElem? hk]
      omega
    · rintro ⟨hi, him, hj, hjn⟩
      obtain ⟨k, rfl⟩ : ∃ k : Nat, i = k + 1 := ⟨(i - 1).toNat, by omega⟩
      obtain ⟨n, rfl⟩ : ∃ n : Nat, j = n + 1 := ⟨(j - 1).toNat, by omega⟩
      have hklt : k < (titles d rows).length := by omega
      have hk : (titles d rows)[k]? = some (titles d rows)[k] := List.getElem?_eq_getElem hklt
      rw [rowsAt_of_getElem? hk] at hjn
      have hnlt : n < (rowsOf d rows (titles d rows)[k]).length := by omega
      have hn := List.getElem?_eq_getElem hnlt
      exact ⟨_, resolve_ofRows_eq_field_iff.mpr ⟨k, n, _, _, hk, rfl, hn, rfl, rfl⟩⟩
  made := by
    intro i j f hf
    obtain ⟨k, n, name, r, hk, rfl, hn, rfl, rfl⟩ := resolve_ofRows_eq_field_iff.mp hf
    have hj : ((n : Int) + 1 - 1).toNat = n := by omega
    have hposition : ((n : Int) + 1).toNat = n + 1 := by omega
    rw [rowsAt_of_getElem? hk, hj, hposition]
    exact ⟨r, hn, Row.blank_toField r (n + 1)⟩

theorem map_blank_allFields (s : Schema) : s.allFields.map Field.blank = s.blank.allFields := by
  simp [allFields, blank, Section.blank, List.map_flatMap, List.flatMap_map]

/-- Addresses hang on the blank of a form alone. -/
theorem Addressed.congr {d : String} {rows : List Row} {s t : Schema} (hs : Addressed d rows s)
    (hplaced : s.Placed) (h : s.blank = t.blank) : Addressed d rows t where
  names := by
    rw [← names_eq_of_blank_eq h]
    exact hs.names
  nodup := by
    rw [← names_eq_of_blank_eq h]
    exact hs.nodup
  fields := by
    rw [map_blank_allFields, ← h, ← map_blank_allFields]
    exact hs.fields
  found := by
    intro i j
    rw [← hs.found]
    constructor
    · rintro ⟨f, hf⟩
      obtain ⟨g, hg, -⟩ := (hplaced.congr h).resolve_congr h.symm hf
      exact ⟨g, hg⟩
    · rintro ⟨f, hf⟩
      obtain ⟨g, hg, -⟩ := hplaced.resolve_congr h hf
      exact ⟨g, hg⟩
  made := by
    intro i j f hf
    obtain ⟨g, hg, hblank⟩ := (hplaced.congr h).resolve_congr h.symm hf
    obtain ⟨r, hr, hmade⟩ := hs.made i j g hg
    exact ⟨r, hr, hblank ▸ hmade⟩

/-- Whatever has been done to the values and standings of a built form, it is addressed by its
rows. -/
theorem addressed_of_blank_eq {d : String} {rows : List Row} {s : Schema}
    (h : s.blank = (ofRows d rows).blank) : Addressed d rows s :=
  (addressed_ofRows d rows).congr (placed_ofRows d rows) h.symm

end Schema

end ConditionalForms
