import ConditionalForms.Form.Builder
import ConditionalForms.Proofs.Fault.Returning
import Mathlib.Data.List.Induction

/-! # Forms as they are built

Gathering rows opens one section a name, and sorting for display moves sections and fields without
changing them.
-/

namespace ConditionalForms

namespace Builder

/-! ## Gathering -/

theorem names_place (name : String) (r : Row) (opened : Nat) (ss : List Section) :
    (place name r opened ss).map (·.name) =
      if name ∈ ss.map (·.name) then ss.map (·.name) else ss.map (·.name) ++ [name] := by
  induction ss generalizing opened with
  | nil => rfl
  | cons s ss ih =>
      by_cases hname : s.name = name
      · simp [place, hname, Section.withRow, Section.merged]
      · have hmem : name ∈ (s :: ss).map (·.name) ↔ name ∈ ss.map (·.name) := by
          simp [Ne.symm hname]
        rw [place, if_neg hname, List.map_cons, ih]
        by_cases hin : name ∈ ss.map (·.name)
        · rw [if_pos hin, if_pos (hmem.mpr hin), List.map_cons]
        · rw [if_neg hin, if_neg (mt hmem.mp hin), List.map_cons, List.cons_append]

theorem nodup_names_place {name : String} {r : Row} {opened : Nat} {ss : List Section}
    (h : (ss.map (·.name)).Nodup) : ((place name r opened ss).map (·.name)).Nodup := by
  rw [names_place]
  split
  · exact h
  · rename_i hnew
    refine List.nodup_append.mpr ⟨h, by simp, ?_⟩
    intro a ha b hb
    obtain rfl : b = name := by simpa using hb
    exact fun he => hnew (he ▸ ha)

/-- A property of the section that a row opens, kept when more rows are merged into it, holds of
every section. -/
theorem forall_place {p : Section → Prop} {name : String} {r : Row} {opened : Nat}
    {ss : List Section} (hopened : ∀ position, p ((Section.opened name r position).withRow r))
    (hmerged : ∀ s, p s → p ((s.merged r).withRow r)) (h : ∀ s ∈ ss, p s) :
    ∀ s ∈ place name r opened ss, p s := by
  induction ss generalizing opened with
  | nil => simpa [place] using hopened _
  | cons s ss ih =>
      obtain ⟨hs, hss⟩ := List.forall_mem_cons.mp h
      rw [place]
      split
      · exact List.forall_mem_cons.mpr ⟨hmerged s hs, hss⟩
      · exact List.forall_mem_cons.mpr ⟨hs, ih hss⟩

/-- A property that placing one row keeps holds of all rows gathered. -/
theorem gather_induction {p : List Section → Prop} (d : String) (rows : List Row) (hnil : p [])
    (hplace : ∀ ss r, p ss → p (place (r.sectionTitle d) r 0 ss)) : p (gather d rows) := by
  unfold gather
  induction rows using List.reverseRecOn with
  | nil => exact hnil
  | append_singleton rows r ih =>
      rw [List.foldl_append]
      exact hplace _ r ih

theorem nodup_names_gather (d : String) (rows : List Row) :
    ((gather d rows).map (·.name)).Nodup :=
  gather_induction (p := fun ss => (ss.map (·.name)).Nodup) d rows (by simp)
    fun _ _ h => nodup_names_place h

/-! ## Sorting -/

theorem perm_arrange (ss : List Section) : (arrange ss).Perm (ss.map arrangeFields) :=
  List.mergeSort_perm _ _

theorem mem_fields_arrangeFields {s : Section} {f : Field} :
    f ∈ (arrangeFields s).fields ↔ f ∈ s.fields :=
  List.mem_mergeSort

/-- Fields that stand in display order already are left as they are. -/
theorem map_arrangeFields_of_pairwise {ss : List Section}
    (h : ∀ s ∈ ss, s.fields.Pairwise fun f g => (f.sortKey).le g.sortKey) :
    ss.map arrangeFields = ss := by
  rw [List.map_congr_left (g := id), List.map_id]
  intro s hs
  simp [arrangeFields, SortKey.sort, List.mergeSort_of_pairwise (h s hs)]

/-- Sections and fields that stand in display order already are left as they are. -/
theorem arrange_of_pairwise {ss : List Section}
    (hsections : ss.Pairwise fun s t => (s.sortKey).le t.sortKey)
    (hfields : ∀ s ∈ ss, s.fields.Pairwise fun f g => (f.sortKey).le g.sortKey) :
    arrange ss = ss := by
  rw [arrange, map_arrangeFields_of_pairwise hfields]
  exact List.mergeSort_of_pairwise hsections

/-! ## Records -/

/-- The rows of the records of a value. -/
def rowsFrom (records : Json) : Except Fault (List Row) := do
  let items ← Row.records records
  items.mapM Row.ofRecord

theorem buildFrom_eq_ok_iff {d : String} {records : Json} {form : Schema} :
    buildFrom d records = .ok form ↔
      ∃ rows, rowsFrom records = .ok rows ∧ form = Schema.ofRows d rows := by
  simp only [buildFrom, build, rowsFrom, Fault.bind_eq_ok_iff, Except.ok.injEq]
  constructor
  · rintro ⟨items, hitems, rows, hrows, rfl⟩
    exact ⟨rows, ⟨items, hitems, hrows⟩, rfl⟩
  · rintro ⟨rows, ⟨items, hitems, hrows⟩, rfl⟩
    exact ⟨items, hitems, rows, hrows, rfl⟩

theorem exists_rows_of_buildFrom {d : String} {records : Json} {form : Schema}
    (h : buildFrom d records = .ok form) : ∃ rows, form = Schema.ofRows d rows := by
  obtain ⟨rows, -, hform⟩ := buildFrom_eq_ok_iff.mp h
  exact ⟨rows, hform⟩

/-- Records that come in display order are built as they are gathered. -/
theorem buildFrom_of_pairwise {d : String} {records : Json} {ss : List Section}
    (hgather : (rowsFrom records).map (gather d) = .ok ss)
    (hsections : ss.Pairwise fun s t => (s.sortKey).le t.sortKey)
    (hfields : ∀ s ∈ ss, s.fields.Pairwise fun f g => (f.sortKey).le g.sortKey) :
    buildFrom d records = .ok { sections := ss } := by
  obtain ⟨rows, hrows, rfl⟩ := Fault.map_eq_ok_iff.mp hgather
  refine buildFrom_eq_ok_iff.mpr ⟨rows, hrows, ?_⟩
  rw [Schema.ofRows, arrange_of_pairwise hsections hfields]

end Builder

namespace Schema

theorem nodup_names_ofRows (d : String) (rows : List Row) :
    ((ofRows d rows).sections.map (·.name)).Nodup := by
  have hperm := (Builder.perm_arrange (Builder.gather d rows)).map (·.name)
  rw [ofRows, hperm.nodup_iff, List.map_map]
  exact Builder.nodup_names_gather d rows

theorem value_of_mem_ofRows {d : String} {rows : List Row} {sec : Section} {f : Field}
    (hsec : sec ∈ (ofRows d rows).sections) (hf : f ∈ sec.fields) : f.value = .null := by
  have hgather : ∀ s ∈ Builder.gather d rows, ∀ g ∈ s.fields, g.value = .null := by
    apply Builder.gather_induction (p := fun ss => ∀ s ∈ ss, ∀ g ∈ s.fields, g.value = .null)
    · simp
    · intro ss r h
      apply Builder.forall_place _ _ h
      · intro position g hg
        obtain rfl : g = r.toField 1 := by simpa [Section.withRow, Section.opened] using hg
        rfl
      · intro s hs g hg
        rcases List.mem_append.mp hg with hg | hg
        · exact hs g hg
        · obtain rfl := List.mem_singleton.mp hg
          rfl
  obtain ⟨s, hs, rfl⟩ := List.mem_map.mp ((Builder.perm_arrange _).mem_iff.mp hsec)
  exact hgather s hs f (Builder.mem_fields_arrangeFields.mp hf)

end Schema

/-- Records that repeat a name within a section, and whose second section looks at the first. -/
def visitRecords : Json := .list [
  .object [("section", .text "Visit"), ("section_order", .int 1), ("field_name", .text "Outcome"),
    ("field_order", .int 1)],
  .object [("section", .text "Visit"), ("field_name", .text "Notes"), ("field_order", .int 2)],
  .object [("section", .text "Visit"), ("field_name", .text "Notes"), ("field_order", .int 3)],
  .object [("section", .text "Repair"), ("section_order", .int 2),
    ("section_criteria", .text "[Visit].[Outcome]{=broken}"), ("field_name", .text "Cost")]]

def visitForm : Schema where
  sections := [
    { name := "Visit", order := some 1, position := 1, fields := [
        { name := "Outcome", order := some 1, position := 1 },
        { name := "Notes", order := some 2, position := 2 },
        { name := "Notes", order := some 3, position := 3 }] },
    { name := "Repair", order := some 2, rule := "[Visit].[Outcome]{=broken}", position := 2
      fields := [{ name := "Cost", position := 1 }] }]

theorem buildFrom_visitRecords (d : String) : Builder.buildFrom d visitRecords = .ok visitForm :=
  Builder.buildFrom_of_pairwise rfl (by decide) (by decide)

end ConditionalForms
