import ConditionalForms.Proofs.Form.Built

/-! # How rows are grouped

Every name opens one section, in the order in which the rows first name it, and the rows of that
name fill it in their own order, whatever other rows stand between them.
-/

namespace ConditionalForms

/-! ## The rows of one section -/

namespace Section

/-- The section that the rows of one name come to; the first of them opens it. -/
def ofRows (name : String) (position : Nat) : List Row → Section
  | [] => { name, position }
  | r :: rs => rs.foldl (fun s r => (s.merged r).withRow r) ((opened name r position).withRow r)

variable {name : String} {position : Nat}

theorem ofRows_append_singleton {rs : List Row} (h : rs ≠ []) (r : Row) :
    ofRows name position (rs ++ [r]) = ((ofRows name position rs).merged r).withRow r := by
  obtain ⟨r₀, rs, rfl⟩ := List.exists_cons_of_ne_nil h
  rw [List.cons_append, ofRows, ofRows, List.foldl_append]
  rfl

/-- What holds of an opened section and is kept when a row is merged holds of the section of some
rows. -/
theorem ofRows_induction {p : List Row → Section → Prop}
    (hopened : ∀ r, p [r] ((opened name r position).withRow r))
    (hmerged : ∀ rs r s, p rs s → p (rs ++ [r]) ((s.merged r).withRow r)) {rs : List Row}
    (h : rs ≠ []) : p rs (ofRows name position rs) := by
  induction rs using List.reverseRecOn with
  | nil => exact absurd rfl h
  | append_singleton rs r ih =>
      by_cases hrs : rs = []
      · subst rs
        exact hopened r
      · rw [ofRows_append_singleton hrs]
        exact hmerged rs r _ (ih hrs)

/-- What no row of a section changes is as when the section is opened. -/
theorem ofRows_keeps {α : Type} (part : Section → α)
    (hopened : ∀ r, part ((opened name r position).withRow r) = part { name, position })
    (hmerged : ∀ s r, part ((merged s r).withRow r) = part s) (rs : List Row) :
    part (ofRows name position rs) = part { name, position } := by
  by_cases hrs : rs = []
  · rw [hrs, ofRows]
  · exact ofRows_induction (p := fun _ s => part s = part { name, position }) hopened
      (fun _ r s hs => (hmerged s r).trans hs) hrs

@[simp] theorem name_ofRows (rs : List Row) : (ofRows name position rs).name = name :=
  ofRows_keeps (·.name) (fun _ => rfl) (fun _ _ => rfl) rs

@[simp] theorem position_ofRows (rs : List Row) :
    (ofRows name position rs).position = position :=
  ofRows_keeps (·.position) (fun _ => rfl) (fun _ _ => rfl) rs

@[simp] theorem standing_ofRows (rs : List Row) : (ofRows name position rs).standing = {} :=
  ofRows_keeps (·.standing) (fun _ => rfl) (fun _ _ => rfl) rs

/-- Every row of a section becomes one field, at its place among these rows. -/
theorem fields_ofRows (rs : List Row) :
    (ofRows name position rs).fields = rs.mapIdx fun j r => r.toField (j + 1) := by
  by_cases hrs : rs = []
  · rw [hrs, ofRows, List.mapIdx_nil]
  · apply ofRows_induction (p := fun rs s => s.fields = rs.mapIdx fun j r => r.toField (j + 1)) _ _
      hrs
    · intro r
      rfl
    · intro rs r s hs
      have hmerged : (s.merged r).fields = rs.mapIdx fun j r => r.toField (j + 1) := hs
      rw [withRow, hmerged, List.length_mapIdx, List.mapIdx_concat]

end Section

namespace Builder

/-- The names of the sections of some rows, in the order in which the rows first name them. -/
def titles (d : String) (rows : List Row) : List String := (rows.map (·.sectionTitle d)).eraseDups

/-- The rows of a section, in order. -/
def rowsOf (d : String) (rows : List Row) (name : String) : List Row :=
  rows.filter (·.sectionTitle d = name)

theorem mem_titles {d : String} {rows : List Row} {name : String} :
    name ∈ titles d rows ↔ ∃ r ∈ rows, r.sectionTitle d = name := by
  rw [titles, List.mem_eraseDups, List.mem_map]

theorem rowsOf_eq_nil_iff {d : String} {rows : List Row} {name : String} :
    rowsOf d rows name = [] ↔ name ∉ titles d rows := by
  simp [rowsOf, mem_titles, List.filter_eq_nil_iff]

theorem titles_append_singleton (d : String) (rows : List Row) (r : Row) :
    titles d (rows ++ [r]) =
      if r.sectionTitle d ∈ titles d rows then titles d rows
      else titles d rows ++ [r.sectionTitle d] := by
  have hnew (names : List String) (name : String) :
      ([name].removeAll names).eraseDups = if name ∈ names then [] else [name] := by
    by_cases h : name ∈ names <;> simp [List.removeAll, List.eraseDups_cons, h]
  have hmem : r.sectionTitle d ∈ rows.map (·.sectionTitle d) ↔
      r.sectionTitle d ∈ titles d rows := List.mem_eraseDups.symm
  rw [titles, List.map_append, List.map_singleton, List.eraseDups_append, hnew]
  by_cases h : r.sectionTitle d ∈ titles d rows
  · rw [if_pos h, if_pos (hmem.mpr h), List.append_nil, titles]
  · rw [if_neg h, if_neg (mt hmem.mp h), titles]

theorem rowsOf_append_singleton (d : String) (rows : List Row) (r : Row) (name : String) :
    rowsOf d (rows ++ [r]) name =
      if r.sectionTitle d = name then rowsOf d rows name ++ [r] else rowsOf d rows name := by
  by_cases h : r.sectionTitle d = name <;> simp [rowsOf, h]

/-! ## Gathering -/

theorem gather_append_singleton (d : String) (rows : List Row) (r : Row) :
    gather d (rows ++ [r]) = place (r.sectionTitle d) r 0 (gather d rows) := by
  rw [gather, gather, List.foldl_append, List.foldl_cons, List.foldl_nil]

theorem names_gather (d : String) (rows : List Row) :
    (gather d rows).map (·.name) = titles d rows := by
  induction rows using List.reverseRecOn with
  | nil => rfl
  | append_singleton rows r ih =>
      rw [gather_append_singleton, names_place, ih, titles_append_singleton]

/-- Among sections of distinct names a row goes into the one of its own name, or opens it. -/
theorem place_eq {name : String} {r : Row} {opened : Nat} {ss : List Section}
    (h : (ss.map (·.name)).Nodup) :
    place name r opened ss =
      if name ∈ ss.map (·.name) then
        ss.map fun s => if s.name = name then (s.merged r).withRow r else s
      else ss ++ [(Section.opened name r (opened + ss.length + 1)).withRow r] := by
  induction ss generalizing opened with
  | nil => rfl
  | cons s ss ih =>
      obtain ⟨hnew, hss⟩ := List.nodup_cons.mp h
      by_cases hname : s.name = name
      · have hrest : ∀ t ∈ ss, (if t.name = name then (t.merged r).withRow r else t) = t := by
          intro t ht
          have hother : t.name ≠ name := by
            intro he
            exact hnew (List.mem_map.mpr ⟨t, ht, he.trans hname.symm⟩)
          rw [if_neg hother]
        rw [place, if_pos hname, if_pos (by simp [hname]), List.map_cons, if_pos hname,
          List.map_congr_left hrest, List.map_id']
      · have hmem : name ∈ (s :: ss).map (·.name) ↔ name ∈ ss.map (·.name) := by
          simp [Ne.symm hname]
        rw [place, if_neg hname, ih hss]
        by_cases hin : name ∈ ss.map (·.name)
        · rw [if_pos hin, if_pos (hmem.mpr hin), List.map_cons, if_neg hname]
        · have hlength : opened + (s :: ss).length + 1 = opened + 1 + ss.length + 1 := by
            rw [List.length_cons]
            omega
          rw [if_neg hin, if_neg (mt hmem.mp hin), List.cons_append, hlength]

/-- Gathering makes one section of the rows of each name. -/
theorem gather_eq (d : String) (rows : List Row) :
    gather d rows =
      (titles d rows).mapIdx fun i name => Section.ofRows name (i + 1) (rowsOf d rows name) := by
  induction rows using List.reverseRecOn with
  | nil => rfl
  | append_singleton rows r ih =>
      rw [gather_append_singleton, place_eq (nodup_names_gather d rows), names_gather,
        titles_append_singleton]
      by_cases hin : r.sectionTitle d ∈ titles d rows
      · rw [if_pos hin, if_pos hin, ih]
        apply List.ext_getElem?
        intro i
        rw [List.getElem?_map, List.getElem?_mapIdx, List.getElem?_mapIdx, Option.map_map]
        cases hi : (titles d rows)[i]? with
        | none => rw [Option.map_none, Option.map_none]
        | some name =>
            have hrows : rowsOf d rows name ≠ [] := by
              rw [ne_eq, rowsOf_eq_nil_iff, not_not]
              exact List.mem_of_getElem? hi
            by_cases hname : r.sectionTitle d = name
            · simp [rowsOf_append_singleton, hname, Section.ofRows_append_singleton hrows]
            · simp [rowsOf_append_singleton, hname, Ne.symm hname]
      · have hlength : (gather d rows).length = (titles d rows).length := by
          rw [← names_gather, List.length_map]
        have hkept : (titles d rows).mapIdx (fun i name =>
            Section.ofRows name (i + 1) (rowsOf d (rows ++ [r]) name)) = gather d rows := by
          rw [ih]
          apply List.ext_getElem?
          intro i
          rw [List.getElem?_mapIdx, List.getElem?_mapIdx]
          cases hi : (titles d rows)[i]? with
          | none => rw [Option.map_none, Option.map_none]
          | some name =>
              have hother : r.sectionTitle d ≠ name :=
                fun he => hin (he ▸ List.mem_of_getElem? hi)
              rw [Option.map_some, Option.map_some, rowsOf_append_singleton, if_neg hother]
        have hopened : Section.ofRows (r.sectionTitle d) ((titles d rows).length + 1)
            (rowsOf d (rows ++ [r]) (r.sectionTitle d)) =
              (Section.opened (r.sectionTitle d) r ((titles d rows).length + 1)).withRow r := by
          rw [rowsOf_append_singleton, if_pos rfl, rowsOf_eq_nil_iff.mpr hin, List.nil_append,
            Section.ofRows, List.foldl_nil]
        rw [if_neg hin, if_neg hin, List.mapIdx_concat, hkept, hopened, hlength, Nat.zero_add]

/-! ## One field a row -/

/-- The fields of some rows, each at its place among the rows of its section. -/
def rowFields (d : String) (rows : List Row) : List Field :=
  rows.mapIdx fun k r => r.toField ((rowsOf d (rows.take k) (r.sectionTitle d)).length + 1)

theorem rowFields_append_singleton (d : String) (rows : List Row) (r : Row) :
    rowFields d (rows ++ [r]) =
      rowFields d rows ++ [r.toField ((rowsOf d rows (r.sectionTitle d)).length + 1)] := by
  have hbefore : rows.mapIdx (fun k r' =>
      r'.toField ((rowsOf d ((rows ++ [r]).take k) (r'.sectionTitle d)).length + 1)) =
        rowFields d rows := by
    apply List.ext_getElem?
    intro k
    rw [rowFields, List.getElem?_mapIdx, List.getElem?_mapIdx]
    cases hk : rows[k]? with
    | none => rw [Option.map_none, Option.map_none]
    | some r' =>
        obtain ⟨hlt, -⟩ := List.getElem?_eq_some_iff.mp hk
        rw [Option.map_some, Option.map_some, List.take_append_of_le_length (Nat.le_of_lt hlt)]
  rw [rowFields, List.mapIdx_concat, hbefore, List.take_left]

/-- Placing a row adds its field and no other, where its section has some number of fields so far.
-/
theorem fields_place {name : String} {r : Row} {opened count : Nat} {ss : List Section}
    (hcount : ∀ s ∈ ss, s.name = name → s.fields.length = count)
    (hnone : name ∉ ss.map (·.name) → count = 0) :
    ((place name r opened ss).flatMap (·.fields)).Perm
      (ss.flatMap (·.fields) ++ [r.toField (count + 1)]) := by
  induction ss generalizing opened with
  | nil =>
      have hzero : count = 0 := hnone (by simp)
      subst count
      exact .refl _
  | cons s ss ih =>
      by_cases hname : s.name = name
      · have hlength : s.fields.length = count := hcount s (by simp) hname
        have hfields : ((s.merged r).withRow r).fields = s.fields ++ [r.toField (count + 1)] := by
          rw [← hlength]
          rfl
        rw [place, if_pos hname, List.flatMap_cons, List.flatMap_cons, hfields, List.append_assoc,
          List.append_assoc]
        exact List.perm_append_comm.append_left s.fields
      · have hrestCount : ∀ t ∈ ss, t.name = name → t.fields.length = count :=
          fun t ht => hcount t (by simp [ht])
        have hrestNone : name ∉ ss.map (·.name) → count = 0 := by
          intro hin
          apply hnone
          simpa [Ne.symm hname] using hin
        rw [place, if_neg hname, List.flatMap_cons, List.flatMap_cons, List.append_assoc]
        exact (ih hrestCount hrestNone).append_left s.fields

theorem length_fields_of_mem_gather {d : String} {rows : List Row} {s : Section}
    (hs : s ∈ gather d rows) : s.fields.length = (rowsOf d rows s.name).length := by
  rw [gather_eq] at hs
  obtain ⟨i, hi, rfl⟩ := List.mem_mapIdx.mp hs
  rw [Section.fields_ofRows, List.length_mapIdx, Section.name_ofRows]

theorem perm_fields_gather (d : String) (rows : List Row) :
    ((gather d rows).flatMap (·.fields)).Perm (rowFields d rows) := by
  induction rows using List.reverseRecOn with
  | nil => exact .refl _
  | append_singleton rows r ih =>
      have hcount : ∀ s ∈ gather d rows, s.name = r.sectionTitle d →
          s.fields.length = (rowsOf d rows (r.sectionTitle d)).length := by
        rintro s hs hname
        rw [← hname]
        exact length_fields_of_mem_gather hs
      have hnone : r.sectionTitle d ∉ (gather d rows).map (·.name) →
          (rowsOf d rows (r.sectionTitle d)).length = 0 := by
        intro hnew
        rw [names_gather] at hnew
        rw [rowsOf_eq_nil_iff.mpr hnew, List.length_nil]
      rw [gather_append_singleton, rowFields_append_singleton]
      exact (fields_place hcount hnone).trans (ih.append_right _)

end Builder

end ConditionalForms
