import ConditionalForms.Proofs.Form.Addresses

/-! # Orders and rules of sections

The rows of a section, wherever they stand among the others, settle its order and its rule between
them: the order is the least that a row gives, and the rule is the first that is not blank.
-/

namespace ConditionalForms

/-! ## What rows give -/

namespace Row

/-- The explicit orders that some rows give to their section. -/
def orders (rs : List Row) : List Int := rs.filterMap (·.sectionOrder.order?)

/-- The rules that some rows give to their section; a missing one is empty. -/
def rules (rs : List Row) : List String := rs.map (·.sectionRule.getD "")

theorem orders_append_singleton (rs : List Row) (r : Row) :
    orders (rs ++ [r]) = orders rs ++ r.sectionOrder.order?.toList := by
  rw [orders, List.filterMap_append]
  cases h : r.sectionOrder.order? <;> simp [orders, h]

theorem rules_append_singleton (rs : List Row) (r : Row) :
    rules (rs ++ [r]) = rules rs ++ [r.sectionRule.getD ""] := List.map_append

end Row

/-- The first text that is not blank, or else the first text. -/
def firstFull? (texts : List String) : Option String :=
  (texts.find? (!Text.isBlankText ·)).or texts.head?

theorem min?_append_toList (is : List Int) (o : Option Int) :
    (is ++ o.toList).min? = leastOrder is.min? o := by
  cases o with
  | none => cases is <;> simp [leastOrder]
  | some j =>
      cases is with
      | nil => rfl
      | cons i is =>
          rw [Option.toList_some, List.cons_append, List.min?_cons', List.min?_cons',
            List.foldl_append]
          rfl

/-- One more text counts only after blank ones. -/
theorem firstFull?_append_singleton {texts : List String} {first : String}
    (h : firstFull? texts = some first) (text : String) :
    firstFull? (texts ++ [text]) =
      some (if Text.isBlankText first && !Text.isBlankText text then text else first) := by
  rw [firstFull?, List.find?_append]
  rw [firstFull?] at h
  cases hfull : texts.find? (!Text.isBlankText ·) with
  | some full =>
      obtain rfl : full = first := by simpa [hfull] using h
      have hfirst : Text.isBlankText full = false := by simpa using List.find?_some hfull
      simp [hfirst]
  | none =>
      have hhead : texts.head? = some first := by simpa [hfull] using h
      have hfirst : Text.isBlankText first := by
        simpa using List.find?_eq_none.mp hfull first (List.mem_of_head? hhead)
      cases htext : Text.isBlankText text <;> simp [hfirst, htext, hhead]

/-! ## Sections of rows -/

namespace Section

/-- The order and rule of a section are what its rows make of them, in record order: the least order
that there is, and the first rule that is not blank, or else the first rule. -/
structure Merges (rs : List Row) (s : Section) : Prop where
  order : s.order = (Row.orders rs).min?
  rule : some s.rule = firstFull? (Row.rules rs)

variable {name : String} {position : Nat} {rs : List Row} {s : Section}

theorem merges_opened (r : Row) : ((opened name r position).withRow r).Merges [r] where
  order := by
    have horder : ((opened name r position).withRow r).order = r.sectionOrder.order? := rfl
    rw [horder, ← List.nil_append [r], Row.orders_append_singleton, min?_append_toList]
    rfl
  rule := by
    rw [Row.rules, List.map_singleton, firstFull?, List.find?_singleton]
    split <;> rfl

theorem Merges.merged (h : s.Merges rs) (r : Row) :
    ((s.merged r).withRow r).Merges (rs ++ [r]) where
  order := by
    have horder : ((s.merged r).withRow r).order = leastOrder s.order r.sectionOrder.order? := rfl
    rw [horder, h.order, Row.orders_append_singleton, min?_append_toList]
  rule := by
    rw [Row.rules_append_singleton, firstFull?_append_singleton h.rule.symm]
    rfl

theorem merges_ofRows (h : rs ≠ []) : (ofRows name position rs).Merges rs :=
  ofRows_induction merges_opened (fun _ r _ hs => hs.merged r) h

end Section

open Builder (rowsOf rowsFrom buildFrom arrangeFields)

theorem Schema.merges_of_mem_ofRows {d : String} {rows : List Row} {sec : Section}
    (h : sec ∈ (ofRows d rows).sections) : sec.Merges (rowsOf d rows sec.name) := by
  obtain ⟨k, name, hk, rfl⟩ := mem_sections_ofRows.mp h
  have hrows : rowsOf d rows name ≠ [] := by
    rw [ne_eq, Builder.rowsOf_eq_nil_iff, not_not]
    exact List.mem_of_getElem? hk
  obtain ⟨horder, hrule⟩ : (Section.ofRows name (k + 1) (rowsOf d rows name)).Merges
      (rowsOf d rows name) := Section.merges_ofRows hrows
  have hname : (arrangeFields (Section.ofRows name (k + 1) (rowsOf d rows name))).name = name :=
    Section.name_ofRows _
  rw [hname]
  exact ⟨horder, hrule⟩

/-- In a form of records, each section has the least explicit order of its own rows, or none, and
the first of their rules that is not blank, or else the first of them. -/
theorem merges_of_buildFrom {d : String} {records : Json} {form : Schema}
    (h : buildFrom d records = .ok form) :
    ∃ rows, rowsFrom records = .ok rows ∧
      ∀ sec ∈ form.sections, sec.Merges (rowsOf d rows sec.name) := by
  obtain ⟨rows, hrows, rfl⟩ := Builder.buildFrom_eq_ok_iff.mp h
  exact ⟨rows, hrows, fun sec hsec => Schema.merges_of_mem_ofRows hsec⟩

/-- Records of two sections in turn. The first section has its order from its second row and its
rule from its third. -/
def mergedRecords : List Json := [
  .object [("section", .text "Visit"), ("section_order", .text " 7 "),
    ("section_criteria", .text " \t"), ("field_name", .text "Notes"), ("field_order", .int 1)],
  .object [("section", .text "Repair"), ("section_criteria", .text ""),
    ("field_name", .text "Cost")],
  .object [("Section__c", .text "Visit "), ("section_order", .int (-2)),
    ("field_name", .text "Outcome"), ("field_order", .int 2)],
  .object [("section", .text "Visit"), ("section_order", .text "late"),
    ("section_criteria", .text "[Repair].[Cost]\x7b>1\x7d"), ("field_order", .int 3)],
  .object [("section", .text "Visit"), ("section_order", .int 0),
    ("section_criteria", .text "[Visit].[Notes]\x7b\x7d"), ("field_order", .int 4)]]

def mergedForm : Schema where
  sections := [
    { name := "Visit", order := some (-2), rule := "[Repair].[Cost]\x7b>1\x7d", position := 1
      fields := [
        { name := "Notes", order := some 1, position := 1 },
        { name := "Outcome", order := some 2, position := 2 },
        { name := "", order := some 3, position := 3 },
        { name := "", order := some 4, position := 4 }] },
    { name := "Repair", position := 2, fields := [{ name := "Cost", position := 1 }] }]

theorem buildFrom_mergedRecords : buildFrom "Other" (.list mergedRecords) = .ok mergedForm :=
  Builder.buildFrom_of_pairwise rfl (by decide) (by decide)

theorem merges_of_buildFrom_merged :
    buildFrom "Other" (.list mergedRecords) = .ok mergedForm ∧
      ∃ rows, rowsFrom (.list mergedRecords) = .ok rows ∧
        ∀ sec ∈ mergedForm.sections, sec.Merges (rowsOf "Other" rows sec.name) :=
  ⟨buildFrom_mergedRecords, merges_of_buildFrom buildFrom_mergedRecords⟩

end ConditionalForms
