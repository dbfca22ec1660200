import ConditionalForms.Proofs.Form.Addresses
import ConditionalForms.Proofs.Form.Sorting

/-! # Display order

Sections are shown by their keys as all of their rows have settled them, and sections of equal keys
in the order in which the rows first name them. The fields of a section are shown in the same way,
those of equal keys in the order of the rows of the section.
-/

namespace ConditionalForms

open Builder (titles rowsOf rowsFrom gather arrange arrangeFields buildFrom)

/-- What a section is shown by: its key, and then its position. -/
def Section.place (s : Section) : (Bool ×ₗ ℤ ×ₗ List ℕ) ×ₗ ℤ := toLex (s.sortKey.rank, s.position)

/-- What a field is shown by within its section: its key, and then its position. -/
def Field.place (f : Field) : (Bool ×ₗ ℤ ×ₗ List ℕ) ×ₗ ℤ := toLex (f.sortKey.rank, f.position)

theorem Section.pairwise_place_ofRows (name : String) (position : Nat) (rs : List Row) :
    (arrangeFields (ofRows name position rs)).fields.Pairwise (·.place < ·.place) := by
  apply SortKey.pairwise_sort_lex
  rw [fields_ofRows]
  apply pairwise_mapIdx
  intro n r
  simp [Row.toField]

namespace Schema

theorem pairwise_place_ofRows (d : String) (rows : List Row) :
    (ofRows d rows).sections.Pairwise (·.place < ·.place) := by
  apply SortKey.pairwise_sort_lex
  have hgather : (gather d rows).Pairwise (·.position < ·.position) := by
    rw [Builder.gather_eq]
    apply pairwise_mapIdx
    intro k name
    simp
  exact List.pairwise_map.mpr hgather

/-- A form shows its sections by key and then by position, and the fields of each section likewise.
The position of a section is its place among the names of the rows, and that of a field its place
among the rows of its section. -/
structure InDisplayOrder (d : String) (rows : List Row) (s : Schema) : Prop where
  sections : s.sections.Pairwise (·.place < ·.place)
  fields : ∀ sec ∈ s.sections, sec.fields.Pairwise (·.place < ·.place)
  named : ∀ sec ∈ s.sections, ∃ k : Nat, sec.position = k + 1 ∧
    (titles d rows)[k]? = some sec.name
  taken : ∀ sec ∈ s.sections, ∀ f ∈ sec.fields, ∃ (n : Nat) (r : Row),
    (rowsOf d rows sec.name)[n]? = some r ∧ f = r.toField (n + 1)

theorem inDisplayOrder_ofRows (d : String) (rows : List Row) :
    InDisplayOrder d rows (ofRows d rows) where
  sections := pairwise_place_ofRows d rows
  fields := by
    intro sec hsec
    obtain ⟨k, name, -, rfl⟩ := mem_sections_ofRows.mp hsec
    exact Section.pairwise_place_ofRows name (k + 1) _
  named := by
    intro sec hsec
    obtain ⟨k, name, hk, rfl⟩ := mem_sections_ofRows.mp hsec
    exact ⟨k, by simp [arrangeFields], by simpa [arrangeFields] using hk⟩
  taken := by
    intro sec hsec f hf
    obtain ⟨k, name, hk, rfl⟩ := mem_sections_ofRows.mp hsec
    obtain ⟨n, r, hn, hf⟩ := mem_fields_arrangeFields_ofRows.mp hf
    exact ⟨n, r, by simpa [arrangeFields] using hn, hf⟩

end Schema

/-- The form of records shows sections and fields by key and then by the place that the records give
them. -/
theorem inDisplayOrder_of_buildFrom {d : String} {records : Json} {form : Schema}
    (h : buildFrom d records = .ok form) :
    ∃ rows, rowsFrom records = .ok rows ∧ form.InDisplayOrder d rows := by
  obtain ⟨rows, hrows, rfl⟩ := Builder.buildFrom_eq_ok_iff.mp h
  exact ⟨rows, hrows, Schema.inDisplayOrder_ofRows d rows⟩

/-- Records whose first section is shown last, since it has no order. A later row lowers the order
of the second section to that of the third, and their keys are then the same. -/
def shuffledRecords : Json := .list [
  .object [("section", .text "Notes"), ("field_name", .text "First"), ("field_order", .int 2)],
  .object [("section", .text "beta"), ("section_order", .int 3), ("field_name", .text "Size")],
  .object [("section", .text "Beta"), ("section_order", .text " 1 ")],
  .object [("section", .text "Notes"), ("field_name", .text "first"), ("field_order", .text "2")],
  .object [("section", .text "beta"), ("section_order", .int 1), ("field_name", .text "Weight")]]

def notesSection : Section where
  name := "Notes"
  position := 1
  fields := [
    { name := "First", order := some 2, position := 1 },
    { name := "first", order := some 2, position := 2 }]

def betaSection : Section where
  name := "beta"
  order := some 1
  position := 2
  fields := [{ name := "Size", position := 1 }, { name := "Weight", position := 2 }]

def upperBetaSection : Section where
  name := "Beta"
  order := some 1
  position := 3
  fields := [{ name := "", position := 1 }]

def shuffledForm : Schema where
  sections := [betaSection, upperBetaSection, notesSection]

theorem arrange_shuffled :
    arrange [notesSection, betaSection, upperBetaSection] = shuffledForm.sections := by
  rw [arrange, Builder.map_arrangeFields_of_pairwise (by decide)]
  have hperm : shuffledForm.sections.Perm [notesSection, betaSection, upperBetaSection] :=
    (List.Perm.cons _ (.swap ..)).trans (.swap ..)
  have hpositions : [notesSection, betaSection, upperBetaSection].Pairwise
      (·.position < ·.position) := by decide
  have hplaces : shuffledForm.sections.Pairwise (·.place < ·.place) := by decide
  exact SortKey.sort_eq_of_pairwise_lex hpositions hperm hplaces

theorem inDisplayOrder_of_buildFrom_shuffled :
    buildFrom "Other" shuffledRecords = .ok shuffledForm ∧
      ∃ rows, rowsFrom shuffledRecords = .ok rows ∧ shuffledForm.InDisplayOrder "Other" rows := by
  have hform : buildFrom "Other" shuffledRecords = .ok shuffledForm := by
    change Except.ok
      ({ sections := arrange [notesSection, betaSection, upperBetaSection] } : Schema) = _
    rw [arrange_shuffled]
    rfl
  exact ⟨hform, inDisplayOrder_of_buildFrom hform⟩

end ConditionalForms
