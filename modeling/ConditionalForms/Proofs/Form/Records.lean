import ConditionalForms.Proofs.Form.Built
import ConditionalForms.Proofs.Json.Checked
import ConditionalForms.Proofs.Json.Integers

/-! # Records that make a form

An object is a row whatever it holds, except for one thing: a text column takes the text of any
value, and an integer with too many digits has none. Objects make a form exactly when no text column
of theirs holds such an integer, at any depth.
-/

namespace ConditionalForms

/-! ## Columns -/

namespace Checked

variable {α β : Type}

/-- A value, unless there are issues. -/
def orIssues (a : α) (issues : List Issue) : Checked α :=
  if issues.isEmpty then valid a else invalid issues

theorem map_orIssues (f : α → β) (a : α) (is : List Issue) :
    f <$> orIssues a is = orIssues (f a) is := by
  cases is <;> rfl

theorem seq_orIssues (f : α → β) (a : α) (is js : List Issue) :
    orIssues f is <*> orIssues a js = orIssues (f a) (is ++ js) := by
  cases is <;> cases js <;> simp [orIssues] <;> rfl

end Checked

namespace Row

/-- The text columns, each with its names; the first name counts first. -/
def textColumns : List (List String) := [
  ["Section__c", "section"], ["Section_Criteria__c", "section_criteria"],
  ["Asset_Attribute__c", "field_name"], ["Asset_Type__c", "field_type"],
  ["Field_Criteria__c", "field_criteria"], ["Picklist_Values__c", "picklist_values"]]

/-- The text that a text column takes of a value: none of null. -/
def columnText : Json → Option String
  | .null => none
  | j => some (String.ofList j.display)

def textIn (o : List (String × Json)) (column : List String) : Option String :=
  (Json.find? o column).bind fun m => columnText m.2

def orderIn (o : List (String × Json)) (column : List String) : OrderCell :=
  ((Json.find? o column).map fun m => OrderCell.ofJson m.2).getD .none

/-- The row of an object, as if everything could be written. -/
def ofColumns (o : List (String × Json)) : Row where
  sectionName := textIn o ["Section__c", "section"]
  sectionOrder := orderIn o ["Section_Order__c", "section_order"]
  sectionRule := textIn o ["Section_Criteria__c", "section_criteria"]
  fieldName := textIn o ["Asset_Attribute__c", "field_name"]
  fieldType := textIn o ["Asset_Type__c", "field_type"]
  fieldOrder := orderIn o ["Field_Order__c", "field_order"]
  fieldRule := textIn o ["Field_Criteria__c", "field_criteria"]
  options := textIn o ["Picklist_Values__c", "picklist_values"]

/-- The issue of a text column whose value has no text, under the name that it is found by. -/
def columnIssues (o : List (String × Json)) (column : List String) : List Issue :=
  match Json.find? o column with
  | none => []
  | some (k, v) => if v.fitsDigits then [] else [⟨[.key k], .valueError⟩]

def textIssues (o : List (String × Json)) : List Issue := textColumns.flatMap (columnIssues o)

/-- No text column of an object holds an integer with too many digits, at any depth. -/
def Writable (o : List (String × Json)) : Prop :=
  ∀ column ∈ textColumns, ∀ k v, Json.find? o column = some (k, v) →
    ∀ i, v.Mentions i → i.natAbs < 10 ^ Decimal.digitLimit

theorem columnIssues_eq_nil_iff {o : List (String × Json)} {column : List String} :
    columnIssues o column = [] ↔ ∀ k v, Json.find? o column = some (k, v) → v.fitsDigits := by
  rw [columnIssues]
  cases Json.find? o column with
  | none => simp
  | some m =>
      obtain ⟨k, v⟩ := m
      simp

theorem textIssues_eq_nil_iff {o : List (String × Json)} : textIssues o = [] ↔ Writable o := by
  simp only [textIssues, List.flatMap_eq_nil_iff, columnIssues_eq_nil_iff, Writable,
    Json.fitsDigits_iff_mentions]

theorem checkColumn_eq (j : Json) :
    checkColumn j = if j.fitsDigits then .valid (columnText j) else .fail .valueError := by
  cases hfits : j.fitsDigits with
  | false => cases j <;> simp_all [checkColumn, Json.display?, Json.fitsDigits]
  | true => cases j <;> simp_all [checkColumn, Json.display?, Json.fitsDigits, columnText]

theorem optional_checkColumn (o : List (String × Json)) (column : List String) :
    Json.optional o column checkColumn none =
      .orIssues (textIn o column) (columnIssues o column) := by
  rw [Json.optional, textIn, columnIssues]
  cases Json.find? o column with
  | none => rfl
  | some m => by_cases hm : m.2.fitsDigits <;> simp [checkColumn_eq, hm] <;> rfl

theorem optional_checkOrder (o : List (String × Json)) (column : List String) :
    Json.optional o column checkOrder .none = .orIssues (orderIn o column) [] := by
  rw [Json.optional, orderIn]
  cases Json.find? o column <;> rfl

/-- An object is a row, unless a text column has an issue. -/
theorem check_object (o : List (String × Json)) :
    check (.object o) = .orIssues (ofColumns o) (textIssues o) := by
  simp only [check, Json.checkObject, checkFields, optional_checkColumn, optional_checkOrder,
    Checked.map_orIssues, Checked.seq_orIssues]
  simp [ofColumns, textIssues, textColumns]

theorem ofRecord_object_of_writable {o : List (String × Json)} (h : Writable o) :
    ofRecord (.object o) = .ok (ofColumns o) := by
  simp [ofRecord, recordFields, ofJson, check_object, textIssues_eq_nil_iff.mpr h,
    Checked.orIssues]

theorem ofRecord_object_of_not_writable {o : List (String × Json)} (h : ¬Writable o) :
    ofRecord (.object o) = .error (.invalid (textIssues o)) := by
  have hissues : (textIssues o).isEmpty = false := by
    rwa [← textIssues_eq_nil_iff, ← List.isEmpty_iff, Bool.not_eq_true] at h
  simp only [ofRecord, recordFields, Fault.ok_bind, ofJson, check_object, hissues,
    Checked.orIssues, Bool.false_eq_true, if_false]

end Row

/-! ## Forms of objects -/

namespace Builder

theorem buildFrom_of_writable (d : String) {objects : List (List (String × Json))}
    (h : ∀ o ∈ objects, Row.Writable o) :
    buildFrom d (.list (objects.map .object)) =
      .ok (Schema.ofRows d (objects.map Row.ofColumns)) := by
  have hrows : (objects.map Json.object).mapM Row.ofRecord = .ok (objects.map Row.ofColumns) := by
    rw [List.mapM_map]
    exact Fault.mapM_eq_ok_of_forall fun o ho => Row.ofRecord_object_of_writable (h o ho)
  simp only [buildFrom, Row.records, build, Fault.ok_bind, hrows]

theorem buildFrom_of_not_writable (d : String) {before : List (List (String × Json))}
    {o : List (String × Json)} (after : List (List (String × Json)))
    (hbefore : ∀ b ∈ before, Row.Writable b) (h : ¬Row.Writable o) :
    buildFrom d (.list ((before ++ o :: after).map .object)) =
      .error (.invalid (Row.textIssues o)) := by
  have hrows : ((before ++ o :: after).map Json.object).mapM Row.ofRecord =
      .error (.invalid (Row.textIssues o)) := by
    rw [List.mapM_map]
    exact Fault.mapM_append_cons_eq_error
      (fun b hb => Row.ofRecord_object_of_writable (hbefore b hb))
      (Row.ofRecord_object_of_not_writable h)
  simp only [buildFrom, Row.records, build, Fault.ok_bind, hrows, Fault.error_bind]

/-- Objects make a form of their columns when each of them can be written. If not, the first that
cannot is the fault, with an issue for every text column of it that has no text. -/
theorem buildFrom_returns_iff_writable (d : String) (objects : List (List (String × Json))) :
    ((∃ form, buildFrom d (.list (objects.map .object)) = .ok form) ↔
        ∀ o ∈ objects, Row.Writable o) ∧
      (∀ form, buildFrom d (.list (objects.map .object)) = .ok form →
        form = Schema.ofRows d (objects.map Row.ofColumns)) ∧
      ∀ fault, buildFrom d (.list (objects.map .object)) = .error fault →
        ∃ before o after, objects = before ++ o :: after ∧ (∀ b ∈ before, Row.Writable b) ∧
          ¬Row.Writable o ∧ fault = .invalid (Row.textIssues o) := by
  classical
  cases hfirst : objects.find? (¬Row.Writable ·) with
  | none =>
      have hall : ∀ o ∈ objects, Row.Writable o := by simpa using hfirst
      have hform := buildFrom_of_writable d hall
      refine ⟨⟨fun _ => hall, fun _ => ⟨_, hform⟩⟩, ?_, ?_⟩
      · intro form h
        exact Except.ok.inj (h.symm.trans hform)
      · intro fault h
        cases h.symm.trans hform
  | some o =>
      obtain ⟨ho, before, after, rfl, hbefore⟩ := List.find?_eq_some_iff_append.mp hfirst
      have ho : ¬Row.Writable o := by simpa using ho
      have hbefore : ∀ b ∈ before, Row.Writable b := by simpa using hbefore
      have hfault := buildFrom_of_not_writable d after hbefore ho
      refine ⟨⟨?_, fun hall => absurd (hall o (by simp)) ho⟩, ?_, ?_⟩
      · rintro ⟨form, h⟩
        cases h.symm.trans hfault
      · intro form h
        cases h.symm.trans hfault
      · intro fault h
        exact ⟨before, o, after, rfl, hbefore, ho, Except.error.inj (h.symm.trans hfault)⟩

/-! ## Too many digits -/

open Decimal (not_fitsDigits_pow)

/-- A number with too many digits is no name of a section. -/
theorem buildFrom_of_not_fitsDigits (d : String) {i : Int} (h : ¬Decimal.fitsDigits i) :
    buildFrom d (.list [.object [("section", .int i)]]) =
      .error (.invalid [⟨[.key "section"], .valueError⟩]) := by
  have hissues : Row.textIssues [("section", .int i)] = [⟨[.key "section"], .valueError⟩] := by
    simp [Row.textIssues, Row.textColumns, Row.columnIssues, Json.find?, Assoc.get?,
      Json.fitsDigits, h]
  have hwritable : ¬Row.Writable [("section", .int i)] := by
    rw [← Row.textIssues_eq_nil_iff, hissues]
    exact List.cons_ne_nil _ _
  have hfault := buildFrom_of_not_writable d [] (List.forall_mem_nil _) hwritable
  rwa [List.nil_append, List.map_singleton, hissues] at hfault

/-- A record whose section is a number with one digit too many makes no form. -/
theorem not_buildFrom_overlong :
    buildFrom Section.defaultName
        (.list [.object [("section", .int (10 ^ Decimal.digitLimit))]]) =
      .error (.invalid [⟨[.key "section"], .valueError⟩]) :=
  buildFrom_of_not_fitsDigits _ not_fitsDigits_pow

end Builder

end ConditionalForms
