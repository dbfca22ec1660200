import ConditionalForms.Form.Dump
import ConditionalForms.Rule.Evaluation
import ConditionalForms.Visibility.Report

/-!
# The visibility pass

A pass walks through a form in display order and judges every rule against the form as it stands at
that moment, with the standings that the pass itself has set so far. A section is visible if its
rule is satisfied; a field is visible if its section is and its own rule is satisfied. A fault stops
the walk and leaves the rest of the form as it was.
-/

namespace ConditionalForms.Visibility

open Rule (Dialect)

def sectionStanding (r : Rule.Result) : Standing := ⟨r.satisfied, r.satisfied, r.detail⟩

def hiddenSectionDetail (sectionName : String) : String :=
  "section " ++ Text.quoted sectionName ++ " hidden"

def fieldStanding (sec : Section) (r : Rule.Result) : Standing where
  visible := sec.standing.visible && r.satisfied
  satisfied := r.satisfied
  detail := if sec.standing.visible then r.detail else some (hiddenSectionDetail sec.name)

/-- What a walk leaves behind: the parts it walked through, the report so far, what it reported to
the journal, and the fault that stopped it. -/
structure Walk (α : Type) where
  parts : List α
  report : Report
  journal : List Entry
  fault : Option Fault := none

/-- Walks through the fields of `sec` that are left. `around` gives the form from the fields of the
section; `done` are the fields walked through before. -/
def walkFields (d : Dialect) (sec : Section) (around : List Field → Schema) (done : List Field)
    (report : Report) : List Field → Walk Field
  | [] => ⟨done, report, [], none⟩
  | f :: rest =>
    let now := around (done ++ f :: rest)
    let heard := Rule.journal d now f.rule
    match Rule.judge? d now f.rule with
    | .error fault => ⟨done ++ f :: rest, report, heard, some fault⟩
    | .ok r =>
      let f := { f with standing := fieldStanding sec r }
      let report := report.addField (Report.fieldKey sec.name f.name) f.standing
      let walk := walkFields d sec around (done ++ [f]) report rest
      { walk with journal := heard ++ walk.journal }

/-- Walks through the sections that are left; `done` are the ones walked through before. -/
def walkSections (d : Dialect) (form : Schema) (done : List Section) (report : Report) :
    List Section → Walk Section
  | [] => ⟨done, report, [], none⟩
  | sec :: rest =>
    let now := { form with sections := done ++ sec :: rest }
    let heard := Rule.journal d now sec.rule
    match Rule.judge? d now sec.rule with
    | .error fault => ⟨done ++ sec :: rest, report, heard, some fault⟩
    | .ok r =>
      let sec := { sec with standing := sectionStanding r }
      let report := report.addSection sec.name sec.standing
      let around fields := { form with sections := done ++ { sec with fields } :: rest }
      let inner := walkFields d sec around [] report sec.fields
      let sec := { sec with fields := inner.parts }
      match inner.fault with
      | some fault => ⟨done ++ sec :: rest, inner.report, heard ++ inner.journal, some fault⟩
      | none =>
        let walk := walkSections d form (done ++ [sec]) inner.report rest
        { walk with journal := heard ++ inner.journal ++ walk.journal }

/-- What a pass leaves behind: the form, and its report unless a fault stopped it. -/
structure Pass where
  form : Schema
  report : Except Fault Report
  journal : List Entry

namespace Pass

/-- The source of the reports of a pass. -/
def logger : String := "dynaform.runtime.visibility"

def formEntry (what : String) (form : Schema) : Entry :=
  ⟨Level.debug, logger, what ++ form.toJson.write .dense, none⟩

def summary (d : Dialect) (sections : Nat) (r : Report) : Entry :=
  ⟨Level.info, logger,
    s!"Visibility pass: {r.visibleSections}/{sections} sections, {r.visibleFields} fields visible",
    some (.object [
      ("dialect", .text d.label),
      ("hidden_sections", .texts r.hiddenSections),
      ("hidden_fields", .texts r.hiddenFields)])⟩

end Pass

def pass (d : Dialect) (form : Schema) : Pass :=
  let walk := walkSections d form [] {} form.sections
  let after := { form with sections := walk.parts }
  let heard := Pass.formEntry "Schema before visibility pass: " form :: walk.journal
  match walk.fault with
  | some fault => ⟨after, .error fault, heard⟩
  | none =>
    ⟨after, .ok walk.report, heard ++ [
      Pass.summary d form.sections.length walk.report,
      Pass.formEntry "Schema after visibility pass: " after]⟩

end ConditionalForms.Visibility
