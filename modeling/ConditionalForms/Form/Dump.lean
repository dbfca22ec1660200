import ConditionalForms.Fault
import ConditionalForms.Form.Basic
import ConditionalForms.Json.Layout
import ConditionalForms.Json.Nesting

/-!
# Forms as data

A form as a JSON value, with every part and the standing of the last visibility pass. A snapshot is
that value as a text; the writer of snapshots may refuse a form.
-/

namespace ConditionalForms

def Standing.fields (s : Standing) : List (String × Json) := [
  ("is_visible", .bool s.visible),
  ("criteria_satisfied", .bool s.satisfied),
  ("visibility_detail", .ofText? s.detail)]

def PickOption.toJson (o : PickOption) : Json :=
  .object [("label", .text o.label), ("value", .text o.value)]

def Field.toJson (f : Field) : Json :=
  .object ([
    ("field_api_name", .text f.name),
    ("field_type", .text f.typeTag),
    ("kind", .text f.kind.label),
    ("order", .ofInt? f.order),
    ("pick_options", .list (f.options.map (·.toJson))),
    ("value", f.value),
    ("raw_criteria", .text f.rule),
    ("source_index", .int f.position)] ++ f.standing.fields)

def Section.toJson (s : Section) : Json :=
  .object ([
    ("name", .text s.name),
    ("order", .ofInt? s.order),
    ("raw_criteria", .text s.rule),
    ("fields", .list (s.fields.map (·.toJson))),
    ("source_index", .int s.position)] ++ s.standing.fields)

namespace Schema

def toJson (s : Schema) : Json :=
  .object [("sections", .list (s.sections.map (·.toJson))), ("error", .ofText? s.error)]

/-! ## Snapshots -/

/-- What a writer of snapshots has against a form: the fault with which it refuses it, if it does.
-/
abbrev Refusal := Schema → Option Fault

/-- Whether every value of a form has few enough levels to be written. -/
def fitsLevels (s : Schema) : Bool := s.allFields.all (·.value.fitsLevels)

/-- All that the writer has against a form of texts of whole characters: a value has too many
levels. -/
def refusal? : Refusal := fun s => if s.fitsLevels then none else some .tooDeepToWrite

end Schema

end ConditionalForms
