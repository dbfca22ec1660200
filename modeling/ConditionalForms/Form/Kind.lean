import ConditionalForms.Form.Basic
import ConditionalForms.Text.Blank
import ConditionalForms.Text.Casing

/-!
# Kinds of type tags

The kind of a field from the type tag of its row. A tag that is not known makes a field of the other
kind.
-/

namespace ConditionalForms

/-- The tags of each kind, in lower case. -/
def Kind.tags : List (String × Kind) := [
  ("text", .text), ("string", .text), ("textarea", .textArea), ("longtext", .textArea),
  ("number", .number), ("double", .number), ("currency", .number), ("percent", .number),
  ("date", .date), ("datetime", .dateTime), ("checkbox", .checkbox), ("boolean", .checkbox),
  ("picklist", .picklist)]

/-- A type tag trimmed and in lower case; a missing tag is empty. -/
def normalTag (tag : Option String) : String := Text.lowered (Text.trimmed (tag.getD ""))

def Kind.ofTag (tag : Option String) : Kind := ((tags.lookup (normalTag tag))).getD .other

/-- The choices of a picklist text: its pieces between commas, trimmed, without the empty ones. -/
def PickOption.ofText (raw : String) : List PickOption :=
  ((raw.toList.splitOn ',').map Text.trim).filterMap fun piece =>
    if piece.isEmpty then none else some ⟨String.ofList piece, String.ofList piece⟩

end ConditionalForms
