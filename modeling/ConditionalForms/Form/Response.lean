import ConditionalForms.Form.Row
import ConditionalForms.Journal.Entry

/-!
# Responses of the metadata source

The source of metadata answers with nested data, `uiapi`, `query`, the name of the metadata object,
`edges`, `node`, in which every cell is wrapped, and with a list of errors. Parts that are null,
zero or empty count as missing.
-/

namespace ConditionalForms.Response

def defaultObject : String := "Generic_Form__mdt"

/-- A member of a value, null if it is missing. A value that counts as missing has no members; any
other value that is no object is a fault. -/
def member? (j : Json) (key : String) : Except Fault Json :=
  if j.isTruthy then
    match j with
    | .object fields => .ok ((Assoc.get? fields key).getD .null)
    | _ => .error .notAnObject
  else .ok .null

/-- What a value holds when it is gone through: items, names or characters. A value that counts as
missing holds nothing. -/
def elements? (j : Json) : Except Fault (List Json) :=
  if j.isTruthy then Row.records j else .ok []

/-- A cell without its wrapping. -/
def unwrapCell : Json → Json
  | .object fields => (Assoc.get? fields "value").getD .null
  | j => j

/-- The cells of a node without their wrapping. -/
def unwrap (fields : List (String × Json)) : List (String × Json) :=
  fields.map fun f => (f.1, unwrapCell f.2)

/-- The rows of edges; an edge without an object for its node has none. -/
def edgeRows? : List Json → Except Fault (List Row)
  | [] => .ok []
  | edge :: edges => do
    match ← member? edge "node" with
    | .object fields =>
      let row ← Row.ofJson (.object (unwrap fields))
      let rows ← edgeRows? edges
      .ok (row :: rows)
    | _ => edgeRows? edges

def edges? (data : Json) (objectName : String) : Except Fault (List Json) := do
  let api ← member? data "uiapi"
  let query ← member? api "query"
  let object ← member? query objectName
  let edges ← member? object "edges"
  elements? edges

/-- The rows of a response's data, one for each edge that has one. -/
def rows? (data : Json) (objectName : String) : Except Fault (List Row) := do
  let edges ← edges? data objectName
  edgeRows? edges

def journal (data : Json) (objectName : String) : List Entry :=
  match rows? data objectName with
  | .ok rows =>
    [⟨Level.debug, "dynaform.core.records",
      s!"Flattened {rows.length} {objectName} edges into records", none⟩]
  | .error _ => []

/-- The message of one error: its own, or all of it as text. -/
def errorText? : Json → Except Fault String
  | .object fields => ((Assoc.get? fields "message").getD (.object fields)).display?
  | j => j.display?

/-- The messages of a response's errors. A text is a single message. -/
def errorTexts? (errors : Json) : Except Fault (List String) :=
  match errors with
  | .text s => .ok (if s.isEmpty then [] else [s])
  | errors => do
    let errors ← elements? errors
    errors.mapM errorText?

end ConditionalForms.Response
