import ConditionalForms.Files
import ConditionalForms.Form.Response
import ConditionalForms.Json.Reader

/-!
# Record files

A record file holds a JSON list of rows, or a response object with `data` and `errors`.
-/

namespace ConditionalForms.RecordsFile

def complain (path text : String) (detail : Option String := none) : Fault :=
  .complaint ⟨.records, text, some path, detail⟩

def value? (path : String) (cs : List Char) : Except Fault Json :=
  match Json.read cs with
  | .ok j => .ok j
  | .error (.stopped fault) => .error fault
  | .error (.misread what left) =>
    let place := Json.placeLeaving cs left
    .error (complain path ("Invalid JSON: " ++ what.text)
      (some s!"line {place.line}, column {place.column}"))

/-- The rows of a list, the first item having the given index. Every item is an object. -/
def listRows? (path : String) (index : Nat) : List Json → Except Fault (List Row)
  | [] => .ok []
  | .object fields :: items => do
    let row ← Row.ofJson (.object fields)
    let rows ← listRows? path (index + 1) items
    .ok (row :: rows)
  | _ :: _ => .error (complain path "Record must be an object" (some s!"index {index}"))

/-- The rows and the error messages of a file's value. -/
def contents? (path objectName : String) : Json → Except Fault (List Row × List String)
  | .list items => (listRows? path 0 items).map (·, [])
  | .object fields => do
    let rows ← Response.rows? ((Assoc.get? fields "data").getD .null) objectName
    let errors ← Response.errorTexts? ((Assoc.get? fields "errors").getD .null)
    .ok (rows, errors)
  | _ => .error (complain path "Expected a list of records or a response object")

def fileValue? (path : String) (file : FileState) : Except Fault Json := do
  let cs ← file.text? fun problem =>
    complain path ("Cannot read records file: " ++ (Fault.file problem path).message)
  value? path cs

def load? (path : String) (file : FileState) (objectName : String := Response.defaultObject) :
    Except Fault (List Row × List String) := do
  let j ← fileValue? path file
  contents? path objectName j

def journal (path : String) (file : FileState) (objectName : String) : List Entry :=
  match fileValue? path file with
  | .ok (.object fields) => Response.journal ((Assoc.get? fields "data").getD .null) objectName
  | _ => []

end ConditionalForms.RecordsFile
