import ConditionalForms.Proofs.Live.Revision

/-! # Two ways to load a response

A response comes as a file, or as data and errors. A file is read as a whole before anything is
loaded, its data first; of data and errors, the errors are looked at first. So the two ways come to
the same unless data that cannot be read stands beside errors.
-/

namespace ConditionalForms

namespace Response

/-- The data of a response object, null if it is missing. -/
def dataOf (fields : List (String × Json)) : Json := (Assoc.get? fields "data").getD .null

/-- The errors of a response object, null if they are missing. -/
def errorsOf (fields : List (String × Json)) : Json := (Assoc.get? fields "errors").getD .null

/-- The data cannot be read, although the errors would count instead of it. -/
def Obscures (objectName : String) (data errors : Json) : Prop :=
  (∃ fault, rows? data objectName = .error fault) ∧
    ∃ messages, messages ≠ [] ∧ errorTexts? errors = .ok messages

end Response

/-- A file that holds a text. -/
def FileState.ofText (text : String) : FileState := .bytes text.toByteArray.data.toList

theorem RecordsFile.load?_of_response {path objectName : String} {file : FileState}
    {fields : List (String × Json)} (h : fileValue? path file = .ok (.object fields)) :
    load? path file objectName = (do
      let rows ← Response.rows? (Response.dataOf fields) objectName
      let messages ← Response.errorTexts? (Response.errorsOf fields)
      .ok (rows, messages)) := by
  rw [load?, h]
  rfl

namespace LiveForm

/-- A form of rows is no failed one. -/
theorem error_loadRows {l l' : LiveForm} {rows : List Row}
    (h : (l.loadRows rows).returned = .ok l') : l'.form.error = none := by
  have hsame := (replace_after Schema.refusal? l (Schema.ofRows l.settings.defaultSection rows)).2.2
  rw [← (Turn.returned_eq_ok_iff.mp h).2]
  exact ((Schema.unmarked_eq_iff _ _).mp hsame).2

/-! ## Responses -/

section Response

variable {l : LiveForm} {data errors : Json}

theorem loadResponse_of_messages {messages : List String} (hsome : messages ≠ [])
    (h : Response.errorTexts? errors = .ok messages) :
    (l.loadResponse data errors).returned = .ok (l.cleared ("; ".intercalate messages)) := by
  obtain ⟨message, messages, rfl⟩ := List.exists_cons_of_ne_nil hsome
  rw [loadResponse, h]
  rfl

/-- Data that cannot be read stops a response whose errors say nothing. -/
theorem exists_loadResponse_eq_error {fault : Fault}
    (hrows : Response.rows? data l.settings.metadataObject = .error fault)
    (hclear : ¬Response.Obscures l.settings.metadataObject data errors) :
    ∃ stop, (l.loadResponse data errors).returned = .error stop := by
  rw [loadResponse]
  cases herrors : Response.errorTexts? errors with
  | error stop => exact ⟨stop, rfl⟩
  | ok messages =>
      cases messages with
      | nil => exact ⟨fault, by rw [hrows]; rfl⟩
      | cons message messages =>
          exact absurd ⟨⟨fault, hrows⟩, _, List.cons_ne_nil message messages, herrors⟩ hclear

end Response

/-! ## Files beside responses -/

section File

open RecordsFile (fileValue?)

variable {l : LiveForm} {path : String} {file : FileState} {fields : List (String × Json)}

/-- A file whose data cannot be read is a fault, whatever its errors are. -/
theorem loadFile_of_rows_eq_error {fault : Fault}
    (hfile : fileValue? path file = .ok (.object fields))
    (hrows : Response.rows? (Response.dataOf fields) l.settings.metadataObject = .error fault) :
    l.loadFile path file = .error fault := by
  rw [loadFile, RecordsFile.load?_of_response hfile, hrows]
  rfl

/-- A file whose data can be read is loaded as a response is, faults included. -/
theorem loadFile_of_rows_eq_ok {rows : List Row}
    (hfile : fileValue? path file = .ok (.object fields))
    (hrows : Response.rows? (Response.dataOf fields) l.settings.metadataObject = .ok rows) :
    l.loadFile path file =
      (l.loadResponse (Response.dataOf fields) (Response.errorsOf fields)).returned := by
  rw [loadFile, RecordsFile.load?_of_response hfile, loadResponse, hrows]
  cases Response.errorTexts? (Response.errorsOf fields) with
  | error fault => rfl
  | ok messages => cases messages <;> rfl

/-- What a file holds and a response of its data and errors lead to the same live form, or both to
none, except where unreadable data stands beside errors. Whenever the errors say something, the
response clears the form and keeps what they say, and so does the file if its data can be read; if
not, the file is a fault. -/
theorem loadFile_agrees_iff (hfile : fileValue? path file = .ok (.object fields)) :
    ((l.loadFile path file).toOption =
        (l.loadResponse (Response.dataOf fields) (Response.errorsOf fields)).returned.toOption ↔
      ¬Response.Obscures l.settings.metadataObject (Response.dataOf fields)
        (Response.errorsOf fields)) ∧
    ∀ messages, messages ≠ [] → Response.errorTexts? (Response.errorsOf fields) = .ok messages →
      (l.loadResponse (Response.dataOf fields) (Response.errorsOf fields)).returned =
          .ok (l.cleared ("; ".intercalate messages)) ∧
        l.loadFile path file =
          (Response.rows? (Response.dataOf fields) l.settings.metadataObject).map fun _ =>
            l.cleared ("; ".intercalate messages) := by
  cases hrows : Response.rows? (Response.dataOf fields) l.settings.metadataObject with
  | ok rows =>
      have hsame := loadFile_of_rows_eq_ok hfile hrows
      constructor
      · simp [hsame, Response.Obscures, hrows]
      · intro messages hsome hmessages
        rw [hsame, loadResponse_of_messages hsome hmessages]
        exact ⟨rfl, rfl⟩
  | error fault =>
      have hfault := loadFile_of_rows_eq_error hfile hrows
      refine ⟨⟨?_, ?_⟩, ?_⟩
      · rintro hsame ⟨-, messages, hsome, hmessages⟩
        rw [hfault, loadResponse_of_messages hsome hmessages] at hsame
        cases hsame
      · intro hclear
        obtain ⟨stop, hstop⟩ := exists_loadResponse_eq_error hrows hclear
        rw [hfault, hstop]
        rfl
      · intro messages hsome hmessages
        exact ⟨loadResponse_of_messages hsome hmessages, hfault⟩

end File

/-! ## A late and a denied response -/

/-- Data with one record, and an error. -/
def lateFields : List (String × Json) := [
  ("data", .object [("uiapi", .object [("query", .object [(Response.defaultObject, .object [
    ("edges", .list [.object [("node", .object [("section", .object [("value", .text "Visit")])])]])
    ])])])]),
  ("errors", .list [.object [("message", .text "late")]])]

def lateFile : FileState := FileState.ofText <|
  "\x7b\"data\": \x7b\"uiapi\": \x7b\"query\": \x7b\"Generic_Form__mdt\": \x7b\"edges\": [" ++
  "\x7b\"node\": \x7b\"section\": \x7b\"value\": \"Visit\"\x7d\x7d\x7d]\x7d\x7d\x7d\x7d, " ++
  "\"errors\": [\x7b\"message\": \"late\"\x7d]\x7d"

/-- Data that ends in a text, and an error. -/
def deniedFields : List (String × Json) := [
  ("data", .object [("uiapi", .text "denied")]),
  ("errors", .list [.object [("message", .text "late")]])]

def deniedFile : FileState := FileState.ofText <|
  "\x7b\"data\": \x7b\"uiapi\": \"denied\"\x7d, \"errors\": [\x7b\"message\": \"late\"\x7d]\x7d"

set_option maxRecDepth 2000 in
theorem loadFile_agrees_iff_late :
    RecordsFile.fileValue? "late.json" lateFile = .ok (.object lateFields) ∧
      ((fresh {} false).loadFile "late.json" lateFile).toOption =
        ((fresh {} false).loadResponse (Response.dataOf lateFields)
          (Response.errorsOf lateFields)).returned.toOption ∧
      (fresh {} false).loadFile "late.json" lateFile = .ok ((fresh {} false).cleared "late") := by
  have hfile : RecordsFile.fileValue? "late.json" lateFile = .ok (.object lateFields) := rfl
  have hreads : (Response.rows? (Response.dataOf lateFields)
      (fresh {} false).settings.metadataObject).isOk := by decide +kernel
  obtain ⟨rows, hrows⟩ := Fault.exists_eq_ok_of_isOk hreads
  obtain ⟨hagrees, hclears⟩ := loadFile_agrees_iff (l := fresh {} false) hfile
  obtain ⟨-, hloaded⟩ := hclears ["late"] (List.cons_ne_nil _ _) rfl
  rw [hrows] at hloaded
  refine ⟨hfile, hagrees.mpr ?_, hloaded⟩
  rintro ⟨⟨fault, hfault⟩, -⟩
  rw [hrows] at hfault
  cases hfault

/-- The errors say something, and yet the file is a fault, where the response keeps what they say.
-/
theorem not_loadFile_agrees_denied :
    RecordsFile.fileValue? "denied.json" deniedFile = .ok (.object deniedFields) ∧
      (fresh {} false).loadFile "denied.json" deniedFile = .error .notAnObject ∧
      ((fresh {} false).loadResponse (Response.dataOf deniedFields)
        (Response.errorsOf deniedFields)).returned = .ok ((fresh {} false).cleared "late") := by
  have hfile : RecordsFile.fileValue? "denied.json" deniedFile = .ok (.object deniedFields) :=
    rfl
  have hmessages : Response.errorTexts? (Response.errorsOf deniedFields) = .ok ["late"] := rfl
  exact ⟨hfile, loadFile_of_rows_eq_error hfile rfl,
    loadResponse_of_messages (List.cons_ne_nil _ _) hmessages⟩

end LiveForm

end ConditionalForms
