import ConditionalForms.Form.Builder
import ConditionalForms.Form.RecordsFile
import ConditionalForms.Review.Payload
import ConditionalForms.Settings
import ConditionalForms.Visibility.Pass

/-!
# Live forms

A live form owns the current form and the report of its last visibility pass. Whatever changes the
form also runs a pass, so that its standings follow from its values. An operation that meets a fault
before it changes the form leaves everything as it was; a fault of the pass itself keeps the last
report.

The journal of a traced form takes a snapshot before each pass and another after it. The writer of
the snapshots is not part of the live form: every operation takes what it has against forms as a
parameter, `Schema.refusal?` if nothing else is given, and a form that it refuses stops the pass.
-/

namespace ConditionalForms

/-- A form in use: its settings, its present state, and the report of the last pass. When it is
traced, the journal takes snapshots of the whole form at every pass. -/
structure LiveForm where
  settings : Settings := {}
  form : Schema := {}
  report : Option Report := none
  traced : Bool := false
  deriving Repr, Inhabited

namespace LiveForm

/-- What an operation leaves behind: the live form, what it reported to the journal, and the fault
that stopped it. -/
structure Turn where
  after : LiveForm
  journal : List Entry := []
  fault : Option Fault := none

namespace Turn

/-- A turn that a fault ends. -/
def stopped (l : LiveForm) (fault : Fault) (journal : List Entry := []) : Turn :=
  ⟨l, journal, some fault⟩

/-- A turn that comes after some reports. -/
def precededBy (heard : List Entry) (t : Turn) : Turn := { t with journal := heard ++ t.journal }

/-- What a turn that returns leaves behind, or the fault that stopped it. -/
def returned (t : Turn) : Except Fault LiveForm :=
  match t.fault with
  | none => .ok t.after
  | some fault => .error fault

end Turn

def logger : String := "dynaform.runtime.controller"

/-- The fault with which the snapshot of a form is refused, if snapshots are taken at all. -/
def refused? (l : LiveForm) (refusal : Schema.Refusal) (form : Schema) : Option Fault :=
  if l.traced then refusal form else none

/-- Runs a visibility pass, between two snapshots. -/
def recompute (l : LiveForm) (refusal : Schema.Refusal := Schema.refusal?) : Turn :=
  match l.refused? refusal l.form with
  | some fault => .stopped l fault
  | none =>
    let p := Visibility.pass l.settings.dialect l.form
    let passed := { l with form := p.form }
    match p.report with
    | .error fault => .stopped passed fault p.journal
    | .ok report =>
      match l.refused? refusal p.form with
      -- The second snapshot is the last that the journal of a pass has.
      | some fault => .stopped passed fault p.journal.dropLast
      | none => ⟨{ passed with report := some report }, p.journal, none⟩

/-- Runs a visibility pass over a form that takes the place of the present one. -/
def replace (l : LiveForm) (form : Schema) (refusal : Schema.Refusal := Schema.refusal?) : Turn :=
  recompute { l with form } refusal

/-! ## Loading -/

/-- Loads the form of some rows. -/
def loadRows (l : LiveForm) (rows : List Row) (refusal : Schema.Refusal := Schema.refusal?) :
    Turn :=
  (l.replace (Schema.ofRows l.settings.defaultSection rows) refusal).precededBy
    (Builder.rowsJournal l.settings.defaultSection rows)

/-- Loads the form of the records of a value. -/
def load (l : LiveForm) (records : Json) (refusal : Schema.Refusal := Schema.refusal?) : Turn :=
  let heard := Builder.journalFrom l.settings.defaultSection records
  match Builder.buildFrom l.settings.defaultSection records with
  | .ok form => (l.replace form refusal).precededBy heard
  | .error fault => .stopped l fault heard

def failWith (l : LiveForm) (messages : List String) : Turn :=
  let message := "; ".intercalate messages
  { after := { l with form := { error := some message }, report := none }
    journal := [⟨Level.error, logger, "Form schema load failed: " ++ message, none⟩] }

def textItem? : Json → Except Fault String
  | .text s => .ok s
  | _ => .error .unsuitable

/-- The messages of a failure: a single text, or texts. -/
def messages? : Json → Except Fault (List String)
  | .text s => .ok [s]
  | j => do
    let items ← Row.records j
    items.mapM textItem?

/-- Clears the form and keeps the messages of the failure that a value holds. -/
def fail (l : LiveForm) (errors : Json) : Turn :=
  match messages? errors with
  | .ok messages => l.failWith messages
  | .error fault => .stopped l fault

/-- Loads the form of a response. Its errors, if there are any, count instead of its data. -/
def loadResponse (l : LiveForm) (data errors : Json)
    (refusal : Schema.Refusal := Schema.refusal?) : Turn :=
  match Response.errorTexts? errors with
  | .error fault => .stopped l fault
  | .ok (message :: messages) => l.failWith (message :: messages)
  | .ok [] =>
    match Response.rows? data l.settings.metadataObject with
    | .error fault => .stopped l fault
    | .ok rows =>
      (l.loadRows rows refusal).precededBy (Response.journal data l.settings.metadataObject)

/-- Loads what a file holds: its messages if there are any, or else its rows. -/
def loadFile (l : LiveForm) (path : String) (file : FileState) : Except Fault LiveForm := do
  let (rows, messages) ← RecordsFile.load? path file l.settings.metadataObject
  if messages.isEmpty then (l.loadRows rows).returned else (l.failWith messages).returned

/-! ## Changing values -/

def setValue (name : String) (value : Json) (form : Schema) : Schema :=
  form.mapFields fun _ f => if f.name = name then { f with value } else f

/-- The reports of an edit. -/
def editJournal (form : Schema) (name : String) (value : Json) : List Entry :=
  let count := (form.findFields name).length
  let shown := Text.quoted name
  (if count = 0 then [⟨Level.warning, logger, "Edit for unknown field " ++ shown, none⟩] else []) ++
    [⟨Level.debug, logger, "Field " ++ shown ++ " set to " ++ String.ofList value.literal ++
      s!" ({count} matches)", none⟩]

/-- Sets every field of a name and runs a pass; a name that no field has runs a pass as well. -/
def edit (l : LiveForm) (name : String) (value : Json)
    (refusal : Schema.Refusal := Schema.refusal?) : Turn :=
  (l.replace (setValue name value l.form) refusal).precededBy (editJournal l.form name value)

/-- Writes the values of a payload to the form, without a pass. -/
def write (l : LiveForm) (p : Review.Payload) : Turn :=
  { after := { l with form := Review.applyValues p l.form }
    journal := [Review.appliedEntry (Review.countWritten p l.form)] }

/-- Writes the values of a payload to the form and runs a pass. -/
def apply (l : LiveForm) (p : Review.Payload) (refusal : Schema.Refusal := Schema.refusal?) :
    Turn :=
  let written := l.write p
  (written.after.recompute refusal).precededBy written.journal

/-- Writes the values of a payload that is given as data, and runs a pass. -/
def applyData (l : LiveForm) (j : Json) (refusal : Schema.Refusal := Schema.refusal?) : Turn :=
  match Review.Payload.ofJson j with
  | .ok p => l.apply p refusal
  | .error fault => .stopped l fault

/-- The payload of the present form. -/
def review? (l : LiveForm) : Except Fault Review.Payload := Review.Payload.ofSchema? l.form

/-! ## Operations as values -/

/-- An operation on a live form. -/
inductive Action where
  | load (records : Json)
  | loadRows (rows : List Row)
  | loadResponse (data errors : Json)
  | fail (errors : Json)
  | edit (name : String) (value : Json)
  | recompute
  | apply (p : Review.Payload)
  | applyData (j : Json)

/-- Runs an operation. -/
def step (l : LiveForm) (a : Action) (refusal : Schema.Refusal := Schema.refusal?) : Turn :=
  match a with
  | .load records => l.load records refusal
  | .loadRows rows => l.loadRows rows refusal
  | .loadResponse data errors => l.loadResponse data errors refusal
  | .fail errors => l.fail errors
  | .edit name value => l.edit name value refusal
  | .recompute => l.recompute refusal
  | .apply p => l.apply p refusal
  | .applyData j => l.applyData j refusal

end LiveForm

end ConditionalForms
