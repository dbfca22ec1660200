import ConditionalForms.Review.Payload

/-!
# Review sessions

A session holds a payload of its own while it is open. Values are set there without touching any
form; submitting hands the payload back, discarding drops it, and both close the session. A closed
session refuses everything but being opened.
-/

namespace ConditionalForms.Review

/-- A review session: the payload under review while it is open. -/
structure Session where
  held : Option Payload := none
  deriving Repr, Inhabited

namespace Session

def isOpen (s : Session) : Bool := s.held.isSome

/-- What a closed session answers. -/
def closedFault : Fault := .complaint { concern := .review, text := "Review session is not open" }

/-- The payload under review. -/
def payload? (s : Session) : Except Fault Payload :=
  match s.held with
  | some p => .ok p
  | none => .error closedFault

/-- A session on a payload. -/
def opened (p : Payload) : Session := ⟨some p⟩

/-- The payload that a session is to be opened on: the empty one for null. -/
def payloadOf : Json → Except Fault Payload
  | .null => .ok {}
  | j => Payload.ofJson j

end Session

/-! ## Setting values -/

/-- Sets the first field of a name. -/
def setField (name : String) (value : Json) : List ReviewField → Option (List ReviewField)
  | [] => none
  | f :: fs =>
    if f.name = name then some ({ f with value } :: fs)
    else (setField name value fs).map (f :: ·)

/-- Sets the first field of a name in the first section of a name. -/
def setSection (sectionName name : String) (value : Json) :
    List ReviewSection → Option (List ReviewSection)
  | [] => none
  | s :: ss =>
    if s.name = sectionName then
      (setField name value s.fields).map fun fields => { s with fields } :: ss
    else (setSection sectionName name value ss).map (s :: ·)

/-- Sets the first field of a name in the first section of a name; none if there is no such field.
-/
def Payload.set? (p : Payload) (sectionName name : String) (value : Json) : Option Payload :=
  (setSection sectionName name value p.sections).map fun sections => ⟨sections⟩

namespace Session

/-- Sets a value of the payload under review, and tells whether it has such a field. -/
def set (s : Session) (sectionName name : String) (value : Json) :
    Except Fault (Bool × Session) := do
  let p ← s.payload?
  match p.set? sectionName name value with
  | some p => .ok (true, opened p)
  | none => .ok (false, s)

def submit (s : Session) : Except Fault (Payload × Session) := do
  let p ← s.payload?
  .ok (p, {})

def discard (s : Session) : Except Fault Session := do
  let _ ← s.payload?
  .ok {}

/-! ## Operations as values -/

/-- An operation on a session. Asking whether it is open and viewing its payload change nothing. -/
inductive Action where
  | start (p : Payload)
  | startData (j : Json)
  | set (sectionName name : String) (value : Json)
  | submit
  | discard
  | askOpen
  | view

/-- What an operation answers. -/
inductive Answer where
  | done
  | truth (b : Bool)
  | payload (p : Payload)

/-- What an operation comes to: its answer or the fault that it met, and the session after it. -/
structure Outcome where
  answer : Except Fault Answer
  after : Session

/-- Runs an operation. A fault leaves the session as it was. -/
def step (s : Session) : Action → Outcome
  | .start p => ⟨.ok (.payload p), opened p⟩
  | .startData j =>
    match payloadOf j with
    | .ok p => ⟨.ok (.payload p), opened p⟩
    | .error fault => ⟨.error fault, s⟩
  | .set sectionName name value =>
    match s.set sectionName name value with
    | .ok (found, after) => ⟨.ok (.truth found), after⟩
    | .error fault => ⟨.error fault, s⟩
  | .submit =>
    match s.submit with
    | .ok (p, after) => ⟨.ok (.payload p), after⟩
    | .error fault => ⟨.error fault, s⟩
  | .discard =>
    match s.discard with
    | .ok after => ⟨.ok .done, after⟩
    | .error fault => ⟨.error fault, s⟩
  | .askOpen => ⟨.ok (.truth s.isOpen), s⟩
  | .view => ⟨s.payload?.map .payload, s⟩

/-! ## Reports -/

/-- The source of the reports of reviews. -/
def logger : String := "dynaform.runtime.review"

def openedEntry (p : Payload) : Entry :=
  ⟨Level.debug, logger, s!"Review session opened with {p.sections.length} sections", none⟩

def submittedEntry : Entry := ⟨Level.info, logger, "Review session submitted", none⟩

/-- The report of a dropped payload. -/
def discardedEntry : Entry := ⟨Level.info, logger, "Review session closed without changes", none⟩

end Session

end ConditionalForms.Review
