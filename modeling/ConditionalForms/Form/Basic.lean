import ConditionalForms.Json.Basic

/-!
# Forms

A form is a list of sections in display order, each with its fields in display order. Sections and
fields carry the text of a visibility rule and the standing that the last visibility pass gave them.
-/

namespace ConditionalForms

/-- What a form field holds, as its input control shows it. -/
inductive Kind where
  | text
  | textArea
  | number
  | date
  | dateTime
  | checkbox
  | picklist
  | other
  deriving DecidableEq, Repr, Inhabited

namespace Kind

/-- Every kind. -/
def all : List Kind := [text, textArea, number, date, dateTime, checkbox, picklist, other]

/-- The name of a kind in data. -/
def label : Kind → String
  | text => "text"
  | textArea => "textarea"
  | number => "number"
  | date => "date"
  | dateTime => "datetime"
  | checkbox => "checkbox"
  | picklist => "picklist"
  | other => "other"

/-- The kind of a name. -/
def ofLabel? (s : String) : Option Kind := all.find? (·.label = s)

def flag : Kind → String
  | text => "isText"
  | textArea => "isTextArea"
  | number => "isNumber"
  | date => "isDate"
  | dateTime => "isDateTime"
  | checkbox => "isCheckbox"
  | picklist => "isPicklist"
  | other => "isOther"

end Kind

/-- One choice of a picklist. -/
structure PickOption where
  label : String
  value : String
  deriving DecidableEq, Repr

/-- What a visibility pass says of a section or field: whether it is visible, whether its own rule
is satisfied, and why it is hidden. -/
structure Standing where
  visible : Bool := true
  satisfied : Bool := true
  detail : Option String := none
  deriving DecidableEq, Repr, Inhabited

/-- A form field. `position` is its place among the rows of its section, from one. -/
structure Field where
  name : String
  typeTag : String := ""
  kind : Kind := .other
  order : Option Int := none
  options : List PickOption := []
  value : Json := .null
  rule : String := ""
  position : Int := 0
  standing : Standing := {}
  deriving Repr, Inhabited

/-- A section. `position` is its place among the sections as the rows first name them, from one. -/
structure Section where
  name : String
  order : Option Int := none
  rule : String := ""
  fields : List Field := []
  position : Int := 0
  standing : Standing := {}
  deriving Repr, Inhabited

/-- A form: its sections, or the message of the failure that left it without any. -/
structure Schema where
  sections : List Section := []
  error : Option String := none
  deriving Repr, Inhabited

namespace Section

/-- The name of rows without a section. -/
def defaultName : String := "Other"

/-- The first field of a name. -/
def field? (s : Section) (name : String) : Option Field := s.fields.find? (·.name = name)

/-- The first field at a position. -/
def fieldAt? (s : Section) (position : Int) : Option Field := s.fields.find? (·.position = position)

/-- A key that changes whenever the section is shown or hidden. -/
def renderKey (s : Section) : String := s.name ++ (if s.standing.visible then "-true" else "-false")

end Section

namespace Schema

/-- The first section of a name. -/
def section? (s : Schema) (name : String) : Option Section := s.sections.find? (·.name = name)

/-- The first section at a position. -/
def sectionAt? (s : Schema) (position : Int) : Option Section :=
  s.sections.find? (·.position = position)

/-- Every field, in display order. -/
def allFields (s : Schema) : List Field := s.sections.flatMap (·.fields)

def findFields (s : Schema) (name : String) : List Field := s.allFields.filter (·.name = name)

/-- Whether there is any section. -/
def hasSections (s : Schema) : Bool := !s.sections.isEmpty

/-- The schema with every field changed by a function of its section and itself. -/
def mapFields (f : Section → Field → Field) (s : Schema) : Schema :=
  { s with sections := s.sections.map fun sec => { sec with fields := sec.fields.map (f sec) } }

end Schema

end ConditionalForms
