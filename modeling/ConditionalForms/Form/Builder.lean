import ConditionalForms.Form.Kind
import ConditionalForms.Form.Row
import ConditionalForms.Journal.Entry

/-!
# Building forms

Rows are gathered into sections in the order in which they first name them. A section takes the
least explicit order of its rows and the first rule that is not blank. Sections and fields are then
sorted for display, while their positions keep telling where the rows put them.
-/

namespace ConditionalForms

namespace Row

/-- The name of the section of a row: trimmed, or the default when nothing is left. -/
def sectionTitle (defaultName : String) (r : Row) : String :=
  let name := Text.trimmed (r.sectionName.getD "")
  if name.isEmpty then defaultName else name

/-- The field of a row, at a position among the rows of its section. -/
def toField (r : Row) (position : Nat) : Field where
  name := r.fieldName.getD ""
  typeTag := normalTag r.fieldType
  kind := .ofTag r.fieldType
  order := r.fieldOrder.order?
  options :=
    if Kind.ofTag r.fieldType = .picklist then PickOption.ofText (r.options.getD "") else []
  rule := r.fieldRule.getD ""
  position := position

end Row

namespace Section

/-- The section that its first row opens, still without fields. -/
def opened (name : String) (r : Row) (position : Nat) : Section where
  name := name
  order := r.sectionOrder.order?
  rule := r.sectionRule.getD ""
  position := position

/-- The section after one more of its rows has been looked at. -/
def merged (s : Section) (r : Row) : Section :=
  let rule := r.sectionRule.getD ""
  { s with
    order := leastOrder s.order r.sectionOrder.order?
    rule := if Text.isBlankText s.rule && !Text.isBlankText rule then rule else s.rule }

def withRow (s : Section) (r : Row) : Section :=
  { s with fields := s.fields ++ [r.toField (s.fields.length + 1)] }

def sortKey (s : Section) : SortKey := .of s.order s.name

end Section

def Field.sortKey (f : Field) : SortKey := .of f.order f.name

namespace Builder

/-- Takes a row into its section, which is opened at the end if it is not there. -/
def place (name : String) (r : Row) : (opened : Nat) → List Section → List Section
  | opened, [] => [(Section.opened name r (opened + 1)).withRow r]
  | opened, s :: ss =>
    if s.name = name then (s.merged r).withRow r :: ss else s :: place name r (opened + 1) ss

/-- The sections of some rows, in the order in which the rows first name them. -/
def gather (defaultName : String) (rows : List Row) : List Section :=
  rows.foldl (fun ss r => place (r.sectionTitle defaultName) r 0 ss) []

def arrangeFields (s : Section) : Section :=
  { s with fields := SortKey.sort Field.sortKey s.fields }

/-- Sorts sections and their fields for display. -/
def arrange (ss : List Section) : List Section :=
  SortKey.sort Section.sortKey (ss.map arrangeFields)

end Builder

/-- The form of some rows, with everything visible. -/
def Schema.ofRows (defaultName : String) (rows : List Row) : Schema :=
  { sections := Builder.arrange (Builder.gather defaultName rows) }

namespace Builder

/-- The form of some records, unless one of them is no row. -/
def build (defaultName : String) (records : List Json) : Except Fault Schema := do
  let rows ← records.mapM Row.ofRecord
  .ok (Schema.ofRows defaultName rows)

/-- The form of the records of a value. -/
def buildFrom (defaultName : String) (records : Json) : Except Fault Schema := do
  let records ← Row.records records
  build defaultName records

/-! ## Reports -/

/-- The source of the reports of building. -/
def logger : String := "dynaform.core.schema_builder"

def orderText : Option Int → String
  | none => "None"
  | some i => toString i

def loweredReport? (ss : List Section) (name : String) (r : Row) : Option Entry := do
  let s ← ss.find? (·.name = name)
  let order := leastOrder s.order r.sectionOrder.order?
  if order = s.order then none
  else some ⟨Level.debug, logger,
    "Section " ++ Text.quoted name ++ " order lowered " ++ orderText s.order ++ " -> " ++
      orderText order, none⟩

/-- The reports of taking in rows one after another. -/
def gatherJournal (defaultName : String) (ss : List Section) : List Row → List Entry
  | [] => []
  | r :: rs =>
    let name := r.sectionTitle defaultName
    (loweredReport? ss name r).toList ++ gatherJournal defaultName (place name r 0 ss) rs

/-- The records before the first that is no row, as rows. -/
def goodRows : List Json → List Row
  | [] => []
  | j :: js =>
    match Row.ofRecord j with
    | .ok r => r :: goodRows js
    | .error _ => []

def builtEntry (s : Schema) (rows : Nat) : Entry :=
  ⟨Level.info, logger, s!"Built form schema: {s.sections.length} sections, {rows} fields",
    some (.object [("sections", .texts (s.sections.map (·.name)))])⟩

def rowsJournal (defaultName : String) (rows : List Row) : List Entry :=
  gatherJournal defaultName [] rows ++ [builtEntry (Schema.ofRows defaultName rows) rows.length]

def journal (defaultName : String) (records : List Json) : List Entry :=
  match records.mapM Row.ofRecord with
  | .ok rows => rowsJournal defaultName rows
  | .error _ => gatherJournal defaultName [] (goodRows records)

/-- The reports of building a form from the records of a value. -/
def journalFrom (defaultName : String) (records : Json) : List Entry :=
  match Row.records records with
  | .ok records => journal defaultName records
  | .error _ => []

end Builder

end ConditionalForms
