import ConditionalForms.Fault
import ConditionalForms.Form.Check
import ConditionalForms.Journal.Entry
import ConditionalForms.Json.Nesting

/-!
# Review payloads

A review payload is a snapshot of a form for a reviewer: every section and field with its value,
rule and standing. Its values can be written back to a form.
-/

namespace ConditionalForms.Review

/-- The flags that tell the kind of a field. -/
structure KindFlags where
  text : Bool := false
  textArea : Bool := false
  number : Bool := false
  date : Bool := false
  dateTime : Bool := false
  checkbox : Bool := false
  picklist : Bool := false
  other : Bool := false
  deriving DecidableEq, Repr, Inhabited

namespace KindFlags

/-- The flags of a kind: its own alone is set. -/
def ofKind (k : Kind) : KindFlags where
  text := k = .text
  textArea := k = .textArea
  number := k = .number
  date := k = .date
  dateTime := k = .dateTime
  checkbox := k = .checkbox
  picklist := k = .picklist
  other := k = .other

/-- The flag of a kind. -/
def get (flags : KindFlags) : Kind → Bool
  | .text => flags.text
  | .textArea => flags.textArea
  | .number => flags.number
  | .date => flags.date
  | .dateTime => flags.dateTime
  | .checkbox => flags.checkbox
  | .picklist => flags.picklist
  | .other => flags.other

theorem get_ofKind (k l : Kind) : (ofKind k).get l = decide (k = l) := by
  cases k <;> cases l <;> rfl

end KindFlags

/-- A field under review. -/
structure ReviewField where
  name : String
  typeTag : String := ""
  value : Json := .null
  rule : String := ""
  standing : Standing := {}
  flags : KindFlags := {}
  options : List PickOption := []
  deriving Repr, Inhabited

/-- A section under review. -/
structure ReviewSection where
  name : String
  order : Option Int := none
  rule : String := ""
  standing : Standing := {}
  fields : List ReviewField := []
  deriving Repr, Inhabited

/-- A review payload. -/
structure Payload where
  sections : List ReviewSection := []
  deriving Repr, Inhabited

/-! ## Encoding -/

/-- A field as data, in which doubles that are not finite are null. -/
def ReviewField.toJson (f : ReviewField) : Json :=
  .object ([
    ("fieldApiName", .text f.name),
    ("fieldType", .text f.typeTag),
    ("value", f.value.withoutInfinities),
    ("criteria", .text f.rule),
    ("isVisible", .bool f.standing.visible),
    ("criteriaSatisfied", .bool f.standing.satisfied),
    ("detail", .ofText? f.standing.detail)] ++
    Kind.all.map (fun k => (k.flag, .bool (f.flags.get k))) ++
    [("comboboxOptions", .list (f.options.map fun o =>
      .object [("label", .text o.label), ("value", .text o.value)]))])

def ReviewSection.toJson (s : ReviewSection) : Json :=
  .object [
    ("name", .text s.name),
    ("order", .ofInt? s.order),
    ("criteria", .text s.rule),
    ("isVisible", .bool s.standing.visible),
    ("criteriaSatisfied", .bool s.standing.satisfied),
    ("detail", .ofText? s.standing.detail),
    ("fields", .list (s.fields.map (·.toJson)))]

def Payload.toJson (p : Payload) : Json :=
  .object [("sections", .list (p.sections.map (·.toJson)))]

/-- Whether every value of a payload has few enough levels to be handed out. -/
def Payload.fitsLevels (p : Payload) : Bool :=
  p.sections.all fun s => s.fields.all fun f => f.value.fitsLevels

/-- A payload as data, if it can be handed out. -/
def Payload.toJson? (p : Payload) : Except Fault Json :=
  if p.fitsLevels then .ok p.toJson else .error .tooDeepToShow

/-! ## Decoding -/

open Json (optional required checkText checkBool checkInt checkOption checkList checkObject)

def checkStanding (o : List (String × Json)) : Checked Standing :=
  Standing.mk
    <$> optional o ["isVisible", "is_visible"] checkBool true
    <*> optional o ["criteriaSatisfied", "criteria_satisfied"] checkBool true
    <*> optional o ["detail"] (checkOption checkText) none

def checkFlags (o : List (String × Json)) : Checked KindFlags :=
  KindFlags.mk
    <$> optional o ["isText", "is_text"] checkBool false
    <*> optional o ["isTextArea", "is_textarea"] checkBool false
    <*> optional o ["isNumber", "is_number"] checkBool false
    <*> optional o ["isDate", "is_date"] checkBool false
    <*> optional o ["isDateTime", "is_datetime"] checkBool false
    <*> optional o ["isCheckbox", "is_checkbox"] checkBool false
    <*> optional o ["isPicklist", "is_picklist"] checkBool false
    <*> optional o ["isOther", "is_other"] checkBool false

def ReviewField.check : Json → Checked ReviewField :=
  checkObject fun o =>
    ReviewField.mk
      <$> required o ["fieldApiName", "field_api_name"] checkText
      <*> optional o ["fieldType", "field_type"] checkText ""
      <*> optional o ["value"] Json.checkPlain .null
      <*> optional o ["criteria"] checkText ""
      <*> checkStanding o
      <*> checkFlags o
      <*> optional o ["comboboxOptions", "combobox_options"] (checkList PickOption.check) []

def ReviewSection.check : Json → Checked ReviewSection :=
  checkObject fun o =>
    ReviewSection.mk
      <$> required o ["name"] checkText
      <*> optional o ["order"] (checkOption checkInt) none
      <*> optional o ["criteria"] checkText ""
      <*> checkStanding o
      <*> optional o ["fields"] (checkList ReviewField.check) []

def Payload.check : Json → Checked Payload :=
  checkObject fun o => Payload.mk <$> optional o ["sections"] (checkList ReviewSection.check) []

/-- A payload from data, with every issue as one fault. -/
def Payload.ofJson (j : Json) : Except Fault Payload :=
  match Payload.check j with
  | .valid p => .ok p
  | .invalid issues => .error (.invalid issues)

/-! ## Snapshots -/

/-- A field of a form under review. Its value has to be one that a form field takes. -/
def ReviewField.ofField? (f : Field) : Except Fault ReviewField :=
  match (Json.checkPlain f.value).within (.key "value") with
  | .invalid issues => .error (.invalid issues)
  | .valid value => .ok {
      name := f.name
      typeTag := f.typeTag
      value := value
      rule := f.rule
      standing := f.standing
      flags := .ofKind f.kind
      options := f.options }

def ReviewSection.ofSection? (s : Section) : Except Fault ReviewSection := do
  let fields ← s.fields.mapM ReviewField.ofField?
  .ok {
    name := s.name
    order := s.order
    rule := s.rule
    standing := s.standing
    fields := fields }

def Payload.ofSchema? (s : Schema) : Except Fault Payload := do
  let sections ← s.sections.mapM ReviewSection.ofSection?
  .ok ⟨sections⟩

/-! ## Writing back -/

/-- Whether a field of the first section of that name, or any field when no section has it, takes
the values of a payload section. -/
def takesFrom (form : Schema) (index : Nat) (p : ReviewSection) : Bool :=
  match form.sections.findIdx? (·.name = p.name) with
  | some i => i = index
  | none => true

/-- Writes a value to the fields of a name in some sections, the first one having the given index,
and says which fields were written to. -/
def writeFields (f : ReviewField) (takes : Nat → Bool) (form : Schema) : Schema :=
  { form with sections := form.sections.mapIdx fun i sec =>
      if takes i then
        { sec with fields := sec.fields.map fun g =>
            if g.name = f.name then { g with value := f.value } else g }
      else sec }

/-- Writes the values of a payload to a form: fields match by name within the first section of the
same name, or in the whole form when there is no such section. Later values overwrite earlier ones.
-/
def applyValues (p : Payload) (form : Schema) : Schema :=
  p.sections.foldl (fun form sec =>
    sec.fields.foldl (fun form f => writeFields f (fun i => takesFrom form i sec) form) form) form

def writesTo (p : Payload) (form : Schema) (index : Nat) (g : Field) : Bool :=
  p.sections.any fun sec => takesFrom form index sec && sec.fields.any (·.name = g.name)

/-- The number of fields that a payload writes to. -/
def countWritten (p : Payload) (form : Schema) : Nat :=
  (form.sections.mapIdx fun i sec => sec.fields.countP (writesTo p form i)).foldl (· + ·) 0

def appliedEntry (count : Nat) : Entry :=
  ⟨Level.info, "dynaform.runtime.review", s!"Applied review payload: {count} fields updated", none⟩

end ConditionalForms.Review
