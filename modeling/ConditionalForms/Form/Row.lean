import ConditionalForms.Form.Order
import ConditionalForms.Json.Check
import ConditionalForms.Json.Display

/-!
# Metadata rows

A row describes one form field and the section that it belongs to. Its columns have two names each:
the name in the metadata object, which counts first, and a plain one.
-/

namespace ConditionalForms

/-- One metadata row. Text columns may be missing. -/
structure Row where
  sectionName : Option String := none
  sectionOrder : OrderCell := .none
  sectionRule : Option String := none
  fieldName : Option String := none
  fieldType : Option String := none
  fieldOrder : OrderCell := .none
  fieldRule : Option String := none
  options : Option String := none
  deriving DecidableEq, Repr, Inhabited

namespace Row

/-- A text column: any value but null as its text in messages. -/
def checkColumn : Json → Checked (Option String)
  | .null => .valid none
  | j =>
    match j.display? with
    | .ok s => .valid (some s)
    | .error _ => .fail .valueError

def checkOrder (j : Json) : Checked OrderCell := .valid (.ofJson j)

def checkFields (o : List (String × Json)) : Checked Row :=
  Row.mk
    <$> Json.optional o ["Section__c", "section"] checkColumn none
    <*> Json.optional o ["Section_Order__c", "section_order"] checkOrder .none
    <*> Json.optional o ["Section_Criteria__c", "section_criteria"] checkColumn none
    <*> Json.optional o ["Asset_Attribute__c", "field_name"] checkColumn none
    <*> Json.optional o ["Asset_Type__c", "field_type"] checkColumn none
    <*> Json.optional o ["Field_Order__c", "field_order"] checkOrder .none
    <*> Json.optional o ["Field_Criteria__c", "field_criteria"] checkColumn none
    <*> Json.optional o ["Picklist_Values__c", "picklist_values"] checkColumn none

def check : Json → Checked Row := Json.checkObject checkFields

/-- A row from a decoded value, with every issue as one fault. -/
def ofJson (j : Json) : Except Fault Row :=
  match check j with
  | .valid r => .ok r
  | .invalid issues => .error (.invalid issues)

/-- One pair of a list of pairs: its key if that is a text, and its value. -/
def pairOf (position : Nat) : Json → Except Fault (Option (String × Json))
  | .list [.text k, v] => .ok (some (k, v))
  | .list [.list _, _] | .list [.object _, _] => .error .unsuitable
  | .list [_, _] => .ok none
  | .list items => .error (.notAPair position items.length)
  | .text s =>
    match s.toList with
    | [k, v] => .ok (some (k.toString, .text v.toString))
    | cs => .error (.notAPair position cs.length)
  | .object [(k, _), (v, _)] => .ok (some (k, .text v))
  | .object fields => .error (.notAPair position fields.length)
  | _ => .error .unsuitable

/-- The fields of a list of pairs, the first one having the given position. -/
def fieldsOfPairs (position : Nat) (before : List (String × Json)) :
    List Json → Except Fault (List (String × Json))
  | [] => .ok before
  | j :: js =>
    match pairOf position j with
    | .error fault => .error fault
    | .ok none => fieldsOfPairs (position + 1) before js
    | .ok (some (k, v)) => fieldsOfPairs (position + 1) (Assoc.put k v before) js

def characters (s : String) : List Json := s.toList.map fun c => .text c.toString

/-- The fields of a record: an object's own, or those of a list of pairs. -/
def recordFields : Json → Except Fault (List (String × Json))
  | .object fields => .ok fields
  | .list items => fieldsOfPairs 0 [] items
  | .text s => fieldsOfPairs 0 [] (characters s)
  | _ => .error .unsuitable

def ofRecord (j : Json) : Except Fault Row := do
  let fields ← recordFields j
  ofJson (.object fields)

/-- The records of a value: the items of a list, the names of an object, the characters of a text.
-/
def records : Json → Except Fault (List Json)
  | .list items => .ok items
  | .object fields => .ok (fields.map fun f => .text f.1)
  | .text s => .ok (characters s)
  | _ => .error .unsuitable

end Row

end ConditionalForms
