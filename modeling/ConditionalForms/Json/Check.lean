import ConditionalForms.Issue
import ConditionalForms.Json.Basic
import ConditionalForms.Number.Lenient

/-!
# Checked parts of JSON values

Decoders of the scalars, lists and objects that typed values are made of. They are lenient: a truth
value may be given as a word or as zero or one, and an integer as a text or a whole double.
-/

namespace ConditionalForms.Json

/-- A text. -/
def checkText : Json → Checked String
  | text s => .valid s
  | _ => .fail .stringType

def boolWords : List (String × Bool) := [
  ("0", false), ("off", false), ("f", false), ("false", false), ("n", false), ("no", false),
  ("1", true), ("on", true), ("t", true), ("true", true), ("y", true), ("yes", true)]

def isWord64 (i : Int) : Bool := -Int.pow 2 63 ≤ i && i < Int.pow 2 63

/-- The truth value of an integer: zero or one. -/
def checkBit (i : Int) : Checked Bool :=
  if i = 0 then .valid false else if i = 1 then .valid true else .fail .boolParsing

/-- A truth value. -/
def checkBool : Json → Checked Bool
  | bool b => .valid b
  | text s =>
    match boolWords.lookup (String.ofList (s.toList.map Char.toLower)) with
    | some b => .valid b
    | none => .fail .boolParsing
  | int i => if isWord64 i then checkBit i else .fail .boolType
  | float x =>
    match x.toInt? with
    | some i => if isWord64 i && i ≠ -Int.pow 2 63 then checkBit i else .fail .boolType
    | none => .fail .boolType
  | _ => .fail .boolType

/-- An integer from a text. -/
def checkIntText (s : String) : Checked Int :=
  match Lenient.readInt s with
  | .value i => .valid i
  | .tooLong _ => .fail .intParsingSize
  | .malformed => .fail .intParsing

/-- An integer. -/
def checkInt : Json → Checked Int
  | int i => .valid i
  | bool b => .valid (if b then 1 else 0)
  | text s => checkIntText s
  | float x =>
    match x, x.toInt? with
    | .finite .., some i =>
      if isWord64 i && i ≠ -Int.pow 2 63 then .valid i else .fail .intParsingSize
    | .finite .., none => .fail .intFromFloat
    | _, _ => .fail .finiteNumber
  | _ => .fail .intType

/-- A part that may be null. -/
def checkOption {α : Type} (check : Json → Checked α) : Json → Checked (Option α)
  | null => .valid none
  | j => some <$> check j

/-- The value of a form field: null, a truth value or a text. A text stays a text, and what is
neither is an issue of both. -/
def checkPlain : Json → Checked Json
  | null => .valid null
  | text s => .valid (text s)
  | j =>
    match checkBool j with
    | .valid b => .valid (bool b)
    | .invalid issues =>
      .invalid (issues.map (fun i => ⟨.key "bool" :: i.path, i.problem⟩) ++
        [⟨[.key "str"], .stringType⟩])

def checkList {α : Type} (check : Json → Checked α) : Json → Checked (List α)
  | list items => Checked.itemsFrom check 0 items
  | _ => .fail .listType

/-- An object, given by its fields. -/
def checkObject {α : Type} (check : List (String × Json) → Checked α) : Json → Checked α
  | object fields => check fields
  | _ => .fail .modelType

/-- The first of some keys that an object has, with its value. -/
def find? (fields : List (String × Json)) (keys : List String) : Option (String × Json) :=
  keys.findSome? fun k => (Assoc.get? fields k).map fun v => (k, v)

/-- A part that an object must have, under the first of its keys that is there. -/
def required {α : Type} (fields : List (String × Json)) (keys : List String)
    (check : Json → Checked α) : Checked α :=
  match find? fields keys with
  | some (k, v) => (check v).within (.key k)
  | none => (Checked.fail .missing).within (.key (keys.headD ""))

/-- A part that an object may have. -/
def optional {α : Type} (fields : List (String × Json)) (keys : List String)
    (check : Json → Checked α) (default : α) : Checked α :=
  match find? fields keys with
  | some (k, v) => (check v).within (.key k)
  | none => .valid default

end ConditionalForms.Json
