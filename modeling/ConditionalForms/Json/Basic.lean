import ConditionalForms.Assoc
import ConditionalForms.Number.Binary64

/-!
# JSON values

Decoded data of any shape. The fields of an object keep their order, and integers have any size.

Texts are sequences of whole characters, that is of the Unicode scalar values: none holds half of a
surrogate pair, and a reader that meets one takes the replacement character in its place.
-/

namespace ConditionalForms

/-- A JSON value. -/
inductive Json where
  | null
  | bool (b : Bool)
  | int (i : Int)
  | float (x : Binary64)
  | text (s : String)
  | list (items : List Json)
  | object (fields : List (String × Json))
  deriving Repr, Inhabited

namespace Json

/-- Whether a value counts as present: not null, false, zero or empty. -/
def isTruthy : Json → Bool
  | null => false
  | bool b => b
  | int i => i ≠ 0
  | float (.finite _ units) => units ≠ 0
  | float _ => true
  | text s => !s.isEmpty
  | list items => !items.isEmpty
  | object fields => !fields.isEmpty

/-- The values that a form field takes from its user: null, a truth value or a text. -/
def isPlain : Json → Bool
  | null | bool _ | text _ => true
  | _ => false

def ofText? : Option String → Json
  | none => null
  | some s => text s

/-- The value of an optional integer. -/
def ofInt? : Option Int → Json
  | none => null
  | some i => int i

def texts (ss : List String) : Json := list (ss.map text)

end Json

end ConditionalForms
