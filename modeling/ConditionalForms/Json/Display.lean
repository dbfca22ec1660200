import ConditionalForms.Fault
import ConditionalForms.Json.Basic
import ConditionalForms.Number.Decimal
import ConditionalForms.Number.Shortest

/-!
# Values in messages

The text of a value inside a message: `None`, `True`, numbers, quoted texts, and lists and objects
of such literals. A text on its own is shown as it is. Integers with too many digits cannot be
shown.
-/

namespace ConditionalForms.Json

mutual

def literal : Json → List Char
  | null => "None".toList
  | bool true => "True".toList
  | bool false => "False".toList
  | int i => (toString i).toList
  | float x => x.text.toList
  | text s => Text.Quoted.encode s.toList
  | list items => '[' :: literals items ++ [']']
  | object fields => '{' :: fieldLiterals fields ++ ['}']

def literals : List Json → List Char
  | [] => []
  | [x] => literal x
  | x :: xs => literal x ++ ", ".toList ++ literals xs

def fieldLiterals : List (String × Json) → List Char
  | [] => []
  | [(k, v)] => Text.Quoted.encode k.toList ++ ": ".toList ++ literal v
  | (k, v) :: fs =>
    Text.Quoted.encode k.toList ++ ": ".toList ++ literal v ++ ", ".toList ++ fieldLiterals fs

end

mutual

/-- Whether every integer of a value has few enough digits to be written. -/
def fitsDigits : Json → Bool
  | int i => Decimal.fitsDigits i
  | list items => itemsFit items
  | object fields => fieldsFit fields
  | _ => true

/-- Whether every integer of some values has few enough digits. -/
def itemsFit : List Json → Bool
  | [] => true
  | x :: xs => fitsDigits x && itemsFit xs

/-- Whether every integer of some fields has few enough digits. -/
def fieldsFit : List (String × Json) → Bool
  | [] => true
  | (_, v) :: fs => fitsDigits v && fieldsFit fs

end

/-- A value as it stands in a message. -/
def display : Json → List Char
  | text s => s.toList
  | j => literal j

/-- The text of a value in a message, if it can be written. -/
def display? (j : Json) : Except Fault String :=
  if j.fitsDigits then .ok (String.ofList j.display) else .error .integerUnprintable

/-- The literal of a value, if it can be written. -/
def literal? (j : Json) : Except Fault String :=
  if j.fitsDigits then .ok (String.ofList j.literal) else .error .integerUnprintable

end ConditionalForms.Json
