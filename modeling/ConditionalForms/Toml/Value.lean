import ConditionalForms.Assoc
import ConditionalForms.Number.Binary64

/-!
# TOML values

The values of a TOML document. Tables keep the order of their keys.
-/

namespace ConditionalForms.Toml

/-- The kinds of dates and times. -/
inductive MomentKind where
  | date
  | time
  | dateTime
  deriving DecidableEq, Repr

/-- A TOML value. A date or time is kept as it is written. -/
inductive Value where
  | text (s : String)
  | int (i : Int)
  | float (x : Binary64)
  | bool (b : Bool)
  | moment (kind : MomentKind) (written : String)
  | list (items : List Value)
  | table (fields : List (String × Value))
  deriving Repr, Inhabited

abbrev Fields := List (String × Value)

def Value.typeName : Value → String
  | text _ => "str"
  | int _ => "int"
  | float _ => "float"
  | bool _ => "bool"
  | moment .date _ => "date"
  | moment .time _ => "time"
  | moment .dateTime _ => "datetime"
  | list _ => "list"
  | table _ => "dict"

end ConditionalForms.Toml
