import ConditionalForms.Json.Display
import ConditionalForms.Text.Blank

/-!
# Visibility rules

A rule is a list of atoms that must all hold. An atom names a field, an operator and a literal. The
two dialects differ in how they name the field: by the names or by the positions of section and
field.
-/

namespace ConditionalForms.Rule

/-- How rules name the field they look at. -/
inductive Dialect where
  | name
  | positional
  deriving DecidableEq, Repr, Inhabited

namespace Dialect

/-- The name of a dialect. -/
def label : Dialect → String
  | name => "name"
  | positional => "positional"

/-- Every dialect. -/
def all : List Dialect := [name, positional]

/-- The dialect of a name. -/
def ofLabel? (s : String) : Option Dialect := all.find? (·.label = s)

/-- The names of the dialects, for messages. -/
def choices : String := ", ".intercalate (all.map label)

end Dialect

/-- What an atom compares by. Any other symbol asks for the very same text. -/
inductive Operator where
  | equals
  | doubleEquals
  | notEquals
  | greater
  | greaterEqual
  | less
  | lessEqual
  | contains
  | other (symbol : String)
  deriving DecidableEq, Repr, Inhabited

namespace Operator

/-- The operators that have a meaning of their own. -/
def known : List Operator :=
  [equals, doubleEquals, notEquals, greater, greaterEqual, less, lessEqual, contains]

def symbol : Operator → String
  | equals => "="
  | doubleEquals => "=="
  | notEquals => "!="
  | greater => ">"
  | greaterEqual => ">="
  | less => "<"
  | lessEqual => "<="
  | contains => "~"
  | other s => s

def ofSymbol (s : String) : Operator := (known.find? (·.symbol = s)).getD (other s)

/-- Whether an operator compares numbers. -/
def isNumeric : Operator → Bool
  | greater | greaterEqual | less | lessEqual => true
  | _ => false

end Operator

/-- The field that an atom looks at. Atoms that are read from a rule have every part; decoded ones
may lack some. -/
inductive Target where
  | position (sectionIndex : Int) (fieldIndex : Option Int)
  | names (sectionName fieldName : Option String)
  deriving DecidableEq, Repr, Inhabited

/-- One comparison of a rule. -/
structure Atom where
  target : Target
  operator : Operator := .equals
  expected : String := ""
  raw : String := ""
  deriving DecidableEq, Repr, Inhabited

namespace Target

/-- An integer inside a message, if it can be written. -/
def indexText? (i : Option Int) : Except Fault String := (Json.ofInt? i).display?

/-- A target as rules write it. -/
def text? : Target → Except Fault String
  | position i j => do
    let i ← indexText? (some i)
    let j ← indexText? j
    .ok (i ++ "-" ++ j)
  | names s f => .ok ("[" ++ s.getD "None" ++ "].[" ++ f.getD "None" ++ "]")

end Target

/-- Removes blanks around a literal, and then one layer of quotation marks if they match. -/
def unquote (cs : List Char) : List Char :=
  let cs := Text.trim cs
  match cs with
  | q :: rest =>
    if (q = '"' || q = '\'') && rest.getLast? = some q then rest.dropLast else cs
  | [] => cs

/-- How a piece of rule text reads. -/
inductive Reading where
  | atom (a : Atom)
  /-- The text is no rule of the dialect. -/
  | unmatched (text : String)
  /-- A position is not at least one. -/
  | nonPositive (text : String)
  /-- A position has too many digits. -/
  | tooLong (digits : Nat)
  deriving DecidableEq, Repr

/-- The atoms of some readings; a position with too many digits is a fault. -/
def collect : List Reading → Except Fault (List Atom)
  | [] => .ok []
  | .atom a :: rs => (collect rs).map (a :: ·)
  | .tooLong digits :: _ => .error (.integerTooLong digits)
  | _ :: rs => collect rs

end ConditionalForms.Rule
