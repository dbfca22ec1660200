import ConditionalForms.Rule.Basic
import ConditionalForms.Text.Casing

/-!
# Comparing values

A value is compared as text without regard to case, or as a number. Nothing compares with null, and
a numeric comparison with something that is no number fails.
-/

namespace ConditionalForms.Rule

/-- The text that a value is compared by: whole doubles are written as integers. -/
def asText? : Json → Except Fault String
  | .bool b => .ok (if b then "true" else "false")
  | .float x =>
    match x.toInt? with
    | some i => .ok (toString i)
    | none => .ok x.text
  | j => j.display?

/-- The number of a text, none if it is no number. -/
def textNumber? (s : String) : Option Binary64 :=
  (Decimal.readBinary64? (Text.trim s.toList)).filter fun x => !x.isNaN

/-- The number of a value, none if it has none. An integer beyond every double is a fault. -/
def asNumber? : Json → Except Fault (Option Binary64)
  | .bool b => .ok (some (.ofInt (if b then 1 else 0)))
  | .int i =>
    match Binary64.ofInt i with
    | .infinite _ => .error .integerTooLarge
    | x => .ok (some x)
  | .float x => .ok (if x.isNaN then none else some x)
  | .text s => .ok (textNumber? s)
  | _ => .ok none

def occursIn (p : List Char) : List Char → Bool
  | [] => p.isEmpty
  | c :: cs => p.isPrefixOf (c :: cs) || occursIn p cs

/-- How a numeric operator compares two numbers. -/
def Operator.compareNumbers (op : Operator) (x y : Binary64) : Bool :=
  match op with
  | .greater => y.lt x
  | .greaterEqual => y.le x
  | .less => x.lt y
  | .lessEqual => x.le y
  | _ => false

/-- How any other operator compares two texts. -/
def Operator.compareTexts (op : Operator) (actual expected : String) : Bool :=
  match op with
  | .equals | .doubleEquals => Text.folded actual == Text.folded expected
  | .notEquals => Text.folded actual != Text.folded expected
  | .contains => occursIn (Text.folded expected) (Text.folded actual)
  | _ => actual == expected

/-- Whether a value stands in the relation of an operator to a literal. -/
def compare (actual : Json) (op : Operator) (expected : String) : Except Fault Bool :=
  match actual with
  | .null => .ok false
  | actual =>
    if op.isNumeric then do
      match ← asNumber? actual, textNumber? expected with
      | some x, some y => .ok (op.compareNumbers x y)
      | _, _ => .ok false
    else do
      let text ← asText? actual
      .ok (op.compareTexts text expected)

end ConditionalForms.Rule
