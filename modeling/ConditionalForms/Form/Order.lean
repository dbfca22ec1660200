import ConditionalForms.Json.Basic
import ConditionalForms.Number.Decimal
import ConditionalForms.Text.Blank
import ConditionalForms.Text.Casing

/-!
# Display order

Sections and fields are shown by their explicit order, those without one last, and then by name
without regard to case.
-/

namespace ConditionalForms

/-- The order column of a row: a number, a text, or nothing that could be an order. -/
inductive OrderCell where
  | none
  | int (i : Int)
  | float (x : Binary64)
  | text (s : String)
  deriving DecidableEq, Repr, Inhabited

namespace OrderCell

def ofJson : Json → OrderCell
  | .int i => int i
  | .float x => float x
  | .text s => text s
  | _ => none

def toJson : OrderCell → Json
  | none => .null
  | int i => .int i
  | float x => .float x
  | text s => .text s

/-- The order that a text gives: an integer as it is, any other number by its floor. -/
def ofText? (s : String) : Option Int :=
  let cs := Text.trim s.toList
  match Decimal.readInt cs with
  | .value i => some i
  | _ => (Decimal.readBinary64? cs).bind (·.floor?)

def order? : OrderCell → Option Int
  | none => .none
  | int i => some i
  | float x => x.floor?
  | text s => ofText? s

end OrderCell

/-- What decides the place of a section or field. -/
structure SortKey where
  order : Option Int
  name : List Char
  deriving DecidableEq, Repr

namespace SortKey

def of (order : Option Int) (name : String) : SortKey := ⟨order, Text.folded name⟩

/-- Whether a text comes before another one, by its first character that differs, or is the same. -/
def nameLe : List Char → List Char → Bool
  | [], _ => true
  | _ :: _, [] => false
  | c :: cs, d :: ds => c.toNat < d.toNat || (c == d && nameLe cs ds)

/-- Explicit orders ascend and come before missing ones; equal orders go by name. -/
def le (a b : SortKey) : Bool :=
  match a.order, b.order with
  | some i, some j => i < j || (i == j && nameLe a.name b.name)
  | some _, none => true
  | none, some _ => false
  | none, none => nameLe a.name b.name

/-- Sorts items by key; items of equal keys keep their order. -/
def sort {α : Type} (key : α → SortKey) (xs : List α) : List α :=
  xs.mergeSort fun a b => (key a).le (key b)

end SortKey

/-- The lesser of two orders; a missing one gives way. -/
def leastOrder : Option Int → Option Int → Option Int
  | none, o => o
  | o, none => o
  | some i, some j => some (min i j)

end ConditionalForms
