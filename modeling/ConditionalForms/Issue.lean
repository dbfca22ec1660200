/-!
# Checked decoding

Decoding data of any shape into a typed value, with every problem reported, each with the path to
the place it was found at. Problems of the parts of a value come in the order of its parts.
-/

namespace ConditionalForms

/-- One step of the path to a part of a value. -/
inductive Step where
  | key (name : String)
  | index (i : Nat)
  deriving DecidableEq, Repr

/-- What can be wrong with a part of a value. -/
inductive Problem where
  | missing
  | stringType
  | boolType
  | boolParsing
  | intType
  | intParsing
  | intParsingSize
  | intFromFloat
  | finiteNumber
  | listType
  | modelType
  | enumeration
  | valueError
  deriving DecidableEq, Repr

def Problem.code : Problem → String
  | .missing => "missing"
  | .stringType => "string_type"
  | .boolType => "bool_type"
  | .boolParsing => "bool_parsing"
  | .intType => "int_type"
  | .intParsing => "int_parsing"
  | .intParsingSize => "int_parsing_size"
  | .intFromFloat => "int_from_float"
  | .finiteNumber => "finite_number"
  | .listType => "list_type"
  | .modelType => "model_type"
  | .enumeration => "enum"
  | .valueError => "value_error"

/-- A problem and the path to it. -/
structure Issue where
  path : List Step
  problem : Problem
  deriving DecidableEq, Repr

/-- A decoded value, or every issue that was found. -/
inductive Checked (α : Type) where
  | valid (a : α)
  | invalid (issues : List Issue)

namespace Checked

variable {α β : Type}

def fail (p : Problem) : Checked α := invalid [⟨[], p⟩]

/-- Joins two parts; the issues of the first part come first. -/
def both (f : Checked (α → β)) (x : Checked α) : Checked β :=
  match f, x with
  | valid f, valid a => valid (f a)
  | valid _, invalid is => invalid is
  | invalid is, valid _ => invalid is
  | invalid is, invalid js => invalid (is ++ js)

instance : Applicative Checked where
  pure := valid
  seq f x := both f (x ())

/-- Puts a step in front of the path of every issue. -/
def within (s : Step) : Checked α → Checked α
  | valid a => valid a
  | invalid is => invalid (is.map fun i => ⟨s :: i.path, i.problem⟩)

/-- Checks every item of a list, the first one having the given index. -/
def itemsFrom (check : α → Checked β) : Nat → List α → Checked (List β)
  | _, [] => valid []
  | n, x :: xs => List.cons <$> within (.index n) (check x) <*> itemsFrom check (n + 1) xs

end Checked

end ConditionalForms
