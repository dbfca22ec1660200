import ConditionalForms.Rule.Reader
import Mathlib.Data.List.Basic

/-! # Bodies of rules

What stands between the braces of a rule: an operator and a literal, with blanks around them. The
dialect of positions takes the longest known symbol for the operator. A literal loses its blanks and
one pair of quotation marks in both dialects.
-/

namespace ConditionalForms.Rule

/-! ## Operators -/

theorem Operator.symbol_ofSymbol (s : String) : (ofSymbol s).symbol = s := by
  unfold ofSymbol
  cases h : known.find? (·.symbol = s) with
  | none => rfl
  | some op => simpa using List.find?_some h

/-- The symbol that a body asks for, equality when it has none. -/
def symbolOr (symbol : List Char) : String := if symbol = [] then "=" else String.ofList symbol

theorem symbol_operatorOf (symbol : List Char) : (operatorOf symbol).symbol = symbolOr symbol := by
  cases symbol with
  | nil => rfl
  | cons c cs => simp [operatorOf, symbolOr, Operator.symbol_ofSymbol]

/-! ## The longest known symbol -/

/-- The longest known symbol that starts a text, and the text after it. The empty one stands for
none. -/
structure LongestSymbol (cs symbol rest : List Char) : Prop where
  text : cs = symbol ++ rest
  known : symbol = [] ∨ ∃ op ∈ Operator.known, op.symbol.toList = symbol
  longest : ∀ op ∈ Operator.known, op.symbol.toList <+: cs →
    op.symbol.toList.length ≤ symbol.length

theorem splitSymbol_append_eq (cs : List Char) : (splitSymbol cs).1 ++ (splitSymbol cs).2 = cs := by
  fun_cases splitSymbol cs <;> rfl

theorem splitSymbol_known (cs : List Char) :
    (splitSymbol cs).1 = [] ∨ ∃ op ∈ Operator.known, op.symbol.toList = (splitSymbol cs).1 := by
  fun_cases splitSymbol cs with
  | case1 => exact .inr ⟨.doubleEquals, by decide, rfl⟩
  | case2 => exact .inr ⟨.notEquals, by decide, rfl⟩
  | case3 => exact .inr ⟨.greaterEqual, by decide, rfl⟩
  | case4 => exact .inr ⟨.lessEqual, by decide, rfl⟩
  | case5 => exact .inr ⟨.equals, by decide, rfl⟩
  | case6 => exact .inr ⟨.greater, by decide, rfl⟩
  | case7 => exact .inr ⟨.less, by decide, rfl⟩
  | case8 => exact .inr ⟨.contains, by decide, rfl⟩
  | case9 => exact .inl rfl

/-- A known symbol that starts a text is no longer than the one that is split off. -/
theorem length_symbol_le_splitSymbol {op : Operator} (hop : op ∈ Operator.known)
    (rest : List Char) :
    op.symbol.toList.length ≤ (splitSymbol (op.symbol.toList ++ rest)).1.length := by
  simp only [Operator.known, List.mem_cons, List.not_mem_nil, or_false] at hop
  rcases hop with rfl | rfl | rfl | rfl | rfl | rfl | rfl | rfl
  -- A symbol of one character may be the start of one that goes on with an equals sign.
  all_goals
    cases rest with
    | nil => decide
    | cons c cs =>
        by_cases hc : c = '='
        · subst c
          simp [Operator.symbol, splitSymbol]
        · simp [Operator.symbol, splitSymbol, hc]

theorem longestSymbol_splitSymbol (cs : List Char) :
    LongestSymbol cs (splitSymbol cs).1 (splitSymbol cs).2 where
  text := (splitSymbol_append_eq cs).symm
  known := splitSymbol_known cs
  longest := by
    rintro op hop ⟨rest, rfl⟩
    exact length_symbol_le_splitSymbol hop rest

/-! ## Literals -/

/-- A text is another one between two equal quotation marks. -/
def Quotes (cs inside : List Char) : Prop :=
  ∃ q, (q = '"' ∨ q = '\'') ∧ cs = q :: (inside ++ [q])

/-- A text without the blanks around it and without one pair of quotation marks, if it has one. -/
def Unquotes (cs literal : List Char) : Prop :=
  Quotes (Text.trim cs) literal ∨
    literal = Text.trim cs ∧ ∀ inside, ¬Quotes (Text.trim cs) inside

theorem unquotes_unquote (cs : List Char) : Unquotes cs (unquote cs) := by
  unfold unquote Unquotes
  dsimp only
  generalize Text.trim cs = t
  cases t with
  | nil =>
      refine .inr ⟨rfl, ?_⟩
      rintro inside ⟨q, -, h⟩
      cases h
  | cons q rest =>
      dsimp only
      split
      · rename_i hquoted
        obtain ⟨hmark, hlast⟩ : (q = '"' ∨ q = '\'') ∧ rest.getLast? = some q := by
          simpa using hquoted
        refine .inl ⟨q, hmark, ?_⟩
        rw [List.dropLast_append_getLast? q (Option.mem_def.mpr hlast)]
      · rename_i hplain
        refine .inr ⟨rfl, ?_⟩
        rintro inside ⟨q', hmark, h⟩
        obtain ⟨rfl, rfl⟩ := List.cons.inj h
        exact hplain (by simpa using hmark)

end ConditionalForms.Rule
