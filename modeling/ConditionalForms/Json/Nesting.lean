import ConditionalForms.Json.Basic

/-!
# Values as they are handed out

A value that is handed out to others has a limited number of levels, and no doubles but finite ones.
-/

namespace ConditionalForms.Json

mutual

/-- The levels of a value: one for itself, and those of its deepest part. -/
def levels : Json → Nat
  | list items => itemLevels items + 1
  | object fields => fieldLevels fields + 1
  | _ => 1

/-- The most levels among some values. -/
def itemLevels : List Json → Nat
  | [] => 0
  | x :: xs => max (levels x) (itemLevels xs)

/-- The most levels among the values of some fields. -/
def fieldLevels : List (String × Json) → Nat
  | [] => 0
  | (_, v) :: fs => max (levels v) (fieldLevels fs)

end

/-- The most levels that a value may have to be handed out. -/
def levelLimit : Nat := 254

/-- Whether a value has few enough levels to be handed out. -/
def fitsLevels (j : Json) : Bool := j.levels ≤ levelLimit

mutual

/-- A value with null in place of every double that is not finite. -/
def withoutInfinities : Json → Json
  | float .nan | float (.infinite _) => null
  | list items => list (itemsWithoutInfinities items)
  | object fields => object (fieldsWithoutInfinities fields)
  | j => j

/-- Some values with null in place of every double that is not finite. -/
def itemsWithoutInfinities : List Json → List Json
  | [] => []
  | x :: xs => withoutInfinities x :: itemsWithoutInfinities xs

/-- Some fields with null in place of every double that is not finite. -/
def fieldsWithoutInfinities : List (String × Json) → List (String × Json)
  | [] => []
  | (k, v) :: fs => (k, withoutInfinities v) :: fieldsWithoutInfinities fs

end

/-- The values that a user gives have a single level. -/
theorem levels_of_isPlain {j : Json} (h : j.isPlain) : j.levels = 1 := by
  cases j <;> simp_all [isPlain, levels]

/-- The values that a user gives are handed out as they are. -/
theorem withoutInfinities_of_isPlain {j : Json} (h : j.isPlain) : j.withoutInfinities = j := by
  cases j <;> simp_all [isPlain, withoutInfinities]

end ConditionalForms.Json
