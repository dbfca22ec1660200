/-!
# Ordered associations

Lists of pairs with one pair a key, in the order in which the keys first came. Writing to a key that
is there keeps its place and takes the last value.
-/

namespace ConditionalForms.Assoc

variable {κ ν : Type} [DecidableEq κ]

/-- Writes a value to a key: in place, or at the end when the key is new. -/
def put (k : κ) (v : ν) : List (κ × ν) → List (κ × ν)
  | [] => [(k, v)]
  | p :: ps => if p.1 = k then (k, v) :: ps else p :: put k v ps

/-- The value at a key. -/
def get? (ps : List (κ × ν)) (k : κ) : Option ν := (ps.find? (·.1 = k)).map (·.2)

def ofPairs (ps : List (κ × ν)) : List (κ × ν) := ps.foldl (fun acc p => put p.1 p.2 acc) []

theorem get?_put_self (k : κ) (v : ν) (ps : List (κ × ν)) : get? (put k v ps) k = some v := by
  induction ps with
  | nil => simp [put, get?]
  | cons p ps ih =>
    by_cases h : p.1 = k
    · simp [put, get?, h]
    · simpa [put, get?, h] using ih

theorem get?_put_of_ne {k k' : κ} (h : k ≠ k') (v : ν) (ps : List (κ × ν)) :
    get? (put k v ps) k' = get? ps k' := by
  induction ps with
  | nil => simp [put, get?, h]
  | cons p ps ih =>
    by_cases hp : p.1 = k
    · simp [put, get?, hp, h]
    · by_cases hk : p.1 = k'
      · simp [put, get?, hk, Ne.symm h]
      · simpa [put, get?, hp, hk] using ih

end ConditionalForms.Assoc
