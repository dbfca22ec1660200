import ConditionalForms.Text.Casing.Tables

/-!
# Case mappings

Lower case, upper case and case folding of whole texts. Some characters map to several. Lower case
alone looks at context: a capital sigma that ends a word takes its final form.
-/

namespace ConditionalForms.Text.Casing

/-- The shift of a code point that some run covers. -/
def Run.image? (r : Run) (n : Nat) : Option Char :=
  if r.first ≤ n ∧ n ≤ r.last ∧ (n - r.first) % r.step = 0 then
    some (Char.ofNat (n + r.shift).toNat)
  else none

/-- The image of a character: an expansion, else a shift, else itself. -/
def image (runs : List Run) (expansions : List (Nat × List Nat)) (c : Char) : List Char :=
  match expansions.lookup c.toNat with
  | some ns => ns.map Char.ofNat
  | none => [(runs.findSome? (·.image? c.toNat)).getD c]

private def within (ranges : List (Nat × Nat)) (c : Char) : Bool :=
  ranges.any fun r => r.1 ≤ c.toNat && c.toNat ≤ r.2

/-- Whether the nearest character that casing does not look past is cased. -/
def meetsCased (cs : List Char) : Bool :=
  match cs.dropWhile (within ignorable) with
  | [] => false
  | c :: _ => within cased c

def capitalSigma : Char := Char.ofNat 931

/-- Lower case of a text, given the characters before it, nearest first. -/
def lowerAfter (before : List Char) : List Char → List Char
  | [] => []
  | c :: cs =>
    let here :=
      if c = capitalSigma then
        [Char.ofNat (if meetsCased before && !meetsCased cs then 962 else 963)]
      else image lowerRuns lowerExpansions c
    here ++ lowerAfter (c :: before) cs

end Casing

def lower (cs : List Char) : List Char := Casing.lowerAfter [] cs

def upper (cs : List Char) : List Char :=
  cs.flatMap (Casing.image Casing.upperRuns Casing.upperExpansions)

/-- Case folding of a text, character by character: the form in which texts compare without case. -/
def fold (cs : List Char) : List Char :=
  cs.flatMap (Casing.image Casing.foldRuns Casing.foldExpansions)

@[simp] theorem fold_append (xs ys : List Char) : fold (xs ++ ys) = fold xs ++ fold ys := by
  simp [fold]

def lowered (s : String) : String := String.ofList (lower s.toList)

def uppered (s : String) : String := String.ofList (upper s.toList)

def folded (s : String) : List Char := fold s.toList

end ConditionalForms.Text
