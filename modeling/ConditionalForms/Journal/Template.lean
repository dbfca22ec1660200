/-!
# Message templates

A template is a text with directives that stand for values. A directive is a percent sign, perhaps
the name of a field in parentheses, flags, a width, a precision after a point, a letter that tells a
size and means nothing, and the letter of a conversion. Two percent signs stand for one.
-/

namespace ConditionalForms.Journal

/-- A width or precision: a number in the template, or the next value. -/
inductive Measure where
  | number (n : Nat)
  | fromValue
  deriving DecidableEq, Repr

/-- The flags of a directive: to the left, with a plus sign, with a space for one, in the alternate
form, with zeros in front. -/
structure Flags where
  left : Bool := false
  plus : Bool := false
  space : Bool := false
  alternate : Bool := false
  zeros : Bool := false
  deriving DecidableEq, Repr, Inhabited

/-- The letter of a conversion, and its place in the template, from zero. -/
structure Conversion where
  letter : Char
  index : Nat
  deriving DecidableEq, Repr

/-- A directive. It has no conversion if the template ends before it. -/
structure Directive where
  field : Option String := none
  flags : Flags := {}
  width : Option Measure := none
  precision : Option Measure := none
  conversion : Option Conversion := none
  deriving DecidableEq, Repr, Inhabited

/-- A piece of a template. -/
inductive Piece where
  | char (c : Char)
  | directive (d : Directive)
  /-- The template ends within the name of a field. -/
  | openField
  deriving DecidableEq, Repr

namespace Template

/-- The name of a field up to the parenthesis that closes it, and the text after that. Parentheses
within the name come in pairs; `depth` is the number of open ones. -/
def fieldName? (depth : Nat) : List Char → Option (List Char × List Char)
  | [] => none
  | c :: cs =>
    if c = ')' && depth = 0 then some ([], cs)
    else
      let depth := if c = '(' then depth + 1 else if c = ')' then depth - 1 else depth
      (fieldName? depth cs).map fun r => (c :: r.1, r.2)

def isFlag (c : Char) : Bool := "-+ #0".toList.contains c

def flagsOf (cs : List Char) : Flags where
  left := cs.contains '-'
  plus := cs.contains '+'
  space := cs.contains ' '
  alternate := cs.contains '#'
  zeros := cs.contains '0'

def numberOf (ds : List Char) : Nat := ds.foldl (fun n d => 10 * n + (d.toNat - '0'.toNat)) 0

/-- A width or precision at the start of a text, and the text after it. -/
def measure : List Char → Option Measure × List Char
  | '*' :: cs => (some .fromValue, cs)
  | cs =>
    match cs.takeWhile Char.isDigit with
    | [] => (none, cs)
    | ds => (some (.number (numberOf ds)), cs.dropWhile Char.isDigit)

/-- A precision, which is zero if nothing follows the point, and the text after it. -/
def precision : List Char → Option Measure × List Char
  | '.' :: cs => let (m, rest) := measure cs; (some (m.getD (.number 0)), rest)
  | cs => (none, cs)

def skipSize : List Char → List Char
  | c :: cs => if c = 'h' || c = 'l' || c = 'L' then cs else c :: cs
  | [] => []

/-- A directive after its percent sign and the name of its field, and the text after it. The whole
template has `length` characters. -/
def directive (length : Nat) (field : Option String) (cs : List Char) : Directive × List Char :=
  let (width, rest) := measure (cs.dropWhile isFlag)
  let (precision, rest) := precision rest
  let base : Directive := { field, flags := flagsOf (cs.takeWhile isFlag), width, precision }
  match skipSize rest with
  | [] => (base, [])
  | c :: rest => ({ base with conversion := some ⟨c, length - (rest.length + 1)⟩ }, rest)

def afterPercent (length : Nat) : List Char → Piece × List Char
  | '%' :: cs => (.char '%', cs)
  | '(' :: cs =>
    match fieldName? 0 cs with
    | none => (.openField, [])
    | some (name, rest) =>
      let (d, rest) := directive length (some (String.ofList name)) rest
      (.directive d, rest)
  | cs =>
    let (d, rest) := directive length none cs
    (.directive d, rest)

/-! ### What is left is shorter -/

theorem length_measure_le (cs : List Char) : (measure cs).2.length ≤ cs.length := by
  unfold measure
  split
  · simp
  · split
    · exact Nat.le_refl _
    · exact (List.dropWhile_sublist _).length_le

theorem length_precision_le (cs : List Char) : (precision cs).2.length ≤ cs.length := by
  unfold precision
  split
  · exact Nat.le_succ_of_le (length_measure_le _)
  · exact Nat.le_refl _

theorem length_skipSize_le (cs : List Char) : (skipSize cs).length ≤ cs.length := by
  unfold skipSize
  split
  · split <;> simp
  · exact Nat.le_refl _

theorem length_directive_le (length : Nat) (field : Option String) (cs : List Char) :
    (directive length field cs).2.length ≤ cs.length := by
  have flags := (List.dropWhile_sublist (l := cs) isFlag).length_le
  have width := length_measure_le (cs.dropWhile isFlag)
  have places := length_precision_le (measure (cs.dropWhile isFlag)).2
  have size := length_skipSize_le (precision (measure (cs.dropWhile isFlag)).2).2
  cases h : skipSize (precision (measure (cs.dropWhile isFlag)).2).2 with
  | nil => simp [directive, h]
  | cons c rest =>
    rw [h, List.length_cons] at size
    simp only [directive, h]
    omega

theorem length_of_fieldName? {depth : Nat} {cs : List Char} {r : List Char × List Char}
    (h : fieldName? depth cs = some r) : r.2.length ≤ cs.length := by
  induction cs generalizing depth r with
  | nil => simp [fieldName?] at h
  | cons c cs ih =>
    rw [fieldName?] at h
    split at h
    · cases h
      simp
    · obtain ⟨rest, found, rfl⟩ := Option.map_eq_some_iff.1 h
      have shorter := ih found
      exact Nat.le_succ_of_le shorter

/-- What follows a piece is no longer than what follows its percent sign. -/
theorem length_afterPercent_le (length : Nat) (cs : List Char) :
    (afterPercent length cs).2.length ≤ cs.length := by
  unfold afterPercent
  split
  · simp
  · split
    · simp
    · next h =>
      exact Nat.le_succ_of_le (Nat.le_trans (length_directive_le ..) (length_of_fieldName? h))
  · exact length_directive_le ..

/-- The pieces of a text. The whole template has `length` characters. -/
def piecesOf (length : Nat) : List Char → List Piece
  | [] => []
  | c :: cs =>
    if c = '%' then (afterPercent length cs).1 :: piecesOf length (afterPercent length cs).2
    else .char c :: piecesOf length cs
termination_by cs => cs.length
decreasing_by
  · exact Nat.lt_succ_of_le (length_afterPercent_le length cs)
  · exact Nat.lt_succ_self _

def pieces (template : String) : List Piece := piecesOf template.toList.length template.toList

end Template

end ConditionalForms.Journal
