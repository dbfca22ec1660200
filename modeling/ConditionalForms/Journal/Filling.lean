import ConditionalForms.Journal.Template
import ConditionalForms.Json.Display
import ConditionalForms.Number.Rounded
import ConditionalForms.Text.Character

/-!
# Filled templates

A template is filled with values: each directive takes the next one, or a field of the only value
if that is an object. Texts and literals are cut to the precision; whole numbers are padded to it
with zeros; doubles have that many decimal places or digits. A template without any values is taken
as it is.
-/

namespace ConditionalForms.Journal

/-- The values that directives have still to take, and the fields that they can name. -/
structure Supply where
  fields : Option (List (String × Json)) := none
  values : List Json := []

/-- A step of filling: it takes values, and may fail. -/
abbrev Filling := StateT Supply (Except Fault)

namespace Supply

/-- The supply of some values. The fields of an only value can be named, if it has any. -/
def ofValues : List Json → Supply
  | [.object (f :: fs)] => ⟨some (f :: fs), [.object (f :: fs)]⟩
  | values => ⟨none, values⟩

def next : Filling Json := do
  let supply ← get
  match supply.values with
  | [] => throw .unsuitable
  | j :: js => do
    set { supply with values := js }
    pure j

/-- Makes the value of a named field the next one, and the last. -/
def choose (name : String) : Filling Unit := do
  let supply ← get
  match supply.fields with
  | none => throw .unsuitable
  | some fields =>
    match Assoc.get? fields name with
    | none => throw (.template (.noSuchField name))
    | some j => set { supply with values := [j] }

/-- Ends the filling: no value may be left, unless values can be named. -/
def finish : Filling Unit := do
  let supply ← get
  if supply.fields.isNone && !supply.values.isEmpty then throw .unsuitable

end Supply

/-! ## Values as text -/

/-- A converted value: the sign and the mark of its base, which zeros come after, and the rest. Only
numbers are filled up with zeros. -/
structure Converted where
  sign : List Char := []
  mark : List Char := []
  rest : List Char
  isNumber : Bool := true

namespace Converted

/-- The characters of a converted value, widened in the way that the flags tell. -/
def padded (flags : Flags) (width : Nat) (c : Converted) : List Char :=
  let gap := width - (c.sign ++ c.mark ++ c.rest).length
  if flags.left then c.sign ++ c.mark ++ c.rest ++ List.replicate gap ' '
  else if c.isNumber && flags.zeros then c.sign ++ c.mark ++ List.replicate gap '0' ++ c.rest
  else List.replicate gap ' ' ++ c.sign ++ c.mark ++ c.rest

/-- A text, cut to a precision. -/
def ofText (precision : Option Nat) (cs : List Char) : Converted where
  rest := match precision with
    | none => cs
    | some n => cs.take n
  isNumber := false

/-- The sign of a number: a number that is not negative has the one that the flags ask for. -/
def signOf (flags : Flags) (negative : Bool) : List Char :=
  if negative then ['-'] else if flags.plus then ['+'] else if flags.space then [' '] else []

/-- A whole number in a base, with the mark of the base in the alternate form. -/
def ofInt (flags : Flags) (precision : Option Nat) (base : Nat) (mark : List Char) (i : Int) :
    Converted :=
  let ds := Nat.toDigits base i.natAbs
  { sign := signOf flags (i < 0)
    mark := if flags.alternate then mark else []
    rest := List.replicate (precision.getD 0 - ds.length) '0' ++ ds }

/-- A double. The form writes finite sizes. -/
def ofBinary64 (flags : Flags) (form : Nat → List Char) : Binary64 → Converted
  | .nan => { sign := signOf flags false, rest := "nan".toList }
  | .infinite negative => { sign := signOf flags negative, rest := "inf".toList }
  | .finite negative units => { sign := signOf flags negative, rest := form units }

def upper (c : Converted) : Converted :=
  { c with mark := c.mark.map Char.toUpper, rest := c.rest.map Char.toUpper }

end Converted

/-- The whole number that a value gives: doubles lose what comes after their point. -/
def wholeNumber? : Json → Except Fault Int
  | .int i => .ok i
  | .bool b => .ok (if b then 1 else 0)
  | .float (.finite negative units) => .ok (Decimal.signed negative (units / Binary64.one))
  | .float .nan => .error (.template .notANumber)
  | .float (.infinite _) => .error (.template .infinite)
  | _ => .error .unsuitable

/-- The integer that a value is. -/
def exactNumber? : Json → Except Fault Int
  | .int i => .ok i
  | .bool b => .ok (if b then 1 else 0)
  | _ => .error .unsuitable

def doubleNumber? : Json → Except Fault Binary64
  | .float x => .ok x
  | j => do
    let i ← exactNumber? j
    match Binary64.ofInt i with
    | .infinite _ => .error .integerTooLarge
    | x => .ok x

/-- The character that a value gives: a text of one character, or its code point. Half of a
surrogate pair gives the replacement character. -/
def character? : Json → Except Fault Char
  | .text s =>
    match s.toList with
    | [c] => .ok c
    | _ => .error .unsuitable
  | j => do
    let i ← exactNumber? j
    if 0 ≤ i && i < 0x110000 then .ok (Text.characterAt i.toNat)
    else .error (.template .noCharacter)

/-- A text with every character but ASCII written by its code point. -/
def asciiOnly (cs : List Char) : List Char :=
  cs.flatMap fun c => if c.toNat < 128 then [c] else Text.Quoted.codePoint c

/-- Converts a value to a whole number in base ten. -/
def convertWhole? (flags : Flags) (precision : Option Nat) (j : Json) : Except Fault Converted := do
  let i ← wholeNumber? j
  if Decimal.fitsDigits i then .ok (.ofInt flags precision 10 [] i)
  else .error .integerUnprintable

/-- Converts a value to an integer in another base. -/
def convertExact? (flags : Flags) (precision : Option Nat) (base : Nat) (mark : String) (j : Json) :
    Except Fault Converted :=
  (exactNumber? j).map (.ofInt flags precision base mark.toList)

/-- Converts a value to a double, written with six decimal places or digits unless told otherwise.
-/
def convertDouble? (flags : Flags) (precision : Option Nat)
    (form : Bool → Nat → Nat → List Char) (j : Json) : Except Fault Converted :=
  (doubleNumber? j).map (.ofBinary64 flags (form flags.alternate (precision.getD 6)))

def convert? (flags : Flags) (precision : Option Nat) (c : Conversion) (j : Json) :
    Except Fault Converted :=
  match c.letter with
  | 's' => j.display?.map fun s => .ofText precision s.toList
  | 'r' => j.literal?.map fun s => .ofText precision s.toList
  | 'a' => j.literal?.map fun s => .ofText precision (asciiOnly s.toList)
  | 'd' | 'i' | 'u' => convertWhole? flags precision j
  | 'o' => convertExact? flags precision 8 "0o" j
  | 'x' => convertExact? flags precision 16 "0x" j
  | 'X' => (convertExact? flags precision 16 "0x" j).map .upper
  | 'e' => convertDouble? flags precision Rounded.scientific j
  | 'E' => (convertDouble? flags precision Rounded.scientific j).map .upper
  | 'f' => convertDouble? flags precision Rounded.fixed j
  | 'F' => (convertDouble? flags precision Rounded.fixed j).map .upper
  | 'g' => convertDouble? flags precision Rounded.general j
  | 'G' => (convertDouble? flags precision Rounded.general j).map .upper
  | 'c' => (character? j).map fun c => .ofText none [c]
  | letter => .error (.template (.unknownConversion letter c.index))

/-! ## Filling -/

/-- What a width or precision may be: the greatest number, what a greater one in the template is
reported as, and what the machine calls integers up to there. -/
structure Bound where
  greatest : Nat
  problem : TemplateProblem
  word : String

namespace Bound

def width : Bound := ⟨Nat.pow 2 63 - 1, .widthTooLarge, "ssize_t"⟩

def precision : Bound := ⟨Nat.pow 2 31 - 1, .precisionTooLarge, "int"⟩

def checkNumber (b : Bound) (n : Nat) : Except Fault Int :=
  if b.greatest < n then .error (.template b.problem) else .ok n

/-- The number that a value gives, within the bound. -/
def checkValue (b : Bound) (j : Json) : Except Fault Int := do
  let i ← exactNumber? j
  if i < -(b.greatest : Int) - 1 || b.greatest < i then
    .error (.template (.measureTooLarge b.word))
  else .ok i

/-- A width or precision, taken from the supply if it is not in the template. -/
def measured (b : Bound) : Option Measure → Filling (Option Int)
  | none => pure none
  | some (.number n) => do
    let i ← b.checkNumber n
    pure (some i)
  | some .fromValue => do
    let j ← Supply.next
    let i ← b.checkValue j
    pure (some i)

end Bound

/-- What a directive stands for. A width below zero is one to the left. -/
def Directive.fill (d : Directive) : Filling (List Char) := do
  if let some name := d.field then Supply.choose name
  let width ← Bound.width.measured d.width
  let precision ← Bound.precision.measured d.precision
  match d.conversion with
  | none => throw (.template .incomplete)
  | some c => do
    let j ← Supply.next
    let width := width.getD 0
    let flags := { d.flags with left := d.flags.left || width < 0 }
    let converted ← convert? flags (precision.map Int.toNat) c j
    pure (converted.padded flags width.natAbs)

def Piece.fill : Piece → Filling (List Char)
  | .char c => pure [c]
  | .directive d => d.fill
  | .openField => do
    let supply ← get
    throw (if supply.fields.isNone then .unsuitable else .template .incompleteField)

/-- What pieces stand for, one after another. -/
def fillAll : List Piece → Filling (List Char)
  | [] => do
    Supply.finish
    pure []
  | p :: ps => do
    let text ← p.fill
    let rest ← fillAll ps
    pure (text ++ rest)

def Template.fill? (template : String) (values : List Json) : Except Fault String :=
  match values with
  | [] => .ok template
  | values =>
    ((fillAll (Template.pieces template)).run (.ofValues values)).map fun r => String.ofList r.1

end ConditionalForms.Journal
