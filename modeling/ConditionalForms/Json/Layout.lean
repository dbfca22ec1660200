import ConditionalForms.Json.Basic
import ConditionalForms.Number.Shortest
import ConditionalForms.Text.Quoted

/-!
# Written JSON

Writing a value as JSON text. A layout says how values are spaced and what is escaped: log lines and
command output keep to printable ASCII, schema output leaves other scripts as they are.
-/

namespace ConditionalForms.Json

/-- The spacing and spelling of written JSON. -/
structure Layout where
  /-- Everything but printable ASCII is escaped. -/
  ascii : Bool
  /-- What follows a comma on the same line. -/
  itemGap : List Char
  /-- What follows the colon of a field. -/
  fieldGap : List Char
  /-- The width of one level of indentation, none for everything on one line. -/
  indent : Option Nat
  /-- How a double is written. -/
  number : Binary64 → List Char

namespace Layout

/-- Doubles that are not finite have names of their own. -/
def namedNumbers : Binary64 → List Char :=
  Shortest.render { Shortest.plain with notANumber := "NaN", infinity := "Infinity" }

/-- Doubles that are not finite are written as null, and exponents by as few digits as they have. -/
def finiteNumbers : Binary64 → List Char
  | x@(.finite ..) => Shortest.render ⟨-4, 16, 1, "", ""⟩ x
  | _ => "null".toList

/-- One line of ASCII with a space after commas and colons. -/
def spaced : Layout := ⟨true, [' '], [' '], none, namedNumbers⟩

/-- ASCII, indented by two. -/
def indented : Layout := ⟨true, [], [' '], some 2, namedNumbers⟩

/-- One line without spaces. -/
def dense : Layout := ⟨false, [], [], none, finiteNumbers⟩

/-- Indented by two, with other scripts as they are. -/
def denseIndented : Layout := ⟨false, [], [' '], some 2, finiteNumbers⟩

/-- The end of a line before something at the given depth. -/
def lineBreak (l : Layout) (depth : Nat) : List Char :=
  match l.indent with
  | none => []
  | some width => '\n' :: List.replicate (width * depth) ' '

/-- What separates two items at the given depth. -/
def comma (l : Layout) (depth : Nat) : List Char := ',' :: l.itemGap ++ l.lineBreak depth

end Layout

def unitEscape (n : Nat) : List Char := '\\' :: 'u' :: Text.hexDigits 4 n

/-- The escape of any character: one unit, or the two units of a surrogate pair. -/
def charEscape (c : Char) : List Char :=
  if c.toNat < 0x10000 then unitEscape c.toNat
  else
    unitEscape (0xD800 + (c.toNat - 0x10000) / 0x400) ++
      unitEscape (0xDC00 + (c.toNat - 0x10000) % 0x400)

def encodeChar (ascii : Bool) (c : Char) : List Char :=
  if c = '"' || c = '\\' then ['\\', c]
  else if c = '\n' then ['\\', 'n']
  else if c = '\r' then ['\\', 'r']
  else if c = '\t' then ['\\', 't']
  else if c = '\x08' then ['\\', 'b']
  else if c = '\x0c' then ['\\', 'f']
  else if c.toNat < 32 || (ascii && 127 ≤ c.toNat) then charEscape c
  else [c]

/-- A string literal. -/
def encodeText (ascii : Bool) (s : String) : List Char :=
  '"' :: s.toList.flatMap (encodeChar ascii) ++ ['"']

mutual

/-- A value written at a depth. -/
def render (l : Layout) (depth : Nat) : Json → List Char
  | null => "null".toList
  | bool true => "true".toList
  | bool false => "false".toList
  | int i => (toString i).toList
  | float x => l.number x
  | text s => encodeText l.ascii s
  | list [] => ['[', ']']
  | list (x :: xs) =>
    '[' :: l.lineBreak (depth + 1) ++ render l (depth + 1) x ++ renderItems l (depth + 1) xs ++
      l.lineBreak depth ++ [']']
  | object [] => ['{', '}']
  | object ((k, v) :: fs) =>
    '{' :: l.lineBreak (depth + 1) ++ encodeText l.ascii k ++ ':' :: l.fieldGap ++
      render l (depth + 1) v ++ renderFields l (depth + 1) fs ++ l.lineBreak depth ++ ['}']

/-- The items of a list after the first. -/
def renderItems (l : Layout) (depth : Nat) : List Json → List Char
  | [] => []
  | x :: xs => l.comma depth ++ render l depth x ++ renderItems l depth xs

/-- The fields of an object after the first. -/
def renderFields (l : Layout) (depth : Nat) : List (String × Json) → List Char
  | [] => []
  | (k, v) :: fs =>
    l.comma depth ++ encodeText l.ascii k ++ ':' :: l.fieldGap ++ render l depth v ++
      renderFields l depth fs

end

def write (l : Layout) (j : Json) : String := String.ofList (render l 0 j)

end ConditionalForms.Json
