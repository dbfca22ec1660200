import ConditionalForms.Text.Printable

/-!
# Quoted texts

A text as a literal: in single quotes, or in double quotes when it holds a single quote and no
double quote. A character that is not printable is written by its code point.
-/

namespace ConditionalForms.Text

/-- The `width` lowest hexadecimal digits of a number. -/
def hexDigits : Nat → Nat → List Char
  | 0, _ => []
  | width + 1, n => hexDigits width (n / 16) ++ [Nat.digitChar (n % 16)]

namespace Quoted

def mark (cs : List Char) : Char :=
  if cs.contains '\'' && !cs.contains '"' then '"' else '\''

/-- The escape of a character by its code point: two, four or eight digits. -/
def codePoint (c : Char) : List Char :=
  if c.toNat < 0x100 then '\\' :: 'x' :: hexDigits 2 c.toNat
  else if c.toNat < 0x10000 then '\\' :: 'u' :: hexDigits 4 c.toNat
  else '\\' :: 'U' :: hexDigits 8 c.toNat

/-- How one character stands between two marks. -/
def encodeChar (mark c : Char) : List Char :=
  if c = mark || c = '\\' then ['\\', c]
  else if c = '\n' then ['\\', 'n']
  else if c = '\r' then ['\\', 'r']
  else if c = '\t' then ['\\', 't']
  else if isPrintable c then [c]
  else codePoint c

def encode (cs : List Char) : List Char :=
  let q := mark cs
  q :: cs.flatMap (encodeChar q) ++ [q]

end Quoted

def quoted (s : String) : String := String.ofList (Quoted.encode s.toList)

end ConditionalForms.Text
