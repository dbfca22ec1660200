/-!
# Numbers in documents

The parts of a decimal number as they stand in a document, character by character. How digits may be
written is up to the kind of document: `run` takes the digits that a text starts with, as they are
written, and leaves the text after them.
-/

namespace ConditionalForms.Scan

/-- A decimal digit of a document. The digits of other scripts are none. -/
def isDigit (c : Char) : Bool := '0' ≤ c && c ≤ '9'

variable (run : List Char → List Char × List Char)

/-- The digits before the point: a zero, or digits that start with another digit. -/
def whole? : List Char → Option (List Char × List Char)
  | '0' :: cs => some (['0'], cs)
  | cs =>
    match run cs with
    | ([], _) => none
    | r => some r

/-- A point and the digits after it, empty unless there is a digit. -/
def fraction : List Char → List Char × List Char
  | '.' :: cs =>
    match run cs with
    | ([], _) => ([], '.' :: cs)
    | (ds, rest) => ('.' :: ds, rest)
  | cs => ([], cs)

/-- An exponent, empty unless there is a digit. -/
def exponent (cs : List Char) : List Char × List Char :=
  match cs with
  | e :: after =>
    if e = 'e' || e = 'E' then
      let (sign, after) := match after with
        | s :: r => if s = '+' || s = '-' then ([s], r) else ([], after)
        | [] => ([], [])
      match run after with
      | ([], _) => ([], cs)
      | (ds, rest) => (e :: sign ++ ds, rest)
    else ([], cs)
  | [] => ([], [])

end ConditionalForms.Scan
