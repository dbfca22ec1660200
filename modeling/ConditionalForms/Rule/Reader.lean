import ConditionalForms.Journal.Entry
import ConditionalForms.Rule.Basic

/-!
# Reading rules

The name dialect reads the whole text as one atom, `[Section].[Field]` and a body in braces. The
positional dialect reads pieces between newlines and semicolons, `1-2` and a body. A body is an
operator and a literal; without an operator it asks for equality. Text that does not match is
reported and left out.
-/

namespace ConditionalForms.Rule

def isOperatorChar (c : Char) : Bool := c = '!' || c = '<' || c = '>' || c = '=' || c = '~'

def isBrace (c : Char) : Bool := c = '{' || c = '}'

/-- The inside of a body that fills the text: an opening brace, no brace within, and a closing one
at the end. -/
def inside? : List Char → Option (List Char)
  | '{' :: cs =>
    if cs.getLast? = some '}' && !cs.dropLast.any isBrace then some cs.dropLast else none
  | _ => none

/-- A non-empty name in square brackets, and the text after it. -/
def bracketed? : List Char → Option (List Char × List Char)
  | '[' :: cs =>
    match cs.span (· ≠ ']') with
    | ([], _) => none
    | (_, []) => none
    | (name, _ :: rest) => some (name, rest)
  | _ => none

/-- The operator of a symbol, equality when there is none. -/
def operatorOf (symbol : List Char) : Operator :=
  if symbol.isEmpty then .equals else .ofSymbol (String.ofList symbol)

/-- Reads a trimmed text as an atom that names section and field. -/
def readNamed? (cs : List Char) : Option Atom := do
  let (sectionName, rest) ← bracketed? cs
  match rest with
  | '.' :: rest =>
    let (fieldName, rest) ← bracketed? rest
    let body ← inside? (Text.trimStart rest)
    let (symbol, literal) := (Text.trimStart body).span isOperatorChar
    some {
      target := .names (some (String.ofList sectionName)) (some (String.ofList fieldName))
      operator := operatorOf symbol
      expected := String.ofList (unquote literal)
      raw := String.ofList cs }
  | _ => none

/-- The readings of a rule of the name dialect: one, or none when it is blank. -/
def namedReadings (raw : List Char) : List Reading :=
  match Text.trim raw with
  | [] => []
  | cs =>
    match readNamed? cs with
    | some a => [.atom a]
    | none => [.unmatched (String.ofList cs)]

/-- The longest known symbol at the start of a text, and the text after it. -/
def splitSymbol : List Char → List Char × List Char
  | '=' :: '=' :: cs => (['=', '='], cs)
  | '!' :: '=' :: cs => (['!', '='], cs)
  | '>' :: '=' :: cs => (['>', '='], cs)
  | '<' :: '=' :: cs => (['<', '='], cs)
  | '=' :: cs => (['='], cs)
  | '>' :: cs => (['>'], cs)
  | '<' :: cs => (['<'], cs)
  | '~' :: cs => (['~'], cs)
  | cs => ([], cs)

/-- The parts of a positional piece: the digits of both positions and the inside of its body. -/
structure Piece where
  sectionDigits : List Char
  fieldDigits : List Char
  body : List Char

/-- Splits a trimmed piece into its parts. -/
def splitPiece? (cs : List Char) : Option Piece :=
  match cs.span Text.isDigit with
  | ([], _) => none
  | (sectionDigits, rest) =>
    match Text.trimStart rest with
    | '-' :: rest =>
      match (Text.trimStart rest).span Text.isDigit with
      | ([], _) => none
      | (fieldDigits, rest) =>
        (inside? (Text.trimStart rest)).map fun body => ⟨sectionDigits, fieldDigits, body⟩
    | _ => none

def Piece.atom (p : Piece) (i j : Int) (raw : List Char) : Atom :=
  let (symbol, literal) := splitSymbol (Text.trimStart p.body)
  { target := .position i (some j)
    operator := operatorOf symbol
    expected := String.ofList (unquote literal)
    raw := String.ofList raw }

/-- Reads a trimmed piece that is not blank. -/
def readPiece (cs : List Char) : Reading :=
  match splitPiece? cs with
  | none => .unmatched (String.ofList cs)
  | some p =>
    match Decimal.readInt p.sectionDigits with
    | .tooLong digits => .tooLong digits
    | .malformed => .unmatched (String.ofList cs)
    | .value i =>
      match Decimal.readInt p.fieldDigits with
      | .tooLong digits => .tooLong digits
      | .malformed => .unmatched (String.ofList cs)
      | .value j =>
        if i < 1 || j < 1 then .nonPositive (String.ofList cs) else .atom (p.atom i j cs)

/-- The pieces of a positional rule, trimmed, without the blank ones. -/
def splitPieces (raw : List Char) : List (List Char) :=
  ((raw.splitOnP fun c => c = '\n' || c = ';').map Text.trim).filter (· ≠ [])

/-- The readings of a positional rule, one for each piece. -/
def positionalReadings (raw : List Char) : List Reading := (splitPieces raw).map readPiece

def readings : Dialect → String → List Reading
  | .name, raw => namedReadings raw.toList
  | .positional, raw => positionalReadings raw.toList

/-- The atoms of a rule, all of which must hold; none when there is no rule. -/
def parse (d : Dialect) (raw : String) : Except Fault (List Atom) := collect (readings d raw)

/-! ## Reports -/

def Reading.report? : Reading → Option Entry
  | .atom _ | .tooLong _ => none
  | .unmatched text => some (warn "Dropping criteria piece, expected sec-fld\x7b...\x7d: " text)
  | .nonPositive text => some (warn "Dropping criteria piece with non-positive index: " text)
where
  warn (what text : String) : Entry :=
    ⟨Level.warning, "dynaform.core.criteria.parser", what ++ Text.quoted text, none⟩

/-- The readings before the first position with too many digits. -/
def beforeFault : List Reading → List Reading
  | [] => []
  | .tooLong _ :: _ => []
  | r :: rs => r :: beforeFault rs

def parseJournal (d : Dialect) (raw : String) : List Entry :=
  match d with
  | .positional => (beforeFault (readings d raw)).filterMap (·.report?)
  | .name =>
    (readings d raw).filterMap fun r =>
      match r with
      | .unmatched text =>
        some ⟨Level.warning, "dynaform.core.criteria.parser",
          "Criteria did not match [Section].[Field]\x7b...\x7d: " ++ Text.quoted text, none⟩
      | _ => none

end ConditionalForms.Rule
