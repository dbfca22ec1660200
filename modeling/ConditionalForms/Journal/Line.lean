import ConditionalForms.Journal.Clock
import ConditionalForms.Journal.Entry
import ConditionalForms.Journal.Filling
import ConditionalForms.Json.Layout

/-!
# Journal lines

A line is an entry of the journal with its moment, its place in the program, the component that
speaks and perhaps an exception. It has two forms: an object of JSON on one line of ASCII for log
files, and a text for people, with or without colours.
-/

namespace ConditionalForms.Journal

/-- The place in the program that a line comes from; what is not known is empty, zero or missing. -/
structure Source where
  file : String := ""
  line : Int := 0
  function : Option String := none
  deriving DecidableEq, Repr, Inhabited

/-- A line of the journal. Its message is a template, filled with its values. -/
structure Line where
  moment : Moment
  level : Int
  logger : String
  template : String
  values : List Json := []
  component : Option String := none
  context : Json := .null
  source : Source := {}
  /-- The type and the message of an exception. -/
  exception : Option (String × String) := none
  deriving Repr, Inhabited

/-- The part of a dotted name after its last dot. -/
def lastPart (name : String) : String :=
  String.ofList (name.toList.reverse.takeWhile (· ≠ '.')).reverse

namespace Source

/-- The parts of a source that are known. The level of the whole file is not a function. -/
def fields (s : Source) : List (String × Json) :=
  (if s.file.isEmpty then [] else [("file", .text s.file)]) ++
    (if s.line = 0 then [] else [("line", .int s.line)]) ++
    (match s.function with
      | none => []
      | some f => if f.isEmpty || f == "<module>" then [] else [("function", .text f)])

end Source

namespace Line

/-- The component that speaks: its own name, or else the last part of the logger's. -/
def speaker (l : Line) : String := l.component.getD (lastPart l.logger)

def message? (l : Line) : Except Fault String := Template.fill? l.template l.values

/-- An object as an optional field: left out when it is empty. -/
def fieldUnlessEmpty (name : String) (fields : List (String × Json)) : List (String × Json) :=
  if fields.isEmpty then [] else [(name, .object fields)]

/-! ## Log files -/

/-- The fields of a line with its timestamp and message. The source is told from warnings on. -/
def fields (l : Line) (timestamp message : String) : List (String × Json) :=
  [("timestamp", .text timestamp),
    ("level", .text (Level.name l.level)),
    ("component", .text l.speaker),
    ("logger", .text l.logger),
    ("message", .text message)] ++
    (if l.context.isTruthy then [("context", l.context)] else []) ++
    (if Level.warning ≤ l.level then fieldUnlessEmpty "source" l.source.fields else []) ++
    (match l.exception with
      | none => []
      | some (type, message) =>
        [("exception", .object [("type", .text type), ("message", .text message)])])

def toJson? (l : Line) : Except Fault Json := do
  let timestamp ← l.moment.timestamp?
  let message ← l.message?
  .ok (.object (l.fields timestamp message))

/-- A line as one line of a log file, without the line end. -/
def logText? (l : Line) : Except Fault String := do
  let j ← l.toJson?
  if j.fitsDigits then .ok (j.write .spaced) else .error .integerUnprintable

/-! ## Console -/

/-- Whether the console shows colours. -/
inductive Style where
  | plain
  | coloured
  deriving DecidableEq, Repr

def colourCode (code : String) : String := "\x1b[" ++ code ++ "m"

def colourEnd : String := colourCode "0"

/-- The colour of a level; other levels have none. -/
def levelColour (level : Int) : String :=
  if level = Level.debug then colourCode "36"
  else if level = Level.info then colourCode "32"
  else if level = Level.warning then colourCode "33"
  else if level = Level.error then colourCode "31"
  else if level = Level.critical then colourCode "35"
  else ""

/-- What stands in front of a message: the time of day, the component, and every level but the
ordinary one. -/
def heading (l : Line) (clock : String) : Style → String
  | .plain =>
    "[" ++ clock ++ "] [" ++ l.speaker ++ "]" ++
      (if l.level = Level.info then "" else " " ++ Level.name l.level ++ ":")
  | .coloured =>
    colourCode "2" ++ clock ++ colourEnd ++ " " ++
      colourCode "34" ++ "[" ++ l.speaker ++ "]" ++ colourEnd ++
      (if l.level = Level.info then ""
        else " " ++ levelColour l.level ++ Level.name l.level ++ colourEnd ++ ":")

/-- A line as it is shown on the console, without the line end. -/
def consoleText? (style : Style) (l : Line) : Except Fault String := do
  let clock ← l.moment.clock?
  let message ← l.message?
  .ok (l.heading clock style ++ " " ++ message)

end Line

end ConditionalForms.Journal
