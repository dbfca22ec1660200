import ConditionalForms.Command.Options
import ConditionalForms.Rule.Basic
import ConditionalForms.Text.Casing

/-!
# Requests

What the command line asks for. Four tasks share their options: building a form, evaluating it after
edits, printing its review payload, and parsing a rule.
-/

namespace ConditionalForms.Command

/-- How a form is shown. -/
inductive Format where
  | table
  | json
  deriving DecidableEq, Repr

/-- The format of a name; every other name asks for a table. -/
def Format.ofName (name : String) : Format := if name = "json" then .json else .table

/-- Where a form comes from: the records, the settings, a dialect in place of theirs, and edits. -/
structure Subject where
  records : String
  settings : Option String := none
  dialect : Option String := none
  edits : List String := []
  deriving DecidableEq, Repr

/-- A task. -/
inductive Task where
  | build (subject : Subject) (format : Format)
  | evaluate (subject : Subject) (format : Format)
  | review (subject : Subject)
  | parse (rule : String) (dialect : Option String)
  deriving DecidableEq, Repr

/-- The form that a task is about. -/
def Task.subject? : Task → Option Subject
  | .build s _ | .evaluate s _ | .review s => some s
  | .parse .. => none

/-- Where the journal goes: to the console, to a log file. -/
structure Reporting where
  verbose : Bool := false
  log : Bool := false
  deriving DecidableEq, Repr

/-- A request. -/
inductive Request where
  | version
  | help
  | perform (reporting : Reporting) (task : Task)
  deriving DecidableEq, Repr

/-! ## Options -/

def helpSpec : OptionSpec := { long := "help" }

def settingsSpec : OptionSpec := ⟨"config", some 'c', true⟩

def dialectSpec : OptionSpec := ⟨"dialect", some 'd', true⟩

def editSpec : OptionSpec := ⟨"set", some 's', true⟩

def formatSpec : OptionSpec := ⟨"format", some 'f', true⟩

/-- The options before the task. -/
def globalSpecs : List OptionSpec :=
  [⟨"version", some 'v', false⟩, ⟨"verbose", some 'V', false⟩, ⟨"log", none, false⟩, helpSpec]

/-! ## Reading -/

/-- The only positional argument of a task. -/
def single (name : String) (p : Parsed) : Except Misuse String :=
  match p.positional with
  | [] => .error (.missingArgument name)
  | [arg] => .ok arg
  | _ :: arg :: _ => .error (.unexpectedArgument arg)

def subjectOf (p : Parsed) : Except Misuse Subject := do
  let records ← single "RECORDS" p
  .ok {
    records
    settings := p.value? "config"
    dialect := p.value? "dialect"
    edits := p.values "set" }

def formatOf (p : Parsed) : Format := .ofName ((p.value? "format").getD "table")

/-- A task by its name: the options it takes, and how it is read from them. -/
def taskReader? (name : String) : Option (List OptionSpec × (Parsed → Except Misuse Task)) :=
  match name with
  | "build" =>
    some ([settingsSpec, dialectSpec, formatSpec],
      fun p => (subjectOf p).map fun s => .build s (formatOf p))
  | "evaluate" =>
    some ([editSpec, settingsSpec, dialectSpec, formatSpec],
      fun p => (subjectOf p).map fun s => .evaluate s (formatOf p))
  | "review" =>
    some ([editSpec, settingsSpec, dialectSpec], fun p => (subjectOf p).map .review)
  | "parse" =>
    some ([dialectSpec],
      fun p => (single "CRITERIA" p).map fun rule => .parse rule (p.value? "dialect"))
  | _ => none

/-- The request for a task; none of its arguments is read when help is asked for. -/
def taskRequest (reporting : Reporting) (name : String) (args : List String) :
    Except Misuse Request :=
  match taskReader? name with
  | none => .error (.unknownCommand name)
  | some (specs, task) => do
    let p ← split (specs ++ [helpSpec]) true args
    if p.has "help" then .ok .help else (task p).map (.perform reporting)

/-- The request of a command line. The first of the options that ask for a text alone wins. -/
def Request.ofArguments (args : List String) : Except Misuse Request := do
  let p ← split globalSpecs false args
  match p.given.find? fun g => g.name = "version" || g.name = "help" with
  | some g => .ok (if g.name = "help" then .help else .version)
  | none =>
    match p.positional with
    | [] => .error .missingCommand
    | name :: args => taskRequest ⟨p.has "verbose", p.has "log"⟩ name args

end ConditionalForms.Command
