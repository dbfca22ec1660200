import ConditionalForms.Fault

/-!
# Command line options

Splitting the arguments of a command into options and positional arguments. A long option may carry
its value after an equals sign, short options may stand together and the last of them may carry its
value directly behind it; otherwise a value is the next argument, whatever it looks like. Two dashes
end the options.
-/

namespace ConditionalForms.Command

/-- An option of a command, by its names. -/
structure OptionSpec where
  long : String
  short : Option Char := none
  takesValue : Bool := false
  deriving DecidableEq, Repr

/-- How a command line was misused. -/
inductive Misuse where
  | unknownOption (name : String)
  | missingValue (name : String)
  | unexpectedValue (name : String)
  | missingArgument (name : String)
  | unexpectedArgument (text : String)
  | missingCommand
  | unknownCommand (name : String)
  | badValue (option message : String)
  deriving DecidableEq, Repr

def Misuse.message : Misuse → String
  | unknownOption name => "No such option: " ++ name
  | missingValue name => "Option " ++ Text.quoted name ++ " requires an argument."
  | unexpectedValue name => "Option " ++ Text.quoted name ++ " does not take a value."
  | missingArgument name => "Missing argument " ++ Text.quoted name ++ "."
  | unexpectedArgument text => "Got unexpected extra argument (" ++ text ++ ")"
  | missingCommand => "Missing command."
  | unknownCommand name => "No such command " ++ Text.quoted name ++ "."
  | badValue option message => "Invalid value for " ++ option ++ ": " ++ message

/-- An option that was given: its long name and its value, empty for options that take none. -/
structure Given where
  name : String
  value : String := ""
  deriving DecidableEq, Repr

/-- What one argument gives: options, and perhaps the name of an option whose value comes next. -/
structure Reading where
  given : List Given
  wants : Option String := none
  deriving DecidableEq, Repr

/-- Reads an argument with two dashes, without them. -/
def readLong (specs : List OptionSpec) (cs : List Char) : Except Misuse Reading :=
  let (name, rest) := cs.span (· ≠ '=')
  let name := String.ofList name
  match specs.find? (·.long = name), rest with
  | none, _ => .error (.unknownOption ("--" ++ name))
  | some s, [] => .ok (if s.takesValue then ⟨[], some name⟩ else ⟨[⟨name, ""⟩], none⟩)
  | some s, _ :: value =>
    if s.takesValue then .ok ⟨[⟨name, String.ofList value⟩], none⟩
    else .error (.unexpectedValue ("--" ++ name))

/-- Reads an argument with one dash, without it. -/
def readShort (specs : List OptionSpec) : List Char → Except Misuse Reading
  | [] => .ok ⟨[], none⟩
  | c :: cs =>
    match specs.find? (·.short = some c) with
    | none => .error (.unknownOption ("-" ++ c.toString))
    | some s =>
      if s.takesValue then
        .ok (if cs.isEmpty then ⟨[], some s.long⟩ else ⟨[⟨s.long, String.ofList cs⟩], none⟩)
      else (readShort specs cs).map fun r => { r with given := ⟨s.long, ""⟩ :: r.given }

/-- Reads an argument as options; none when it is a positional argument. -/
def readArgument (specs : List OptionSpec) (arg : String) : Option (Except Misuse Reading) :=
  match arg.toList with
  | '-' :: '-' :: cs => some (readLong specs cs)
  | '-' :: c :: cs => some (readShort specs (c :: cs))
  | _ => none

/-- The options and the positional arguments of a command. -/
structure Parsed where
  given : List Given := []
  positional : List String := []
  deriving DecidableEq, Repr

def Parsed.withGiven (given : List Given) (p : Parsed) : Parsed :=
  { p with given := given ++ p.given }

/-- Splits arguments. When options and positional arguments may not be mixed, the first positional
argument ends the options. -/
def split (specs : List OptionSpec) (mixed : Bool) : List String → Except Misuse Parsed
  | [] => .ok {}
  | arg :: args =>
    if arg = "--" then .ok { positional := args }
    else
      match readArgument specs arg with
      | none =>
        if mixed then
          (split specs mixed args).map fun p => { p with positional := arg :: p.positional }
        else .ok { positional := arg :: args }
      | some (.error misuse) => .error misuse
      | some (.ok r) =>
        match r.wants, args with
        | none, args => (split specs mixed args).map (·.withGiven r.given)
        | some name, [] => .error (.missingValue ("--" ++ name))
        | some name, value :: args =>
          (split specs mixed args).map (·.withGiven (r.given ++ [⟨name, value⟩]))

namespace Parsed

/-- Whether an option was given. -/
def has (p : Parsed) (name : String) : Bool := p.given.any (·.name = name)

/-- Every value that was given to an option. -/
def values (p : Parsed) (name : String) : List String :=
  (p.given.filter (·.name = name)).map (·.value)

/-- The last value that was given to an option. -/
def value? (p : Parsed) (name : String) : Option String := (p.values name).getLast?

end Parsed

end ConditionalForms.Command
