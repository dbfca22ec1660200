import ConditionalForms.Issue
import ConditionalForms.Text.Utf8

/-!
# Faults

Everything that can stop an operation, as causes. `Fault.message` words the ones that have a wording
of their own.
-/

namespace ConditionalForms

/-- The parts of the system that complain about what they were given. -/
inductive Concern where
  | general
  | settings
  | records
  | review
  deriving DecidableEq, Repr

/-- A complaint, with the source it is about and a detail of the place there. -/
structure Complaint where
  concern : Concern
  text : String
  source : Option String := none
  detail : Option String := none
  deriving DecidableEq, Repr

/-- The full wording: the source with its detail on a line of its own, then the text. -/
def Complaint.message (c : Complaint) : String :=
  match c.source with
  | none => c.text
  | some source =>
    let place := match c.detail with
      | none => source
      | some detail => if detail.isEmpty then source else source ++ " (" ++ detail ++ ")"
    place ++ "\n" ++ c.text

/-- Why the system would not open or make a file. -/
inductive FileProblem where
  | missing
  | exists
  | notDirectory
  | directory
  | nameTooLong
  /-- The path holds a null character, so that it is no path. -/
  | nullCharacter
  deriving DecidableEq, Repr

/-- Number and wording of a file problem. -/
def FileProblem.text : FileProblem → String
  | .missing => "[Errno 2] No such file or directory"
  | .exists => "[Errno 17] File exists"
  | .notDirectory => "[Errno 20] Not a directory"
  | .directory => "[Errno 21] Is a directory"
  | .nameTooLong => "[Errno 36] File name too long"
  | .nullCharacter => "embedded null byte"

/-- What keeps a message template from being filled. -/
inductive TemplateProblem where
  | incomplete
  | incompleteField
  | noSuchField (name : String)
  | unknownConversion (letter : Char) (index : Nat)
  | widthTooLarge
  | precisionTooLarge
  /-- A value that is to be a width or precision is beyond the machine's integers of that kind. -/
  | measureTooLarge (word : String)
  | notANumber
  | infinite
  | noCharacter
  deriving DecidableEq, Repr

def TemplateProblem.text : TemplateProblem → String
  | .incomplete => "incomplete format"
  | .incompleteField => "incomplete format key"
  | .noSuchField name => Text.quoted name
  | .unknownConversion letter index =>
    let shown := if 31 ≤ letter.toNat && letter.toNat ≤ 126 then letter else '?'
    "unsupported format character '" ++ shown.toString ++ "' (0x" ++
      String.ofList (Nat.toDigits 16 letter.toNat) ++ s!") at index {index}"
  | .widthTooLarge => "width too big"
  | .precisionTooLarge => "precision too big"
  | .measureTooLarge word => "Python int too large to convert to C " ++ word
  | .notANumber => "cannot convert float NaN to integer"
  | .infinite => "cannot convert float infinity to integer"
  | .noCharacter => "%c arg not in range(0x110000)"

/-- The kinds of levels that documents nest. -/
inductive Nesting where
  | jsonObject
  | jsonList
  | tomlValue
  deriving DecidableEq, Repr

/-- What the reader was doing when it met a level too many. -/
def Nesting.text : Nesting → String
  | .jsonObject => " while decoding a JSON object from a unicode string"
  | .jsonList => " while decoding a JSON array from a unicode string"
  | .tomlValue => ""

/-- The causes that stop an operation. -/
inductive Fault where
  /-- A member was asked of a value that has no members. -/
  | notAnObject
  /-- A value of a kind that the operation does not take. -/
  | unsuitable
  /-- An integer was read whose text has too many digits. -/
  | integerTooLong (digits : Nat)
  /-- An integer with too many digits was to be written. -/
  | integerUnprintable
  /-- An integer is beyond every double. -/
  | integerTooLarge
  /-- The item at a position of a list of pairs has another length than two. -/
  | notAPair (position length : Nat)
  /-- A file is not well-formed text. -/
  | undecodable (e : Text.Utf8.DecodingError)
  /-- A document nests deeper than its reader goes. -/
  | nestedTooDeeply (level : Nesting)
  /-- A value nests too deeply to be handed out. -/
  | tooDeepToShow
  /-- A form holds a value that nests too deeply to be written. -/
  | tooDeepToWrite
  /-- A decoded value has the wrong shape. -/
  | invalid (issues : List Issue)
  /-- No dialect has this name, shown as a literal. -/
  | unknownDialect (shown : String)
  /-- No level has this name. -/
  | unknownLevel (name : String)
  /-- A time is not a number. -/
  | timeNotANumber
  /-- A time lies beyond the clock. -/
  | timeOutOfRange
  /-- A time lies in a year whose number is too large for a calendar. -/
  | yearTooLarge
  /-- A time lies in a year that has no calendar. -/
  | yearOutOfRange (year : Int)
  /-- A message template does not go with its values. -/
  | template (problem : TemplateProblem)
  /-- A file could not be made. -/
  | file (problem : FileProblem) (path : String)
  /-- A part of the system complains. -/
  | complaint (c : Complaint)
  /-- An option of the command line has a value that it does not take. -/
  | badOption (option message : String)
  deriving DecidableEq, Repr

namespace Fault

def digitLimitText : String := "Exceeds the limit (4300 digits) for integer string conversion"

/-- The advice that ends every report of the limit on digits. -/
def digitAdvice : String := "; use sys.set_int_max_str_digits() to increase the limit"

/-- The limit on levels of values, as it is reported. -/
def depthText : String := "Maximum serialization depth exceeded"

def message : Fault → String
  | integerTooLong digits =>
    digitLimitText ++ s!": value has {digits} digits" ++ digitAdvice
  | integerUnprintable => digitLimitText ++ digitAdvice
  | integerTooLarge => "int too large to convert to float"
  | notAPair position length =>
    s!"dictionary update sequence element #{position} has length {length}; 2 is required"
  | undecodable e => e.message
  | nestedTooDeeply level => "maximum recursion depth exceeded" ++ level.text
  | tooDeepToShow => depthText
  | tooDeepToWrite => "Error serializing to JSON: ValueError: " ++ depthText
  | unknownDialect shown => shown ++ " is not a valid CriteriaDialect"
  | unknownLevel name => "Unknown level: " ++ Text.quoted ("Level " ++ name)
  | timeNotANumber => "Invalid value NaN (not a number)"
  | timeOutOfRange => "timestamp out of range for platform time_t"
  | yearTooLarge => "[Errno 75] Value too large for defined data type"
  | yearOutOfRange year => s!"year {year} is out of range"
  | template problem => problem.text
  | file .nullCharacter _ => FileProblem.text .nullCharacter
  | file problem path => problem.text ++ ": " ++ Text.quoted path
  | complaint c => c.message
  | badOption _ message => message
  | notAnObject => "the value has no members"
  | unsuitable => "the value is of an unsuitable kind"
  | invalid issues => s!"{issues.length} validation issues"

end Fault

end ConditionalForms
