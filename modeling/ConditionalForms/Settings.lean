import ConditionalForms.Files
import ConditionalForms.Form.Basic
import ConditionalForms.Form.Response
import ConditionalForms.Rule.Basic
import ConditionalForms.Toml.Reader

/-!
# Settings

What a settings file decides: the dialect of rules, the names of the default section and the
metadata object, and the level and directory of the journal. Everything has a default, and the three
tables of the file may each be missing; keys that are not known are ignored.
-/

namespace ConditionalForms

/-- The levels that can be asked for by name, the least first. -/
def Level.standard : List Int :=
  [Level.debug, Level.info, Level.warning, Level.error, Level.critical]

/-- The directory of the journal, unless another one is set. -/
def defaultLogDirectory : String := ".dynaform/logs"

/-- The settings of a form. -/
structure Settings where
  dialect : Rule.Dialect := .name
  defaultSection : String := Section.defaultName
  metadataObject : String := Response.defaultObject
  level : Int := Level.info
  logDirectory : String := defaultLogDirectory
  deriving DecidableEq, Repr, Inhabited

namespace Settings

def fileName : String := "dynaform.toml"

/-- A complaint about a settings file, with the key that it is about. -/
def complain (path text : String) (key : Option String := none) : Fault :=
  .complaint ⟨.settings, text, some path, key⟩

/-- One of the tables of a document; a missing one is empty. -/
def table? (path : String) (document : Toml.Fields) (name : String) : Except Fault Toml.Fields :=
  match Assoc.get? document name with
  | none => .ok []
  | some (.table fields) => .ok fields
  | some _ => .error (complain path ("[" ++ name ++ "] must be a table") name)

def keyName (table key : String) : String := table ++ "." ++ key

/-- A text of a table, or its default. -/
def text? (path : String) (fields : Toml.Fields) (table key default : String) :
    Except Fault String :=
  match Assoc.get? fields key with
  | none => .ok default
  | some (.text s) => .ok s
  | some v =>
    .error (complain path (key ++ " must be a string, got " ++ v.typeName) (keyName table key))

/-- A text of a table that must not be blank, or its default. -/
def name? (path : String) (fields : Toml.Fields) (table key default : String) :
    Except Fault String := do
  let s ← text? path fields table key default
  if Text.isBlankText s then
    .error (complain path (key ++ " must not be empty") (keyName table key))
  else .ok s

/-- The dialect of a name in any case. -/
def dialect? (path name : String) : Except Fault Rule.Dialect :=
  let name := Text.lowered name
  match Rule.Dialect.ofLabel? name with
  | some d => .ok d
  | none =>
    .error (complain path
      ("Unknown criteria dialect " ++ Text.quoted name ++ " (expected one of: " ++
        Rule.Dialect.choices ++ ")")
      (keyName "criteria" "dialect"))

/-- The standard level of a name in any case. -/
def level? (path name : String) : Except Fault Int :=
  let name := Text.uppered name
  match Level.standard.find? (Level.name · = name) with
  | some level => .ok level
  | none =>
    .error (complain path ("Unknown log level " ++ Text.quoted name) (keyName "logging" "level"))

def ofDocument? (path : String) (document : Toml.Fields) : Except Fault Settings := do
  let criteria ← table? path document "criteria"
  let schema ← table? path document "schema"
  let logging ← table? path document "logging"
  let dialectName ← text? path criteria "criteria" "dialect" Rule.Dialect.name.label
  let dialect ← dialect? path dialectName
  let levelName ← text? path logging "logging" "level" (Level.name Level.info)
  let level ← level? path levelName
  let defaultSection ← name? path schema "schema" "default_section" Section.defaultName
  let metadataObject ← name? path schema "schema" "metadata_object" Response.defaultObject
  let logDirectory ← text? path logging "logging" "log_dir" defaultLogDirectory
  .ok { dialect, defaultSection, metadataObject, level, logDirectory }

def document? (path : String) (cs : List Char) : Except Fault Toml.Fields :=
  match Toml.read cs with
  | .ok document => .ok document
  | .error .malformed => .error (complain path "Invalid TOML")
  | .error (.tooLong digits) => .error (.integerTooLong digits)
  | .error .tooDeep => .error (.nestedTooDeeply .tomlValue)

def load? (path : String) (file : FileState) : Except Fault Settings := do
  let path := Text.normalPath path
  let cs ← file.text? fun problem =>
    complain path ("Cannot read config: " ++ (Fault.file problem path).message)
  let document ← document? path cs
  ofDocument? path document

/-- The settings file of a directory, if there is one. -/
def find? (files : FileTree) : Option String :=
  if (files.get fileName).isFile then some fileName else none

/-- Settings with another dialect, given by its name in any case. An empty name changes nothing. -/
def withDialect? (s : Settings) (name : Option String) : Except Fault Settings :=
  match name with
  | none => .ok s
  | some name =>
    if name.isEmpty then .ok s
    else
      match Rule.Dialect.ofLabel? (Text.lowered name) with
      | some dialect => .ok { s with dialect }
      | none =>
        .error (.badOption "--dialect"
          ("Unknown dialect " ++ Text.quoted name ++ " (expected one of: " ++
            Rule.Dialect.choices ++ ")"))

/-- The settings to work with: those of the named file, or else of the file of the directory, or
else the defaults, with a dialect that is named in place of theirs. -/
def resolve? (files : FileTree) (path dialect : Option String) : Except Fault Settings := do
  let settings ←
    match path <|> find? files with
    | some path => load? path (files.get path)
    | none => .ok {}
  settings.withDialect? dialect

end Settings

end ConditionalForms
