import ConditionalForms.Command.Assignment
import ConditionalForms.Command.Request
import ConditionalForms.Command.Table
import ConditionalForms.Form.RecordsFile
import ConditionalForms.Journal.Logbook
import ConditionalForms.LiveForm

/-!
# Running commands

A command works on a directory of files and leaves behind an exit status, the texts of its output
and its error output, what it drew, and the files as they are afterwards. A complaint ends a command
with status 1 and a message; any other fault ends it with status 1 as well and is passed on; a
misused command line ends it with status 2.
-/

namespace ConditionalForms.Command

open Journal (Logbook Origin Setup)

def version : String := "0.3.0"

/-- What a command leaves behind. -/
structure Outcome where
  status : Nat := 0
  output : String := ""
  errors : String := ""
  drawn : List Drawing := []
  files : FileTree := {}
  fault : Option Fault := none
  misuse : Option Misuse := none
  deriving Inhabited

/-- Why a command ends before its work is done. -/
inductive Halt where
  | refused (misuse : Misuse)
  | complained (text : String)
  | broken (fault : Fault)
  deriving DecidableEq, Repr

/-- What a command produces when nothing ends it early. -/
structure Product where
  output : String := ""
  drawn : List Drawing := []
  deriving DecidableEq, Repr

/-- A part of a command: it writes to the logbook and may end the command. -/
abbrev Part := ExceptT Halt (StateM Logbook)

namespace Part

/-- How a fault ends a command; `label` stands in front of a complaint. -/
def haltOf (label : String) : Fault → Halt
  | .complaint c => .complained (label ++ ": " ++ c.message)
  | .badOption option message => .refused (.badValue option message)
  | fault => .broken fault

/-- The value of a result; its fault ends the command. -/
def take {α : Type} (label : String) : Except Fault α → Part α
  | .ok a => pure a
  | .error fault => throw (haltOf label fault)

/-- Writes entries to the logbook. -/
def report (origin : Origin) (es : List Entry) : Part Unit :=
  modify fun book => book.logAll origin es

/-- What the logbook is asked to do: entries are shown, from the least level on, when they are asked
for, and they go to a log file when that is asked for. -/
def setupOf (r : Reporting) (s : Settings) : Setup where
  directory := if r.log then some s.logDirectory else none
  level := if r.verbose then Level.debug else s.level
  console := r.verbose

/-- Sets up the logbook. -/
def setUp (origin : Origin) (r : Reporting) (s : Settings) : Part Unit := do
  let (book, _) ← take "Error" ((← get).setUp? origin (setupOf r s))
  set book

/-- Ends the turn of a live form: its entries are written, and its fault ends the command. -/
def settle (origin : Origin) (t : LiveForm.Turn) : Part LiveForm := do
  report origin t.journal
  match t.fault with
  | some fault => throw (haltOf "Error" fault)
  | none => pure t.after

/-- The source of the reports of the command line. -/
def logger : String := Logbook.loggerName Logbook.commandLineName

/-- The report of the rows that were read. -/
def loadedEntry (s : Settings) (path : String) (rows edits : Nat) : Entry :=
  ⟨Level.info, logger, s!"Loaded {rows} records from " ++ path,
    some (.object [("dialect", .text s.dialect.label), ("edits", .int edits)])⟩

/-- Applies edits in order. -/
def edit (origin : Origin) (l : LiveForm) : List Assignment → Part LiveForm
  | [] => pure l
  | e :: es => do
    let l ← settle origin (l.edit e.name e.value)
    edit origin l es

/-- The live form of a subject, after its edits. Error messages among the records make a failed
form, which is not edited. -/
def load (origin : Origin) (r : Reporting) (s : Subject) : Part LiveForm := do
  let settings ← take "Config error" (Settings.resolve? (← get).files s.settings s.dialect)
  setUp origin r settings
  let edits ← take "Error" (Assignment.ofTexts? s.edits)
  let path := Text.normalPath s.records
  let file := (← get).files.get path
  report origin (RecordsFile.journal path file settings.metadataObject)
  let (rows, messages) ← take "Error" (RecordsFile.load? path file settings.metadataObject)
  report origin [loadedEntry settings path rows.length edits.length]
  let l : LiveForm := { settings }
  if messages.isEmpty then
    let l ← settle origin (l.loadRows rows)
    edit origin l edits
  else settle origin (l.failWith messages)

/-- The live form of a subject, unless it is a failed one with a message. -/
def loadForm (origin : Origin) (r : Reporting) (s : Subject) : Part LiveForm := do
  let l ← load origin r s
  match l.form.error with
  | none => pure l
  | some message =>
    if message.isEmpty then pure l else throw (.complained ("Schema error: " ++ message))

end Part

/-! ## Tasks -/

/-- A value on lines of its own. -/
def jsonOutput (layout : Json.Layout) (j : Json) : Product := { output := j.write layout ++ "\n" }

/-- What an evaluation lists as data. -/
def hiddenJson (r : Report) : Json :=
  .object [
    ("hidden_sections", .texts r.hiddenSections),
    ("hidden_fields", .texts r.hiddenFields),
    ("details", .object (r.details.map fun d => (d.1, .text d.2)))]

def summaryLine (r : Report) : String :=
  s!"{r.visibleSections} sections, {r.visibleFields} fields visible; {r.hiddenCount} hidden"

/-- An atom as data, without the parts that are missing. -/
def atomJson (a : Rule.Atom) : Json :=
  let target := match a.target with
    | .position i j =>
      ("section_index", Json.int i) :: j.toList.map fun j => ("field_index", .int j)
    | .names s f =>
      (s.toList.map fun s => ("section_name", Json.text s)) ++
        f.toList.map fun f => ("field_name", .text f)
  .object (target ++ [
    ("operator", .text a.operator.symbol),
    ("expected", .text a.expected),
    ("raw", .text a.raw)])

def showForm (format : Format) (l : LiveForm) : Product :=
  match format with
  | .json => jsonOutput .denseIndented l.form.toJson
  | .table => { drawn := [.table (.ofSchema false l.form)] }

def showEvaluation (format : Format) (l : LiveForm) : Product :=
  match format with
  | .json => jsonOutput .indented (hiddenJson (l.report.getD {}))
  | .table =>
    { drawn := .table (.ofSchema true l.form) ::
        l.report.toList.map fun r => .line (summaryLine r) }

/-- The dialect of a name in any case; the name dialect when there is none. -/
def dialectNamed? (name : Option String) : Except Fault Rule.Dialect :=
  let asked := name.getD ""
  let label := if asked.isEmpty then Rule.Dialect.name.label else asked
  match Rule.Dialect.ofLabel? (Text.lowered label) with
  | some d => .ok d
  | none => .error (.badOption "--dialect" ("Unknown dialect " ++ Text.quoted asked))

/-- Does a task. -/
def perform (origin : Origin) (r : Reporting) : Task → Part Product
  | .build s format => do
    let l ← Part.loadForm origin r s
    pure (showForm format l)
  | .evaluate s format => do
    let l ← Part.loadForm origin r s
    pure (showEvaluation format l)
  | .review s => do
    let l ← Part.loadForm origin r s
    let payload ← Part.take "Error" l.review?
    pure (jsonOutput .indented payload.toJson)
  | .parse rule dialect => do
    let dialect ← Part.take "Error" (dialectNamed? dialect)
    Part.setUp origin r {}
    Part.report origin (Rule.parseJournal dialect rule)
    let atoms ← Part.take "Error" (Rule.parse dialect rule)
    pure (jsonOutput .indented (.list (atoms.map atomJson)))

/-! ## Outcomes -/

/-- What is left behind when a command was done or ended early. -/
def outcomeOf (result : Except Halt Product) (book : Logbook) : Outcome :=
  let base : Outcome := { errors := book.shown, files := book.files }
  match result with
  | .ok p => { base with output := p.output, drawn := p.drawn }
  | .error (.refused misuse) => { base with status := 2, misuse := some misuse }
  | .error (.complained text) => { base with status := 1, errors := base.errors ++ text ++ "\n" }
  | .error (.broken fault) => { base with status := 1, fault := some fault }

/-- How the program is used. -/
def usage : String :=
  "Usage: dynaform [--version] [--verbose] [--log] COMMAND ...\n" ++
  "  build RECORDS [--config FILE] [--dialect NAME] [--format table|json]\n" ++
  "  evaluate RECORDS [--set NAME=VALUE]... [--config FILE] [--dialect NAME] " ++
    "[--format table|json]\n" ++
  "  review RECORDS [--set NAME=VALUE]... [--config FILE] [--dialect NAME]\n" ++
  "  parse CRITERIA [--dialect NAME]\n"

def run (origin : Origin) (files : FileTree) (args : List String)
    (style : Journal.Line.Style := .plain) : Outcome :=
  match Request.ofArguments args with
  | .error misuse => { status := 2, files, misuse := some misuse }
  | .ok .version => { output := "dynaform version " ++ version ++ "\n", files }
  | .ok .help => { output := usage, files }
  | .ok (.perform reporting task) =>
    let (result, book) := (perform origin reporting task).run (Logbook.fresh files style)
    outcomeOf result book

end ConditionalForms.Command
