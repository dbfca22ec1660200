import ConditionalForms.Journal.Line
import ConditionalForms.Journal.Rolling
import ConditionalForms.Settings

/-!
# Logbooks

A logbook takes the entries of the journal and decides where they go: to the console, to a rolling
log file, to both or to neither. It also knows which component speaks through which logger; the
first component that asks for a logger gives it its name.
-/

namespace ConditionalForms.Journal

/-- What a logbook is asked to do. Without a directory there is no log file. -/
structure Setup where
  directory : Option String := some defaultLogDirectory
  level : Int := Level.info
  console : Bool := true
  maxBytes : Int := 5 * 1024 * 1024
  backups : Int := 3
  deriving DecidableEq, Repr, Inhabited

/-- The level of a name in any case. -/
def levelNamed? (name : String) : Except Fault Int :=
  let name := Text.uppered name
  match Level.ofName? name with
  | some level => .ok level
  | none => .error (.unknownLevel name)

/-- Where entries go, from a level on. -/
structure Outlets where
  level : Int
  console : Bool
  file : Option Rolling
  deriving DecidableEq, Repr, Inhabited

/-- One place where entries go. -/
inductive Outlet where
  | console
  | file
  | nowhere
  deriving DecidableEq, Repr

namespace Outlets

/-- The places where entries go, in the order in which entries reach them. -/
def toList (o : Outlets) : List Outlet :=
  match o.console, o.file with
  | false, none => [.nowhere]
  | true, none => [.console]
  | false, some _ => [.file]
  | true, some _ => [.console, .file]

/-- Whether entries of a level are let through; at level zero warnings and everything above are. -/
def admits (o : Outlets) (level : Int) : Bool :=
  0 < level && (if o.level = 0 then Level.warning else o.level) ≤ level

end Outlets

/-- When and where entries are made. -/
structure Origin where
  moment : Moment
  source : Source
  deriving DecidableEq, Repr, Inhabited

/-- A logbook. `components` has the loggers that components asked for, `shown` is what the console
has shown. -/
structure Logbook where
  style : Line.Style := .plain
  outlets : Option Outlets := none
  components : List (String × String) := []
  files : FileTree := {}
  shown : String := ""
  deriving Inhabited

namespace Logbook

/-! ## Loggers -/

def topName : String := "dynaform"

def loggerName (component : String) : String :=
  topName ++ "." ++
    String.ofList ((Text.lower component.toList).map fun c => if c = ' ' then '_' else c)

/-- Whether a logger belongs to the topmost one. -/
def isOwn (logger : String) : Bool :=
  logger = topName || (topName ++ ".").toList.isPrefixOf logger.toList

def withComponent (b : Logbook) (component : String) : Logbook :=
  let name := loggerName component
  if (b.components.lookup name).isSome then b
  else { b with components := b.components ++ [(name, component)] }

def commandLineName : String := "CLI"

/-- A logbook over some files, before it is set up. -/
def fresh (files : FileTree) (style : Line.Style := .plain) : Logbook :=
  withComponent { style, files } commandLineName

/-! ## Writing -/

def lineOf (b : Logbook) (origin : Origin) (e : Entry) : Line where
  moment := origin.moment
  level := e.level
  logger := e.logger
  template := e.message
  component := b.components.lookup e.logger
  context := e.context.getD .null
  source := origin.source

/-- Shows a line on the console. A line that has no text is left out. -/
def showLine (b : Logbook) (l : Line) : Logbook :=
  match l.consoleText? b.style with
  | .ok text => { b with shown := b.shown ++ text ++ "\n" }
  | .error _ => b

/-- Appends a line to a log file. A line that has no text is left out. -/
def fileLine (b : Logbook) (file : Rolling) (l : Line) : Logbook :=
  match l.logText? with
  | .ok text => { b with files := file.append b.files text }
  | .error _ => b

def send (b : Logbook) (o : Outlets) (l : Line) : Logbook :=
  let b := if o.console then b.showLine l else b
  match o.file with
  | some file => b.fileLine file l
  | none => b

/-- Takes in an entry. Warnings that have no outlet are shown as bare messages. -/
def log (b : Logbook) (origin : Origin) (e : Entry) : Logbook :=
  match (if isOwn e.logger then b.outlets else none) with
  | some o => if o.admits e.level then b.send o (b.lineOf origin e) else b
  | none => if Level.warning ≤ e.level then { b with shown := b.shown ++ e.message ++ "\n" } else b

/-- Takes in entries one after another. -/
def logAll (b : Logbook) (origin : Origin) (es : List Entry) : Logbook :=
  es.foldl (fun b e => b.log origin e) b

/-! ## Setting up -/

def logPath (directory : String) : String := Text.joinPath directory "dynaform.log"

def openingEntry (path : String) : Entry :=
  ⟨Level.debug, topName, "dynaform logging initialized",
    some (.object [("log_format", .text "jsonl"), ("log_file", .text path)])⟩

/-- Sets a logbook up anew. With a log file, its path comes with the logbook, as it was asked for;
the file itself is named by its location. -/
def setUp? (b : Logbook) (origin : Origin) (s : Setup) :
    Except Fault (Logbook × Option String) :=
  match s.directory with
  | none => .ok ({ b with outlets := some ⟨s.level, s.console, none⟩ }, none)
  | some directory => do
    let path := logPath directory
    let file : Rolling := ⟨(Location.ofPath path).path, s.maxBytes, s.backups⟩
    let files ← b.files.makeDirectory directory
    let files ← file.open? files
    let b := { b with files, outlets := some ⟨s.level, s.console, some file⟩ }
    .ok (b.log origin (openingEntry path), some path)

end Logbook

end ConditionalForms.Journal
