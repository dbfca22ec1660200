import ConditionalForms.Command.Run
import Std.Time.DateTime.Timestamp

/-!
# The program

Reads the files that the command line names, runs it, and writes what it leaves behind.
-/

namespace ConditionalForms.Command

/-- What the file system has at a path. -/
def readState (path : String) : IO FileState := do
  try
    let content ← IO.FS.readBinFile path
    pure (.bytes content.toList)
  catch
    | .inappropriateType _ 21 _ => pure .directory
    | .inappropriateType .. => pure (.absent .notDirectory)
    | _ => pure (.absent .missing)

/-- The path of a file, and before it those of the directories that lead to it. -/
def pathsTo (path : String) : List String :=
  let parts := Text.pathParts path
  (List.range parts.length).map fun n => Text.pathOf (Text.pathRoot path) (parts.take (n + 1))

/-- The files of some paths, with the directories that lead to them. -/
def readFiles (files : FileTree) (paths : List String) : IO FileTree :=
  (paths.flatMap pathsTo).foldlM (fun files path => do
    match ← readState path with
    | .absent _ => pure files
    | state => pure (files.put path state)) files

def Task.inputPaths (t : Task) : List String :=
  match t.subject? with
  | some s => Settings.fileName :: s.records :: s.settings.toList
  | none => []

/-- The directory of the journal, its log file and the backups of that. -/
def Task.logPaths (t : Task) (files : FileTree) : List String :=
  let settings := match t.subject? with
    | some s => (Settings.resolve? files s.settings s.dialect).toOption.getD {}
    | none => {}
  let log := Journal.Logbook.logPath settings.logDirectory
  settings.logDirectory :: log :: (List.range 3).map fun n => log ++ s!".{n + 1}"

def filesFor (args : List String) : IO FileTree := do
  match Request.ofArguments args with
  | .ok (.perform reporting task) =>
    let files ← readFiles {} task.inputPaths
    if reporting.log then readFiles files (task.logPaths files) else pure files
  | _ => pure {}

def writeFiles (before after : FileTree) : IO Unit := do
  for (path, state) in after.entries do
    if state = .directory then IO.FS.createDirAll path
  for (path, content) in after.changedFrom before do
    IO.FS.writeBinFile path ⟨content.toArray⟩

/-- The present moment. -/
def now : IO Moment := do
  let time ← Std.Time.Timestamp.now
  pure (.ofMicros (time.toNanosecondsSinceUnixEpoch.val.fdiv 1000))

/-- Colours are shown on a terminal, unless they are turned off. -/
def consoleStyle : IO Journal.Line.Style := do
  let terminal ← (← IO.getStdout).isTty
  let off ← IO.getEnv "NO_COLOR"
  pure (if terminal && (off.getD "").isEmpty then .coloured else .plain)

/-- Runs a command line and tells the exit status. -/
def runIn (args : List String) : IO UInt32 := do
  let files ← filesFor args
  let outcome := run ⟨← now, {}⟩ files args (← consoleStyle)
  writeFiles files outcome.files
  IO.eprint outcome.errors
  IO.print outcome.output
  for drawing in outcome.drawn do
    IO.print drawing.text
  if let some misuse := outcome.misuse then IO.eprintln misuse.message
  if let some fault := outcome.fault then IO.eprintln fault.message
  pure outcome.status.toUInt32

end ConditionalForms.Command

/-- Runs the program. -/
def main (args : List String) : IO UInt32 := ConditionalForms.Command.runIn args
