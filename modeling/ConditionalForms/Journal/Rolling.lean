import ConditionalForms.Files

/-!
# Rolling files

A file that lines are appended to. Before a line that would bring it to its size limit, the file
moves to a numbered backup, each backup moves on by one, and the last one is dropped. Without a
limit, or without backups, the file only grows.
-/

namespace ConditionalForms.Journal

/-- A rolling file. A limit of zero or less is no limit. -/
structure Rolling where
  path : String
  maxBytes : Int
  backups : Int
  deriving DecidableEq, Repr, Inhabited

namespace Rolling

def backupPath (r : Rolling) (n : Nat) : String := r.path ++ s!".{n}"

/-- Opens the file, which is made if it is not there. -/
def open? (r : Rolling) (files : FileTree) : Except Fault FileTree :=
  match files.get r.path with
  | .bytes _ => .ok files
  | .directory => .error (.file .directory r.path)
  | .absent .missing => .ok (files.write r.path [])
  | .absent problem => .error (.file problem r.path)

/-- Whether the file has to move before `size` more bytes are written. -/
def isFull (r : Rolling) (files : FileTree) (size : Nat) : Bool :=
  0 < r.maxBytes && r.maxBytes ≤ (files.content r.path).length + size

/-- Moves the backups from number `n` down on by one. -/
def shift (r : Rolling) : Nat → FileTree → FileTree
  | 0, files => files
  | n + 1, files => r.shift n (files.move (r.backupPath (n + 1)) (r.backupPath (n + 2)))

/-- Moves the file to its first backup and opens an empty one in its place. -/
def rollOver (r : Rolling) (files : FileTree) : FileTree :=
  if 0 < r.backups then
    ((r.shift (r.backups.toNat - 1) files).move r.path (r.backupPath 1)).write r.path []
  else files

def append (r : Rolling) (files : FileTree) (line : String) : FileTree :=
  let bytes := (line ++ "\n").toUTF8.toList
  let files := if r.isFull files bytes.length then r.rollOver files else files
  files.write r.path (files.content r.path ++ bytes)

end Rolling

end ConditionalForms.Journal
