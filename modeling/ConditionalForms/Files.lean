import ConditionalForms.Assoc
import ConditionalForms.Fault
import ConditionalForms.Files.Location

/-!
# Files

The state of a file before it is read, and files as locations with their states. A path is followed
name by name, and every name but the last has to lead to a directory.
-/

namespace ConditionalForms

/-- What is found at a path. -/
inductive FileState where
  | absent (problem : FileProblem)
  | directory
  | bytes (content : List UInt8)
  deriving DecidableEq, Repr, Inhabited

namespace FileState

def isFile : FileState → Bool
  | bytes _ => true
  | _ => false

/-- The text of a file. A file that cannot be opened is a fault in the caller's words, unless its
path is none at all. -/
def text? (file : FileState) (unreadable : FileProblem → Fault) : Except Fault (List Char) :=
  match file with
  | absent .nullCharacter => .error (.file .nullCharacter "")
  | absent problem => .error (unreadable problem)
  | directory => .error (unreadable .directory)
  | bytes content =>
    match Text.Utf8.readText content with
    | .ok cs => .ok cs
    | .error e => .error (.undecodable e)

end FileState

/-- Files by the paths of their locations. A location that others lie below is a directory. -/
structure FileTree where
  entries : List (String × FileState) := []
  deriving Inhabited

namespace FileTree

/-- The most bytes that a name may have. -/
def nameLimit : Nat := 255

/-- The most bytes that a path may have. -/
def pathLimit : Nat := 4095

/-- Whether `path` lies below the directory `dir`. -/
def isBelow (dir path : String) : Bool := (dir ++ "/").toList.isPrefixOf path.toList

/-- What is found at a location. -/
def stateAt (t : FileTree) (l : Location) : FileState :=
  match Assoc.get? t.entries l.path with
  | some state => state
  | none =>
    if l.isTop || t.entries.any (isBelow l.path ·.1) then .directory else .absent .missing

/-- What is found when some names are followed from a location. -/
def follow (t : FileTree) (l : Location) : List (List Char) → FileState
  | [] => t.stateAt l
  | name :: names =>
    match t.stateAt l with
    | .directory =>
      if nameLimit < (String.ofList name).utf8ByteSize then .absent .nameTooLong
      else t.follow (l.enter name) names
    | .bytes _ => .absent .notDirectory
    | .absent problem => .absent problem

/-- What is found at a path. -/
def get (t : FileTree) (path : String) : FileState :=
  let path := Text.normalPath path
  if path.toList.contains '\x00' then .absent .nullCharacter
  else if pathLimit < path.utf8ByteSize then .absent .nameTooLong
  else t.follow (.start path) (Text.pathParts path)

def put (t : FileTree) (path : String) (state : FileState) : FileTree :=
  ⟨Assoc.put (Location.ofPath path).path state t.entries⟩

def write (t : FileTree) (path : String) (content : List UInt8) : FileTree :=
  t.put path (.bytes content)

/-- The content of a file; what is no file has none. -/
def content (t : FileTree) (path : String) : List UInt8 :=
  match t.get path with
  | .bytes content => content
  | _ => []

/-- The tree with a file moved to another path, in place of what is there. Nothing changes when
there is no such file. -/
def move (t : FileTree) (source target : String) : FileTree :=
  match t.get source with
  | .bytes content =>
    write ⟨t.entries.filter (·.1 ≠ (Location.ofPath source).path)⟩ target content
  | _ => t

/-- The files of a tree that another tree does not have in the same form. -/
def changedFrom (t before : FileTree) : List (String × List UInt8) :=
  t.entries.filterMap fun e =>
    match e.2 with
    | .bytes content =>
      if Assoc.get? before.entries e.1 = some (.bytes content) then none else some (e.1, content)
    | _ => none

/-- The tree with a directory made, together with the directories that it lies in. The names that
lead to it from a root come last name first. -/
def makeNamed (t : FileTree) (root : List Char) : List (List Char) → Except Fault FileTree
  | [] => .ok t
  | name :: names => do
    let path := Text.pathOf root (name :: names).reverse
    let t ← if t.get path = .absent .missing then t.makeNamed root names else .ok t
    match t.get path with
    | .directory => .ok t
    | .absent .missing => .ok (t.put path .directory)
    | .absent problem => .error (.file problem path)
    | .bytes _ => .error (.file .exists path)

/-- The tree with a directory made, together with the directories that it lies in. -/
def makeDirectory (t : FileTree) (path : String) : Except Fault FileTree :=
  t.makeNamed (Text.pathRoot path) (Text.pathParts path).reverse

end FileTree

end ConditionalForms
