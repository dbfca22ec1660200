import ConditionalForms.Text.FilePath

/-!
# Locations

A location is where a path leads, one name after another. The name `..` leads back up, and above the
working directory it is kept.
-/

namespace ConditionalForms

/-- A place among the files: whether it is counted from the root or from the working directory, and
the names that lead there. Only names at the start may be `..`. -/
structure Location where
  fromRoot : Bool := false
  names : List (List Char) := []
  deriving DecidableEq, Repr, Inhabited

namespace Location

/-- The name that leads up. -/
def upward : List Char := ['.', '.']

def start (path : String) : Location := ⟨!(Text.pathRoot path).isEmpty, []⟩

/-- One step up: away from the last name, but nothing is above the root. -/
def parent (l : Location) : Location :=
  match l.names.getLast? with
  | none => if l.fromRoot then l else { l with names := [upward] }
  | some last =>
    { l with names := if last = upward then l.names ++ [upward] else l.names.dropLast }

def enter (l : Location) (name : List Char) : Location :=
  if name = upward then l.parent else { l with names := l.names ++ [name] }

def ofPath (path : String) : Location := (Text.pathParts path).foldl enter (start path)

/-- Whether the location is the root, the working directory or above it. -/
def isTop (l : Location) : Bool := l.names.all (· = upward)

def path (l : Location) : String := Text.pathOf (if l.fromRoot then ['/'] else []) l.names

end Location

end ConditionalForms
