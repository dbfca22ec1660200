/-!
# File paths

Paths are written in one form: no empty component, no `.` component, no slash at the end. The empty
path is `.`, and `..` is kept.
-/

namespace ConditionalForms.Text

def pathParts (path : String) : List (List Char) :=
  (path.toList.splitOn '/').filter fun part => part ≠ [] ∧ part ≠ ['.']

/-- The root that a path starts with: exactly two slashes are a root of their own. -/
def pathRoot (path : String) : List Char :=
  match path.toList with
  | '/' :: '/' :: '/' :: _ => ['/']
  | '/' :: '/' :: _ => ['/', '/']
  | '/' :: _ => ['/']
  | _ => []

def pathOf (root : List Char) (parts : List (List Char)) : String :=
  match root ++ ['/'].intercalate parts with
  | [] => "."
  | cs => String.ofList cs

def normalPath (path : String) : String := pathOf (pathRoot path) (pathParts path)

def joinPath (dir name : String) : String :=
  if normalPath dir = "." then normalPath name else normalPath (dir ++ "/" ++ name)

end ConditionalForms.Text
