import ConditionalForms.Form.Basic
import ConditionalForms.Json.Display

/-!
# Tables

The table that shows a form: a row for each section and a row for each of its fields, with hidden
ones marked. Cells may carry markup in square brackets.
-/

namespace ConditionalForms.Command

/-- The side that the cells of a column are moved to. -/
inductive Justify where
  | left
  | right
  deriving DecidableEq, Repr

/-- The name of a side. -/
def Justify.label : Justify → String
  | left => "left"
  | right => "right"

/-- A table: a title, columns with their headers, and rows of cells. -/
structure Table where
  title : String
  columns : List (String × Justify)
  rows : List (List String)
  deriving DecidableEq, Repr

/-- What a command draws: a table, or a line of text. -/
inductive Drawing where
  | table (t : Table)
  | line (text : String)
  deriving DecidableEq, Repr

/-- Something drawn as plain text, with markup as it is. -/
def Drawing.text : Drawing → String
  | line text => text ++ "\n"
  | table t =>
    let row (cells : List String) : String := " | ".intercalate cells ++ "\n"
    t.title ++ "\n" ++ row (t.columns.map (·.1)) ++ String.join (t.rows.map row)

namespace Table

def orderCell : Option Int → String
  | none => ""
  | some i => toString i

def valueCell : Json → String
  | .null => ""
  | j => String.ofList j.display

def visibleCell (s : Standing) : String := if s.visible then "yes" else "[red]no[/red]"

/-- The cell with the reason of something hidden, in tables that show reasons. -/
def detailCells (details : Bool) (s : Standing) : List String :=
  if details then [s.detail.getD ""] else []

def sectionRow (details : Bool) (s : Section) : List String :=
  ["[bold]" ++ s.name ++ "[/bold]", "", "", orderCell s.order, "", visibleCell s.standing] ++
    detailCells details s.standing

def fieldRow (details : Bool) (f : Field) : List String :=
  ["", f.name, f.kind.label, orderCell f.order, valueCell f.value, visibleCell f.standing] ++
    detailCells details f.standing

def formColumns (details : Bool) : List (String × Justify) :=
  [("Section", .left), ("Field", .left), ("Kind", .left), ("Order", .right), ("Value", .left),
    ("Visible", .left)] ++ (if details then [("Detail", .left)] else [])

/-- The table of a form, with or without the reasons of what is hidden. -/
def ofSchema (details : Bool) (form : Schema) : Table where
  title := "Form schema"
  columns := formColumns details
  rows := form.sections.flatMap fun s =>
    sectionRow details s :: s.fields.map (fieldRow details)

end Table

end ConditionalForms.Command
