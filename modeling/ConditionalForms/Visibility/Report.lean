import ConditionalForms.Assoc
import ConditionalForms.Form.Basic

/-!
# Visibility reports

What a visibility pass counts and lists: how much is visible, what is hidden, and why.
-/

namespace ConditionalForms

/-- The report of a visibility pass. A hidden field is listed with its section. -/
structure Report where
  visibleSections : Nat := 0
  visibleFields : Nat := 0
  hiddenSections : List String := []
  hiddenFields : List String := []
  details : List (String × String) := []
  deriving DecidableEq, Repr, Inhabited

namespace Report

def hiddenCount (r : Report) : Nat := r.hiddenSections.length + r.hiddenFields.length

def fieldKey (sectionName fieldName : String) : String := sectionName ++ "." ++ fieldName

/-- The reason of something hidden; one that has none is hidden by its rule. -/
def reason (s : Standing) : String :=
  match s.detail with
  | none => "criteria not satisfied"
  | some d => if d.isEmpty then "criteria not satisfied" else d

def addSection (r : Report) (name : String) (s : Standing) : Report :=
  if s.visible then { r with visibleSections := r.visibleSections + 1 }
  else { r with
    hiddenSections := r.hiddenSections ++ [name]
    details := Assoc.put name (reason s) r.details }

def addField (r : Report) (key : String) (s : Standing) : Report :=
  if s.visible then { r with visibleFields := r.visibleFields + 1 }
  else { r with
    hiddenFields := r.hiddenFields ++ [key]
    details := Assoc.put key (reason s) r.details }

end Report

end ConditionalForms
