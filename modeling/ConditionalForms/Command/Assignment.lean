import ConditionalForms.Fault
import ConditionalForms.Json.Basic
import ConditionalForms.Text.Blank
import ConditionalForms.Text.Casing

/-!
# Assignments

Edits as they are written on the command line: a name, an equals sign and a value. The words `true`
and `false` are truth values in any case, nothing is null, and anything else is a text.
-/

namespace ConditionalForms.Command

/-- An edit: the name of a field and its new value. -/
structure Assignment where
  name : String
  value : Json
  deriving Repr, Inhabited

namespace Assignment

def valueOf (text : String) : Json :=
  let word := Text.lowered (Text.trimmed text)
  if word = "true" then .bool true
  else if word = "false" then .bool false
  else if text.isEmpty then .null
  else .text text

def ofText? (item : String) : Except Fault Assignment :=
  let (name, rest) := item.toList.span (· ≠ '=')
  let name := Text.trim name
  match rest with
  | _ :: value =>
    if name.isEmpty then .error (refusal item)
    else .ok ⟨String.ofList name, valueOf (String.ofList value)⟩
  | [] => .error (refusal item)
where
  refusal (item : String) : Fault :=
    .badOption "--set" ("Expected NAME=VALUE, got " ++ Text.quoted item)

def ofTexts? (items : List String) : Except Fault (List Assignment) := items.mapM ofText?

end Assignment

end ConditionalForms.Command
