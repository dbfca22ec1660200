import ConditionalForms.Form.Basic
import ConditionalForms.Json.Check
import ConditionalForms.Rule.Basic

/-!
# Decoded forms

Forms and atoms from JSON data. Parts that are missing take their defaults, except for names.
-/

namespace ConditionalForms

open Json (optional required checkText checkBool checkInt checkOption checkList checkObject)

def Kind.check : Json → Checked Kind
  | .text s =>
    match Kind.ofLabel? s with
    | some k => .valid k
    | none => .fail .enumeration
  | _ => .fail .enumeration

def PickOption.check : Json → Checked PickOption :=
  checkObject fun o =>
    PickOption.mk <$> required o ["label"] checkText <*> required o ["value"] checkText

def Standing.checkFields (o : List (String × Json)) : Checked Standing :=
  Standing.mk
    <$> optional o ["is_visible"] checkBool true
    <*> optional o ["criteria_satisfied"] checkBool true
    <*> optional o ["visibility_detail"] (checkOption checkText) none

def Field.check : Json → Checked Field :=
  checkObject fun o =>
    Field.mk
      <$> required o ["field_api_name"] checkText
      <*> optional o ["field_type"] checkText ""
      <*> optional o ["kind"] Kind.check .other
      <*> optional o ["order"] (checkOption checkInt) none
      <*> optional o ["pick_options"] (checkList PickOption.check) []
      <*> optional o ["value"] Json.checkPlain .null
      <*> optional o ["raw_criteria"] checkText ""
      <*> optional o ["source_index"] checkInt 0
      <*> Standing.checkFields o

def Section.check : Json → Checked Section :=
  checkObject fun o =>
    Section.mk
      <$> optional o ["name"] checkText Section.defaultName
      <*> optional o ["order"] (checkOption checkInt) none
      <*> optional o ["raw_criteria"] checkText ""
      <*> optional o ["fields"] (checkList Field.check) []
      <*> optional o ["source_index"] checkInt 0
      <*> Standing.checkFields o

def Schema.check : Json → Checked Schema :=
  checkObject fun o =>
    Schema.mk
      <$> optional o ["sections"] (checkList Section.check) []
      <*> optional o ["error"] (checkOption checkText) none

/-- The atom of its decoded parts. A section position makes it positional. -/
def Rule.Atom.ofParts (sectionIndex fieldIndex : Option Int) (sectionName fieldName : Option String)
    (operator expected raw : String) : Rule.Atom where
  target := match sectionIndex with
    | some i => .position i fieldIndex
    | none => .names sectionName fieldName
  operator := .ofSymbol operator
  expected := expected
  raw := raw

def Rule.Atom.check : Json → Checked Rule.Atom :=
  checkObject fun o =>
    Rule.Atom.ofParts
      <$> optional o ["section_index"] (checkOption checkInt) none
      <*> optional o ["field_index"] (checkOption checkInt) none
      <*> optional o ["section_name"] (checkOption checkText) none
      <*> optional o ["field_name"] (checkOption checkText) none
      <*> optional o ["operator"] checkText "="
      <*> optional o ["expected"] checkText ""
      <*> optional o ["raw"] checkText ""

end ConditionalForms
