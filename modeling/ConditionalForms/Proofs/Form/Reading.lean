import ConditionalForms.Proofs.Fault.Documented
import ConditionalForms.Proofs.Form.Navigation
import ConditionalForms.Proofs.Json.Limits

/-! # What reading records can lead to

A records file that cannot be used is to be complained about, under its path. Most of what can be
wrong with one is: the file is not there, its text is no JSON, the value is no list of objects. What
is not complained about is told here in full: bytes that are no text, a limit of the reader, and a
response with a value in the wrong place on the way to its edges or for its errors.
-/

namespace ConditionalForms.RecordsFile

open Fault (Documented DocumentedIff)

/-- A value can be used, or it is complained about. Only responses can fail to be either. -/
def Usable (objectName : String) : Json → Prop
  | .object fields =>
    Response.Navigable objectName (Response.dataOf fields) ∧
      Response.Enumerable (Response.errorsOf fields)
  | _ => True

/-- A text can be used, or it is complained about: reading it stops at no limit. -/
def Tractable (objectName : String) (cs : List Char) : Prop :=
  match Json.read cs with
  | .ok j => Usable objectName j
  | .error (.misread ..) => True
  | .error (.stopped _) => False

theorem complains_complain (path text : String) (detail : Option String) :
    (complain path text detail).Complains .records path := ⟨rfl, rfl⟩

theorem not_complains_of_isMisshapen {path : String} {fault : Fault}
    (h : Response.IsMisshapen fault) : ¬fault.Complains .records path := by
  rcases h with rfl | rfl
  · exact id
  · exact id

/-! ## Values -/

/-- Of items that can be written, only those that are no objects stop a list, with a complaint. -/
theorem documented_listRows? (path : String) {items : List Json}
    (h : ∀ item ∈ items, item.fitsDigits) (index : Nat) :
    Documented .records path (listRows? path index items) := by
  induction items generalizing index with
  | nil => exact Fault.documented_ok []
  | cons item items ih =>
      obtain ⟨hitem, hitems⟩ := List.forall_mem_cons.mp h
      cases item with
      | object fields =>
          rw [listRows?, Row.ofJson_of_fieldsFit hitem, Fault.ok_bind]
          exact (ih hitems (index + 1)).bind fun _ => Fault.documented_ok _
      | _ => exact Fault.documented_error_iff.mpr (complains_complain path _ _)

theorem documentedIff_contents? (path objectName : String) {j : Json} (hj : j.fitsDigits) :
    DocumentedIff (Usable objectName j) .records path Response.IsMisshapen
      (contents? path objectName j) := by
  cases j with
  | list items =>
      have hrows := documented_listRows? path (Json.itemsFit_iff.mp hj) 0
      exact .of_documented trivial (hrows.map (·, []))
  | object fields =>
      have hdata := Response.returnsIff_rows? objectName (Json.fitsDigits_getD hj "data")
      have herrors := Response.returnsIff_errorTexts? (Json.fitsDigits_getD hj "errors")
      exact .of_returnsIff (hdata.bind fun rows => herrors.map (rows, ·))
        fun _ => not_complains_of_isMisshapen
  | _ => exact .of_complaint trivial (complains_complain path _ _)

/-! ## Files -/

theorem documentedIff_text (path objectName : String) (cs : List Char) :
    DocumentedIff (Tractable objectName cs) .records path
      (fun fault => fault.IsLimit ∨ Response.IsMisshapen fault)
      (value? path cs >>= contents? path objectName) := by
  rw [value?, Tractable]
  cases hread : Json.read cs with
  | ok j =>
      have hj := Json.fitsDigits_of_read hread
      exact (documentedIff_contents? path objectName hj).mono fun _ => .inr
  | error failure =>
      cases failure with
      | misread what left =>
          exact .of_complaint trivial (complains_complain path _ _)
      | stopped fault =>
          have hlimit := Json.isLimit_of_read hread
          exact .of_fault id hlimit.not_complains (.inl hlimit)

/-- Reading a file gives records and messages, or a complaint under the path, exactly if the file is
not there, is a directory, or holds a text that can be used or complained about. All other faults
are of bytes that are no text, of a limit of the reader, or of misshapen responses. -/
theorem documentedIff_records (path objectName : String) (file : FileState) :
    DocumentedIff (file.Sound (Tractable objectName)) .records path
      (fun fault => fault.IsUndecoded ∨ fault.IsLimit ∨ Response.IsMisshapen fault)
      (load? path file objectName) := by
  rw [load?, fileValue?, bind_assoc]
  exact file.documentedIff_text? (fun _ => complains_complain path _ _)
    fun cs => documentedIff_text path objectName cs

/-- A file of a single byte that begins no character is a fault that nobody is prepared for. -/
theorem not_documented_stray_byte :
    load? "records.json" (.bytes [0xff]) = .error (.undecodable ⟨0xff, 0, 1, .start⟩) ∧
      ¬Documented .records "records.json" (load? "records.json" (.bytes [0xff])) := by
  have hload : load? "records.json" (.bytes [0xff]) =
      .error (.undecodable ⟨0xff, 0, 1, .start⟩) := rfl
  refine ⟨hload, ?_⟩
  rw [hload, Fault.documented_error_iff]
  exact id

end ConditionalForms.RecordsFile
