import ConditionalForms.Proofs.Fault.Documented
import ConditionalForms.Proofs.Settings.Requirements
import ConditionalForms.Proofs.Toml.Limits

/-! # What reading settings can lead to

A settings file that cannot be used is to be complained about, under its path. What is not
complained about is told here in full: bytes that are no text, and a limit of the reader.
-/

namespace ConditionalForms.Settings

open Fault (DocumentedIff)

/-- Reading a text as a document stops at no limit. -/
def Tractable (cs : List Char) : Prop :=
  match Toml.read cs with
  | .ok _ | .error .malformed => True
  | .error (.tooLong _) | .error .tooDeep => False

theorem complains_complain (path text : String) (key : Option String) :
    (complain path text key).Complains .settings path := ⟨rfl, rfl⟩

theorem documented_ofDocument? (path : String) (document : Toml.Fields) :
    Fault.Documented .settings path (ofDocument? path document) := by
  intro fault hfault
  obtain ⟨r, text, -, rfl⟩ := (checks_ofDocument? path document).decides.complains fault hfault
  exact ⟨rfl, rfl⟩

theorem documentedIff_text (path : String) (cs : List Char) :
    DocumentedIff (Tractable cs) .settings path Fault.IsLimit
      (document? path cs >>= ofDocument? path) := by
  rw [document?, Tractable]
  cases hread : Toml.read cs with
  | ok document => exact .of_documented trivial (documented_ofDocument? path document)
  | error failure =>
      cases failure with
      | malformed =>
          exact .of_complaint trivial (complains_complain path _ _)
      | tooLong digits =>
          have hlimit : (Fault.integerTooLong digits).IsLimit := Toml.digitLimit_lt_of_read hread
          exact .of_fault id hlimit.not_complains hlimit
      | tooDeep =>
          have hlimit : (Fault.nestedTooDeeply .tomlValue).IsLimit := trivial
          exact .of_fault id hlimit.not_complains hlimit

/-- Reading a file gives settings, or a complaint under its path, exactly if the file is not there,
is a directory, or holds a text that stops the reader at no limit. -/
theorem documentedIff_load? (path : String) (file : FileState) :
    DocumentedIff (file.Sound Tractable) .settings (Text.normalPath path)
      (fun fault => fault.IsUndecoded ∨ fault.IsLimit) (load? path file) :=
  file.documentedIff_text? (fun _ => complains_complain _ _ _) fun cs => documentedIff_text _ cs

end ConditionalForms.Settings
