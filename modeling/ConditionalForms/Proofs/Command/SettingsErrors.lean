import ConditionalForms.Proofs.Command.UpstreamErrors
import ConditionalForms.Proofs.Settings.Reading

/-! # Commands with settings that cannot be read

A command about a form reads its settings first of all. A complaint about their file is all that the
command then shows. A fault that is no complaint leaves the command without a word.
-/

namespace ConditionalForms.Command

open Fault (Documented DocumentedIff)
open Journal (Logbook Origin)

/-- A command about a form takes its settings from the file at a path: the one that it names, or
else the one of the directory. -/
def TakesSettings (files : FileTree) (args : List String) (path : String) : Prop :=
  ∃ reporting task s, Request.ofArguments args = .ok (.perform reporting task) ∧
    task.subject? = some s ∧ (s.settings <|> Settings.find? files) = some path

/-- The command ends with status 1 and a fault that is passed on, and leaves no text at all. -/
structure Outcome.Breaks (o : Outcome) (fault : Fault) : Prop where
  status : o.status = 1
  errors : o.errors = ""
  output : o.output = ""
  drawn : o.drawn = []
  misuse : o.misuse = none
  fault : o.fault = some fault

variable {origin : Origin} {files : FileTree} {args : List String} {style : Journal.Line.Style}
  {path : String} {fault : Fault}

/-- Settings that cannot be read end a command before anything else is done. -/
theorem run_of_settings_eq_error (htakes : TakesSettings files args path)
    (hload : Settings.load? path (files.get path) = .error fault) :
    run origin files args style =
      outcomeOf (.error (Part.haltOf "Config error" fault)) (Logbook.fresh files style) := by
  obtain ⟨r, task, s, hargs, hsubject, hpath⟩ := htakes
  have hresolve : Settings.resolve? (Logbook.fresh files style).files s.settings s.dialect =
      .error fault := by
    simp only [Logbook.files_fresh, Settings.resolve?, hpath, hload, Fault.error_bind]
  obtain ⟨finish, hperform, -⟩ := exists_perform_eq origin r hsubject
  simp only [run, hargs, hperform, Part.loadForm, Part.load, Part.run_bind, Part.run_get,
    Part.run_take, hresolve, Except.mapError]

theorem fails_of_complaint {c : Complaint} (htakes : TakesSettings files args path)
    (hload : Settings.load? path (files.get path) = .error (.complaint c)) :
    (run origin files args style).Fails ("Config error: " ++ c.message ++ "\n") := by
  have hshown := Logbook.shown_fresh files style
  rw [run_of_settings_eq_error htakes hload]
  refine ⟨rfl, ?_, rfl, rfl, rfl, rfl⟩
  simp only [Part.haltOf, outcomeOf, hshown, String.empty_append]
  rfl

theorem breaks_of_fault (htakes : TakesSettings files args path)
    (hload : Settings.load? path (files.get path) = .error fault)
    (hkind : fault.IsUndecoded ∨ fault.IsLimit) :
    (run origin files args style).Breaks fault := by
  have hhalt : Part.haltOf "Config error" fault = .broken fault := by
    cases fault with
    | complaint c => exact absurd hkind (not_or.mpr ⟨id, id⟩)
    | badOption option message => exact absurd hkind (not_or.mpr ⟨id, id⟩)
    | _ => rfl
  rw [run_of_settings_eq_error htakes hload, hhalt]
  exact ⟨rfl, Logbook.shown_fresh files style, rfl, rfl, rfl, rfl⟩

/-- What a command comes to whose settings stop at a fault: it shows the complaint about the file if
the file is sound, and it is left without a word if not. -/
structure AnswersFault (path : String) (file : FileState) (fault : Fault) (o : Outcome) : Prop where
  complains : file.Sound Settings.Tractable → ∃ c, fault = .complaint c ∧
    c.source = some (Text.normalPath path) ∧ o.Fails ("Config error: " ++ c.message ++ "\n")
  breaks : ¬file.Sound Settings.Tractable → o.Breaks fault

/-- Reading settings gives settings, or a complaint under the path of their file that ends the
command with status 1 and a message, exactly if the file is not there, is a directory, or holds a
text that stops the reader at no limit. If the bytes of the file are no text, or the reader stops at
a limit, the fault is no complaint, and the command breaks. -/
theorem documentedIff_settings (path : String) (file : FileState) :
    DocumentedIff (file.Sound Settings.Tractable) .settings (Text.normalPath path)
        (fun fault => fault.IsUndecoded ∨ fault.IsLimit) (Settings.load? path file) ∧
      ∀ fault, Settings.load? path file = .error fault → ∀ files args, files.get path = file →
        TakesSettings files args path → ∀ origin style,
          AnswersFault path file fault (run origin files args style) := by
  have hiff := Settings.documentedIff_load? path file
  refine ⟨hiff, ?_⟩
  rintro fault hload files args rfl htakes origin style
  constructor
  · intro hsound
    have hcomplains := hiff.complains_of hsound hload
    cases fault with
    | complaint c => exact ⟨c, rfl, hcomplains.2, fails_of_complaint htakes hload⟩
    | _ => exact absurd hcomplains id
  · intro hunsound
    obtain ⟨fault', hload', -, hkind⟩ := hiff.exists_fault hunsound
    cases hload.symm.trans hload'
    exact breaks_of_fault htakes hload hkind

/-! ## Two files of settings -/

/-- Files with a settings file of the given content and no records. -/
def settingsWith (content : List UInt8) : FileTree :=
  ({} : FileTree).put "dynaform.toml" (.bytes content)

theorem get_settingsWith (content : List UInt8) :
    (settingsWith content).get "dynaform.toml" = .bytes content := rfl

theorem takesSettings_review (content : List UInt8) :
    TakesSettings (settingsWith content) ["review", "form.json"] "dynaform.toml" := by
  refine ⟨{}, .review { records := "form.json" }, _, ?_, rfl, rfl⟩
  decide +kernel

/-- The header of a table, left open. -/
def openHeader : List Char := "[criteria".toList

theorem documentedIff_settings_openHeader :
    (FileState.bytes (Text.Utf8.encode openHeader)).Sound Settings.Tractable ∧
      (run default (settingsWith (Text.Utf8.encode openHeader)) ["review", "form.json"]).Fails
        "Config error: dynaform.toml\nInvalid TOML\n" := by
  have hsound : (FileState.bytes (Text.Utf8.encode openHeader)).Sound Settings.Tractable := by
    have hread : Toml.read openHeader = .error .malformed := rfl
    have hlines : Text.Utf8.joinLineEnds openHeader = openHeader := rfl
    refine ⟨openHeader, rfl, ?_⟩
    rw [hlines, Settings.Tractable, hread]
    trivial
  have hload : Settings.load? "dynaform.toml" (.bytes (Text.Utf8.encode openHeader)) =
      .error (.complaint ⟨.settings, "Invalid TOML", some "dynaform.toml", none⟩) := by
    decide +kernel
  obtain ⟨-, hanswers⟩ :=
    documentedIff_settings "dynaform.toml" (.bytes (Text.Utf8.encode openHeader))
  obtain ⟨c, hc, -, hfails⟩ := (hanswers _ hload _ _ (get_settingsWith _) (takesSettings_review _)
    default .plain).complains hsound
  cases hc
  exact ⟨hsound, hfails⟩

/-- A single byte that begins no character breaks a command. -/
theorem not_documented_settings_stray_byte :
    Settings.load? "dynaform.toml" (.bytes [0xff]) = .error (.undecodable ⟨0xff, 0, 1, .start⟩) ∧
      ¬Documented .settings "dynaform.toml" (Settings.load? "dynaform.toml" (.bytes [0xff])) ∧
      (run default (settingsWith [0xff]) ["review", "form.json"]).Breaks
        (.undecodable ⟨0xff, 0, 1, .start⟩) := by
  have hload : Settings.load? "dynaform.toml" (.bytes [0xff]) =
      .error (.undecodable ⟨0xff, 0, 1, .start⟩) := rfl
  refine ⟨hload, ?_, ?_⟩
  · rw [hload, Fault.documented_error_iff]
    exact id
  · exact breaks_of_fault (takesSettings_review _) hload (.inl trivial)

end ConditionalForms.Command
