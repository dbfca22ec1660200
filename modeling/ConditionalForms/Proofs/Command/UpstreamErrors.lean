import ConditionalForms.Proofs.Command.Running

/-! # Records that come with errors

When the records of a command come with error messages in place of data, the form is a failed one
with the messages joined. The command ends with a complaint unless the joined messages are the empty
text, which is so for a single empty message alone.
-/

namespace ConditionalForms

open Journal (Logbook Origin)

/-! ## The messages of errors -/

namespace Response

/-- An error has a message when it is a text, or an object with a text for its message. -/
inductive HasMessage : Json → String → Prop where
  | text (s : String) : HasMessage (.text s) s
  | object {fields : List (String × Json)} {s : String}
      (h : Assoc.get? fields "message" = some (.text s)) : HasMessage (.object fields) s

theorem HasMessage.errorText?_eq {j : Json} {s : String} (h : HasMessage j s) :
    errorText? j = .ok s := by
  cases h with
  | text s => simp [errorText?, Json.display?, Json.fitsDigits, Json.display]
  | object h => simp [errorText?, h, Json.display?, Json.fitsDigits, Json.display]

theorem errorTexts?_of_hasMessage {items : List Json} {messages : List String}
    (h : List.Forall₂ HasMessage items messages) : errorTexts? (.list items) = .ok messages := by
  have helements : elements? (.list items) = .ok items := by
    rw [elements?]
    cases items <;> rfl
  have hmapM : items.mapM errorText? = .ok messages :=
    Fault.mapM_eq_ok_iff.mpr (h.imp fun _ _ => HasMessage.errorText?_eq)
  simp only [errorTexts?, helements, Fault.ok_bind]
  exact hmapM

end Response

/-- A file of errors alone has their messages and no rows. -/
theorem RecordsFile.load?_of_errors {path objectName : String} {file : FileState}
    {fields : List (String × Json)} {items : List Json} {messages : List String}
    (hfile : fileValue? path file = .ok (.object fields))
    (hdata : Response.dataOf fields = .null) (herrors : Response.errorsOf fields = .list items)
    (hitems : List.Forall₂ Response.HasMessage items messages) :
    load? path file objectName = .ok ([], messages) := by
  rw [load?_of_response hfile, hdata, herrors, Response.errorTexts?_of_hasMessage hitems]
  rfl

/-- Messages join to the empty text only when a single one is empty. -/
theorem intercalate_eq_empty_iff {messages : List String} (h : messages ≠ []) :
    "; ".intercalate messages = "" ↔ messages = [""] := by
  cases messages with
  | nil => exact absurd rfl h
  | cons message messages =>
      cases messages with
      | nil => simp
      | cons next messages => simp [String.intercalate_cons_cons]

namespace Command

namespace Part

variable {origin : Origin} {start book : Logbook} {r : Reporting} {s : Subject}
  {settings : Settings} {edits : List Assignment} {messages : List String}

/-! ## Failed forms -/

theorem isOwn_of_mem_readingJournal {rows edits : Nat} {e : Entry}
    (he : e ∈ readingJournal s settings book rows edits) : Logbook.isOwn e.logger := by
  simp only [readingJournal, List.mem_append, List.mem_singleton] at he
  rcases he with he | rfl
  · unfold RecordsFile.journal Response.journal at he
    split at he
    · split at he
      · obtain rfl := List.mem_singleton.mp he
        show Logbook.isOwn "dynaform.core.records"
        decide
      · simp at he
    · simp at he
  · show Logbook.isOwn logger
    decide +kernel

theorem Opens.shown_eq (h : Opens origin start r s settings edits book) (hquiet : ¬r.verbose)
    {es : List Entry} (hown : ∀ e ∈ es, Logbook.isOwn e.logger) :
    (book.logAll origin es).shown = start.shown := by
  obtain ⟨log, hbook⟩ := h.sets_up
  have hconsole : (setupOf r settings).console = false := by simpa [setupOf] using hquiet
  obtain ⟨hsilent, hshown⟩ := Logbook.silent_of_setUp hconsole hbook
  exact (hsilent.shown_logAll hown).trans hshown

/-- Records with messages and no rows make a failed form, whatever the edits are. -/
theorem Opens.run_load_of_messages (h : Opens origin start r s settings edits book)
    (hload : RecordsFile.load? s.path (book.files.get s.path) settings.metadataObject =
      .ok ([], messages)) (hsome : messages ≠ []) :
    ∃ after, (load origin r s).run start =
        (.ok ((LiveForm.fresh settings false).cleared ("; ".intercalate messages)), after) ∧
      (¬r.verbose → after.shown = start.shown) := by
  let failed := ({ settings } : LiveForm).failWith messages
  refine ⟨book.logAll origin (readingJournal s settings book 0 edits.length ++ failed.journal),
    ?_, fun hquiet => h.shown_eq hquiet ?_⟩
  · obtain ⟨message, messages, rfl⟩ := List.exists_cons_of_ne_nil hsome
    rw [h.run_load_of_ok hload, Logbook.logAll_append]
    exact run_settle failed
  · intro e he
    rcases List.mem_append.mp he with he | he
    · exact isOwn_of_mem_readingJournal he
    · obtain rfl := List.mem_singleton.mp he
      show Logbook.isOwn LiveForm.logger
      decide

theorem run_loadForm {l : LiveForm} {message : String}
    (hload : (load origin r s).run start = (.ok l, book)) (herror : l.form.error = some message) :
    (loadForm origin r s).run start =
      (if message = "" then .ok l else .error (.complained ("Schema error: " ++ message)),
        book) := by
  rw [loadForm, run_bind, hload]
  simp only [herror, String.isEmpty_iff]
  split <;> rfl

end Part

/-! ## Outcomes -/

/-- Something is printed or drawn. -/
def Product.Shows (p : Product) : Prop := p.output ≠ "" ∨ p.drawn ≠ []

theorem shows_jsonOutput (layout : Json.Layout) (j : Json) : (jsonOutput layout j).Shows := by
  simp [Product.Shows, jsonOutput]

/-- A task about a form loads it and then shows something of it; a form without sections can always
be shown. -/
theorem exists_perform_eq (origin : Origin) (r : Reporting) {task : Task} {s : Subject}
    (h : task.subject? = some s) :
    ∃ finish : LiveForm → Part Product,
      perform origin r task = Part.loadForm origin r s >>= finish ∧
        ∀ l book, l.form.sections = [] →
          ∃ p : Product, p.Shows ∧ (finish l).run book = (.ok p, book) := by
  cases task with
  | build s format =>
      cases h
      refine ⟨_, rfl, fun l book _ => ⟨showForm format l, ?_, rfl⟩⟩
      cases format with
      | json => exact shows_jsonOutput _ _
      | table => simp [Product.Shows, showForm]
  | evaluate s format =>
      cases h
      refine ⟨_, rfl, fun l book _ => ⟨showEvaluation format l, ?_, rfl⟩⟩
      cases format with
      | json => exact shows_jsonOutput _ _
      | table => simp [Product.Shows, showEvaluation]
  | review s =>
      cases h
      refine ⟨_, rfl, fun l book hsections => ?_⟩
      have hreview : l.review? = .ok {} := by
        rw [LiveForm.review?, Review.Payload.ofSchema?, hsections]
        rfl
      refine ⟨_, shows_jsonOutput .indented (Review.Payload.toJson {}), ?_⟩
      rw [hreview]
      rfl
  | parse rule dialect => cases h

/-- The command ends with status 1 and leaves nothing but a text on the error output. -/
structure Outcome.Fails (o : Outcome) (text : String) : Prop where
  status : o.status = 1
  errors : o.errors = text
  output : o.output = ""
  drawn : o.drawn = []
  misuse : o.misuse = none
  fault : o.fault = none

/-- The command ends with status 0 and prints or draws something, beside a text on the error output.
-/
structure Outcome.Succeeds (o : Outcome) (text : String) : Prop where
  status : o.status = 0
  errors : o.errors = text
  shows : o.output ≠ "" ∨ o.drawn ≠ []
  misuse : o.misuse = none
  fault : o.fault = none

/-- A command about a form, whose records are an object without data but with a list of errors that
all have a message, fails with the messages joined after `Schema error: `, and prints and draws
nothing, unless there is a single message and that is empty. Then it succeeds. What is shown before
is empty unless reports are to be shown. -/
theorem run_of_errors {origin : Origin} {files : FileTree} {style : Journal.Line.Style}
    {args : List String} {r : Reporting} {task : Task} {s : Subject} {settings : Settings}
    {edits : List Assignment} {book : Logbook} {fields : List (String × Json)} {items : List Json}
    {messages : List String} (hargs : Request.ofArguments args = .ok (.perform r task))
    (hsubject : task.subject? = some s)
    (hopens : Part.Opens origin (Logbook.fresh files style) r s settings edits book)
    (hfile : RecordsFile.fileValue? s.path (book.files.get s.path) = .ok (.object fields))
    (hdata : Response.dataOf fields = .null) (herrors : Response.errorsOf fields = .list items)
    (hsome : items ≠ []) (hitems : List.Forall₂ Response.HasMessage items messages) :
    ∃ shown, (¬r.verbose → shown = "") ∧
      (messages ≠ [""] → (run origin files args style).Fails
        (shown ++ ("Schema error: " ++ "; ".intercalate messages) ++ "\n")) ∧
      (messages = [""] → (run origin files args style).Succeeds shown) := by
  have hmessages : messages ≠ [] := by
    rintro rfl
    exact hsome (List.forall₂_nil_right_iff.mp hitems)
  obtain ⟨after, hload, hshown⟩ := hopens.run_load_of_messages
    (RecordsFile.load?_of_errors hfile hdata herrors hitems) hmessages
  have hform := Part.run_loadForm hload rfl
  obtain ⟨finish, hperform, hfinish⟩ := exists_perform_eq origin r hsubject
  have hempty (hquiet : ¬r.verbose) : after.shown = "" :=
    (hshown hquiet).trans (Logbook.shown_fresh files style)
  refine ⟨after.shown, hempty, ?_, ?_⟩
  · intro hfull
    have hjoined : "; ".intercalate messages ≠ "" :=
      mt (intercalate_eq_empty_iff hmessages).mp hfull
    have hrun : (perform origin r task).run (Logbook.fresh files style) =
        (.error (.complained ("Schema error: " ++ "; ".intercalate messages)), after) := by
      rw [hperform, Part.run_bind, hform, if_neg hjoined]
    simp only [run, hargs, hrun]
    exact ⟨rfl, rfl, rfl, rfl, rfl, rfl⟩
  · rintro rfl
    let failed := (LiveForm.fresh settings false).cleared ("; ".intercalate [""])
    obtain ⟨p, hp, hfinished⟩ := hfinish failed after rfl
    have hjoined : "; ".intercalate [""] = "" := String.intercalate_singleton
    have hrun : (perform origin r task).run (Logbook.fresh files style) = (.ok p, after) := by
      rw [hperform, Part.run_bind, hform, if_pos hjoined]
      exact hfinished
    simp only [run, hargs, hrun]
    exact ⟨rfl, rfl, hp, rfl, rfl⟩

/-! ## Two files of errors -/

/-- Files with one file of records, of the given text. -/
def filesWith (records : String) : FileTree :=
  ({} : FileTree).put "form.json" (.ofText records)

/-- Two errors, one as an object and one as a text. -/
def lateRecords : String := "\x7b\"errors\": [\x7b\"message\": \"late\"\x7d, \"gone\"]\x7d"

theorem run_of_errors_late :
    RecordsFile.fileValue? "form.json" ((filesWith lateRecords).get "form.json") =
        .ok (.object [("errors", .list [.object [("message", .text "late")], .text "gone"])]) ∧
      (run default (filesWith lateRecords) ["review", "form.json", "--set", "Name=x"]).Fails
        "Schema error: late; gone\n" := by
  let s : Subject := { records := "form.json", edits := ["Name=x"] }
  have hargs : Request.ofArguments ["review", "form.json", "--set", "Name=x"] =
      .ok (.perform {} (.review s)) := by decide +kernel
  have hresolves : Settings.resolve? (Logbook.fresh (filesWith lateRecords)).files none none =
      .ok {} := by decide +kernel
  have hreads : Assignment.ofTexts? s.edits = .ok [⟨"Name", .text "x"⟩] := rfl
  have hpath : s.path = "form.json" := by decide +kernel
  have hstate : (filesWith lateRecords).get "form.json" = .ofText lateRecords := by decide +kernel
  have hfile : RecordsFile.fileValue? "form.json" ((filesWith lateRecords).get "form.json") =
      .ok (.object [("errors", .list [.object [("message", .text "late")], .text "gone"])]) := by
    rw [hstate]
    rfl
  refine ⟨hfile, ?_⟩
  rw [← hpath, ← Logbook.files_fresh (filesWith lateRecords) .plain] at hfile
  obtain ⟨shown, hshown, hfails, -⟩ := run_of_errors hargs rfl
    (Part.Opens.of_unlogged rfl hresolves hreads) hfile rfl rfl (List.cons_ne_nil _ _)
    (.cons (.object rfl) (.cons (.text "gone") .nil))
  obtain rfl := hshown (by decide)
  exact hfails (by decide)

/-- One error with an empty message. -/
def blankRecords : String := "\x7b\"errors\": [\"\"]\x7d"

/-- A single empty message is no failure: the command prints an empty form and succeeds. -/
theorem not_fails_blank :
    RecordsFile.fileValue? "form.json" ((filesWith blankRecords).get "form.json") =
        .ok (.object [("errors", .list [.text ""])]) ∧
      let o := run default (filesWith blankRecords) ["build", "form.json", "--format", "json"]
      o.status = 0 ∧ o.errors = "" ∧
        o.output = "\x7b\n  \"sections\": [],\n  \"error\": \"\"\n\x7d\n" := by
  have hstate : (filesWith blankRecords).get "form.json" = .ofText blankRecords := by
    decide +kernel
  constructor
  · rw [hstate]
    rfl
  · decide +kernel

end Command

end ConditionalForms
