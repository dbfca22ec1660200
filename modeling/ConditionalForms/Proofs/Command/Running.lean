import ConditionalForms.Command.Run
import ConditionalForms.Proofs.Journal.Silent
import ConditionalForms.Proofs.Live.Loading

/-! # Running parts of commands

A part of a command runs on a logbook, and the next part goes on with the logbook that it leaves
unless it ends the command. A command that has its settings, its logbook and its edits works on the
live form that its records and its edits lead to.
-/

namespace ConditionalForms.Command

open Journal (Logbook Origin)

/-- The path of the records. -/
def Subject.path (s : Subject) : String := Text.normalPath s.records

namespace Part

variable {α β : Type} {origin : Origin} {book after : Logbook}

/-! ## Steps -/

theorem run_bind (p : Part α) (f : α → Part β) (book : Logbook) :
    (p >>= f).run book =
      match p.run book with
      | (.ok a, after) => (f a).run after
      | (.error halt, after) => (.error halt, after) := by
  have hbind : (p >>= f).run book = ExceptT.bindCont f (p.run book).1 (p.run book).2 := rfl
  rw [hbind]
  rcases p.run book with ⟨halt | a, after⟩ <;> rfl

@[simp] theorem run_get : (get : Part Logbook).run book = (.ok book, book) := rfl

@[simp] theorem run_take (label : String) (result : Except Fault α) :
    (take label result).run book = (result.mapError (haltOf label), book) := by
  cases result <;> rfl

@[simp] theorem run_report (es : List Entry) :
    (report origin es).run book = (.ok (), book.logAll origin es) := rfl

@[simp] theorem run_settle (t : LiveForm.Turn) :
    (settle origin t).run book =
      (t.returned.mapError (haltOf "Error"), book.logAll origin t.journal) := by
  rw [settle, run_bind, run_report, LiveForm.Turn.returned]
  cases t.fault <;> rfl

theorem run_setUp {r : Reporting} {s : Settings} {log : Option String}
    (h : book.setUp? origin (setupOf r s) = .ok (after, log)) :
    (setUp origin r s).run book = (.ok (), after) := by
  rw [setUp, run_bind, run_get]
  simp only [h]
  rfl

/-! ## Loading -/

/-- What a command has before it comes to its records: the settings it is to work with, its edits,
and the logbook, set up from the one it starts with. -/
structure Opens (origin : Origin) (start : Logbook) (r : Reporting) (s : Subject)
    (settings : Settings) (edits : List Assignment) (book : Logbook) : Prop where
  resolves : Settings.resolve? start.files s.settings s.dialect = .ok settings
  sets_up : ∃ log, start.setUp? origin (setupOf r settings) = .ok (book, log)
  reads : Assignment.ofTexts? s.edits = .ok edits

/-- Without a log file there is nothing that could fail in setting up the logbook. -/
theorem Opens.of_unlogged {r : Reporting} {s : Subject} {settings : Settings}
    {edits : List Assignment} {start : Logbook} (hlog : r.log = false)
    (hresolves : Settings.resolve? start.files s.settings s.dialect = .ok settings)
    (hreads : Assignment.ofTexts? s.edits = .ok edits) :
    Opens origin start r s settings edits
      { start with outlets := some ⟨(setupOf r settings).level, r.verbose, none⟩ } where
  resolves := hresolves
  sets_up := ⟨none, by simp [Logbook.setUp?, setupOf, hlog]⟩
  reads := hreads

/-- An assignment as an operation. -/
def actionOf (e : Assignment) : LiveForm.Action := .edit e.name e.value

theorem run_edit (l : LiveForm) (edits : List Assignment) :
    ((edit origin l edits).run book).1 =
      (l.run (edits.map actionOf)).mapError (haltOf "Error") := by
  induction edits generalizing l book with
  | nil => rfl
  | cons e es ih =>
      have hrun : l.run ((e :: es).map actionOf) =
          (l.edit e.name e.value).returned >>= fun next => next.run (es.map actionOf) := rfl
      rw [edit, run_bind, run_settle, hrun]
      cases (l.edit e.name e.value).returned with
      | error fault => rfl
      | ok next => exact ih next

variable {r : Reporting} {s : Subject} {settings : Settings} {edits : List Assignment}
  {start : Logbook}

/-- The reports of the reading of records. -/
def readingJournal (s : Subject) (settings : Settings) (book : Logbook) (rows edits : Nat) :
    List Entry :=
  RecordsFile.journal s.path (book.files.get s.path) settings.metadataObject ++
    [loadedEntry settings s.path rows edits]

theorem Opens.run_load_of_ok {rows : List Row} {messages : List String}
    (h : Opens origin start r s settings edits book)
    (hload : RecordsFile.load? s.path (book.files.get s.path) settings.metadataObject =
      .ok (rows, messages)) :
    (load origin r s).run start =
      (if messages.isEmpty then do
          let l ← settle origin (({ settings } : LiveForm).loadRows rows)
          edit origin l edits
        else settle origin (({ settings } : LiveForm).failWith messages)).run
      (book.logAll origin (readingJournal s settings book rows.length edits.length)) := by
  obtain ⟨log, hbook⟩ := h.sets_up
  simp only [Subject.path] at hload
  simp only [load, run_bind, run_get, run_take, h.resolves, run_setUp hbook, h.reads, run_report,
    hload, Except.mapError, readingJournal, Logbook.logAll_append, Subject.path]

theorem Opens.run_load_of_error {fault : Fault} (h : Opens origin start r s settings edits book)
    (hload : RecordsFile.load? s.path (book.files.get s.path) settings.metadataObject =
      .error fault) :
    ((load origin r s).run start).1 = .error (haltOf "Error" fault) := by
  obtain ⟨log, hbook⟩ := h.sets_up
  simp only [Subject.path] at hload
  simp only [load, run_bind, run_get, run_take, h.resolves, run_setUp hbook, h.reads, run_report,
    hload, Except.mapError]

/-- A command works on what the file of its records is loaded into, after its edits unless that is a
failed form. -/
theorem Opens.run_load (h : Opens origin start r s settings edits book) :
    ((load origin r s).run start).1 = Except.mapError (haltOf "Error") (do
      let l ← (LiveForm.fresh settings false).loadFile s.path (book.files.get s.path)
      if l.form.error = none then l.run (edits.map actionOf) else .ok l) := by
  cases hload : RecordsFile.load? s.path (book.files.get s.path) settings.metadataObject with
  | error fault =>
      rw [h.run_load_of_error hload, LiveForm.loadFile, LiveForm.fresh, hload]
      rfl
  | ok contents =>
      obtain ⟨rows, messages⟩ := contents
      rw [h.run_load_of_ok hload, LiveForm.loadFile, LiveForm.fresh, hload]
      cases messages with
      | cons message messages => rfl
      | nil =>
          simp only [List.isEmpty_nil, if_true, run_bind, run_settle, Fault.ok_bind]
          cases hrows : (LiveForm.loadRows { settings } rows).returned with
          | error fault => rfl
          | ok l =>
              simp only [Except.mapError, Fault.ok_bind, LiveForm.error_loadRows hrows, if_true]
              exact run_edit l edits

end Part

end ConditionalForms.Command
