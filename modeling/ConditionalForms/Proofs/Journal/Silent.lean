import ConditionalForms.Journal.Logbook
import ConditionalForms.Proofs.Fault.Returning

/-! # Logbooks without a console

A logbook that was set up without a console shows nothing of what the program itself reports,
whether it keeps a log file or not.
-/

namespace ConditionalForms.Journal.Logbook

variable {origin : Origin} {book after : Logbook}

@[simp] theorem files_fresh (files : FileTree) (style : Line.Style) :
    (fresh files style).files = files := by
  unfold fresh withComponent
  dsimp only
  split <;> rfl

@[simp] theorem shown_fresh (files : FileTree) (style : Line.Style) :
    (fresh files style).shown = "" := by
  unfold fresh withComponent
  dsimp only
  split <;> rfl

theorem logAll_append (b : Logbook) (origin : Origin) (es fs : List Entry) :
    b.logAll origin (es ++ fs) = (b.logAll origin es).logAll origin fs :=
  List.foldl_append

/-- A logbook that shows nothing of what the program itself reports. -/
def Silent (b : Logbook) : Prop := ∃ o, b.outlets = some o ∧ o.console = false

theorem Silent.log (h : book.Silent) {e : Entry} (hown : isOwn e.logger) :
    (book.log origin e).Silent ∧ (book.log origin e).shown = book.shown := by
  obtain ⟨o, ho, hconsole⟩ := h
  have hsend (l : Line) : (book.send o l).Silent ∧ (book.send o l).shown = book.shown := by
    simp only [send, hconsole]
    cases o.file with
    | none => exact ⟨⟨o, ho, hconsole⟩, rfl⟩
    | some file =>
        simp only [fileLine]
        cases l.logText? <;> exact ⟨⟨o, ho, hconsole⟩, rfl⟩
  simp only [Logbook.log, hown, if_true, ho]
  split
  · exact hsend _
  · exact ⟨⟨o, ho, hconsole⟩, rfl⟩

theorem Silent.shown_logAll (h : book.Silent) {es : List Entry}
    (hown : ∀ e ∈ es, isOwn e.logger) : (book.logAll origin es).shown = book.shown := by
  induction es generalizing book with
  | nil => rfl
  | cons e es ih =>
      obtain ⟨he, hes⟩ := List.forall_mem_cons.mp hown
      obtain ⟨hsilent, hshown⟩ := h.log he
      exact (ih hsilent hes).trans hshown

/-- Setting up without a console shows nothing and leaves a silent logbook. -/
theorem silent_of_setUp {setup : Setup} {log : Option String} (hconsole : setup.console = false)
    (h : book.setUp? origin setup = .ok (after, log)) :
    after.Silent ∧ after.shown = book.shown := by
  unfold setUp? at h
  split at h
  next =>
    cases h
    exact ⟨⟨_, rfl, hconsole⟩, rfl⟩
  next directory =>
    simp only [Fault.bind_eq_ok_iff] at h
    obtain ⟨files, -, opened, -, h⟩ := h
    cases h
    exact Silent.log ⟨_, rfl, hconsole⟩ (show isOwn topName by decide)

end ConditionalForms.Journal.Logbook
