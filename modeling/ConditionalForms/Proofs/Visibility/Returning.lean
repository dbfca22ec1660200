import ConditionalForms.Proofs.Rule.Returning
import ConditionalForms.Proofs.Visibility.Simultaneous

/-! # Passes that return

A pass over plain values returns exactly when each rule of the form can be read, and in the dialect
of names that is always so. All that can stop it is a position with too many digits.
-/

namespace ConditionalForms

open Fault (ReturnsIff Overlong)
open Rule (Dialect)

/-- Every rule of a form can be read. -/
def Schema.Legible (d : Dialect) (s : Schema) : Prop :=
  ∀ sec ∈ s.sections, Rule.Legible d sec.rule ∧ ∀ f ∈ sec.fields, Rule.Legible d f.rule

instance (d : Dialect) (s : Schema) : Decidable (s.Legible d) :=
  inferInstanceAs (Decidable (∀ sec ∈ s.sections, _ ∧ ∀ f ∈ sec.fields, _))

theorem Schema.legible_name (s : Schema) : s.Legible .name :=
  fun _ _ => ⟨trivial, fun _ _ => trivial⟩

/-- Which rules there are hangs on the blank of a form alone. -/
theorem Schema.Legible.congr {d : Dialect} {s t : Schema} (h : s.blank = t.blank)
    (hs : s.Legible d) : t.Legible d := by
  have hrules : ∀ u : Schema, u.Legible d ↔ u.blank.Legible d := by
    intro u
    simp [Legible, blank, Section.blank, Field.blank]
  rwa [hrules, ← h, ← hrules]

namespace Visibility

theorem judgedSection?_returnsIff {now : Schema} (hnow : now.IsPlain) (d : Dialect)
    (sec : Section) :
    ReturnsIff (Rule.Legible d sec.rule ∧ ∀ f ∈ sec.fields, Rule.Legible d f.rule) Overlong
      (judgedSection? d now sec) := by
  apply (Rule.judge?_returnsIff hnow d sec.rule).bind
  intro r
  have hfields : ReturnsIff (∀ f ∈ sec.fields, Rule.Legible d f.rule) Overlong
      (sec.fields.mapM (judgedField? d now { sec with standing := sectionStanding r })) :=
    .mapM fun f _ => (Rule.judge?_returnsIff hnow d f.rule).map _
  exact (hfields.bind fun fs => .of_returns trivial ⟨_, rfl⟩).congr (and_iff_left trivial)

theorem judged?_returnsIff {form : Schema} (h : form.IsPlain) (d : Dialect) :
    ReturnsIff (form.Legible d) Overlong (judged? d form) := by
  have hsections : ReturnsIff (form.Legible d) Overlong
      (form.sections.mapM (judgedSection? d form)) :=
    .mapM fun sec _ => judgedSection?_returnsIff h d sec
  exact (hsections.bind fun ss => .of_returns trivial ⟨_, rfl⟩).congr (and_iff_left trivial)

theorem pass_returnsIff {form : Schema} (h : form.IsPlain) (d : Dialect) :
    ReturnsIff (form.Legible d) Overlong (pass d form).report := by
  rw [pass_report]
  exact (judged?_returnsIff h d).map Report.ofForm

/-- Reading rules and passing through a form of plain values return whenever no rule writes a
position with too many digits, as no rule of the dialect of names does. Otherwise both stop, and for
that reason. -/
theorem returns_iff_legible (d : Dialect) :
    (∀ raw : Option String,
        ReturnsIff (Rule.Legible d (raw.getD "")) Overlong (Rule.parse d (raw.getD ""))) ∧
      (∀ form : Schema, form.IsPlain →
        ReturnsIff (form.Legible d) Overlong (pass d form).report) ∧
      (d = .name → ∀ form : Schema, form.Legible d) := by
  refine ⟨fun raw => Rule.parse_returnsIff d (raw.getD ""), fun _ h => pass_returnsIff h d, ?_⟩
  rintro rfl form
  exact form.legible_name

/-- A form whose rules hold digits of another script, a piece that is dropped, a position that no
field has and a number that only looks like one. -/
def numberedForm : Schema where
  sections := [
    { name := "General", position := 1, rule := "1-1\x7b=worn\x7d; 1-2\x7b>=7\x7d", fields := [
        { name := "Condition", position := 1, value := .text "Worn", rule := "٢-٠١\x7b~'7'\x7d" },
        { name := "Cost", position := 2, value := .text " 1_7 ", rule := "drop;99-1\x7b\x7d" }] },
    { name := "Damage", position := 2, rule := "1 - 2 \x7b> 1e\x7d", fields := [
        { name := "Known", position := 1, value := .bool true }] }]

theorem returns_iff_legible_numberedForm :
    ∃ report, (pass .positional numberedForm).report = .ok report := by
  have hplain : numberedForm.IsPlain := by
    simp [Schema.IsPlain, numberedForm, Json.isPlain]
  have hlegible : numberedForm.Legible .positional := by
    decide +kernel
  have hreturns := (returns_iff_legible .positional).2.1 numberedForm hplain
  exact hreturns.returns.mpr hlegible

/-! ## Too many digits -/

/-- A run of digits that is one digit too long. -/
def overlongDigits : List Char := List.replicate (Decimal.digitLimit + 1) '1'

def overlongPiece : Rule.Piece := ⟨overlongDigits, ['1'], ['=', 'x']⟩

def overlongRule : String := String.ofList (overlongDigits ++ "-1\x7b=x\x7d".toList)

def overlongForm : Schema where
  sections := [{ name := "General", rule := overlongRule }]

theorem parse_overlongRule :
    Rule.parse .positional overlongRule = .error (.integerTooLong 4301) := by
  have hlength : overlongDigits.length = 4301 := List.length_replicate
  have hdigits : ∀ c ∈ overlongDigits, c = '1' := fun c hc => List.eq_of_mem_replicate hc
  have hne : overlongDigits ≠ [] := List.ne_nil_of_length_pos (by omega)
  have htext : overlongRule.toList = overlongDigits ++ "-1\x7b=x\x7d".toList := String.toList_ofList
  -- The digits are too many to run the reader on; that the rule is a piece is all it takes.
  have hwrites : overlongPiece.Writes overlongRule.toList :=
    { text := ⟨[], [], [], Rule.blanks_nil, Rule.blanks_nil, Rule.blanks_nil, htext⟩
      sectionDigits := ⟨hne, fun c hc => hdigits c hc ▸ by decide⟩
      fieldDigits := ⟨List.cons_ne_nil _ _, List.forall_mem_singleton.mpr (by decide)⟩
      body := by simp [overlongPiece, Rule.isBrace] }
  have hpieces : Rule.splitPieces overlongRule.toList = [overlongRule.toList] := by
    apply hwrites.splitPieces_eq
    rw [htext]
    refine List.forall_mem_append.mpr ⟨?_, by simp⟩
    intro c hc
    rw [hdigits c hc]
    decide
  have hread : Rule.readPiece overlongRule.toList = .tooLong 4301 := by
    rw [Rule.readPiece_of_long_section hwrites (by rw [overlongPiece, hlength]; decide)]
    rw [overlongPiece, hlength]
  simp [Rule.parse, Rule.readings, Rule.positionalReadings, hpieces, hread, Rule.collect]

/-- The dialect of positions has a rule that cannot be read, and a form of plain values with that
rule cannot be passed through. -/
theorem not_returns_overlong :
    Rule.parse .positional overlongRule = .error (.integerTooLong 4301) ∧ overlongForm.IsPlain ∧
      (pass .positional overlongForm).report = .error (.integerTooLong 4301) := by
  refine ⟨parse_overlongRule, ?_, ?_⟩
  · simp [Schema.IsPlain, overlongForm]
  · rw [pass_report]
    simp [judged?, overlongForm, judgedSection?, Rule.judge?, parse_overlongRule]

end Visibility

end ConditionalForms
