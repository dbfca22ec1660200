import ConditionalForms.Proofs.Fault.Returning
import ConditionalForms.Proofs.Form.Unmarked
import ConditionalForms.Rule.Evaluation

/-! # What rules look at

A rule looks at names, positions and values. It never looks at a standing, so that judging it gives
the same result before, during and after a pass.
-/

namespace ConditionalForms.Rule

/-- What was found, without its standing. -/
def Resolution.unmarked : Resolution → Resolution
  | .field f => .field f.unmarked
  | .sectionMissing => .sectionMissing
  | .fieldMissing => .fieldMissing

theorem resolve_unmarked (s : Schema) (t : Target) :
    resolve s.unmarked t = (resolve s t).unmarked := by
  cases t with
  | position i j =>
      simp only [resolve, Schema.sectionAt?_unmarked]
      cases s.sectionAt? i with
      | none => rfl
      | some sec =>
          simp only [Option.map_some, Section.fieldAt?_unmarked]
          cases sec.fieldAt? (j.getD 0) <;> rfl
  | names sectionName fieldName =>
      simp only [resolve, Schema.section?_unmarked]
      cases s.section? (sectionName.getD "") with
      | none => rfl
      | some sec =>
          simp only [Option.map_some, Section.field?_unmarked]
          cases sec.field? (fieldName.getD "") <;> rfl

theorem Atom.verdict?_unmarked (s : Schema) (a : Atom) :
    a.verdict? s.unmarked = a.verdict? s := by
  unfold Atom.verdict?
  rw [resolve_unmarked]
  cases resolve s a.target <;> rfl

theorem Atom.evaluate?_unmarked (s : Schema) (a : Atom) :
    a.evaluate? s.unmarked = a.evaluate? s := by
  simp only [Atom.evaluate?, Atom.verdict?_unmarked]

theorem evaluateAll?_unmarked (s : Schema) (as : List Atom) :
    evaluateAll? s.unmarked as = evaluateAll? s as := by
  induction as with
  | nil => rfl
  | cons a as ih => simp only [evaluateAll?, Atom.evaluate?_unmarked, ih]

theorem judge?_unmarked (d : Dialect) (s : Schema) (raw : String) :
    judge? d s.unmarked raw = judge? d s raw := by
  simp only [judge?, evaluateAll?_unmarked]

/-- Forms that differ in standings alone judge every rule alike. -/
theorem judge?_congr {s t : Schema} (h : s.unmarked = t.unmarked) (d : Dialect) (raw : String) :
    judge? d s raw = judge? d t raw := by
  rw [← judge?_unmarked, h, judge?_unmarked]

end ConditionalForms.Rule
