import ConditionalForms.Proofs.Number.Numerals
import ConditionalForms.Toml.Reader

/-! # Limits of reading TOML

Reading a document stops early at a number with more digits than the limit, or at a level of nesting
too many. Whatever else is wrong makes the document malformed.
-/

namespace ConditionalForms.Toml

/-- A reading is stopped for its digits only by a number that has too many of them. -/
def StopsAtLimit {α : Type} (x : Except ReadFailure α) : Prop :=
  ∀ digits, x = .error (.tooLong digits) → Decimal.digitLimit < digits

namespace StopsAtLimit

variable {α β : Type} {x : Except ReadFailure α}

theorem ok (a : α) : StopsAtLimit (.ok a : Except ReadFailure α) := by
  rintro digits ⟨⟩

theorem malformed : StopsAtLimit (.error .malformed : Except ReadFailure α) := by
  rintro digits ⟨⟩

theorem tooDeep : StopsAtLimit (.error .tooDeep : Except ReadFailure α) := by
  rintro digits ⟨⟩

theorem bind {f : α → Except ReadFailure β} (hx : StopsAtLimit x)
    (hf : ∀ a, StopsAtLimit (f a)) : StopsAtLimit (x >>= f) := by
  cases x with
  | error failure =>
      rintro digits ⟨⟩
      exact hx digits rfl
  | ok a => exact hf a

theorem ite {c : Prop} [Decidable c] {y : Except ReadFailure α} (hx : StopsAtLimit x)
    (hy : StopsAtLimit y) : StopsAtLimit (if c then x else y) := by
  split
  · exact hx
  · exact hy

end StopsAtLimit

namespace Reader

theorem stopsAtLimit_require {α : Type} (a : Option α) : StopsAtLimit (require a) := by
  cases a with
  | none => exact .malformed
  | some a => exact .ok a

theorem stopsAtLimit_narrowed (room cost : Nat) : StopsAtLimit (narrowed room cost) := by
  rw [narrowed]
  split
  · exact .ok _
  · exact .tooDeep

theorem stopsAtLimit_skipFiller (comment : Bool) (cs : List Char) :
    StopsAtLimit (skipFiller comment cs) := by
  fun_induction skipFiller comment cs with
  | case1 => exact .ok _
  | case2 _ ih => exact ih
  | case3 => exact .malformed
  | case4 _ _ _ _ ih => exact ih
  | case5 _ _ _ ih => exact ih
  | case6 _ _ ih => exact ih
  | case7 => exact .ok _

theorem stopsAtLimit_moment? {cs : List Char} {x : Except ReadFailure (Value × List Char)}
    (h : Scalar.moment? cs = some x) : StopsAtLimit x := by
  unfold Scalar.moment? at h
  split at h
  · dsimp only at h
    split at h
    · cases h
      exact .malformed
    · split at h
      · cases h
        exact .ok _
      · cases h
        exact .ok _
  · obtain ⟨rest, -, rfl⟩ := Option.map_eq_some_iff.mp h
    exact .ok _

/-- Only a decimal integer can have too many digits. -/
theorem stopsAtLimit_number? {cs : List Char} {x : Except ReadFailure (Value × List Char)}
    (h : Scalar.number? cs = some x) : StopsAtLimit x := by
  unfold Scalar.number? at h
  split at h
  · cases h
    exact .ok _
  · obtain ⟨⟨ws, rest⟩, -, h⟩ := Option.bind_eq_some_iff.mp h
    dsimp only at h
    split at h
    · split at h
      · cases h
        exact .ok _
      · rename_i digits hread
        cases h
        rintro digits' ⟨⟩
        exact Decimal.lt_of_readInt_eq_tooLong hread
      · cases h
    · obtain ⟨x, -, rfl⟩ := Option.map_eq_some_iff.mp h
      exact .ok _

/-- Values of any depth stop at the limit when their parts do, on any fuel. -/
theorem stopsAtLimit_parts (fuel : Nat) :
    (∀ room cs, StopsAtLimit (value fuel room cs)) ∧
      (∀ room before cs, StopsAtLimit (items fuel room before cs)) ∧
      ∀ room t cs, StopsAtLimit (members fuel room t cs) := by
  induction fuel with
  | zero => exact ⟨fun _ _ => .malformed, fun _ _ _ => .malformed, fun _ _ _ => .malformed⟩
  | succ fuel ih =>
      obtain ⟨hvalue, hitems, hmembers⟩ := ih
      refine ⟨fun room cs => ?_, fun room before cs => ?_, fun room t cs => ?_⟩
      · unfold value
        split
        · exact .malformed
        · refine .ite (stopsAtLimit_require _) (.ite (.ok _) (.ite (.ok _)
            (.ite ?bracket (.ite ?brace ?other))))
          case bracket =>
            refine (stopsAtLimit_narrowed room 2).bind fun room => ?_
            exact (stopsAtLimit_skipFiller _ _).bind fun r => hitems room [] r
          case brace =>
            refine (stopsAtLimit_narrowed room 3).bind fun room => ?_
            split
            · exact .ok _
            · exact hmembers room _ _
          case other =>
            split
            · exact stopsAtLimit_moment? ‹_›
            · split
              · exact stopsAtLimit_number? ‹_›
              · exact stopsAtLimit_require _
      · unfold items
        split
        · exact .ok _
        · refine (hvalue room cs).bind fun v => ?_
          refine (stopsAtLimit_skipFiller _ _).bind fun r => ?_
          split
          · exact .ok _
          · exact (stopsAtLimit_skipFiller _ _).bind fun r => hitems room _ r
          · exact .malformed
      · unfold members
        refine (stopsAtLimit_require _).bind fun key => ?_
        dsimp only
        split
        · refine (hvalue room _).bind fun v => (stopsAtLimit_require _).bind fun t => ?_
          split
          · exact .ok _
          · exact hmembers room t _
          · exact .malformed
        · exact .malformed

theorem stopsAtLimit_statement (fuel : Nat) (s : State) (cs : List Char) :
    StopsAtLimit (statement fuel s cs) := by
  unfold statement
  split
  · refine (stopsAtLimit_require _).bind fun key => (stopsAtLimit_require _).bind fun s => ?_
    split
    · exact .ok _
    · exact .malformed
  · refine (stopsAtLimit_require _).bind fun key => (stopsAtLimit_require _).bind fun s => ?_
    split
    · exact .ok _
    · exact .malformed
  · exact .ok _
  · refine (stopsAtLimit_require _).bind fun key => ?_
    dsimp only
    split
    · refine ((stopsAtLimit_parts _).1 _ _).bind fun v => ?_
      exact (stopsAtLimit_require _).bind fun s => .ok _
    · exact .malformed

theorem stopsAtLimit_afterComment (cs : List Char) : StopsAtLimit (afterComment cs) := by
  unfold afterComment
  split
  · exact .ite .malformed (.ok _)
  · exact .ok _

theorem stopsAtLimit_statements (fuel : Nat) (s : State) (cs : List Char) :
    StopsAtLimit (statements fuel s cs) := by
  induction fuel generalizing s cs with
  | zero => exact .malformed
  | succ fuel ih =>
      unfold statements
      split
      · exact .ok _
      · exact ih s _
      · refine (stopsAtLimit_statement _ _ _).bind fun r => ?_
        refine (stopsAtLimit_afterComment _).bind fun rest => ?_
        split
        · exact .ok _
        · exact ih _ _
        · exact .malformed

end Reader

theorem digitLimit_lt_of_read {cs : List Char} {digits : Nat}
    (h : read cs = .error (.tooLong digits)) : Decimal.digitLimit < digits := by
  unfold read at h
  cases hstatements : Reader.statements (cs.length + 1) {} cs with
  | ok state => rw [hstatements] at h; cases h
  | error failure =>
      rw [hstatements] at h
      cases h
      exact Reader.stopsAtLimit_statements _ _ _ digits hstatements

end ConditionalForms.Toml
