import ConditionalForms.Json.Reader
import ConditionalForms.Proofs.Assoc.Overwriting
import ConditionalForms.Proofs.Fault.Documented
import ConditionalForms.Proofs.Json.Integers

/-! # Limits of reading

A reader stops at two limits: on the digits of an integer, and on the levels of nesting. Everything
else that is wrong is a misreading. So whatever is read can be written.
-/

namespace ConditionalForms

namespace Json

/-- What is read has a property, and nothing but a limit stops the reading. -/
def WithinLimits {α : Type} (p : α → Prop) : Except ReadFailure α → Prop
  | .ok a => p a
  | .error (.misread ..) => True
  | .error (.stopped fault) => fault.IsLimit

namespace WithinLimits

variable {α β : Type} {p : α → Prop} {q : β → Prop} {x : Except ReadFailure α}

theorem misread (what : Misreading) (rest : List Char) :
    WithinLimits p (Reader.misread what rest) := trivial

theorem bind {f : α → Except ReadFailure β} (hx : WithinLimits p x)
    (hf : ∀ a, p a → WithinLimits q (f a)) : WithinLimits q (x >>= f) := by
  cases x with
  | error failure => cases failure <;> exact hx
  | ok a => exact hf a hx

theorem map {f : α → β} (hx : WithinLimits p x) (hf : ∀ a, p a → q (f a)) :
    WithinLimits q (x.map f) := by
  cases x with
  | error failure => cases failure <;> exact hx
  | ok a => exact hf a hx

end WithinLimits

namespace Reader

/-! ## Strings and numbers -/

theorem withinLimits_pieces (opening cs : List Char) :
    WithinLimits (fun _ => True) (pieces opening cs) := by
  fun_induction pieces opening cs with
  | case5 _ _ _ _ _ _ _ ih => exact ih.map fun _ _ => trivial
  | case8 =>
      rename_i ih
      exact ih.map fun _ _ => trivial
  | case10 =>
      rename_i ih
      exact ih.map fun _ _ => trivial
  | _ => trivial

theorem withinLimits_string (opening cs : List Char) :
    WithinLimits (fun _ => True) (string opening cs) :=
  (withinLimits_pieces opening cs).map fun _ _ => trivial

/-- A value that was read, with the text after it, can be written. -/
def Fits (r : Json × List Char) : Prop := r.1.fitsDigits

theorem withinLimits_number (cs : List Char) : WithinLimits Fits (number cs) := by
  unfold number
  split
  rename_i sign body _
  cases Scan.whole? digits body with
  | none => exact .misread _ _
  | some whole =>
      dsimp only
      split
      · rcases Decimal.readInt_cases (sign ++ whole.1) with
          hread | ⟨i, hread, hi⟩ | ⟨n, hread, hn⟩
        · rw [hread]
          exact .misread _ _
        · rw [hread]
          exact hi
        · rw [hread]
          exact hn
      · split
        · rfl
        · exact .misread _ _

theorem withinLimits_scalar (cs : List Char) : WithinLimits Fits (scalar cs) := by
  unfold scalar
  split
  · rename_i word j hfind
    have hmem := List.mem_of_find?_eq_some hfind
    have hwords : ∀ w ∈ words, w.2.fitsDigits := by decide
    exact hwords _ hmem
  · exact withinLimits_number cs

/-! ## Values -/

/-- Values of any depth stay within the limits when their parts do, on any fuel. -/
theorem withinLimits_parts (fuel : Nat) :
    (∀ room cs, WithinLimits Fits (value fuel room cs)) ∧
      (∀ room before cs, (∀ j ∈ before, j.fitsDigits) →
        WithinLimits Fits (items fuel room before cs)) ∧
      ∀ room before cs, (∀ f ∈ before, f.2.fitsDigits) →
        WithinLimits Fits (members fuel room before cs) := by
  induction fuel with
  | zero =>
      refine ⟨fun room cs => ?_, fun room before cs _ => ?_, fun room before cs _ => ?_⟩
      · exact .misread _ _
      · exact .misread _ _
      · exact .misread _ _
  | succ fuel ih =>
      obtain ⟨hvalue, hitems, hmembers⟩ := ih
      refine ⟨fun room cs => ?_, fun room before cs hbefore => ?_, fun room before cs hbefore => ?_⟩
      · unfold value
        split
        · exact (withinLimits_string _ _).map fun _ _ => rfl
        · split
          · trivial
          · split
            · rfl
            · exact hitems _ _ _ (by simp)
        · split
          · trivial
          · split
            · rfl
            · exact hmembers _ _ _ (by simp)
        · exact withinLimits_scalar _
      · unfold items
        refine (hvalue room cs).bind fun r hr => ?_
        have hsofar : ∀ j ∈ before ++ [r.1], j.fitsDigits := by
          intro j hj
          rcases List.mem_append.mp hj with hj | hj
          · exact hbefore j hj
          · rw [List.mem_singleton.mp hj]
            exact hr
        dsimp only
        split
        · exact itemsFit_iff.mpr hsofar
        · exact hitems _ _ _ hsofar
        · exact .misread _ _
      · unfold members
        split
        · refine (withinLimits_string _ _).bind fun k _ => ?_
          dsimp only
          split
          · refine (hvalue room _).bind fun r hr => ?_
            have hsofar : ∀ f ∈ Assoc.put k.1 r.1 before, f.2.fitsDigits := by
              intro f hf
              rcases Assoc.eq_or_mem_of_mem_put hf with rfl | hf
              · exact hr
              · exact hbefore f hf
            split
            · exact fieldsFit_iff.mpr fun key v hv => hsofar (key, v) hv
            · exact hmembers _ _ _ hsofar
            · exact .misread _ _
          · exact .misread _ _
        · exact .misread _ _

end Reader

/-- Whatever a text holds, it is read as a value that can be written, or it is misread, or the
reading stops at a limit. -/
theorem withinLimits_read (cs : List Char) : WithinLimits (fun j => j.fitsDigits) (read cs) := by
  unfold read
  split
  · exact .misread _ _
  · refine ((Reader.withinLimits_parts _).1 _ _).bind fun r hr => ?_
    dsimp only
    split
    · exact hr
    · exact .misread _ _

theorem fitsDigits_of_read {cs : List Char} {j : Json} (h : read cs = .ok j) : j.fitsDigits := by
  have hread := withinLimits_read cs
  rwa [h] at hread

theorem isLimit_of_read {cs : List Char} {fault : Fault} (h : read cs = .error (.stopped fault)) :
    fault.IsLimit := by
  have hread := withinLimits_read cs
  rwa [h] at hread

end Json

end ConditionalForms
