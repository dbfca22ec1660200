import ConditionalForms.Json.Check

/-! # Decoding part by part

A value of several parts decodes exactly when all of its parts do. What the user of a form gives
decodes to itself.
-/

namespace ConditionalForms

namespace Checked

variable {α β : Type}

@[simp] theorem map_valid (f : α → β) (a : α) : f <$> (valid a) = valid (f a) := rfl

@[simp] theorem seq_valid (f : α → β) (a : α) : valid f <*> valid a = valid (f a) := rfl

theorem seq_eq_valid_iff {f : Checked (α → β)} {x : Checked α} {b : β} :
    f <*> x = valid b ↔ ∃ g a, f = valid g ∧ x = valid a ∧ g a = b := by
  cases f with
  | valid g =>
      cases x with
      | valid a => simp
      | invalid is => exact ⟨fun h => (nomatch h), fun ⟨_, _, _, h, _⟩ => (nomatch h)⟩
  | invalid is =>
      refine ⟨fun h => ?_, fun ⟨_, _, h, _⟩ => (nomatch h)⟩
      cases x <;> exact nomatch h

theorem map_eq_valid_iff {f : α → β} {x : Checked α} {b : β} :
    f <$> x = valid b ↔ ∃ a, x = valid a ∧ f a = b := by
  cases x with
  | valid a => simp
  | invalid is => exact ⟨fun h => (nomatch h), fun ⟨_, h, _⟩ => (nomatch h)⟩

theorem within_eq_valid_iff {s : Step} {x : Checked α} {a : α} :
    x.within s = valid a ↔ x = valid a := by
  cases x <;> simp [within]

theorem itemsFrom_map {check : α → Checked β} {encode : β → α} {xs : List β} (n : Nat)
    (h : ∀ x ∈ xs, check (encode x) = valid x) :
    itemsFrom check n (xs.map encode) = valid xs := by
  induction xs generalizing n with
  | nil => rfl
  | cons x xs ih =>
      obtain ⟨hx, hxs⟩ := List.forall_mem_cons.mp h
      rw [List.map_cons, itemsFrom, hx, ih (n + 1) hxs]
      rfl

theorem forall_of_itemsFrom {check : α → Checked β} {p : β → Prop} {n : Nat} {xs : List α}
    {ys : List β} (hp : ∀ x y, check x = valid y → p y) (h : itemsFrom check n xs = valid ys) :
    ∀ y ∈ ys, p y := by
  induction xs generalizing n ys with
  | nil =>
      cases h
      simp
  | cons x xs ih =>
      obtain ⟨g, zs, hg, hzs, rfl⟩ := seq_eq_valid_iff.mp h
      obtain ⟨y, hy, rfl⟩ := map_eq_valid_iff.mp hg
      exact List.forall_mem_cons.mpr ⟨hp x y (within_eq_valid_iff.mp hy), ih hzs⟩

end Checked

namespace Json

/-- A part that an object may have is decoded or takes its default. -/
theorem optional_eq_valid {α : Type} {fields : List (String × Json)} {keys : List String}
    {check : Json → Checked α} {default a : α} (h : optional fields keys check default = .valid a) :
    (∃ j, check j = .valid a) ∨ a = default := by
  unfold optional at h
  split at h
  · rename_i k v _
    exact .inl ⟨v, Checked.within_eq_valid_iff.mp h⟩
  · cases h
    exact .inr rfl

theorem checkPlain_of_isPlain {j : Json} (h : j.isPlain) : checkPlain j = .valid j := by
  cases j <;> first | rfl | cases h

theorem isPlain_of_checkPlain {j v : Json} (h : checkPlain j = .valid v) : v.isPlain := by
  unfold checkPlain at h
  split at h
  · cases h
    rfl
  · cases h
    rfl
  · split at h
    · cases h
      rfl
    · cases h

@[simp] theorem checkOption_text (s : Option String) :
    checkOption checkText (ofText? s) = .valid s := by
  cases s <;> rfl

@[simp] theorem checkOption_int (i : Option Int) : checkOption checkInt (ofInt? i) = .valid i := by
  cases i <;> rfl

end Json

end ConditionalForms
