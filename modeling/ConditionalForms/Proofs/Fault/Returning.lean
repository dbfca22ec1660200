import ConditionalForms.Fault
import Mathlib.Data.List.Forall2
import Mathlib.Data.List.Perm.Basic

/-! # Computations that may meet a fault

A chain of steps returns exactly when each of its steps does, and going through a list returns
exactly when every item does.
-/

namespace ConditionalForms.Fault

variable {α β : Type}

@[simp] theorem ok_bind (a : α) (f : α → Except Fault β) : (Except.ok a >>= f) = f a := rfl

@[simp] theorem error_bind (e : Fault) (f : α → Except Fault β) :
    (Except.error e >>= f) = .error e := rfl

@[simp] theorem pure_eq_ok (a : α) : (pure a : Except Fault α) = .ok a := rfl

@[simp] theorem map_ok (f : α → β) (a : α) : (Except.ok a : Except Fault α).map f = .ok (f a) := rfl

@[simp] theorem map_error (f : α → β) (e : Fault) :
    (Except.error e : Except Fault α).map f = .error e := rfl

theorem bind_eq_ok_iff {x : Except Fault α} {f : α → Except Fault β} {b : β} :
    (x >>= f) = .ok b ↔ ∃ a, x = .ok a ∧ f a = .ok b := by
  cases x with
  | error e => simp
  | ok a => simp

theorem bind_eq_error_iff {x : Except Fault α} {f : α → Except Fault β} {e : Fault} :
    (x >>= f) = .error e ↔ x = .error e ∨ ∃ a, x = .ok a ∧ f a = .error e := by
  cases x with
  | error e' => simp
  | ok a => simp

theorem map_eq_ok_iff {x : Except Fault α} {f : α → β} {b : β} :
    x.map f = .ok b ↔ ∃ a, x = .ok a ∧ f a = b := by
  cases x with
  | error e => simp
  | ok a => simp

/-- A chain returns if its first step does and the rest returns whatever that gives. -/
theorem exists_bind_eq_ok {x : Except Fault α} {f : α → Except Fault β} (hx : ∃ a, x = .ok a)
    (hf : ∀ a, ∃ b, f a = .ok b) : ∃ b, (x >>= f) = .ok b := by
  obtain ⟨a, rfl⟩ := hx
  exact hf a

theorem exists_eq_ok_of_isOk {x : Except Fault α} (h : x.isOk) : ∃ a, x = .ok a := by
  cases x with
  | error e => cases h
  | ok a => exact ⟨a, rfl⟩

theorem mapM_cons (f : α → Except Fault β) (x : α) (xs : List α) :
    (x :: xs).mapM f = (f x >>= fun y => (xs.mapM f).map (y :: ·)) := by
  rw [List.mapM_cons]
  cases f x with
  | error e => rfl
  | ok y => cases xs.mapM f <;> rfl

theorem mapM_eq_ok_iff {f : α → Except Fault β} {xs : List α} {ys : List β} :
    xs.mapM f = .ok ys ↔ List.Forall₂ (fun x y => f x = .ok y) xs ys := by
  induction xs generalizing ys with
  | nil => cases ys <;> simp
  | cons x xs ih =>
      simp only [mapM_cons, bind_eq_ok_iff, map_eq_ok_iff, ih]
      constructor
      · rintro ⟨y, hy, ys, hys, rfl⟩
        exact .cons hy hys
      · rintro (_ | ⟨hy, hys⟩)
        exact ⟨_, hy, _, hys, rfl⟩

theorem mapM_eq_ok_of_forall {f : α → Except Fault β} {g : α → β} {xs : List α}
    (h : ∀ x ∈ xs, f x = .ok (g x)) : xs.mapM f = .ok (xs.map g) := by
  induction xs with
  | nil => rfl
  | cons x xs ih =>
      rw [mapM_cons, h x (by simp), ih fun y hy => h y (by simp [hy])]
      rfl

/-- Going through a list stops at the first item that does not return. -/
theorem mapM_append_cons_eq_error {f : α → Except Fault β} {g : α → β} {before after : List α}
    {x : α} {e : Fault} (hbefore : ∀ y ∈ before, f y = .ok (g y)) (hx : f x = .error e) :
    (before ++ x :: after).mapM f = .error e := by
  induction before with
  | nil => rw [List.nil_append, mapM_cons, hx, error_bind]
  | cons y before ih =>
      obtain ⟨hy, hbefore⟩ := List.forall_mem_cons.mp hbefore
      rw [List.cons_append, mapM_cons, hy, ok_bind, ih hbefore, map_error]

/-- Items in another order give the same in another order. -/
theorem exists_mapM_eq_ok_of_perm {f : α → Except Fault β} {xs xs' : List α} {ys : List β}
    (hperm : xs'.Perm xs) (h : xs.mapM f = .ok ys) : ∃ ys', xs'.mapM f = .ok ys' ∧ ys'.Perm ys := by
  obtain ⟨ys', hys', hperm'⟩ := List.perm_comp_forall₂ hperm (mapM_eq_ok_iff.mp h)
  exact ⟨ys', mapM_eq_ok_iff.mpr hys', hperm'⟩

theorem map_eq_of_mapM_eq_ok {γ : Type} {f : α → Except Fault β} {g : β → γ} {k : α → γ}
    {xs : List α} {ys : List β} (hf : ∀ x y, f x = .ok y → g y = k x) (h : xs.mapM f = .ok ys) :
    ys.map g = xs.map k := by
  induction mapM_eq_ok_iff.mp h with
  | nil => rfl
  | cons hxy _ ih => rw [List.map_cons, List.map_cons, hf _ _ hxy, ih (mapM_eq_ok_iff.mpr ‹_›)]

theorem forall_of_mapM_eq_ok {f : α → Except Fault β} {p : β → Prop} {xs : List α} {ys : List β}
    (hf : ∀ x y, f x = .ok y → p y) (h : xs.mapM f = .ok ys) : ∀ y ∈ ys, p y := by
  induction mapM_eq_ok_iff.mp h with
  | nil => simp
  | cons hxy hrest ih =>
      intro y hy
      rcases List.mem_cons.mp hy with rfl | hy
      · exact hf _ _ hxy
      · exact ih (mapM_eq_ok_iff.mpr hrest) y hy

/-! ## Returning under a condition -/

/-- A computation returns exactly under a condition, and meets faults of one kind alone. -/
structure ReturnsIff (p : Prop) (kind : Fault → Prop) (x : Except Fault α) : Prop where
  returns : (∃ a, x = .ok a) ↔ p
  faults : ∀ e, x = .error e → kind e

namespace ReturnsIff

variable {p q : Prop} {kind : Fault → Prop} {x : Except Fault α}

theorem of_returns (hp : p) (h : ∃ a, x = .ok a) : ReturnsIff p kind x := by
  obtain ⟨a, rfl⟩ := h
  exact ⟨by simp [hp], by simp⟩

theorem of_fault (hp : ¬p) (h : ∃ e, kind e ∧ x = .error e) : ReturnsIff p kind x := by
  obtain ⟨e, he, rfl⟩ := h
  exact ⟨by simp [hp], by simp [he]⟩

theorem exists_fault (h : ReturnsIff p kind x) (hp : ¬p) : ∃ e, kind e ∧ x = .error e := by
  obtain ⟨hreturns, hfaults⟩ := h
  cases x with
  | error e => exact ⟨e, hfaults e rfl, rfl⟩
  | ok a => exact absurd (hreturns.mp ⟨a, rfl⟩) hp

theorem congr (h : ReturnsIff p kind x) (hpq : p ↔ q) : ReturnsIff q kind x :=
  ⟨h.returns.trans hpq, h.faults⟩

theorem map (h : ReturnsIff p kind x) (f : α → β) : ReturnsIff p kind (x.map f) := by
  obtain ⟨hreturns, hfaults⟩ := h
  cases x with
  | error e => exact ⟨by simpa using hreturns, by simpa using hfaults⟩
  | ok a => exact ⟨by simpa using hreturns, by simp⟩

theorem bind_of_eq {f : α → Except Fault β} (hx : ReturnsIff p kind x)
    (hf : ∀ a, x = .ok a → ReturnsIff q kind (f a)) : ReturnsIff (p ∧ q) kind (x >>= f) := by
  obtain ⟨hreturns, hfaults⟩ := hx
  cases x with
  | error e =>
      have hp : ¬p := by simpa using hreturns
      exact ⟨by simp [hp], by simpa using hfaults⟩
  | ok a =>
      have hp : p := by simpa using hreturns
      exact (hf a rfl).congr (by simp [hp])

theorem bind {f : α → Except Fault β} (hx : ReturnsIff p kind x)
    (hf : ∀ a, ReturnsIff q kind (f a)) : ReturnsIff (p ∧ q) kind (x >>= f) :=
  hx.bind_of_eq fun a _ => hf a

theorem mapM {f : α → Except Fault β} {p : α → Prop} {xs : List α}
    (h : ∀ x ∈ xs, ReturnsIff (p x) kind (f x)) :
    ReturnsIff (∀ x ∈ xs, p x) kind (xs.mapM f) := by
  induction xs with
  | nil => exact .of_returns (by simp) ⟨[], rfl⟩
  | cons x xs ih =>
      obtain ⟨hx, hxs⟩ := List.forall_mem_cons.mp h
      rw [mapM_cons]
      exact (hx.bind fun y => (ih hxs).map (y :: ·)).congr List.forall_mem_cons.symm

end ReturnsIff

end ConditionalForms.Fault
