import ConditionalForms.Proofs.Json.Integers
import ConditionalForms.Proofs.Json.RoundTrip

/-! # One printable line

On one line of ASCII a value that JSON holds exactly is written in printable characters alone,
whatever characters its texts and the names of its fields have: no such line can be broken.
-/

namespace ConditionalForms.Json

theorem IsExact.fitsDigits {j : Json} (h : j.IsExact) : j.fitsDigits := by
  induction h with
  | null => rfl
  | bool b => rfl
  | int hi => exact hi
  | text s => rfl
  | list _ ih => exact itemsFit_iff.mpr ih
  | object _ _ ih => exact fieldsFit_iff.mpr fun k v hv => ih (k, v) hv

theorem isBlank_spaced : Layout.spaced.IsBlank where
  itemGap := List.forall_mem_singleton.mpr (by decide)
  fieldGap := List.forall_mem_singleton.mpr (by decide)

theorem isPrintable_of_all {cs : List Char} (h : cs.all fun c => decide (IsPrintable c)) :
    ∀ c ∈ cs, IsPrintable c := by
  simpa using h

theorem isPrintable_of_isDigit {c : Char} (h : Scan.isDigit c) : IsPrintable c := by
  simp only [Scan.isDigit, Bool.and_eq_true, decide_eq_true_eq, Char.le_def] at h
  have hc : c.toNat = c.val.toNat := rfl
  have hlow : (48 : Nat) ≤ c.val.toNat := h.1
  have hhigh : c.val.toNat ≤ 57 := h.2
  exact ⟨by omega, by omega⟩

theorem isPrintable_toString (i : Int) : ∀ c ∈ (toString i).toList, IsPrintable c := by
  have hdigits (n : Nat) : ∀ c ∈ Nat.toDigits 10 n, IsPrintable c :=
    fun _ hc => isPrintable_of_isDigit (Reader.isDigit_of_mem_toDigits hc)
  cases i with
  | ofNat n => exact Decimal.toList_toString_natCast n ▸ hdigits n
  | negSucc n =>
      rw [Decimal.toList_toString_negSucc]
      exact List.forall_mem_cons.mpr ⟨by decide, hdigits (n + 1)⟩

/-- On one line nothing is broken at any depth. -/
theorem lineBreak_spaced (depth : Nat) : Layout.spaced.lineBreak depth = [] := rfl

theorem isPrintable_comma (depth : Nat) : ∀ c ∈ Layout.spaced.comma depth, IsPrintable c := by
  rw [Layout.comma, lineBreak_spaced]
  exact isPrintable_of_all (by decide)

theorem isPrintable_colon : ∀ c ∈ ':' :: Layout.spaced.fieldGap, IsPrintable c :=
  isPrintable_of_all (by decide)

theorem isPrintable_renderItems {depth : Nat} {xs : List Json}
    (h : ∀ x ∈ xs, ∀ c ∈ render .spaced depth x, IsPrintable c) :
    ∀ c ∈ renderItems .spaced depth xs, IsPrintable c := by
  induction xs with
  | nil => simp [renderItems]
  | cons x xs ih =>
      obtain ⟨hx, hxs⟩ := List.forall_mem_cons.mp h
      rw [renderItems]
      simp only [List.forall_mem_append]
      exact ⟨⟨isPrintable_comma depth, hx⟩, ih hxs⟩

theorem isPrintable_renderFields {depth : Nat} {fs : List (String × Json)}
    (h : ∀ f ∈ fs, ∀ c ∈ render .spaced depth f.2, IsPrintable c) :
    ∀ c ∈ renderFields .spaced depth fs, IsPrintable c := by
  induction fs with
  | nil => simp [renderFields]
  | cons f fs ih =>
      obtain ⟨k, v⟩ := f
      obtain ⟨hv, hfs⟩ := List.forall_mem_cons.mp h
      have hname := isPrintable_encodeText k
      rw [renderFields]
      simp only [List.forall_mem_append]
      exact ⟨⟨⟨⟨isPrintable_comma depth, hname⟩, isPrintable_colon⟩, hv⟩, ih hfs⟩

theorem isPrintable_render {j : Json} (h : j.IsExact) (depth : Nat) :
    ∀ c ∈ render .spaced depth j, IsPrintable c := by
  induction h generalizing depth with
  | null =>
      rw [render]
      exact isPrintable_of_all (by decide)
  | bool b =>
      cases b with
      | true =>
          rw [render]
          exact isPrintable_of_all (by decide)
      | false =>
          rw [render]
          exact isPrintable_of_all (by decide)
  | @int i _ =>
      rw [render]
      exact isPrintable_toString i
  | text s =>
      rw [render]
      exact isPrintable_encodeText s
  | @list items _ ih =>
      have hopen := isPrintable_of_all (by decide : ['['].all _)
      have hclose := isPrintable_of_all (by decide : [']'].all _)
      cases items with
      | nil =>
          rw [render]
          exact isPrintable_of_all (by decide)
      | cons x xs =>
          obtain ⟨hx, hxs⟩ := List.forall_mem_cons.mp ih
          have hitems := isPrintable_renderItems fun y hy => hxs y hy (depth + 1)
          rw [render]
          simp only [lineBreak_spaced, List.append_nil, List.forall_mem_append]
          exact ⟨⟨⟨hopen, hx (depth + 1)⟩, hitems⟩, hclose⟩
  | @object fields _ _ ih =>
      have hopen := isPrintable_of_all (by decide : ['{'].all _)
      have hclose := isPrintable_of_all (by decide : ['}'].all _)
      cases fields with
      | nil =>
          rw [render]
          exact isPrintable_of_all (by decide)
      | cons f fs =>
          obtain ⟨k, v⟩ := f
          obtain ⟨hv, hfs⟩ := List.forall_mem_cons.mp ih
          have hname := isPrintable_encodeText k
          have hfields := isPrintable_renderFields fun f hf => hfs f hf (depth + 1)
          rw [render]
          simp only [lineBreak_spaced, List.append_nil, List.forall_mem_append]
          exact ⟨⟨⟨⟨⟨hopen, hname⟩, isPrintable_colon⟩, hv (depth + 1)⟩, hfields⟩, hclose⟩

end ConditionalForms.Json
