import ConditionalForms.Text.Blank
import ConditionalForms.Text.Digit
import Mathlib.Data.List.TakeDrop
import Mathlib.Data.List.TakeWhile

/-! # Scanning texts

A scanner takes the longest start of a text whose characters are of one class, and is known by what
it takes and where it stops.
-/

namespace ConditionalForms.Text

theorem span_eq_iff {p : Char → Bool} {cs xs ys : List Char} :
    cs.span p = (xs, ys) ↔
      cs = xs ++ ys ∧ (∀ x ∈ xs, p x) ∧ ∀ y ∈ ys.head?, p y = false := by
  rw [List.span_eq_takeWhile_dropWhile, Prod.mk.injEq]
  constructor
  · rintro ⟨rfl, rfl⟩
    refine ⟨List.takeWhile_append_dropWhile.symm, fun x hx => List.mem_takeWhile_imp hx, ?_⟩
    intro y hy
    have hstop := List.head?_dropWhile_not p cs
    rw [Option.mem_def.mp hy] at hstop
    simpa using hstop
  · rintro ⟨rfl, hxs, hys⟩
    rw [List.takeWhile_append_of_pos hxs, List.dropWhile_append_of_pos hxs]
    cases ys with
    | nil => simp
    | cons y ys => simp [hys y rfl]

/-! ## Blanks -/

theorem trimStart_append {w : List Char} (hw : ∀ c ∈ w, isBlank c) (cs : List Char) :
    trimStart (w ++ cs) = trimStart cs :=
  List.dropWhile_append_of_pos hw

theorem trimStart_of_head {cs : List Char} (h : ∀ c ∈ cs.head?, isBlank c = false) :
    trimStart cs = cs := by
  cases cs with
  | nil => rfl
  | cons c cs => simp [trimStart, h c rfl]

theorem isPrefix_trimEnd (cs : List Char) : trimEnd cs <+: cs := by
  rw [trimEnd, ← List.reverse_suffix, List.reverse_reverse]
  exact List.dropWhile_suffix _

theorem exists_blanks_append_trimStart (cs : List Char) :
    ∃ w, (∀ c ∈ w, isBlank c) ∧ cs = w ++ trimStart cs :=
  ⟨cs.takeWhile isBlank, fun _ hc => List.mem_takeWhile_imp hc,
    List.takeWhile_append_dropWhile.symm⟩

/-- A text that neither starts nor ends with a blank is trimmed already. -/
theorem trim_eq_self {cs : List Char} (hfirst : ∀ c ∈ cs.head?, isBlank c = false)
    (hlast : ∀ c ∈ cs.getLast?, isBlank c = false) : trim cs = cs := by
  have hreverse : trimStart cs.reverse = cs.reverse := by
    apply trimStart_of_head
    simpa using hlast
  have hend : trimEnd cs = cs := by
    rw [trimEnd, ← trimStart, hreverse, List.reverse_reverse]
  rw [trim, trimStart_of_head hfirst, hend]

/-- Trimming leaves nothing to trim. -/
theorem trim_trim (cs : List Char) : trim (trim cs) = trim cs := by
  have hstart : ∀ c ∈ (trimStart cs).head?, isBlank c = false := by
    intro c hc
    have hstop := List.head?_dropWhile_not isBlank cs
    rw [← trimStart, Option.mem_def.mp hc] at hstop
    simpa using hstop
  have hend : ∀ c ∈ (trim cs).getLast?, isBlank c = false := by
    intro c hc
    have hstop := List.head?_dropWhile_not isBlank (trimStart cs).reverse
    rw [trim, trimEnd, List.getLast?_reverse] at hc
    rw [Option.mem_def.mp hc] at hstop
    simpa using hstop
  apply trim_eq_self _ hend
  -- What is left starts as the text does without the blanks before it.
  intro c hc
  have hprefix : trim cs <+: trimStart cs := isPrefix_trimEnd _
  obtain ⟨rest, hrest⟩ := hprefix
  apply hstart c
  rw [← hrest, List.head?_append, Option.mem_def.mp hc]
  rfl

theorem trimStart_eq_nil_iff {cs : List Char} : trimStart cs = [] ↔ ∀ c ∈ cs, isBlank c := by
  rw [trimStart, List.dropWhile_eq_nil_iff]

theorem trimEnd_append {w : List Char} (hw : ∀ c ∈ w, isBlank c) (cs : List Char) :
    trimEnd (cs ++ w) = trimEnd cs := by
  have hreverse : ∀ c ∈ w.reverse, isBlank c := by simpa using hw
  rw [trimEnd, trimEnd, List.reverse_append, ← trimStart, trimStart_append hreverse, trimStart]

/-- Blanks around a text are trimmed away with its own. -/
theorem trim_surrounded {u v : List Char} (hu : ∀ c ∈ u, isBlank c) (hv : ∀ c ∈ v, isBlank c)
    (cs : List Char) : trim (u ++ (cs ++ v)) = trim cs := by
  rw [trim, trim, trimStart_append hu]
  by_cases hblank : ∀ c ∈ cs, isBlank c
  · rw [trimStart_append hblank, trimStart_eq_nil_iff.mpr hv, trimStart_eq_nil_iff.mpr hblank]
  · have hrest : (trimStart cs).isEmpty = false := by
      rw [← trimStart_eq_nil_iff] at hblank
      simpa using hblank
    have hstart : trimStart (cs ++ v) = trimStart cs ++ v := by
      rw [trimStart, List.dropWhile_append, ← trimStart, hrest]
      simp
    rw [hstart, trimEnd_append hv]

theorem trim_of_blank {w : List Char} (hw : ∀ c ∈ w, isBlank c) : trim w = [] := by
  rw [trim, trimStart_eq_nil_iff.mpr hw, trimEnd, List.reverse_nil, List.dropWhile_nil,
    List.reverse_nil]

/-! ## Parts of a text -/

theorem trim_infix (cs : List Char) : trim cs <:+: cs :=
  (isPrefix_trimEnd _).isInfix.trans (List.dropWhile_suffix _).isInfix

/-- Splitting a text gives parts of it, the first of which starts it. -/
theorem exists_splitOnP_eq_cons (p : Char → Bool) (cs : List Char) :
    ∃ first rest, cs.splitOnP p = first :: rest ∧ first <+: cs ∧ ∀ part ∈ rest, part <:+: cs := by
  induction cs with
  | nil => exact ⟨[], [], List.splitOnP_nil, List.prefix_rfl, by simp⟩
  | cons c cs ih =>
      obtain ⟨first, rest, hsplit, hfirst, hrest⟩ := ih
      have hparts : ∀ part ∈ first :: rest, part <:+: c :: cs := by
        intro part hpart
        rcases List.mem_cons.mp hpart with rfl | hpart
        · exact hfirst.isInfix.trans (List.suffix_cons c cs).isInfix
        · exact (hrest part hpart).trans (List.suffix_cons c cs).isInfix
      rw [List.splitOnP_cons_eq_if_modifyHead, hsplit]
      by_cases hc : p c
      · exact ⟨[], first :: rest, if_pos hc, List.nil_prefix, hparts⟩
      · refine ⟨c :: first, rest, if_neg hc, List.prefix_cons_inj c |>.mpr hfirst, ?_⟩
        exact fun part hpart => hparts part (List.mem_cons_of_mem first hpart)

theorem infix_of_mem_splitOnP {p : Char → Bool} {cs part : List Char}
    (h : part ∈ cs.splitOnP p) : part <:+: cs := by
  obtain ⟨first, rest, hsplit, hfirst, hrest⟩ := exists_splitOnP_eq_cons p cs
  rw [hsplit] at h
  rcases List.mem_cons.mp h with rfl | hpart
  · exact hfirst.isInfix
  · exact hrest part hpart

/-- The parts between separators hold no separator. -/
theorem forall_of_mem_splitOnP {p : Char → Bool} {cs part : List Char}
    (h : part ∈ cs.splitOnP p) : ∀ c ∈ part, p c = false := by
  induction cs generalizing part with
  | nil =>
      obtain rfl : part = [] := by simpa [List.splitOnP_nil] using h
      simp
  | cons c cs ih =>
      obtain ⟨first, rest, hsplit⟩ := List.exists_cons_of_ne_nil (List.splitOnP_ne_nil p cs)
      rw [hsplit] at ih
      rw [List.splitOnP_cons_eq_if_modifyHead, hsplit] at h
      by_cases hc : p c
      · rw [if_pos hc] at h
        rcases List.mem_cons.mp h with rfl | h
        · simp
        · exact ih h
      · rw [if_neg hc, List.modifyHead_cons] at h
        rcases List.mem_cons.mp h with rfl | h
        · exact List.forall_mem_cons.mpr ⟨by simpa using hc, ih List.mem_cons_self⟩
        · exact ih (List.mem_cons_of_mem first h)

/-! ## Digits -/

theorem isBlank_of_digit : ∀ z ∈ digitZeros, ∀ k < 10, isBlank (Char.ofNat (z + k)) = false := by
  decide +kernel

theorem not_isBlank_of_isDigit {c : Char} (h : isDigit c) : isBlank c = false := by
  obtain ⟨d, hd⟩ := Option.isSome_iff_exists.mp h
  obtain ⟨z, hz, hsome⟩ := List.exists_of_findSome?_eq_some hd
  have hrange : z ≤ c.toNat ∧ c.toNat ≤ z + 9 := by
    by_contra hout
    simp [hout] at hsome
  have hc : c = Char.ofNat (z + (c.toNat - z)) := by
    rw [Nat.add_sub_cancel' hrange.1, Char.ofNat_toNat]
  rw [hc]
  exact isBlank_of_digit z hz _ (by omega)

end ConditionalForms.Text
