import ConditionalForms.Form.Order
import Mathlib.Data.List.Lex
import Mathlib.Data.List.Nodup
import Mathlib.Data.Prod.Lex

/-! # Sorting by keys

Keys compare like their ranks: explicit orders ascend and come before missing ones, and equal orders
go by name, code point by code point. Sorting by keys is stable, and items of distinct keys are
sorted in one way, however they stood before.
-/

namespace ConditionalForms.SortKey

/-! ## Ranks -/

/-- The rank of a key: whether its order is missing, then the order, and then the name by code
points. -/
def rank (k : SortKey) : Bool ×ₗ ℤ ×ₗ List ℕ :=
  toLex (k.order.isNone, toLex (k.order.getD 0, k.name.map Char.toNat))

theorem rank_injective : Function.Injective rank := by
  rintro ⟨order, name⟩ ⟨order', name'⟩ h
  obtain ⟨hmissing, hrest⟩ := Prod.mk.inj (toLex_inj.mp h)
  obtain ⟨horders, hnames⟩ := Prod.mk.inj (toLex_inj.mp hrest)
  have hname : name = name' :=
    List.map_injective_iff.mpr (fun _ _ => Char.toNat_inj.mp) hnames
  have horder : order = order' := by
    cases order <;> cases order' <;> simp_all
  rw [hname, horder]

theorem cons_le_cons_iff {m n : ℕ} {ms ns : List ℕ} :
    m :: ms ≤ n :: ns ↔ m < n ∨ m = n ∧ ms ≤ ns := by
  rw [← not_lt, List.cons_lt_cons_iff, ← not_lt]
  rcases lt_trichotomy m n with h | rfl | h
  · simp [h, h.le, h.ne']
  · simp
  · simp [h, h.le, h.ne']

theorem nameLe_iff (cs ds : List Char) :
    nameLe cs ds ↔ cs.map Char.toNat ≤ ds.map Char.toNat := by
  induction cs generalizing ds with
  | nil => simp [nameLe, ← not_lt]
  | cons c cs ih =>
      cases ds with
      | nil => simp [nameLe, ← not_lt]
      | cons d ds => simp [nameLe, cons_le_cons_iff, ih, Char.toNat_inj]

theorem le_iff_rank_le (a b : SortKey) : a.le b ↔ a.rank ≤ b.rank := by
  obtain ⟨order, name⟩ := a
  obtain ⟨order', name'⟩ := b
  rw [rank, rank, Prod.Lex.toLex_le_toLex, Prod.Lex.toLex_le_toLex]
  cases order <;> cases order' <;> simp [le, nameLe_iff]

protected theorem le_trans (a b c : SortKey) (hab : a.le b) (hbc : b.le c) : a.le c := by
  rw [le_iff_rank_le] at hab hbc ⊢
  exact hab.trans hbc

protected theorem le_total (a b : SortKey) : a.le b || b.le a := by
  rw [Bool.or_eq_true, le_iff_rank_le, le_iff_rank_le]
  exact le_total a.rank b.rank

protected theorem le_antisymm {a b : SortKey} (hab : a.le b) (hba : b.le a) : a = b := by
  rw [le_iff_rank_le] at hab hba
  exact rank_injective (hab.antisymm hba)

/-! ## Sorted items -/

section

variable {α : Type} {key : α → SortKey}

theorem perm_sort (xs : List α) : (sort key xs).Perm xs := List.mergeSort_perm _ _

theorem pairwise_sort (xs : List α) : (sort key xs).Pairwise fun x y => (key x).le (key y) :=
  List.pairwise_mergeSort (fun x y z => SortKey.le_trans (key x) (key y) (key z))
    (fun x y => SortKey.le_total (key x) (key y)) xs

/-- Sorting does not look at what a change of the items leaves out of their keys. -/
theorem map_sort {β : Type} {key' : β → SortKey} {f : α → β} (h : ∀ x, key' (f x) = key x)
    (xs : List α) : (sort key xs).map f = sort key' (xs.map f) := by
  apply List.map_mergeSort
  intro x _ y _
  rw [h, h]

/-- The items of one key keep their order. -/
theorem filter_sort (xs : List α) (k : SortKey) :
    (sort key xs).filter (key · = k) = xs.filter (key · = k) := by
  have hsorted : (xs.filter (key · = k)).Pairwise fun x y => (key x).le (key y) := by
    apply List.Pairwise.imp_of_mem (R := fun _ _ => True) _ (List.pairwise_of_forall (by simp))
    intro x y hx hy _
    have hx : key x = k := by simpa using List.of_mem_filter hx
    have hy : key y = k := by simpa using List.of_mem_filter hy
    rw [hx, hy, le_iff_rank_le]
  -- The items of the key are sorted as they stand, so a stable sort keeps them as a sublist.
  have hkept : (xs.filter (key · = k)).Sublist (sort key xs) :=
    List.sublist_mergeSort (fun x y z => SortKey.le_trans (key x) (key y) (key z))
      (fun x y => SortKey.le_total (key x) (key y)) hsorted List.filter_sublist
  have hsub := hkept.filter (key · = k)
  simp only [List.filter_filter, Bool.and_self] at hsub
  exact (hsub.eq_of_length ((perm_sort xs).filter (key · = k)).length_eq.symm).symm

/-- Items at ascending positions are sorted by key and, where keys are equal, by position. -/
theorem pairwise_sort_lex {position : α → ℤ} {xs : List α}
    (h : xs.Pairwise (position · < position ·)) :
    (sort key xs).Pairwise fun x y =>
      toLex ((key x).rank, position x) < toLex ((key y).rank, position y) := by
  rw [List.pairwise_iff_forall_sublist]
  intro x y hxy
  rw [Prod.Lex.toLex_lt_toLex]
  have hle : (key x).le (key y) := List.pairwise_iff_forall_sublist.mp (pairwise_sort xs) hxy
  rcases ((le_iff_rank_le _ _).mp hle).lt_or_eq with hlt | heq
  · exact .inl hlt
  · -- Items of equal keys stand as they did among the items of their key.
    have hkeys : key x = key y := rank_injective heq
    have hsame : [x, y].Sublist (xs.filter (key · = key y)) := by
      rw [← filter_sort]
      simpa [hkeys] using hxy.filter (key · = key y)
    exact .inr ⟨heq, List.pairwise_iff_forall_sublist.mp h (hsame.trans List.filter_sublist)⟩

/-- There is no other list of items at ascending positions that is so sorted. -/
theorem sort_eq_of_pairwise_lex {position : α → ℤ} {xs ys : List α}
    (h : xs.Pairwise (position · < position ·)) (hperm : ys.Perm xs)
    (hys : ys.Pairwise fun x y =>
      toLex ((key x).rank, position x) < toLex ((key y).rank, position y)) :
    sort key xs = ys := by
  apply List.Perm.eq_of_pairwise _ (pairwise_sort_lex h) hys ((perm_sort xs).trans hperm.symm)
  intro x y _ _ hxy hyx
  exact absurd hxy hyx.asymm

/-- Items of distinct keys are sorted alike however they stand. -/
theorem sort_eq_of_perm {xs ys : List α} (h : xs.Perm ys) (hkeys : (xs.map key).Nodup) :
    sort key xs = sort key ys := by
  apply List.Perm.eq_of_pairwise _ (pairwise_sort xs) (pairwise_sort ys)
    ((perm_sort xs).trans (h.trans (perm_sort ys).symm))
  intro x y hx hy hxy hyx
  have hx : x ∈ xs := (perm_sort xs).mem_iff.mp hx
  have hy : y ∈ xs := h.mem_iff.mpr ((perm_sort ys).mem_iff.mp hy)
  exact List.inj_on_of_nodup_map hkeys hx hy (SortKey.le_antisymm hxy hyx)

end

end ConditionalForms.SortKey
