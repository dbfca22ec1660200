import ConditionalForms.Assoc
import Mathlib.Data.List.Dedup
import Mathlib.Data.List.Induction

/-! # Writing pair after pair

Pairs that are written one after another leave one pair for each key, with the value that was
written to it last. There are as many left as were written exactly when no key came twice.
-/

namespace ConditionalForms.Assoc

variable {κ ν : Type} [DecidableEq κ]

theorem keys_put (k : κ) (v : ν) (ps : List (κ × ν)) :
    (put k v ps).map (·.1) =
      if k ∈ ps.map (·.1) then ps.map (·.1) else ps.map (·.1) ++ [k] := by
  induction ps with
  | nil => rfl
  | cons p ps ih =>
      by_cases hp : p.1 = k
      · simp [put, hp]
      · have hmem : k ∈ (p :: ps).map (·.1) ↔ k ∈ ps.map (·.1) := by
          simp [Ne.symm hp]
        rw [put, if_neg hp, List.map_cons, ih]
        by_cases hk : k ∈ ps.map (·.1)
        · rw [if_pos hk, if_pos (hmem.mpr hk), List.map_cons]
        · rw [if_neg hk, if_neg (mt hmem.mp hk), List.map_cons, List.cons_append]

theorem mem_keys_put {k k' : κ} {v : ν} {ps : List (κ × ν)} :
    k' ∈ (put k v ps).map (·.1) ↔ k' ∈ ps.map (·.1) ∨ k' = k := by
  rw [keys_put]
  split
  · rename_i hk
    refine ⟨.inl, ?_⟩
    rintro (h | rfl)
    · exact h
    · exact hk
  · rw [List.mem_append, List.mem_singleton]

theorem nodup_keys_put {k : κ} {v : ν} {ps : List (κ × ν)} (h : (ps.map (·.1)).Nodup) :
    ((put k v ps).map (·.1)).Nodup := by
  rw [keys_put]
  split
  · exact h
  · rename_i hk
    exact List.concat_eq_append ▸ h.concat hk

theorem eq_or_mem_of_mem_put {k : κ} {v : ν} {p : κ × ν} {ps : List (κ × ν)}
    (h : p ∈ put k v ps) : p = (k, v) ∨ p ∈ ps := by
  induction ps with
  | nil => exact .inl (List.mem_singleton.mp h)
  | cons q ps ih =>
      rw [put] at h
      split at h
      · rcases List.mem_cons.mp h with rfl | hp
        · exact .inl rfl
        · exact .inr (List.mem_cons_of_mem q hp)
      · rcases List.mem_cons.mp h with rfl | hp
        · exact .inr List.mem_cons_self
        · exact (ih hp).imp_right (List.mem_cons_of_mem q)

/-- A pair of a new key comes last. -/
theorem put_of_notMem {k : κ} {ps : List (κ × ν)} (h : k ∉ ps.map (·.1)) (v : ν) :
    put k v ps = ps ++ [(k, v)] := by
  induction ps with
  | nil => rfl
  | cons p ps ih =>
      obtain ⟨hp, hps⟩ : k ≠ p.1 ∧ k ∉ ps.map (·.1) := by simpa using h
      rw [put, if_neg hp.symm, ih hps, List.cons_append]

theorem get?_eq_some_iff {k : κ} {v : ν} {ps : List (κ × ν)} (h : (ps.map (·.1)).Nodup) :
    get? ps k = some v ↔ (k, v) ∈ ps := by
  induction ps with
  | nil => simp [get?]
  | cons p ps ih =>
      rw [List.map_cons, List.nodup_cons] at h
      by_cases hp : p.1 = k
      · subst hp
        have hother : (p.1, v) ∉ ps := fun hmem => h.1 (List.mem_map.mpr ⟨_, hmem, rfl⟩)
        simp [get?, hother, Prod.ext_iff, eq_comm]
      · have hne : (k, v) ≠ p := fun heq => hp (heq ▸ rfl)
        rw [List.mem_cons, ← ih h.2]
        simp [get?, hp, hne]

/-! ## Many pairs -/

/-- Writes some pairs one after another, over the pairs that are there. -/
def putAll (ps qs : List (κ × ν)) : List (κ × ν) := qs.foldl (fun acc q => put q.1 q.2 acc) ps

theorem putAll_append (ps qs rs : List (κ × ν)) :
    putAll ps (qs ++ rs) = putAll (putAll ps qs) rs := List.foldl_append

theorem ofPairs_append_singleton (ps : List (κ × ν)) (p : κ × ν) :
    ofPairs (ps ++ [p]) = put p.1 p.2 (ofPairs ps) := by
  rw [ofPairs, List.foldl_append]
  rfl

/-- No pair is left that was not written. -/
theorem mem_of_mem_ofPairs {p : κ × ν} {ps : List (κ × ν)} (h : p ∈ ofPairs ps) : p ∈ ps := by
  induction ps using List.reverseRecOn with
  | nil => exact h
  | append_singleton ps q ih =>
      rw [ofPairs_append_singleton] at h
      rcases eq_or_mem_of_mem_put h with rfl | hp
      · exact List.mem_append_right ps (List.mem_singleton_self _)
      · exact List.mem_append_left [q] (ih hp)

theorem mem_keys_ofPairs {k : κ} {ps : List (κ × ν)} :
    k ∈ (ofPairs ps).map (·.1) ↔ k ∈ ps.map (·.1) := by
  induction ps using List.reverseRecOn with
  | nil => rfl
  | append_singleton ps p ih =>
      rw [ofPairs_append_singleton, mem_keys_put, ih, List.map_append, List.mem_append,
        List.map_singleton, List.mem_singleton]

theorem nodup_keys_ofPairs (ps : List (κ × ν)) : ((ofPairs ps).map (·.1)).Nodup := by
  induction ps using List.reverseRecOn with
  | nil => exact List.nodup_nil
  | append_singleton ps p ih =>
      rw [ofPairs_append_singleton]
      exact nodup_keys_put ih

/-- What was written to a key last is there. -/
theorem get?_ofPairs_of_last {before after : List (κ × ν)} {p : κ × ν}
    (h : p.1 ∉ after.map (·.1)) : get? (ofPairs (before ++ p :: after)) p.1 = some p.2 := by
  induction after using List.reverseRecOn with
  | nil => rw [ofPairs_append_singleton, get?_put_self]
  | append_singleton after q ih =>
      rw [List.map_append, List.mem_append, not_or, List.map_singleton, List.mem_singleton] at h
      rw [← List.cons_append, ← List.append_assoc, ofPairs_append_singleton,
        get?_put_of_ne (Ne.symm h.2), ih h.1]

/-- As many pairs are left as were written exactly when no key came twice. -/
theorem length_ofPairs_eq_iff {ps : List (κ × ν)} :
    (ofPairs ps).length = ps.length ↔ (ps.map (·.1)).Nodup := by
  have hperm : ((ofPairs ps).map (·.1)).Perm (ps.map (·.1)).dedup := by
    rw [List.perm_ext_iff_of_nodup (nodup_keys_ofPairs ps) (List.nodup_dedup _)]
    intro k
    rw [mem_keys_ofPairs, List.mem_dedup]
  have hlength : (ofPairs ps).length = (ps.map (·.1)).dedup.length := by
    rw [← hperm.length_eq, List.length_map]
  rw [hlength, ← List.dedup_eq_self]
  constructor
  · intro h
    exact (List.dedup_sublist _).eq_of_length (by rw [h, List.length_map])
  · intro h
    rw [h, List.length_map]

end ConditionalForms.Assoc
