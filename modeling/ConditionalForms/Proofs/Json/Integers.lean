import ConditionalForms.Json.Display
import ConditionalForms.Proofs.Number.Numerals

/-! # Integers in values

A value has a text unless an integer with too many digits stands somewhere in it, at any depth.
-/

namespace ConditionalForms.Json

theorem itemsFit_iff {items : List Json} : itemsFit items ↔ ∀ j ∈ items, j.fitsDigits := by
  induction items with
  | nil => simp [itemsFit]
  | cons j items ih => simp [itemsFit, ih]

theorem fieldsFit_iff {fields : List (String × Json)} :
    fieldsFit fields ↔ ∀ k v, (k, v) ∈ fields → v.fitsDigits := by
  induction fields with
  | nil => simp [fieldsFit]
  | cons p fields ih =>
      simp only [fieldsFit, Bool.and_eq_true, ih, List.mem_cons]
      constructor
      · rintro ⟨hp, hfields⟩ k v (rfl | hv)
        · exact hp
        · exact hfields k v hv
      · intro h
        exact ⟨h p.1 p.2 (.inl rfl), fun k v hv => h k v (.inr hv)⟩

/-- An integer stands somewhere in a value. -/
inductive Mentions (i : Int) : Json → Prop where
  | int : Mentions i (.int i)
  | item {items : List Json} {j : Json} (hj : j ∈ items) (h : Mentions i j) :
      Mentions i (.list items)
  | member {fields : List (String × Json)} {k : String} {v : Json} (hv : (k, v) ∈ fields)
      (h : Mentions i v) : Mentions i (.object fields)

theorem mentions_int_iff {i n : Int} : Mentions i (.int n) ↔ i = n := by
  constructor
  · rintro ⟨⟩
    rfl
  · rintro rfl
    exact .int

theorem mentions_list_iff {i : Int} {items : List Json} :
    Mentions i (.list items) ↔ ∃ j ∈ items, Mentions i j := by
  constructor
  · rintro ⟨⟩
    exact ⟨_, ‹_›, ‹_›⟩
  · rintro ⟨j, hj, h⟩
    exact .item hj h

theorem mentions_object_iff {i : Int} {fields : List (String × Json)} :
    Mentions i (.object fields) ↔ ∃ k v, (k, v) ∈ fields ∧ Mentions i v := by
  constructor
  · rintro ⟨⟩
    exact ⟨_, _, ‹_›, ‹_›⟩
  · rintro ⟨k, v, hv, h⟩
    exact .member hv h

/-- A value can be written when every integer in it can. -/
theorem fitsDigits_iff_mentions : (j : Json) →
    (j.fitsDigits ↔ ∀ i, Mentions i j → i.natAbs < 10 ^ Decimal.digitLimit)
  | .null | .bool _ | .float _ | .text _ => by
      simp only [fitsDigits, true_iff]
      rintro i ⟨⟩
  | .int n => by
      simp only [fitsDigits, mentions_int_iff, forall_eq, Decimal.fitsDigits_iff]
  | .list items => by
      have ih : ∀ j ∈ items, (j.fitsDigits ↔
          ∀ i, Mentions i j → i.natAbs < 10 ^ Decimal.digitLimit) :=
        fun j hj => fitsDigits_iff_mentions j
      simp only [fitsDigits, itemsFit_iff, mentions_list_iff]
      constructor
      · rintro h i ⟨j, hj, hi⟩
        exact (ih j hj).mp (h j hj) i hi
      · intro h j hj
        exact (ih j hj).mpr fun i hi => h i ⟨j, hj, hi⟩
  | .object fields => by
      have ih : ∀ k v, (k, v) ∈ fields → (v.fitsDigits ↔
          ∀ i, Mentions i v → i.natAbs < 10 ^ Decimal.digitLimit) :=
        fun k v hv => fitsDigits_iff_mentions v
      simp only [fitsDigits, fieldsFit_iff, mentions_object_iff]
      constructor
      · rintro h i ⟨k, v, hv, hi⟩
        exact (ih k v hv).mp (h k v hv) i hi
      · intro h k v hv
        exact (ih k v hv).mpr fun i hi => h i ⟨k, v, hv, hi⟩
termination_by j => sizeOf j
decreasing_by
  · have hlt := List.sizeOf_lt_of_mem hj
    simp only [list.sizeOf_spec]
    omega
  · have hlt := List.sizeOf_lt_of_mem hv
    simp only [Prod.mk.sizeOf_spec, object.sizeOf_spec] at hlt ⊢
    omega

end ConditionalForms.Json
