import ConditionalForms.Proofs.Review.LastWrite
import Mathlib.Data.Finset.Card
import Mathlib.Data.List.Nodup

/-! # Writing a payload back

Writing a payload back gives every field the last value that is for it and counts the fields that
have one, each of them once, however often it is written to. Doing it again changes nothing.
-/

namespace ConditionalForms.Review

variable {p : Payload} {form : Schema}

/-! ## The values for a field -/

/-- The payload fields whose values are for the fields of a name in the section at an index, in
payload order. -/
def feeds (p : Payload) (form : Schema) (index : Nat) (name : String) : List ReviewField :=
  (p.sections.filter (Reaches form index ·)).flatMap fun q => q.fields.filter (·.name = name)

theorem feeds_eq_sources (p : Payload) (form : Schema) : feeds p form = sources p form := by
  have htakes (index : Nat) (q : ReviewSection) :
      decide (Reaches form index q) = takesFrom form index q := by
    rw [Bool.eq_iff_iff, decide_eq_true_iff, takesFrom_iff_reaches]
  funext index name
  simp only [feeds, sources, htakes]

theorem feeds_ne_nil_iff {index : Nat} {name : String} :
    feeds p form index name ≠ [] ↔
      ∃ q ∈ p.sections, takesFrom form index q ∧ ∃ f ∈ q.fields, f.name = name := by
  simp [feeds_eq_sources, sources]

theorem writesTo_eq (p : Payload) (form : Schema) (index : Nat) (g : Field) :
    writesTo p form index g = decide (feeds p form index g.name ≠ []) := by
  rw [Bool.eq_iff_iff, decide_eq_true_iff, feeds_ne_nil_iff]
  simp [writesTo]

/-! ## Places -/

/-- The fields of a form, each as its place and its name. A place is the index of a section and that
of a field in it. -/
def placed (form : Schema) : List ((Nat × Nat) × String) :=
  (form.sections.map (·.fields.map (·.name))).zipIdx.flatMap fun sec =>
    sec.1.zipIdx.map fun g => ((sec.2, g.2), g.1)

theorem placed_congr {form form' : Schema} (h : form'.blank = form.blank) :
    placed form' = placed form := by
  have hnames := congrArg (fun u : Schema => u.sections.map (·.fields.map (·.name))) h
  simp only [Schema.blank, Section.blank, List.map_map, Function.comp_def, Field.blank] at hnames
  rw [placed, hnames, placed]

theorem nodup_placed (form : Schema) : ((placed form).map (·.1)).Nodup := by
  have hindices {α : Type} (xs : List α) : xs.zipIdx.Pairwise (·.2 ≠ ·.2) := by
    rw [← List.pairwise_map (f := Prod.snd) (R := (· ≠ ·)), List.zipIdx_map_snd]
    exact List.nodup_range'
  simp only [placed, List.map_flatMap, List.map_map, Function.comp_def]
  refine List.nodup_flatMap.mpr ⟨?_, ?_⟩
  · intro sec _
    refine List.pairwise_map.mpr ((hindices sec.1).imp ?_)
    simp
  · refine (hindices _).imp ?_
    intro sec sec' hne place hplace hplace'
    obtain ⟨g, -, rfl⟩ := List.mem_map.mp hplace
    obtain ⟨g', -, hsame⟩ := List.mem_map.mp hplace'
    exact hne (congrArg Prod.fst hsame).symm

theorem countWritten_eq_countP (p : Payload) (form : Schema) :
    countWritten p form = (placed form).countP fun g => feeds p form g.1.1 g.2 ≠ [] := by
  have hindexed (fed : Field → Bool) (gs : List Field) :
      gs.zipIdx.countP (fun g => fed g.1) = gs.countP fed := by
    rw [← Function.comp_def, ← List.countP_map, List.zipIdx_map_fst]
  simp only [countWritten, funext (writesTo_eq p form _), ← List.sum_eq_foldl, placed,
    List.countP_flatMap, List.mapIdx_eq_zipIdx_map, List.zipIdx_map, List.map_map,
    Function.comp_def, List.countP_map, Prod.map_fst, Prod.map_snd, id_eq]
  congr
  funext sec
  exact (hindexed (fun g => feeds p form sec.2 g.name ≠ []) sec.1.fields).symm

/-! ## The places written to, as they are written to -/

/-- A form that is being written to, with the places that were written to so far. -/
structure Tally where
  form : Schema
  places : List (Nat × Nat) := []

/-- The places that a field of a payload section is written to. -/
def targets (form : Schema) (q : ReviewSection) (f : ReviewField) : List (Nat × Nat) :=
  ((placed form).filter fun g => takesFrom form g.1.1 q && g.2 = f.name).map (·.1)

def Tally.write (q : ReviewSection) (t : Tally) (f : ReviewField) : Tally where
  form := writeFields f (fun i => takesFrom t.form i q) t.form
  places := t.places ++ targets t.form q f

/-- Writes a payload to a form and notes every place that it writes to. -/
def tally (p : Payload) (form : Schema) : Tally :=
  p.sections.foldl (fun t q => q.fields.foldl (Tally.write q) t) ⟨form, []⟩

theorem tally_form (p : Payload) (form : Schema) : (tally p form).form = applyValues p form := by
  refine (List.foldl_hom Tally.form fun t q => ?_).symm
  exact List.foldl_hom Tally.form fun _ _ => rfl

theorem targets_congr {form form' : Schema} (h : form'.blank = form.blank) :
    targets form' = targets form := by
  funext q f
  rw [targets, placed_congr h, takesFrom_congr (Schema.names_eq_of_blank_eq h), targets]

/-- Writing on changes no place, so each field is written to where it would have been at first. -/
theorem places_foldl_write (q : ReviewSection) (fs : List ReviewField) {t : Tally}
    (h : t.form.blank = form.blank) :
    (fs.foldl (Tally.write q) t).places = t.places ++ fs.flatMap (targets form q) ∧
      (fs.foldl (Tally.write q) t).form.blank = form.blank := by
  induction fs generalizing t with
  | nil => simp [h]
  | cons f fs ih =>
      have hblank : (t.write q f).form.blank = form.blank := by
        rw [Tally.write, writeFields_eq, Schema.blank_withValues, h]
      obtain ⟨hplaces, hafter⟩ := ih hblank
      refine ⟨?_, hafter⟩
      rw [List.foldl_cons, hplaces, Tally.write, targets_congr h, List.flatMap_cons,
        List.append_assoc]

theorem tally_places (p : Payload) (form : Schema) :
    (tally p form).places = p.sections.flatMap fun q => q.fields.flatMap (targets form q) := by
  have hrun (qs : List ReviewSection) : ∀ t : Tally, t.form.blank = form.blank →
      (qs.foldl (fun t q => q.fields.foldl (Tally.write q) t) t).places =
        t.places ++ qs.flatMap fun q => q.fields.flatMap (targets form q) := by
    induction qs with
    | nil => simp
    | cons q qs ih =>
        intro t ht
        obtain ⟨hplaces, hblank⟩ := places_foldl_write q q.fields ht
        rw [List.foldl_cons, ih _ hblank, hplaces, List.flatMap_cons, List.append_assoc]
  exact hrun p.sections ⟨form, []⟩ rfl

theorem mem_places_tally {place : Nat × Nat} :
    place ∈ (tally p form).places ↔
      ∃ g ∈ placed form, feeds p form g.1.1 g.2 ≠ [] ∧ g.1 = place := by
  simp only [tally_places, targets, feeds_ne_nil_iff, List.mem_flatMap, List.mem_map,
    List.mem_filter, Bool.and_eq_true, decide_eq_true_iff]
  constructor
  · rintro ⟨q, hq, f, hf, g, ⟨hg, htakes, hname⟩, hplace⟩
    exact ⟨g, hg, ⟨q, hq, htakes, f, hf, hname.symm⟩, hplace⟩
  · rintro ⟨g, hg, ⟨q, hq, htakes, f, hf, hname⟩, hplace⟩
    exact ⟨q, hq, f, hf, g, ⟨hg, htakes, hname.symm⟩, hplace⟩

/-- However often a field is written to, it is counted once. -/
theorem countWritten_eq_card (p : Payload) (form : Schema) :
    countWritten p form = (tally p form).places.toFinset.card := by
  let fed := (placed form).filter fun g => feeds p form g.1.1 g.2 ≠ []
  have hplaces : (tally p form).places.toFinset = (fed.map (·.1)).toFinset := by
    ext place
    simp [mem_places_tally, fed, and_assoc]
  have hnodup : (fed.map (·.1)).Nodup :=
    (nodup_placed form).sublist (List.filter_sublist.map _)
  rw [hplaces, List.toFinset_card_of_nodup hnodup, List.length_map, countWritten_eq_countP,
    List.countP_eq_length_filter]

/-! ## Writing back twice -/

theorem feeds_congr {form form' : Schema} (h : form'.blank = form.blank) :
    feeds p form' = feeds p form := by
  funext index name
  simp only [feeds_eq_sources, sources, takesFrom_congr (Schema.names_eq_of_blank_eq h)]

theorem applyValues_applyValues (p : Payload) (form : Schema) :
    applyValues p (applyValues p form) = applyValues p form := by
  have hfeeds : sources p (applyValues p form) = sources p form := by
    rw [← feeds_eq_sources, feeds_congr (blank_applyValues p form), feeds_eq_sources]
  rw [applyValues_eq p (applyValues p form), hfeeds, applyValues_eq,
    Schema.withValues_withValues]
  simp only [lastValue_lastValue]

theorem countWritten_congr {form form' : Schema} (h : form'.blank = form.blank) :
    countWritten p form' = countWritten p form := by
  simp only [countWritten_eq_countP, placed_congr h, feeds_congr h]

/-! ## What writing back does -/

/-- What writing a payload back makes of a form, and what it counts. -/
structure WrittenBack (p : Payload) (before after : Schema) (count : Nat) : Prop where
  /-- Every field has the last value that is for it, or its own, and nothing else changes. -/
  values : after = before.withValues fun index g => lastValue (feeds p before index g.name) g.value
  /-- The fields that some value is for are counted. -/
  counted : count = (placed before).countP fun g => feeds p before g.1.1 g.2 ≠ []
  /-- They are the different fields that are written to on the way. -/
  noted : (tally p before).form = after ∧ (tally p before).places.toFinset.card = count
  again : applyValues p after = after
  recounted : countWritten p after = count

theorem writtenBack (p : Payload) (form : Schema) :
    WrittenBack p form (applyValues p form) (countWritten p form) where
  values := by rw [applyValues_eq, feeds_eq_sources]
  counted := countWritten_eq_countP p form
  noted := ⟨tally_form p form, (countWritten_eq_card p form).symm⟩
  again := applyValues_applyValues p form
  recounted := countWritten_congr (blank_applyValues p form)

/-- A value for the first of two sections of a name, and one for the whole form. -/
example :
    let form : Schema := ⟨[⟨"A", none, "", [⟨"X", "", .text, none, [], .null, "", 1, {}⟩], 1, {}⟩,
      ⟨"A", none, "", [⟨"X", "", .text, none, [], .null, "", 1, {}⟩], 2, {}⟩], none⟩
    let known : ReviewSection := { name := "A", fields := [{ name := "X", value := .bool true }] }
    countWritten ⟨[known]⟩ form = 1 ∧
      countWritten ⟨[known, { known with name := "B" }]⟩ form = 2 := by
  decide

end ConditionalForms.Review
