import ConditionalForms.Proofs.Form.Values

/-! # The last value written

Writing a payload back goes through its fields in order. The values of a payload section are for the
first section of its name, or for the whole form when there is none, and every field of the form
ends with the last value that was written to it, or with its own.
-/

namespace ConditionalForms.Review

/-! ## Whom a payload section reaches -/

/-- Whether the values of a payload section are for the fields of the section at an index. -/
def Reaches (form : Schema) (index : Nat) (q : ReviewSection) : Prop :=
  ((∃ sec ∈ form.sections[index]?, sec.name = q.name) ∧
      ∀ earlier ∈ form.sections.take index, earlier.name ≠ q.name) ∨
    ∀ sec ∈ form.sections, sec.name ≠ q.name

instance (form : Schema) (index : Nat) (q : ReviewSection) : Decidable (Reaches form index q) :=
  inferInstanceAs (Decidable (_ ∨ _))

theorem takesFrom_iff_reaches {form : Schema} {index : Nat} {q : ReviewSection} :
    takesFrom form index q ↔ Reaches form index q := by
  unfold takesFrom
  cases hfirst : form.sections.findIdx? (·.name = q.name) with
  | none =>
      have hnone := List.findIdx?_eq_none_iff.mp hfirst
      simp only [decide_eq_false_iff_not] at hnone
      exact ⟨fun _ => .inr hnone, fun _ => rfl⟩
  | some i =>
      obtain ⟨hi, hname, hearlier⟩ := List.findIdx?_eq_some_iff_getElem.mp hfirst
      simp only [decide_eq_true_eq] at hname hearlier ⊢
      constructor
      · rintro rfl
        refine .inl ⟨⟨_, List.getElem?_eq_getElem hi, hname⟩, ?_⟩
        intro earlier hmem
        obtain ⟨j, hj, rfl⟩ := List.mem_take_iff_getElem.mp hmem
        exact hearlier j (by omega)
      · rintro (⟨⟨sec, hsec, hsame⟩, hfresh⟩ | hforeign)
        · obtain ⟨hlt, rfl⟩ := List.getElem?_eq_some_iff.mp hsec
          obtain hbefore | rfl | hafter := Nat.lt_trichotomy i index
          · have hmem : form.sections[i] ∈ form.sections.take index :=
              List.mem_take_iff_getElem.mpr ⟨i, by omega, rfl⟩
            exact absurd hname (hfresh _ hmem)
          · rfl
          · exact absurd hsame (hearlier index hafter)
        · exact absurd hname (hforeign _ (List.getElem_mem hi))

/-! ## Writing -/

/-- The value after the values of some payload fields were written over it. -/
def lastValue (fs : List ReviewField) (own : Json) : Json := (fs.getLast?.map (·.value)).getD own

@[simp] theorem lastValue_nil (own : Json) : lastValue [] own = own := rfl

theorem lastValue_append (fs gs : List ReviewField) (own : Json) :
    lastValue (fs ++ gs) own = lastValue gs (lastValue fs own) := by
  unfold lastValue
  rw [List.getLast?_append]
  cases gs.getLast? <;> rfl

theorem lastValue_cons (f : ReviewField) (fs : List ReviewField) (own : Json) :
    lastValue (f :: fs) own = lastValue fs f.value := lastValue_append [f] fs own

theorem lastValue_lastValue (fs : List ReviewField) (own : Json) :
    lastValue fs (lastValue fs own) = lastValue fs own := by
  unfold lastValue
  cases fs.getLast? <;> rfl

theorem forall_lastValue {q : Json → Prop} {fs : List ReviewField} {own : Json}
    (h : ∀ f ∈ fs, q f.value) (hown : q own) : q (lastValue fs own) := by
  unfold lastValue
  cases hlast : fs.getLast? with
  | none => exact hown
  | some f => exact h f (List.mem_of_getLast? hlast)

/-- The payload fields that write to the fields of a name in the section at an index, in order. -/
def sources (p : Payload) (form : Schema) (index : Nat) (name : String) : List ReviewField :=
  (p.sections.filter (takesFrom form index)).flatMap fun sec => sec.fields.filter (·.name = name)

theorem exists_mem_of_mem_sources {p : Payload} {form : Schema} {index : Nat} {name : String}
    {f : ReviewField} (h : f ∈ sources p form index name) : ∃ sec ∈ p.sections, f ∈ sec.fields := by
  obtain ⟨sec, hsec, hf⟩ := List.mem_flatMap.mp h
  exact ⟨sec, (List.mem_filter.mp hsec).1, (List.mem_filter.mp hf).1⟩

/-- Which sections take values from which hangs on names alone. -/
theorem takesFrom_congr {form form' : Schema}
    (h : form.sections.map (·.name) = form'.sections.map (·.name)) :
    takesFrom form = takesFrom form' := by
  have hfind (ss : List Section) (name : String) :
      ss.findIdx? (·.name = name) = (ss.map (·.name)).findIdx? (· = name) := by
    rw [List.findIdx?_map]
    rfl
  funext index p
  simp only [takesFrom, hfind, h]

theorem takesFrom_withValues (v : Nat → Field → Json) (form : Schema) :
    takesFrom (form.withValues v) = takesFrom form :=
  takesFrom_congr (Schema.names_withValues v form)

theorem writeFields_eq (f : ReviewField) (takes : Nat → Bool) (form : Schema) :
    writeFields f takes form = form.withValues fun i g =>
      if takes i && g.name = f.name then f.value else g.value := by
  have hfield (g : Field) : (if g.name = f.name then { g with value := f.value } else g) =
      { g with value := if g.name = f.name then f.value else g.value } := by
    split <;> rfl
  simp only [writeFields, Schema.withValues, hfield]
  congr 2
  funext i sec
  cases takes i <;> simp

theorem writeSection_eq (sec : ReviewSection) (fs : List ReviewField) (v : Nat → Field → Json)
    (form : Schema) :
    fs.foldl (fun form f => writeFields f (fun i => takesFrom form i sec) form)
        (form.withValues v) =
      form.withValues fun i g =>
        lastValue (if takesFrom form i sec then fs.filter (·.name = g.name) else []) (v i g) := by
  induction fs generalizing v with
  | nil => simp
  | cons f fs ih =>
      rw [List.foldl_cons, takesFrom_withValues, writeFields_eq, Schema.withValues_withValues, ih]
      congr
      funext i g
      cases takesFrom form i sec with
      | false => simp
      | true =>
          by_cases hname : g.name = f.name
          · simp [hname, lastValue_cons]
          · simp [hname, Ne.symm hname]

theorem writeSections_eq (ss : List ReviewSection) (v : Nat → Field → Json) (form : Schema) :
    ss.foldl (fun form sec =>
        sec.fields.foldl (fun form f => writeFields f (fun i => takesFrom form i sec) form) form)
        (form.withValues v) =
      form.withValues fun i g => lastValue (sources ⟨ss⟩ form i g.name) (v i g) := by
  induction ss generalizing v with
  | nil => simp [sources]
  | cons sec ss ih =>
      rw [List.foldl_cons, writeSection_eq, ih]
      congr
      funext i g
      cases htakes : takesFrom form i sec with
      | false => simp [sources, htakes]
      | true => simp [sources, htakes, lastValue_append]

/-- What writing a payload back makes of the values of a form. -/
theorem applyValues_eq (p : Payload) (form : Schema) :
    applyValues p form =
      form.withValues fun i g => lastValue (sources p form i g.name) g.value := by
  have hsections := writeSections_eq p.sections (fun _ g => g.value) form
  rwa [Schema.withValues_self] at hsections

theorem blank_applyValues (p : Payload) (form : Schema) :
    (applyValues p form).blank = form.blank := by
  rw [applyValues_eq, Schema.blank_withValues]

end ConditionalForms.Review
