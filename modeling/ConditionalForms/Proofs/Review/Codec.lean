import ConditionalForms.Proofs.Json.Checked
import ConditionalForms.Review.Payload

/-! # Payloads as data

A payload whose values are such as a user gives is encoded as data that decodes to the payload
again. Whatever decodes to a payload has such values.
-/

namespace ConditionalForms

theorem PickOption.check_encoded (o : PickOption) :
    PickOption.check (.object [("label", .text o.label), ("value", .text o.value)]) = .valid o :=
  rfl

namespace Review

open Json (optional checkList checkObject)

/-- All values of a payload are such as a user gives. -/
def Payload.IsPlain (p : Payload) : Prop :=
  ∀ sec ∈ p.sections, ∀ f ∈ sec.fields, f.value.isPlain

/-! ## Encoding, then decoding -/

theorem ReviewField.check_toJson {f : ReviewField} (h : f.value.isPlain) :
    ReviewField.check f.toJson = .valid f := by
  have hvalue : Json.checkPlain f.value.withoutInfinities = .valid f.value := by
    rw [Json.withoutInfinities_of_isPlain h, Json.checkPlain_of_isPlain h]
  have hoptions : checkList PickOption.check (.list (f.options.map fun o =>
      .object [("label", .text o.label), ("value", .text o.value)])) = .valid f.options :=
    Checked.itemsFrom_map 0 fun o _ => PickOption.check_encoded o
  have hparts : ReviewField.check f.toJson =
      ReviewField.mk
        <$> .valid f.name
        <*> .valid f.typeTag
        <*> (Json.checkPlain f.value.withoutInfinities).within (.key "value")
        <*> .valid f.rule
        <*> (Standing.mk <$> .valid f.standing.visible <*> .valid f.standing.satisfied
          <*> (Json.checkOption Json.checkText (.ofText? f.standing.detail)).within (.key "detail"))
        <*> .valid f.flags
        <*> (checkList PickOption.check (.list (f.options.map fun o =>
          .object [("label", .text o.label), ("value", .text o.value)]))).within
            (.key "comboboxOptions") := rfl
  rw [hparts, hvalue, hoptions, Json.checkOption_text]
  rfl

theorem ReviewSection.check_toJson {s : ReviewSection} (h : ∀ f ∈ s.fields, f.value.isPlain) :
    ReviewSection.check s.toJson = .valid s := by
  have hfields : checkList ReviewField.check (.list (s.fields.map (·.toJson))) = .valid s.fields :=
    Checked.itemsFrom_map 0 fun f hf => ReviewField.check_toJson (h f hf)
  have hparts : ReviewSection.check s.toJson =
      ReviewSection.mk
        <$> .valid s.name
        <*> (Json.checkOption Json.checkInt (.ofInt? s.order)).within (.key "order")
        <*> .valid s.rule
        <*> (Standing.mk <$> .valid s.standing.visible <*> .valid s.standing.satisfied
          <*> (Json.checkOption Json.checkText (.ofText? s.standing.detail)).within (.key "detail"))
        <*> (checkList ReviewField.check (.list (s.fields.map (·.toJson)))).within
          (.key "fields") := rfl
  rw [hparts, hfields, Json.checkOption_text, Json.checkOption_int]
  rfl

theorem Payload.check_toJson {p : Payload} (h : p.IsPlain) : Payload.check p.toJson = .valid p := by
  have hsections : checkList ReviewSection.check (.list (p.sections.map (·.toJson))) =
      .valid p.sections :=
    Checked.itemsFrom_map 0 fun s hs => ReviewSection.check_toJson (h s hs)
  have hparts : Payload.check p.toJson =
      Payload.mk <$> (checkList ReviewSection.check (.list (p.sections.map (·.toJson)))).within
        (.key "sections") := rfl
  rw [hparts, hsections]
  rfl

theorem Payload.ofJson_toJson {p : Payload} (h : p.IsPlain) : Payload.ofJson p.toJson = .ok p := by
  rw [Payload.ofJson, Payload.check_toJson h]

theorem Payload.toJson?_eq_ok {p : Payload} (h : p.IsPlain) : p.toJson? = .ok p.toJson := by
  have hfits : p.fitsLevels = true := by
    simp only [Payload.fitsLevels, List.all_eq_true]
    intro s hs f hf
    simp [Json.fitsLevels, Json.levels_of_isPlain (h s hs f hf), Json.levelLimit]
  rw [Payload.toJson?, if_pos hfits]

/-! ## Decoded payloads -/

theorem ReviewField.isPlain_of_check {j : Json} {f : ReviewField}
    (h : ReviewField.check j = .valid f) : f.value.isPlain := by
  cases j with
  | object o =>
      -- The value is the third part, and four more follow it.
      obtain ⟨_, _, hflags, -, rfl⟩ := Checked.seq_eq_valid_iff.mp h
      obtain ⟨_, _, hstanding, -, rfl⟩ := Checked.seq_eq_valid_iff.mp hflags
      obtain ⟨_, _, hrule, -, rfl⟩ := Checked.seq_eq_valid_iff.mp hstanding
      obtain ⟨_, _, hthird, -, rfl⟩ := Checked.seq_eq_valid_iff.mp hrule
      obtain ⟨_, value, htwo, hvalue, rfl⟩ := Checked.seq_eq_valid_iff.mp hthird
      obtain ⟨_, _, hname, -, rfl⟩ := Checked.seq_eq_valid_iff.mp htwo
      obtain ⟨_, -, rfl⟩ := Checked.map_eq_valid_iff.mp hname
      rcases Json.optional_eq_valid hvalue with ⟨j, hj⟩ | rfl
      · exact Json.isPlain_of_checkPlain hj
      · rfl
  | _ => cases h

theorem ReviewSection.isPlain_of_check {j : Json} {s : ReviewSection}
    (h : ReviewSection.check j = .valid s) : ∀ f ∈ s.fields, f.value.isPlain := by
  cases j with
  | object o =>
      -- The fields are the last part.
      obtain ⟨_, fields, hstanding, hfields, rfl⟩ := Checked.seq_eq_valid_iff.mp h
      obtain ⟨_, _, hrule, -, rfl⟩ := Checked.seq_eq_valid_iff.mp hstanding
      obtain ⟨_, _, horder, -, rfl⟩ := Checked.seq_eq_valid_iff.mp hrule
      obtain ⟨_, _, hname, -, rfl⟩ := Checked.seq_eq_valid_iff.mp horder
      obtain ⟨_, -, rfl⟩ := Checked.map_eq_valid_iff.mp hname
      rcases Json.optional_eq_valid hfields with ⟨j, hj⟩ | rfl
      · cases j with
        | list items =>
            exact Checked.forall_of_itemsFrom (fun _ _ => ReviewField.isPlain_of_check) hj
        | _ => cases hj
      · simp
  | _ => cases h

theorem Payload.isPlain_of_ofJson {j : Json} {p : Payload} (h : Payload.ofJson j = .ok p) :
    p.IsPlain := by
  unfold Payload.ofJson at h
  split at h
  · rename_i q hq
    cases h
    cases j with
    | object o =>
        obtain ⟨sections, hsections, rfl⟩ := Checked.map_eq_valid_iff.mp hq
        rcases Json.optional_eq_valid hsections with ⟨j, hj⟩ | rfl
        · cases j with
          | list items =>
              exact Checked.forall_of_itemsFrom (fun _ _ => ReviewSection.isPlain_of_check) hj
          | _ => cases hj
        · simp [Payload.IsPlain]
    | _ => cases hq
  · cases h

end Review

end ConditionalForms
