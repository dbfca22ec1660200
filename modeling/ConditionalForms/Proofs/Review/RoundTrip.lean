import ConditionalForms.Proofs.Review.History
import ConditionalForms.Proofs.Review.Snapshot

/-! # Payloads handed out and taken back

A payload is handed out as data, and a session opened on the data hands the payload back. This is so
for payloads whose values are such as a user gives, and for no others. The data of a snapshot tell
the kinds of the fields by their flags.
-/

namespace ConditionalForms.Review

/-! ## Data that carry a payload -/

/-- Data are what a payload is handed out as, and are taken back for it: decoding gives the payload,
and so does submitting a session that was opened on them, whatever was done with it before. -/
structure Payload.CarriedBy (p : Payload) (j : Json) : Prop where
  handedOut : p.toJson? = .ok j
  decoded : Payload.ofJson j = .ok p
  opened (s : Session) : s.step (.startData j) = ⟨.ok (.payload p), .opened p⟩
  submitted (s : Session) :
    (s.step (.startData j)).after.step .submit = ⟨.ok (.payload p), {}⟩

/-- The data of a payload are not null, so they open a session on what they decode to. -/
theorem Payload.opens?_toJson {p : Payload} (h : p.IsPlain) :
    (Session.Action.startData p.toJson).opens? = some p := by
  have hcheck := Payload.check_toJson h
  rw [Payload.toJson] at hcheck ⊢
  simp only [Session.Action.opens?, hcheck]

theorem Payload.carriedBy_toJson {p : Payload} (h : p.IsPlain) : p.CarriedBy p.toJson where
  handedOut := Payload.toJson?_eq_ok h
  decoded := Payload.ofJson_toJson h
  opened _ := Session.step_of_opens (Payload.opens?_toJson h)
  submitted s := by
    rw [Session.step_of_opens (Payload.opens?_toJson h)]
    rfl

/-- No data carry any other payload, for decoding turns other values into such as a user gives. -/
theorem Payload.CarriedBy.isPlain_and_eq {p : Payload} {j : Json} (h : p.CarriedBy j) :
    p.IsPlain ∧ j = p.toJson := by
  have hplain := Payload.isPlain_of_ofJson h.decoded
  exact ⟨hplain, Except.ok.inj (h.handedOut.symm.trans (Payload.toJson?_eq_ok hplain))⟩

/-! ## Flags in data -/

/-- What an object has at a key. -/
def memberAt? (key : String) : Json → Option Json
  | .object fields => Assoc.get? fields key
  | _ => none

/-- The data of a field flag a kind: the flag of that kind is true, and the flags of all other kinds
are false. -/
def FlagsKind (k : Kind) (j : Json) : Prop :=
  ∀ l : Kind, memberAt? l.flag j = some (.bool (l = k))

/-- Data have a section for each section of a form, and in it a field for each of its fields, with
the kind of that field flagged. -/
def FlagsKinds (s : Schema) (j : Json) : Prop :=
  ∃ sections, memberAt? "sections" j = some (.list sections) ∧
    List.Forall₂ (fun (sec : Section) j => ∃ fields, memberAt? "fields" j = some (.list fields) ∧
      List.Forall₂ (fun (f : Field) j => FlagsKind f.kind j) sec.fields fields) s.sections sections

/-- Each kind has a key of its own in the data of a field. -/
theorem ReviewField.flagAt_toJson (f : ReviewField) (k : Kind) :
    memberAt? k.flag f.toJson = some (.bool (f.flags.get k)) := by
  cases k <;> rfl

theorem ReviewField.flagsKind_ofField (f : Field) :
    FlagsKind f.kind (ReviewField.ofField f).toJson := by
  intro l
  rw [ReviewField.flagAt_toJson, ReviewField.ofField, KindFlags.get_ofKind]
  simp only [eq_comm]

theorem Payload.flagsKinds_ofSchema (s : Schema) : FlagsKinds s (Payload.ofSchema s).toJson := by
  refine ⟨_, rfl, ?_⟩
  simp only [Payload.ofSchema, List.map_map, List.forall₂_map_right_iff, List.forall₂_same]
  intro sec _
  refine ⟨_, rfl, ?_⟩
  simp only [ReviewSection.ofSection, List.map_map, List.forall₂_map_right_iff, List.forall₂_same]
  exact fun f _ => ReviewField.flagsKind_ofField f

/-! ## Payloads and snapshots -/

/-- A payload whose values are such as a user gives is carried by its data, and by no other; no data
carry any other payload. The snapshot of a form with such values is carried as well, and its data
flag the kinds of the form's fields. -/
theorem payloads_carried_and_kinds_flagged :
    (∀ p : Payload, p.IsPlain → p.CarriedBy p.toJson) ∧
      (∀ (p : Payload) (j : Json), p.CarriedBy j → p.IsPlain ∧ j = p.toJson) ∧
      ∀ s : Schema, s.IsPlain →
        ∃ p, Payload.ofSchema? s = .ok p ∧ p.CarriedBy p.toJson ∧ FlagsKinds s p.toJson := by
  refine ⟨fun p hp => Payload.carriedBy_toJson hp, fun p j h => h.isPlain_and_eq, fun s hs => ?_⟩
  exact ⟨.ofSchema s, Payload.ofSchema?_eq_ok hs,
    Payload.carriedBy_toJson (Payload.isPlain_ofSchema hs), Payload.flagsKinds_ofSchema s⟩

/-- A payload of values that look like others, with namesakes and with flags that no snapshot has.
-/
def lookalikes : Payload := ⟨[
  { name := "Visit", order := some (-3), rule := "visible", fields := [
      { name := "Done", value := .text "true", flags := { text := true, checkbox := true } },
      { name := "Done", value := .text "1", options := [⟨"Yes", "1"⟩, ⟨"Yes", "1"⟩] },
      { name := "", value := .text "" }] },
  { name := "Visit", standing := ⟨false, false, some ""⟩, fields := [
      { name := "Done", value := .bool true, typeTag := "checkbox" },
      { name := "Done", value := .null }] }]⟩

/-- A form with a picklist, and a checkbox that holds a text. -/
def mixedForm : Schema := {
  sections := [
    { name := "Visit", fields := [
        { name := "Done", kind := .checkbox, value := .text "true" },
        { name := "Reason", kind := .picklist, options := [⟨"Moved", "moved"⟩] }] },
    { name := "Notes" }] }

theorem lookalikes_carried_and_mixedForm_flagged :
    lookalikes.CarriedBy lookalikes.toJson ∧
      ∃ p, Payload.ofSchema? mixedForm = .ok p ∧ p.CarriedBy p.toJson ∧
        FlagsKinds mixedForm p.toJson := by
  have hpayload : lookalikes.IsPlain := by simp [Payload.IsPlain, lookalikes, Json.isPlain]
  have hform : mixedForm.IsPlain := by simp [Schema.IsPlain, mixedForm, Json.isPlain]
  exact ⟨payloads_carried_and_kinds_flagged.1 _ hpayload,
    payloads_carried_and_kinds_flagged.2.2 _ hform⟩

end ConditionalForms.Review
