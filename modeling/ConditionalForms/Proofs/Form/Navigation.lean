import ConditionalForms.Proofs.Form.Wrapping
import ConditionalForms.Proofs.Live.Loading

/-! # Responses of any shape

The rows of a response are found by asking one value after another for a member, and its messages by
going through its errors. A value that has no members, or cannot be gone through, is a fault. If all
of a response can be written, there is no other.
-/

namespace ConditionalForms

/-! ## Members of any value -/

namespace Json

/-- A value can be asked for its members when it is an object or counts as missing. -/
def HasMembers (j : Json) : Prop := j.isTruthy → ∃ fields, j = object fields

/-- The member of a value under a key, null if there is none. -/
def member (key : String) : Json → Json
  | object fields => (Assoc.get? fields key).getD .null
  | _ => .null

/-- Each value on the way down some keys can be asked for its members, and the value at the end has
a property. -/
def Descends (p : Json → Prop) : List String → Json → Prop
  | [], j => p j
  | key :: keys, j => j.HasMembers ∧ Descends p keys (j.member key)

theorem hasMembers_text_iff {s : String} : (text s).HasMembers ↔ s = "" := by
  simp [HasMembers, isTruthy]

theorem mem_of_get? {fields : List (String × Json)} {key : String} {v : Json}
    (h : Assoc.get? fields key = some v) : (key, v) ∈ fields := by
  obtain ⟨f, hf, rfl⟩ := Option.map_eq_some_iff.mp h
  have hkey : f.1 = key := by simpa using List.find?_some hf
  subst hkey
  exact List.mem_of_find?_eq_some hf

theorem display?_of_fitsDigits {j : Json} (h : j.fitsDigits) :
    j.display? = .ok (String.ofList j.display) := by
  rw [display?, if_pos h]

theorem fitsDigits_getD {fields : List (String × Json)} (h : fieldsFit fields) (key : String) :
    ((Assoc.get? fields key).getD .null).fitsDigits := by
  cases hget : Assoc.get? fields key with
  | none => rfl
  | some v => exact fieldsFit_iff.mp h key v (mem_of_get? hget)

theorem fitsDigits_member {j : Json} (h : j.fitsDigits) (key : String) :
    (j.member key).fitsDigits := by
  cases j with
  | object fields => exact fitsDigits_getD h key
  | _ => rfl

end Json

/-! ## Rows that can be written -/

namespace Row

theorem writable_of_fieldsFit {fields : List (String × Json)} (h : Json.fieldsFit fields) :
    Writable fields := by
  rw [← textIssues_eq_nil_iff, textIssues, List.flatMap_eq_nil_iff]
  intro column _
  rw [columnIssues_eq_nil_iff]
  intro k v hfind
  obtain ⟨key, -, hkey⟩ := List.exists_of_findSome?_eq_some hfind
  obtain ⟨w, hw, hkv⟩ := Option.map_eq_some_iff.mp hkey
  obtain ⟨rfl, rfl⟩ := Prod.mk.inj hkv
  exact Json.fieldsFit_iff.mp h key w (Json.mem_of_get? hw)

theorem ofJson_of_fieldsFit {fields : List (String × Json)} (h : Json.fieldsFit fields) :
    ofJson (.object fields) = .ok (ofColumns fields) :=
  ofRecord_object_of_writable (writable_of_fieldsFit h)

end Row

namespace Response

theorem fieldsFit_unwrap {fields : List (String × Json)} (h : Json.fieldsFit fields) :
    Json.fieldsFit (unwrap fields) := by
  rw [Json.fieldsFit_iff] at h ⊢
  intro k v hv
  obtain ⟨f, hf, hfv⟩ := List.mem_map.mp hv
  obtain ⟨rfl, rfl⟩ := Prod.mk.inj hfv
  have hcell := h f.1 f.2 hf
  cases hf2 : f.2 with
  | object inner =>
      rw [hf2] at hcell
      exact Json.fitsDigits_getD hcell "value"
  | _ =>
      rw [hf2] at hcell
      exact hcell

/-! ## What a value holds -/

/-- The faults of values that have another shape than they should. -/
def IsMisshapen (fault : Fault) : Prop := fault = .notAnObject ∨ fault = .unsuitable

open Fault (ReturnsIff)

/-- What a value holds can be gone through, unless it is a number or a truth value that does not
count as missing. -/
def Enumerable : Json → Prop
  | .list _ | .object _ | .text _ => True
  | j => ¬j.isTruthy

theorem returnsIff_elements? (j : Json) : ReturnsIff (Enumerable j) IsMisshapen (elements? j) := by
  by_cases htruthy : j.isTruthy
  · rw [elements?, if_pos htruthy]
    cases j with
    | list _ | object _ | text _ => exact .of_returns trivial ⟨_, rfl⟩
    | _ => exact .of_fault (not_not.mpr htruthy) ⟨_, .inr rfl, rfl⟩
  · rw [elements?, if_neg htruthy]
    refine .of_returns ?_ ⟨[], rfl⟩
    cases j with
    | list _ | object _ | text _ => trivial
    | _ => exact htruthy

theorem fitsDigits_of_elements?_eq_ok {j : Json} {items : List Json} (hj : j.fitsDigits)
    (h : elements? j = .ok items) : ∀ item ∈ items, item.fitsDigits := by
  rw [elements?] at h
  split at h
  · cases j with
    | list _ =>
        cases h
        exact Json.itemsFit_iff.mp hj
    | object _ | text _ =>
        cases h
        exact List.forall_mem_map.mpr fun _ _ => rfl
    | _ => cases h
  · cases h
    simp

/-! ## Rows -/

theorem member?_of_hasMembers {j : Json} (h : j.HasMembers) (key : String) :
    member? j key = .ok (j.member key) := by
  cases htruthy : j.isTruthy with
  | true =>
      obtain ⟨fields, rfl⟩ := h htruthy
      simp [member?, htruthy, Json.member]
  | false =>
      cases j with
      | object fields =>
          have hfields : fields = [] := by simpa [Json.isTruthy] using htruthy
          subst hfields
          rfl
      | _ => simp [member?, htruthy, Json.member]

theorem member?_of_not_hasMembers {j : Json} (h : ¬j.HasMembers) (key : String) :
    member? j key = .error .notAnObject := by
  obtain ⟨htruthy, hobject⟩ := Classical.not_imp.mp h
  cases j with
  | object fields => exact absurd ⟨fields, rfl⟩ hobject
  | _ => simp [member?, htruthy]

/-- Values that can be written go on being so on the way down. -/
theorem returnsIff_descend? {α : Type} {p : Json → Prop} {f : Json → Except Fault α}
    (hf : ∀ j, j.fitsDigits → ReturnsIff (p j) IsMisshapen (f j)) (keys : List String) {j : Json}
    (hj : j.fitsDigits) : ReturnsIff (j.Descends p keys) IsMisshapen (descend? keys j >>= f) := by
  induction keys generalizing j with
  | nil => exact hf j hj
  | cons key keys ih =>
      by_cases hmembers : j.HasMembers
      · have hstep : descend? (key :: keys) j >>= f = descend? keys (j.member key) >>= f := by
          rw [descend?, List.foldlM_cons, member?_of_hasMembers hmembers, Fault.ok_bind]
          rfl
        rw [hstep]
        exact (ih (Json.fitsDigits_member hj key)).congr (by simp [Json.Descends, hmembers])
      · have hstep : descend? (key :: keys) j >>= f = .error .notAnObject := by
          rw [descend?, List.foldlM_cons, member?_of_not_hasMembers hmembers]
          rfl
        rw [hstep]
        exact .of_fault (fun h => hmembers h.1) ⟨_, .inl rfl, rfl⟩

theorem returnsIff_edgeRows? {edges : List Json} (h : ∀ edge ∈ edges, edge.fitsDigits) :
    ReturnsIff (∀ edge ∈ edges, edge.HasMembers) IsMisshapen (edgeRows? edges) := by
  induction edges with
  | nil => exact .of_returns (by simp) ⟨[], rfl⟩
  | cons edge edges ih =>
      obtain ⟨hedge, hedges⟩ := List.forall_mem_cons.mp h
      by_cases hmembers : edge.HasMembers
      · refine ReturnsIff.congr ?_
          ((and_iff_right hmembers).symm.trans List.forall_mem_cons.symm)
        have hnode := Json.fitsDigits_member hedge "node"
        rw [edgeRows?, member?_of_hasMembers hmembers, Fault.ok_bind]
        split
        · rename_i fields hfields
          rw [hfields] at hnode
          rw [Row.ofJson_of_fieldsFit (fieldsFit_unwrap hnode), Fault.ok_bind]
          exact (ih hedges).map (Row.ofColumns (unwrap fields) :: ·)
        · exact ih hedges
      · rw [edgeRows?, member?_of_not_hasMembers hmembers, Fault.error_bind]
        exact .of_fault (fun hall => hmembers (hall edge (by simp))) ⟨_, .inl rfl, rfl⟩

/-- What a value holds can be asked for members, item by item. The names of an object are texts, so
that they have to be empty, and no character of a text has members. -/
def EdgesReadable : Json → Prop
  | .list edges => ∀ edge ∈ edges, edge.HasMembers
  | .object fields => ∀ f ∈ fields, f.1 = ""
  | j => ¬j.isTruthy

theorem edgesReadable_of_not_isTruthy {j : Json} (h : ¬j.isTruthy) : EdgesReadable j := by
  cases j with
  | list edges =>
      have hedges : edges = [] := by simpa [Json.isTruthy] using h
      simp [EdgesReadable, hedges]
  | object fields =>
      have hfields : fields = [] := by simpa [Json.isTruthy] using h
      simp [EdgesReadable, hfields]
  | _ => exact h

theorem not_hasMembers_of_mem_characters {s : String} {j : Json} (h : j ∈ Row.characters s) :
    ¬j.HasMembers := by
  obtain ⟨c, -, rfl⟩ := List.mem_map.mp h
  rw [Json.hasMembers_text_iff]
  simp

theorem returnsIff_edges {j : Json} (hj : j.fitsDigits) :
    ReturnsIff (EdgesReadable j) IsMisshapen (elements? j >>= edgeRows?) := by
  by_cases htruthy : j.isTruthy
  · have hfits (items : List Json) : elements? j = .ok items → ∀ item ∈ items, item.fitsDigits :=
      fitsDigits_of_elements?_eq_ok hj
    rw [elements?, if_pos htruthy] at *
    cases j with
    | list edges => exact returnsIff_edgeRows? (hfits edges rfl)
    | object fields =>
        refine (returnsIff_edgeRows? (hfits _ rfl)).congr ?_
        simp only [List.forall_mem_map, Json.hasMembers_text_iff, EdgesReadable]
    | text s =>
        have hsome : Row.characters s ≠ [] := by simpa [Row.characters, Json.isTruthy] using htruthy
        obtain ⟨c, hc⟩ := List.exists_mem_of_ne_nil _ hsome
        refine (returnsIff_edgeRows? (hfits _ rfl)).congr (iff_of_false ?_ (not_not.mpr htruthy))
        exact fun hall => not_hasMembers_of_mem_characters hc (hall c hc)
    | _ => exact .of_fault (not_not.mpr htruthy) ⟨_, .inr rfl, rfl⟩
  · rw [elements?, if_neg htruthy]
    exact .of_returns (edgesReadable_of_not_isTruthy htruthy) ⟨[], rfl⟩

/-- Data leads to edges that can be gone through. -/
def Navigable (objectName : String) (data : Json) : Prop :=
  data.Descends EdgesReadable (edgePath objectName)

/-- Data that can be written has rows exactly when it can be followed down to its edges. -/
theorem returnsIff_rows? (objectName : String) {data : Json} (hdata : data.fitsDigits) :
    ReturnsIff (Navigable objectName data) IsMisshapen (rows? data objectName) := by
  have hrows : rows? data objectName =
      descend? (edgePath objectName) data >>= fun j => elements? j >>= edgeRows? := by
    rw [rows?, edges?_eq, bind_assoc]
  rw [hrows]
  exact returnsIff_descend? (fun _ => returnsIff_edges) _ hdata

/-! ## Messages -/

theorem exists_errorText? {j : Json} (h : j.fitsDigits) : ∃ text, errorText? j = .ok text := by
  cases j with
  | object fields =>
      rw [errorText?]
      cases hget : Assoc.get? fields "message" with
      | none => exact ⟨_, Json.display?_of_fitsDigits h⟩
      | some v =>
          have hv := Json.fieldsFit_iff.mp h _ v (Json.mem_of_get? hget)
          exact ⟨_, Json.display?_of_fitsDigits hv⟩
  | _ => exact ⟨_, Json.display?_of_fitsDigits h⟩

theorem errorTexts?_eq {errors : Json} (h : ∀ s, errors ≠ .text s) :
    errorTexts? errors = elements? errors >>= fun items => items.mapM errorText? := by
  cases errors with
  | text s => exact absurd rfl (h s)
  | _ => rfl

/-- Errors that can be written have messages exactly when they can be gone through. -/
theorem returnsIff_errorTexts? {errors : Json} (herrors : errors.fitsDigits) :
    ReturnsIff (Enumerable errors) IsMisshapen (errorTexts? errors) := by
  by_cases htext : ∃ s, errors = .text s
  · obtain ⟨s, rfl⟩ := htext
    exact .of_returns trivial ⟨_, rfl⟩
  · rw [errorTexts?_eq (not_exists.mp htext)]
    refine ((returnsIff_elements? errors).bind_of_eq fun items hitems => ?_).congr
      (and_iff_left trivial)
    have hfits := fitsDigits_of_elements?_eq_ok herrors hitems
    have htexts : ReturnsIff (∀ item ∈ items, True) IsMisshapen (items.mapM errorText?) :=
      .mapM fun item hitem => .of_returns trivial (exists_errorText? (hfits item hitem))
    exact htexts.congr (iff_of_true (fun _ _ => trivial) trivial)

end Response

end ConditionalForms
