import ConditionalForms.Proofs.Review.Setting
import ConditionalForms.Proofs.Review.Places
import Mathlib.Data.List.Induction

/-! # What a session remembers

A session is open from the last opening that succeeded until it is submitted or discarded. What it
holds is told by the operations since that opening: the payload that was opened, in which each place
that was set holds what it was set to last. A closed session refuses all operations on a payload,
and a payload that cannot be decoded changes nothing.
-/

namespace ConditionalForms.Review

namespace Session

/-! ## Histories -/

/-- The payload that an operation opens a session on, if it does. Null stands for the empty one. -/
def Action.opens? : Action → Option Payload
  | .start p => some p
  | .startData .null => some {}
  | .startData j =>
    match Payload.check j with
    | .valid p => some p
    | .invalid _ => none
  | _ => none

/-- Whether an operation is one that closes an open session. -/
def Action.closes : Action → Bool
  | .submit | .discard => true
  | _ => false

/-- The value that an operation sets at a place of a payload. -/
def Action.setsAt? (p : Payload) (place : Nat × Nat) : Action → Option Json
  | .set sectionName name value =>
    if p.place? sectionName name = some place then some value else none
  | _ => none

/-- The last opening was on a payload and the session has not been closed since then. -/
def OpenedSince (history : List Action) (p : Payload) (since : List Action) : Prop :=
  ∃ before a, history = before ++ a :: since ∧ a.opens? = some p ∧
    ∀ b ∈ since, b.opens? = none ∧ b.closes = false

/-- Some opening has not been followed by a closing. -/
def Unclosed (history : List Action) : Prop :=
  ∃ before a since, history = before ++ a :: since ∧ a.opens?.isSome ∧
    ∀ b ∈ since, b.closes = false

/-- The value that some operations set last at a place of a payload. -/
def lastSetAt (p : Payload) (as : List Action) (place : Nat × Nat) : Option Json :=
  (as.filterMap (·.setsAt? p place)).getLast?

end Session

/-- The payload after some operations: each place that was set holds the value that was set there
last. -/
def Payload.revised (p : Payload) (as : List Session.Action) : Payload :=
  p.withValues fun place f => (Session.lastSetAt p as place).getD f.value

namespace Session

/-- A part of a list that starts before its last item is that item or goes up to it. -/
theorem append_singleton_eq_append_cons_iff {α : Type} {xs before after : List α} {x y : α} :
    xs ++ [x] = before ++ y :: after ↔
      (xs = before ∧ x = y ∧ after = []) ∨
        ∃ rest, after = rest ++ [x] ∧ xs = before ++ y :: rest := by
  constructor
  · intro h
    rcases List.eq_nil_or_concat after with rfl | ⟨rest, z, rfl⟩
    · obtain ⟨rfl, rfl⟩ : xs = before ∧ x = y := by simpa using h
      exact .inl ⟨rfl, rfl, rfl⟩
    · have hsplit : xs ++ [x] = (before ++ y :: rest) ++ [z] := by simpa using h
      obtain ⟨rfl, hlast⟩ := List.append_inj' hsplit rfl
      obtain rfl := List.singleton_inj.mp hlast
      exact .inr ⟨rest, List.concat_eq_append, rfl⟩
  · rintro (⟨rfl, rfl, rfl⟩ | ⟨rest, rfl, rfl⟩)
    · rfl
    · simp

/-! ### One more operation -/

variable {history : List Action} {a : Action} {p : Payload} {since : List Action}

theorem openedSince_append_singleton : OpenedSince (history ++ [a]) p since ↔
    (a.opens? = some p ∧ since = []) ∨
      (a.opens? = none ∧ a.closes = false ∧
        ∃ rest, since = rest ++ [a] ∧ OpenedSince history p rest) := by
  simp only [OpenedSince, append_singleton_eq_append_cons_iff]
  constructor
  · rintro ⟨before, b, ⟨rfl, rfl, rfl⟩ | ⟨rest, rfl, rfl⟩, hb, hsince⟩
    · exact .inl ⟨hb, rfl⟩
    · obtain ⟨hrest, ha⟩ := List.forall_mem_append.mp hsince
      obtain ⟨hopens, hcloses⟩ := ha a (List.mem_singleton_self a)
      exact .inr ⟨hopens, hcloses, rest, rfl, before, b, rfl, hb, hrest⟩
  · rintro (⟨ha, rfl⟩ | ⟨hopens, hcloses, rest, rfl, before, b, rfl, hb, hrest⟩)
    · exact ⟨history, a, .inl ⟨rfl, rfl, rfl⟩, ha, List.forall_mem_nil _⟩
    · refine ⟨before, b, .inr ⟨rest, rfl, rfl⟩, hb, List.forall_mem_append.mpr ⟨hrest, ?_⟩⟩
      exact List.forall_mem_singleton.mpr ⟨hopens, hcloses⟩

theorem unclosed_append_singleton :
    Unclosed (history ++ [a]) ↔ a.opens?.isSome ∨ (a.closes = false ∧ Unclosed history) := by
  simp only [Unclosed, append_singleton_eq_append_cons_iff]
  constructor
  · rintro ⟨before, b, since, ⟨rfl, rfl, rfl⟩ | ⟨rest, rfl, rfl⟩, hb, hsince⟩
    · exact .inl hb
    · obtain ⟨hrest, ha⟩ := List.forall_mem_append.mp hsince
      exact .inr ⟨ha a (List.mem_singleton_self a), before, b, rest, rfl, hb, hrest⟩
  · rintro (ha | ⟨ha, before, b, rest, rfl, hb, hrest⟩)
    · exact ⟨history, a, [], .inl ⟨rfl, rfl, rfl⟩, ha, List.forall_mem_nil _⟩
    · exact ⟨before, b, rest ++ [a], .inr ⟨rest, rfl, rfl⟩, hb,
        List.forall_mem_append.mpr ⟨hrest, List.forall_mem_singleton.mpr ha⟩⟩

/-- A session was opened and not closed since exactly when there is a last such opening. -/
theorem unclosed_iff : Unclosed history ↔ ∃ p since, OpenedSince history p since := by
  induction history using List.reverseRecOn with
  | nil => simp [Unclosed, OpenedSince]
  | append_singleton history a ih =>
      simp only [unclosed_append_singleton, openedSince_append_singleton, ih]
      cases hopens : a.opens? with
      | some p => exact ⟨fun _ => ⟨p, [], .inl ⟨rfl, rfl⟩⟩, fun _ => .inl rfl⟩
      | none =>
          constructor
          · rintro (⟨⟨⟩⟩ | ⟨hcloses, p, since, h⟩)
            exact ⟨p, since ++ [a], .inr ⟨rfl, hcloses, since, rfl, h⟩⟩
          · rintro ⟨p, since, ⟨⟨⟩, -⟩ | ⟨-, hcloses, rest, -, h⟩⟩
            exact .inr ⟨hcloses, p, rest, h⟩

/-! ### Revised payloads -/

@[simp] theorem revised_nil (p : Payload) : p.revised [] = p := p.withValues_self

theorem revised_append_singleton (p : Payload) (as : List Action) (a : Action) :
    p.revised (as ++ [a]) =
      (p.revised as).withValues fun place f => (a.setsAt? p place).getD f.value := by
  have hlast (place : Nat × Nat) :
      lastSetAt p (as ++ [a]) place = (a.setsAt? p place).or (lastSetAt p as place) := by
    rw [lastSetAt, List.filterMap_append, List.getLast?_append]
    cases ha : a.setsAt? p place <;> simp [ha, lastSetAt]
  rw [Payload.revised, Payload.revised, Payload.withValues_withValues]
  congr 1
  funext place f
  rw [hlast]
  cases a.setsAt? p place <;> rfl

/-- Where values are set does not hang on the values that are there. -/
theorem setsAt?_revised (p : Payload) (as : List Action) (place : Nat × Nat) (a : Action) :
    a.setsAt? (p.revised as) place = a.setsAt? p place := by
  cases a with
  | set sectionName name value =>
      simp only [Action.setsAt?, Payload.revised, Payload.place?_withValues]
  | _ => rfl

/-! ## One operation -/

theorem step_of_opens {s : Session} {a : Action} {p : Payload} (h : a.opens? = some p) :
    s.step a = ⟨.ok (.payload p), opened p⟩ := by
  cases a with
  | start q =>
      cases h
      rfl
  | startData j =>
      cases j with
      | null =>
          cases h
          rfl
      | _ =>
          simp only [Action.opens?] at h
          split at h
          · rename_i hcheck
            cases h
            simp [step, payloadOf, Payload.ofJson, hcheck]
          · cases h
  | _ => cases h

/-- Data that is not the data of a payload is a fault, and changes nothing. -/
theorem step_of_rejected {j : Json} (h : (Action.startData j).opens? = none) :
    ∃ issues, Payload.check j = .invalid issues ∧
      ∀ s : Session, s.step (.startData j) = ⟨.error (.invalid issues), s⟩ := by
  cases j with
  | null => cases h
  | _ =>
      simp only [Action.opens?] at h
      split at h
      · cases h
      · rename_i issues hcheck
        refine ⟨issues, hcheck, fun s => ?_⟩
        simp [step, payloadOf, Payload.ofJson, hcheck]

theorem step_set_opened (q : Payload) (sectionName name : String) (value : Json) :
    (opened q).step (.set sectionName name value) =
      match q.place? sectionName name with
      | some place => ⟨.ok (.truth true), opened (q.withValueAt place value)⟩
      | none => ⟨.ok (.truth false), opened q⟩ := by
  rw [step, set_opened, Payload.set?_eq]
  cases q.place? sectionName name <;> rfl

/-- A closed session refuses what needs a payload, and stays closed. -/
theorem step_of_closed {s : Session} (h : s.held = none) (sectionName name : String)
    (value : Json) :
    s.step (.set sectionName name value) = ⟨.error closedFault, s⟩ ∧
      s.step .submit = ⟨.error closedFault, s⟩ ∧ s.step .discard = ⟨.error closedFault, s⟩ ∧
      s.step .view = ⟨.error closedFault, s⟩ := by
  obtain ⟨held⟩ := s
  obtain rfl : held = none := h
  exact ⟨rfl, rfl, rfl, rfl⟩

theorem held_step_of_closes {s : Session} {a : Action} (h : a.closes) :
    (s.step a).after.held = none := by
  obtain ⟨held⟩ := s
  cases a with
  | submit => cases held <;> rfl
  | discard => cases held <;> rfl
  | _ => cases h

/-- Other operations set a value or change nothing. -/
theorem held_step_of_keeps {s : Session} {a : Action} (hopens : a.opens? = none)
    (hcloses : a.closes = false) : (s.step a).after.held =
      s.held.map fun q => q.withValues fun place f => (a.setsAt? q place).getD f.value := by
  have hsame (hsets : ∀ q place, a.setsAt? q place = none) : s.held =
      s.held.map fun q => q.withValues fun place f => (a.setsAt? q place).getD f.value := by
    simp [hsets]
  cases a with
  | start p => cases hopens
  | startData j =>
      obtain ⟨issues, -, hstep⟩ := step_of_rejected hopens
      rw [hstep]
      exact hsame fun _ _ => rfl
  | set sectionName name value =>
      obtain ⟨held⟩ := s
      cases held with
      | none => rfl
      | some q =>
          change ((opened q).step (.set sectionName name value)).after.held = _
          rw [step_set_opened]
          cases hplace : q.place? sectionName name with
          | none => simp [Action.setsAt?, hplace, opened]
          | some place =>
              simp only [opened, Option.map_some, Action.setsAt?, hplace, Option.some.injEq,
                Payload.withValueAt]
              congr
              funext p f
              by_cases hp : p = place
              · simp [hp]
              · simp [hp, Ne.symm hp]
  | submit => cases hcloses
  | discard => cases hcloses
  | askOpen => exact hsame fun _ _ => rfl
  | view => exact hsame fun _ _ => rfl

/-! ## Runs -/

/-- The session after some operations, faults included. -/
def run (s : Session) (as : List Action) : Session := as.foldl (fun s a => (s.step a).after) s

theorem run_append_singleton (s : Session) (as : List Action) (a : Action) :
    s.run (as ++ [a]) = ((s.run as).step a).after := by
  rw [run, List.foldl_append]
  rfl

/-- A session holds just what the operations on it since the last opening have made of the payload.
-/
def Remembers (history : List Action) (s : Session) : Prop :=
  ∀ q, s.held = some q ↔ ∃ p since, OpenedSince history p since ∧ q = p.revised since

theorem remembers_nil : Remembers [] {} := by
  intro q
  simp [OpenedSince]

theorem Remembers.step {s : Session} (h : Remembers history s) (a : Action) :
    Remembers (history ++ [a]) (s.step a).after := by
  intro q
  simp only [openedSince_append_singleton]
  cases hopens : a.opens? with
  | some p =>
      rw [step_of_opens hopens]
      constructor
      · intro hq
        obtain rfl := Option.some.inj hq
        exact ⟨p, [], .inl ⟨rfl, rfl⟩, (revised_nil p).symm⟩
      · rintro ⟨p', -, ⟨hp, rfl⟩ | ⟨⟨⟩, -⟩, rfl⟩
        cases hp
        rw [revised_nil]
        rfl
  | none =>
      cases hcloses : a.closes with
      | true => simp [held_step_of_closes hcloses]
      | false =>
          rw [held_step_of_keeps hopens hcloses, Option.map_eq_some_iff]
          constructor
          · rintro ⟨r, hr, rfl⟩
            obtain ⟨p, since, hsince, rfl⟩ := (h r).mp hr
            refine ⟨p, since ++ [a], .inr ⟨rfl, rfl, since, rfl, hsince⟩, ?_⟩
            simp only [revised_append_singleton, setsAt?_revised]
          · rintro ⟨p, -, ⟨⟨⟩, -⟩ | ⟨-, -, since, rfl, hsince⟩, rfl⟩
            refine ⟨p.revised since, (h _).mpr ⟨p, since, hsince, rfl⟩, ?_⟩
            simp only [revised_append_singleton, setsAt?_revised]

theorem remembers_run (history : List Action) : Remembers history (run {} history) := by
  induction history using List.reverseRecOn with
  | nil => exact remembers_nil
  | append_singleton history a ih =>
      rw [run_append_singleton]
      exact ih.step a

theorem Remembers.isOpen_iff {s : Session} (h : Remembers history s) :
    s.isOpen ↔ Unclosed history := by
  rw [unclosed_iff, isOpen, Option.isSome_iff_exists]
  constructor
  · rintro ⟨q, hq⟩
    obtain ⟨p, since, hsince, -⟩ := (h q).mp hq
    exact ⟨p, since, hsince⟩
  · rintro ⟨p, since, hsince⟩
    exact ⟨_, (h _).mpr ⟨p, since, hsince, rfl⟩⟩

/-- What a session comes to by its history, and what it answers to one more operation. -/
structure Account (history : List Action) (s : Session) : Prop where
  isOpen_iff : s.isOpen ↔ Unclosed history
  askOpen : s.step .askOpen = ⟨.ok (.truth s.isOpen), s⟩
  refuses : s.isOpen = false → ∀ sectionName name value,
    s.step (.set sectionName name value) = ⟨.error closedFault, s⟩ ∧
      s.step .submit = ⟨.error closedFault, s⟩ ∧ s.step .discard = ⟨.error closedFault, s⟩ ∧
      s.step .view = ⟨.error closedFault, s⟩
  opens : ∀ a p, a.opens? = some p → s.step a = ⟨.ok (.payload p), opened p⟩
  rejects : ∀ j, (Action.startData j).opens? = none →
    ∃ issues, Payload.check j = .invalid issues ∧
      s.step (.startData j) = ⟨.error (.invalid issues), s⟩
  /-- Setting a value changes one place, and nothing where no field has the name. -/
  sets : ∀ q, s.held = some q → ∀ sectionName name value,
    s.step (.set sectionName name value) =
      match q.place? sectionName name with
      | some place => ⟨.ok (.truth true), opened (q.withValueAt place value)⟩
      | none => ⟨.ok (.truth false), s⟩
  /-- The payload of an open session is the one that was opened last, revised since. -/
  hands : ∀ p since, OpenedSince history p since →
    s.held = some (p.revised since) ∧
      s.step .view = ⟨.ok (.payload (p.revised since)), s⟩ ∧
      s.step .submit = ⟨.ok (.payload (p.revised since)), {}⟩ ∧
      s.step .discard = ⟨.ok .done, {}⟩

/-- After any operations on a new session, whether they succeeded or not, the session is as its
history tells. -/
theorem account_of_run (history : List Action) : Account history (run {} history) := by
  have hremembers := remembers_run history
  generalize run {} history = s at hremembers
  exact
    { isOpen_iff := hremembers.isOpen_iff
      askOpen := rfl
      refuses := fun hclosed => step_of_closed (by simpa [isOpen] using hclosed)
      opens := fun a p h => step_of_opens h
      rejects := fun j h => by
        obtain ⟨issues, hissues, hstep⟩ := step_of_rejected h
        exact ⟨issues, hissues, hstep s⟩
      sets := fun q hq sectionName name value => by
        obtain rfl : s = opened q := congrArg Session.mk hq
        exact step_set_opened q sectionName name value
      hands := fun p since h => by
        have hheld := (hremembers _).mpr ⟨p, since, h, rfl⟩
        obtain rfl : s = opened (p.revised since) := congrArg Session.mk hheld
        exact ⟨rfl, rfl, rfl, rfl⟩ }

-- Setting a value on the closed session and opening it on a number are faults and change nothing.
example :
    run {} [
      .set "Visit" "Notes" (.text "early"),
      .start { sections := [
        { name := "Visit", fields := [{ name := "Notes" }, { name := "Notes" }] }] },
      .set "Visit" "Notes" (.text "first"),
      .startData (.int 1),
      .set "Visit" "Notes" (.text "last")] =
    opened { sections := [
      { name := "Visit", fields := [
          { name := "Notes", value := .text "last" }, { name := "Notes" }] }] } := rfl

end Session

end ConditionalForms.Review
