import ConditionalForms.Journal.Logbook
import ConditionalForms.Proofs.Fault.Returning

/-! # The names of components

Components ask a logbook for their loggers and speak through them. The name of a logger is folded,
so that several components may share one; it carries the name of the component that asked first, in
log files and on the console. A component keeps its own name exactly when it is the first of those
that share its logger.
-/

namespace ConditionalForms.Journal

/-! ## Lines that carry a name -/

namespace Line

/-- The time of day in front of a line on the console. -/
def stamp (clock : String) : Style → String
  | .plain => "[" ++ clock ++ "]"
  | .coloured => colourCode "2" ++ clock ++ colourEnd

/-- The name of a component on the console. -/
def tag (name : String) : Style → String
  | .plain => "[" ++ name ++ "]"
  | .coloured => colourCode "34" ++ "[" ++ name ++ "]" ++ colourEnd

/-- A line carries a name as its component, in log files as well as on the console. -/
structure Carries (l : Line) (name : String) : Prop where
  given : l.component = some name
  file : ∀ text, l.logText? = .ok text → ∃ fields, text = (Json.object fields).write .spaced ∧
    Assoc.get? fields "component" = some (.text name)
  console : ∀ style text, l.consoleText? style = .ok text → ∃ clock rest,
    l.moment.clock? = .ok clock ∧ text = stamp clock style ++ " " ++ tag name style ++ rest

theorem exists_heading_eq (l : Line) (clock : String) (style : Style) :
    ∃ rest, l.heading clock style = stamp clock style ++ " " ++ tag l.speaker style ++ rest := by
  cases style with
  | plain => exact ⟨_, by simp [heading, stamp, tag, String.append_assoc]; rfl⟩
  | coloured => exact ⟨_, by simp [heading, stamp, tag, String.append_assoc]; rfl⟩

theorem exists_fields_of_logText {l : Line} {text : String} (h : l.logText? = .ok text) :
    ∃ timestamp message, text = (Json.object (l.fields timestamp message)).write .spaced := by
  simp only [logText?, toJson?, Fault.bind_eq_ok_iff] at h
  obtain ⟨j, ⟨timestamp, -, message, -, hj⟩, htext⟩ := h
  cases hj
  split at htext
  · cases htext
    exact ⟨timestamp, message, rfl⟩
  · cases htext

/-- A line carries the name of its component. -/
theorem carries_iff {l : Line} {name : String} : l.Carries name ↔ l.component = some name := by
  refine ⟨Carries.given, fun h => ⟨h, ?_, ?_⟩⟩
  all_goals have hspeaker : l.speaker = name := by rw [speaker, h, Option.getD_some]
  · intro text htext
    obtain ⟨timestamp, message, rfl⟩ := exists_fields_of_logText htext
    exact ⟨_, rfl, hspeaker ▸ rfl⟩
  · intro style text htext
    simp only [consoleText?, Fault.bind_eq_ok_iff] at htext
    obtain ⟨clock, hclock, message, -, htext⟩ := htext
    cases htext
    obtain ⟨rest, hheading⟩ := l.exists_heading_eq clock style
    refine ⟨clock, rest ++ " " ++ message, hclock, ?_⟩
    rw [hheading, hspeaker]
    simp only [String.append_assoc]

end Line

/-! ## Asking and speaking -/

/-- What components do with a logbook: they ask for their logger, and speak through it. -/
inductive Call where
  | ask (component : String)
  | say (component : String) (origin : Origin) (level : Int) (message : String)
      (context : Option Json)

/-- The components that asked for their logger, in the order in which they did. -/
def Call.asked (calls : List Call) : List String :=
  calls.filterMap fun
    | .ask component => some component
    | .say .. => none

namespace Logbook

variable (b : Logbook)

def step : Call → Logbook
  | .ask component => b.withComponent component
  | .say component origin level message context =>
    b.log origin ⟨level, loggerName component, message, context⟩

def run (calls : List Call) : Logbook := calls.foldl step b

/-- The line that is made of what a component says through its logger. -/
def said (component : String) (origin : Origin) (level : Int) (message : String)
    (context : Option Json) : Line :=
  b.lineOf origin ⟨level, loggerName component, message, context⟩

theorem isOwn_loggerName (component : String) : isOwn (loggerName component) := by
  simp [isOwn, loggerName]

/-- What a component says goes as that line to every outlet that lets it through. -/
theorem step_say {o : Outlets} (houtlets : b.outlets = some o) {level : Int} (h : o.admits level)
    (component : String) (origin : Origin) (message : String) (context : Option Json) :
    b.step (.say component origin level message context) =
      b.send o (b.said component origin level message context) := by
  simp [step, log, isOwn_loggerName, houtlets, h, said]

@[simp] theorem components_showLine (l : Line) : (b.showLine l).components = b.components := by
  unfold showLine
  split <;> rfl

@[simp] theorem components_fileLine (file : Rolling) (l : Line) :
    (b.fileLine file l).components = b.components := by
  unfold fileLine
  split <;> rfl

@[simp] theorem components_send (o : Outlets) (l : Line) :
    (b.send o l).components = b.components := by
  unfold send
  split
  · split <;> simp
  · split <;> simp

/-- Nothing that is said changes which component speaks through which logger. -/
@[simp] theorem components_log (origin : Origin) (e : Entry) :
    (b.log origin e).components = b.components := by
  unfold log
  split
  · split <;> simp
  · split <;> rfl

/-- A logger that has a component keeps it. -/
theorem lookup_withComponent (component name : String) :
    (b.withComponent component).components.lookup name =
      (b.components.lookup name).or ([component].find? (loggerName · = name)) := by
  unfold withComponent
  dsimp only
  by_cases hname : loggerName component = name
  · subst hname
    cases hlookup : b.components.lookup (loggerName component) with
    | some first => simp [hlookup]
    | none => simp [hlookup, List.lookup_append]
  · have hother : (name == loggerName component) = false := by simpa using Ne.symm hname
    split
    · simp [hname]
    · simp [hname, List.lookup_append, List.lookup_cons, hother]

theorem lookup_run (calls : List Call) (name : String) :
    (b.run calls).components.lookup name =
      (b.components.lookup name).or ((Call.asked calls).find? (loggerName · = name)) := by
  induction calls generalizing b with
  | nil => simp [run, Call.asked]
  | cons call calls ih =>
      rw [run, List.foldl_cons, ← run, ih]
      cases call with
      | ask component =>
          rw [step, lookup_withComponent, Option.or_assoc, ← List.find?_append]
          rfl
      | say component origin level message context =>
          rw [step, components_log]
          rfl

/-! ## The first that asked -/

/-- The first of some components that has the same logger as another. -/
def IsFirst (names : List String) (component name : String) : Prop :=
  ∃ earlier later, names = earlier ++ name :: later ∧ loggerName name = loggerName component ∧
    ∀ other ∈ earlier, loggerName other ≠ loggerName component

theorem isFirst_iff {names : List String} {component name : String} :
    IsFirst names component name ↔
      names.find? (loggerName · = loggerName component) = some name := by
  rw [List.find?_eq_some_iff_append]
  constructor
  · rintro ⟨earlier, later, hnames, hname, hearlier⟩
    exact ⟨by simpa using hname, earlier, later, hnames, by simpa using hearlier⟩
  · rintro ⟨hname, earlier, later, hnames, hearlier⟩
    exact ⟨earlier, later, hnames, by simpa using hname, by simpa using hearlier⟩

/-- One of the components that asked is the first with its logger. -/
theorem exists_isFirst {names : List String} {component : String} (h : component ∈ names) :
    ∃ name, IsFirst names component name := by
  simp only [isFirst_iff, ← Option.isSome_iff_exists, List.find?_isSome]
  exact ⟨component, h, by simp⟩

/-- What a component says in a logbook goes, as one and the same line, to every outlet that lets it
through, and the line carries a name and no other. -/
structure SaysAs (b : Logbook) (component name : String) : Prop where
  carries : ∀ origin level message context other,
    (b.said component origin level message context).Carries other ↔ other = name
  sent : ∀ origin level message context o, b.outlets = some o → o.admits level →
    b.step (.say component origin level message context) =
      b.send o (b.said component origin level message context)

/-- After any calls, a component that asked for its logger speaks under the name of the first one
that asked for the same logger. -/
theorem exists_saysAs_first {b : Logbook} (hb : b.components = []) (calls : List Call)
    {component : String} (hasked : .ask component ∈ calls) :
    ∃ first, IsFirst (Call.asked calls) component first ∧ (b.run calls).SaysAs component first := by
  have hmem : component ∈ Call.asked calls := List.mem_filterMap.mpr ⟨_, hasked, rfl⟩
  obtain ⟨first, hfirst⟩ := exists_isFirst hmem
  have hgiven : (b.run calls).components.lookup (loggerName component) = some first := by
    rw [lookup_run, hb, isFirst_iff.mp hfirst]
    rfl
  refine ⟨first, hfirst, ?_, ?_⟩
  · intro origin level message context other
    rw [Line.carries_iff, said, lineOf, hgiven, Option.some.injEq, eq_comm]
  · intro origin level message context o houtlets h
    exact step_say _ houtlets h component origin message context

/-- Every component that asked for its logger speaks under its own name. -/
def KeepsNames : Prop :=
  ∀ (b : Logbook) (calls : List Call) (component : String), b.components = [] →
    .ask component ∈ calls → (b.run calls).SaysAs component component

/-- Two components whose names differ in the case of their letters alone. -/
def panels : List Call :=
  [.ask "Review Panel", .say "Review Panel" default Level.info "opened" none, .ask "review panel"]

theorem exists_saysAs_first_panels :
    ({} : Logbook).components = [] ∧ .ask "review panel" ∈ panels ∧
      ∃ first, IsFirst (Call.asked panels) "review panel" first ∧
        (run {} panels).SaysAs "review panel" first := by
  have hasked : .ask "review panel" ∈ panels := by simp [panels]
  exact ⟨rfl, hasked, exists_saysAs_first rfl panels hasked⟩

theorem not_keepsNames_panels : ¬KeepsNames := by
  intro h
  have hkept := h {} panels "review panel" rfl (by simp [panels])
  have hgiven := ((hkept.carries default Level.info "closed" none _).mpr rfl).given
  rw [said, lineOf, lookup_run] at hgiven
  exact absurd hgiven (by decide +kernel)

end Logbook

end ConditionalForms.Journal
