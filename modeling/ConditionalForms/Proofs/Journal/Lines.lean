import ConditionalForms.Journal.Line
import ConditionalForms.Proofs.Assoc.Overwriting
import ConditionalForms.Proofs.Fault.Returning
import ConditionalForms.Proofs.Json.Printable

/-! # Lines of log files

A line of the journal becomes one line of a log file, whatever its message and its context hold: the
text is made of printable ASCII, so nothing in it ends the line early. Decoding the text gives back
the message, the logger, the component and the context.
-/

namespace ConditionalForms

namespace Json

/-! ## Values that count as nothing -/

/-- A value that counts as nothing: null, false, zero, and an empty text, list or object. -/
inductive IsNothing : Json → Prop where
  | null : IsNothing .null
  | bool : IsNothing (.bool false)
  | int : IsNothing (.int 0)
  | text : IsNothing (.text "")
  | list : IsNothing (.list [])
  | object : IsNothing (.object [])

theorem IsExact.isTruthy_iff {j : Json} (h : j.IsExact) : j.isTruthy ↔ ¬ j.IsNothing := by
  constructor
  · rintro htruthy (_ | _ | _ | _ | _ | _)
    all_goals cases htruthy
  · intro hsome
    cases h with
    | null => exact absurd .null hsome
    | bool b =>
        cases b with
        | true => rfl
        | false => exact absurd .bool hsome
    | @int i _ =>
        have hi : i ≠ 0 := by
          rintro rfl
          exact hsome .int
        simp [isTruthy, hi]
    | text s =>
        have hs : s ≠ "" := by
          rintro rfl
          exact hsome .text
        simp [isTruthy, hs]
    | @list items _ =>
        cases items with
        | nil => exact absurd .list hsome
        | cons x xs => rfl
    | @object fields _ _ =>
        cases fields with
        | nil => exact absurd .object hsome
        | cons f fs => rfl

theorem fieldLevels_le_iff {fields : List (String × Json)} {n : Nat} :
    fieldLevels fields ≤ n ↔ ∀ f ∈ fields, f.2.levels ≤ n := by
  induction fields with
  | nil => simp [fieldLevels]
  | cons f fs ih => simp [fieldLevels, ih]

end Json

namespace Journal

open Json

/-! ## Sources -/

namespace Source

theorem mem_fields {s : Source} {f : String × Json} (h : f ∈ s.fields) :
    (∃ t, f.2 = .text t) ∨ f.2 = .int s.line := by
  rcases List.mem_append.mp h with h | h
  · rcases List.mem_append.mp h with h | h
    · split at h
      · cases h
      · exact .inl ⟨_, congrArg Prod.snd (List.mem_singleton.mp h)⟩
    · split at h
      · cases h
      · exact .inr (congrArg Prod.snd (List.mem_singleton.mp h))
  · split at h
    · cases h
    · split at h
      · cases h
      · exact .inl ⟨_, congrArg Prod.snd (List.mem_singleton.mp h)⟩

/-- The names of the parts of a source, in their order. -/
def fieldNames : List String := ["file"] ++ ["line"] ++ ["function"]

theorem keys_sublist_fieldNames (s : Source) : (s.fields.map (·.1)).Sublist fieldNames := by
  rw [fields, List.map_append, List.map_append]
  refine (List.Sublist.append ?_ ?_).append ?_
  · split <;> simp
  · split <;> simp
  · split
    · simp
    · split <;> simp

theorem nodup_keys_fields (s : Source) : (s.fields.map (·.1)).Nodup :=
  s.keys_sublist_fieldNames.nodup (by decide)

theorem isExact_fields {s : Source} (h : Decimal.fitsDigits s.line) :
    (object s.fields).IsExact := by
  refine .object s.nodup_keys_fields fun f hf => ?_
  rcases mem_fields hf with ⟨t, ht⟩ | hline
  · exact ht ▸ .text t
  · exact hline ▸ .int h

theorem levels_fields (s : Source) : (object s.fields).levels ≤ 2 := by
  rw [levels]
  refine Nat.succ_le_succ (fieldLevels_le_iff.mpr fun f hf => ?_)
  rcases mem_fields hf with ⟨t, ht⟩ | hline
  · simp [ht, levels]
  · simp [hline, levels]

end Source

namespace Line

variable {l : Line} {timestamp message : String}

/-! ## Speakers -/

/-- Who speaks in a line: the component that is named, or else what stands after the last dot in the
name of the logger. -/
inductive Speaks (l : Line) : String → Prop where
  | own {name : String} (h : l.component = some name) : Speaks l name
  | whole (h : l.component = none) (hdot : '.' ∉ l.logger.toList) : Speaks l l.logger
  | last {path name : String} (h : l.component = none) (hlogger : l.logger = path ++ "." ++ name)
      (hdot : '.' ∉ name.toList) : Speaks l name

theorem forall_ne_dot {cs : List Char} (h : '.' ∉ cs) : ∀ c ∈ cs, decide (c ≠ '.') := by
  intro c hc
  have hne : c ≠ '.' := fun heq => h (heq ▸ hc)
  simpa using hne

theorem lastPart_of_notMem {s : String} (h : '.' ∉ s.toList) : lastPart s = s := by
  have hall := List.takeWhile_eq_self_iff.mpr (forall_ne_dot (mt List.mem_reverse.mp h))
  rw [lastPart, hall, List.reverse_reverse, String.ofList_toList]

theorem exists_path_of_mem {s : String} (h : '.' ∈ s.toList) :
    ∃ path, s = path ++ "." ++ lastPart s ∧ '.' ∉ (lastPart s).toList := by
  obtain ⟨back, front, hs, hback⟩ := List.eq_append_cons_of_mem (List.mem_reverse.mpr h)
  have hlast : lastPart s = String.ofList back.reverse := by
    rw [lastPart, hs, List.takeWhile_append_of_pos (forall_ne_dot hback),
      List.takeWhile_cons_of_neg (by simp), List.append_nil]
  have htext : s.toList = front.reverse ++ '.' :: back.reverse := by
    rw [← List.reverse_reverse s.toList, hs]
    simp
  refine ⟨String.ofList front.reverse, ?_, by simpa [hlast] using hback⟩
  rw [hlast, ← String.ofList_toList (s := s), htext]
  simp [String.ofList_append, String.append_assoc]

theorem speaks_speaker (l : Line) : l.Speaks l.speaker := by
  unfold speaker
  cases hcomponent : l.component with
  | some name => exact .own hcomponent
  | none =>
      by_cases hdot : '.' ∈ l.logger.toList
      · obtain ⟨path, hlogger, hlast⟩ := exists_path_of_mem hdot
        exact .last hcomponent hlogger hlast
      · exact (lastPart_of_notMem hdot).symm ▸ .whole hcomponent hdot

/-! ## The parts of a line -/

/-- The names of the fields that every line has. -/
def textNames : List String := ["timestamp", "level", "component", "logger", "message"]

/-- What the fields of a line are: texts, its context, its source, and its exception. -/
inductive Part (l : Line) : String → Json → Prop where
  | text {name : String} (hname : name ∈ textNames) (s : String) : Part l name (.text s)
  | context (h : l.context.isTruthy) : Part l "context" l.context
  | source (h : Level.warning ≤ l.level) : Part l "source" (.object l.source.fields)
  | exception (type message : String) :
      Part l "exception" (.object [("type", .text type), ("message", .text message)])

theorem part_of_mem_fields {name : String} {v : Json}
    (h : (name, v) ∈ l.fields timestamp message) : l.Part name v := by
  simp only [fields, List.mem_append, or_assoc] at h
  rcases h with h | h | h | h
  · simp only [List.mem_cons, List.not_mem_nil, or_false, Prod.mk.injEq] at h
    rcases h with ⟨rfl, rfl⟩ | ⟨rfl, rfl⟩ | ⟨rfl, rfl⟩ | ⟨rfl, rfl⟩ | ⟨rfl, rfl⟩
    all_goals exact .text (by decide) _
  · split at h
    · rename_i htruthy
      cases List.mem_singleton.mp h
      exact .context htruthy
    · cases h
  · split at h
    · rename_i hlevel
      unfold fieldUnlessEmpty at h
      split at h
      · cases h
      · cases List.mem_singleton.mp h
        exact .source hlevel
    · cases h
  · split at h
    · cases h
    · cases List.mem_singleton.mp h
      exact .exception _ _

/-- The names of the fields of a line, in their order. -/
def fieldNames : List String := textNames ++ ["context"] ++ ["source"] ++ ["exception"]

theorem keys_sublist_fieldNames (l : Line) (timestamp message : String) :
    ((l.fields timestamp message).map (·.1)).Sublist fieldNames := by
  rw [fields, List.map_append, List.map_append, List.map_append]
  refine ((List.Sublist.append ?_ ?_).append ?_).append ?_
  · exact .refl _
  · split <;> simp
  · unfold fieldUnlessEmpty
    split
    · split <;> simp
    · simp
  · split <;> simp

theorem nodup_keys_fields (l : Line) (timestamp message : String) :
    ((l.fields timestamp message).map (·.1)).Nodup :=
  (keys_sublist_fieldNames l timestamp message).nodup (by decide)

theorem isExact_fields (hcontext : l.context.IsExact)
    (hline : Level.warning ≤ l.level → Decimal.fitsDigits l.source.line)
    (timestamp message : String) :
    (object (l.fields timestamp message)).IsExact := by
  refine .object (nodup_keys_fields l timestamp message) ?_
  rintro ⟨name, v⟩ hv
  cases part_of_mem_fields hv with
  | text _ s => exact .text s
  | context _ => exact hcontext
  | source h => exact Source.isExact_fields (hline h)
  | exception type message => exact .object (by simp) (by simp [IsExact.text])

theorem levels_fields {room : Nat} (hroom : 3 ≤ room) (hcontext : l.context.levels < room) :
    (object (l.fields timestamp message)).levels ≤ room := by
  obtain ⟨room, rfl⟩ := Nat.exists_eq_add_one.mpr (by omega : 0 < room)
  rw [levels]
  refine Nat.succ_le_succ (fieldLevels_le_iff.mpr ?_)
  rintro ⟨name, v⟩ hv
  cases part_of_mem_fields hv with
  | text _ s =>
      simp only [levels]
      omega
  | context _ => exact Nat.le_of_lt_succ hcontext
  | source _ => exact l.source.levels_fields.trans (Nat.le_of_succ_le_succ hroom)
  | exception type message =>
      simp only [levels, fieldLevels]
      omega

/-! ## What a line tells -/

/-- The fields that tell a line with its message. The context is there exactly when it is something,
and the source only from warnings on. -/
structure Tells (l : Line) (message : String) (fields : List (String × Json)) : Prop where
  message : Assoc.get? fields "message" = some (.text message)
  logger : Assoc.get? fields "logger" = some (.text l.logger)
  component : ∃ name, l.Speaks name ∧ Assoc.get? fields "component" = some (.text name)
  context : ∀ v, Assoc.get? fields "context" = some v ↔ v = l.context ∧ ¬ l.context.IsNothing
  source : ∀ v, Assoc.get? fields "source" = some v → Level.warning ≤ l.level

theorem Part.of_context {name : String} {v : Json} (h : l.Part name v) (hname : name = "context") :
    v = l.context ∧ l.context.isTruthy := by
  cases h with
  | text htext _ => exact absurd (hname ▸ htext) (by decide)
  | context htruthy => exact ⟨rfl, htruthy⟩
  | source _ => exact absurd hname (by decide)
  | exception _ _ => exact absurd hname (by decide)

theorem Part.warning_le {name : String} {v : Json} (h : l.Part name v) (hname : name = "source") :
    Level.warning ≤ l.level := by
  cases h with
  | text htext _ => exact absurd (hname ▸ htext) (by decide)
  | context _ => exact absurd hname (by decide)
  | source hlevel => exact hlevel
  | exception _ _ => exact absurd hname (by decide)

theorem mem_fields_context {v : Json} :
    ("context", v) ∈ l.fields timestamp message ↔ v = l.context ∧ l.context.isTruthy := by
  constructor
  · intro h
    exact (part_of_mem_fields h).of_context rfl
  · rintro ⟨rfl, htruthy⟩
    simp [fields, htruthy]

theorem tells_fields (hcontext : l.context.IsExact) (timestamp message : String) :
    l.Tells message (l.fields timestamp message) := by
  have hget (name : String) (v : Json) := Assoc.get?_eq_some_iff (k := name) (v := v)
    (nodup_keys_fields l timestamp message)
  refine ⟨rfl, rfl, ⟨_, l.speaks_speaker, rfl⟩, fun v => ?_, fun v hv => ?_⟩
  · rw [hget, mem_fields_context, hcontext.isTruthy_iff]
  · exact (part_of_mem_fields ((hget "source" v).mp hv)).warning_le rfl

/-- The text of a line in a log file: one line of printable characters, which every reader that goes
deeper than the context reads as an object that tells the line. -/
structure Holds (l : Line) (message text : String) (fields : List (String × Json)) : Prop where
  printable : ∀ c ∈ text.toList, IsPrintable c
  tells : l.Tells message fields
  decoded : ∀ room, 3 ≤ room → l.context.levels < room →
    readWithin room text.toList = .ok (.object fields)
  /-- Documents are read as deep as `nestingLimit`. -/
  read : l.context.levels < nestingLimit → Json.read text.toList = .ok (.object fields)

theorem logText?_of_fits (ht : l.moment.timestamp? = .ok timestamp) (hm : l.message? = .ok message)
    (hfits : (object (l.fields timestamp message)).fitsDigits) :
    l.logText? = .ok ((object (l.fields timestamp message)).write .spaced) := by
  simp [logText?, toJson?, ht, hm, hfits]

/-- A line is one line of a log file and loses nothing there, if its moment has a timestamp, its
message can be filled in, and JSON holds its context and its line number exactly. -/
theorem exists_logText_holds (ht : l.moment.timestamp? = .ok timestamp)
    (hm : l.message? = .ok message) (hcontext : l.context.IsExact)
    (hline : Level.warning ≤ l.level → Decimal.fitsDigits l.source.line) :
    ∃ text fields, l.logText? = .ok text ∧ l.Holds message text fields := by
  have hexact := isExact_fields hcontext hline timestamp message
  have hdecoded (room : Nat) (hroom : 3 ≤ room) (hlevels : l.context.levels < room) :=
    readWithin_write isBlank_spaced hexact (levels_fields hroom hlevels)
  refine ⟨_, _, logText?_of_fits ht hm hexact.fitsDigits, ?_, ?_, hdecoded, ?_⟩
  · rw [write, String.toList_ofList]
    exact isPrintable_render hexact 0
  · exact tells_fields hcontext timestamp message
  · rw [read_eq]
    exact hdecoded nestingLimit (by decide)

/-- A warning that would break its line in the message, in the context and in the name of a field,
if any of them stood there as they are. -/
def brokenLine : Line where
  moment := ⟨1700000000, 250000⟩
  level := Level.warning
  logger := "dynaform.core.parser"
  template := "rule \"%s\"\nskipped"
  values := [.text "a\r\n\u2028😀\x7f"]
  context := .object [("path\n", .list [.text "\\", .int (-12), .object [("é", .null)]])]
  source := { file := "app.py", line := 1, function := some "main" }
  exception := some ("ValueError", "no \"such\" field\n")

theorem isExact_context_brokenLine : brokenLine.context.IsExact := by
  have hinner : (object [("é", .null)]).IsExact := .object (by decide) (by simp [IsExact.null])
  have hint : (int (-12)).IsExact := .int (Decimal.fitsDigits_of_natAbs_le (by decide))
  have hlist : (list [.text "\\", .int (-12), .object [("é", .null)]]).IsExact :=
    .list (by simp [IsExact.text, hint, hinner])
  exact .object (by decide) (by simpa using hlist)

theorem exists_logText_holds_brokenLine :
    brokenLine.moment.timestamp? = .ok "2023-11-14T22:13:20.250000+00:00" ∧
      brokenLine.message? = .ok "rule \"a\r\n\u2028😀\x7f\"\nskipped" ∧
        brokenLine.context.IsExact ∧ ∃ text fields, brokenLine.logText? = .ok text ∧
          brokenLine.Holds "rule \"a\r\n\u2028😀\x7f\"\nskipped" text fields := by
  have ht : brokenLine.moment.timestamp? = .ok "2023-11-14T22:13:20.250000+00:00" := by
    decide +kernel
  have hm : brokenLine.message? = .ok "rule \"a\r\n\u2028😀\x7f\"\nskipped" := by
    decide +kernel
  have hcontext := isExact_context_brokenLine
  exact ⟨ht, hm, hcontext, exists_logText_holds ht hm hcontext fun _ =>
    Decimal.fitsDigits_of_natAbs_le (by decide)⟩

end Line

end Journal

end ConditionalForms
