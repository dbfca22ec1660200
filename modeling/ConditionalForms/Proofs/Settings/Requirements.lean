import ConditionalForms.Proofs.Fault.Returning
import ConditionalForms.Settings

/-! # What is required of settings

A document of settings has to meet a list of requirements, each on the value under one key. A key
that is not there meets them all. If all are met, the settings are the texts of the document, and
defaults for those that are not there; if not, the complaint is about the key of the first that is
not met.
-/

namespace ConditionalForms

namespace Toml

/-- The value under some keys, followed from table to table. -/
def under? : List String → Fields → Option Value
  | [], _ => none
  | [key], fields => Assoc.get? fields key
  | key :: keys, fields =>
    match Assoc.get? fields key with
    | some (.table inner) => under? keys inner
    | _ => none

/-- The text under some keys, or a default. -/
def textUnder (keys : List String) (default : String) (document : Fields) : String :=
  match under? keys document with
  | some (.text s) => s
  | _ => default

namespace Value

def IsTable (v : Value) : Prop := ∃ fields, v = table fields

def IsText (v : Value) : Prop := ∃ s, v = text s

/-- A text has a property; nothing is asked of other values. -/
def TextIs (p : String → Prop) (v : Value) : Prop := ∀ s, v = text s → p s

end Value

end Toml

namespace Settings

open Toml (Value Fields under? textUnder)

/-! ## Requirements -/

/-- What is required of the value under some keys. -/
structure Requirement where
  keys : List String
  accepts : Value → Prop

/-- The keys in the form in which complaints have them. -/
def Requirement.name (r : Requirement) : String := ".".intercalate r.keys

/-- A document meets a requirement if the value is not there, or is as required. -/
def Requirement.Met (r : Requirement) (document : Fields) : Prop :=
  ∀ v, under? r.keys document = some v → r.accepts v

def dialectNames : List String := ["name", "positional"]

/-- The names of the levels that can be asked for. -/
def levelNames : List String := ["DEBUG", "INFO", "WARNING", "ERROR", "CRITICAL"]

def IsDialectName (s : String) : Prop := Text.lowered s ∈ dialectNames

def IsLevelName (s : String) : Prop := Text.uppered s ∈ levelNames

def IsName (s : String) : Prop := ¬Text.isBlankText s

/-- Everything that is required of a document, in the order in which it is looked at. -/
def requirements : List Requirement := [
  ⟨["criteria"], Value.IsTable⟩,
  ⟨["schema"], Value.IsTable⟩,
  ⟨["logging"], Value.IsTable⟩,
  ⟨["criteria", "dialect"], Value.IsText⟩,
  ⟨["criteria", "dialect"], Value.TextIs IsDialectName⟩,
  ⟨["logging", "level"], Value.IsText⟩,
  ⟨["logging", "level"], Value.TextIs IsLevelName⟩,
  ⟨["schema", "default_section"], Value.IsText⟩,
  ⟨["schema", "default_section"], Value.TextIs IsName⟩,
  ⟨["schema", "metadata_object"], Value.IsText⟩,
  ⟨["schema", "metadata_object"], Value.TextIs IsName⟩,
  ⟨["logging", "log_dir"], Value.IsText⟩]

/-- What is required of a text is met by the text that is taken, if it is met by the default. -/
theorem met_textIs_iff {document : Fields} {p : String → Prop} {keys : List String}
    {default : String} (hdefault : p default) :
    Requirement.Met ⟨keys, Value.TextIs p⟩ document ↔ p (textUnder keys default document) := by
  rw [textUnder]
  cases hget : under? keys document with
  | none => simp [Requirement.Met, hget, hdefault]
  | some v => cases v <;> simp [Requirement.Met, Value.TextIs, hget, hdefault]

/-- A requirement is the first of a list that a document does not meet. -/
inductive FirstUnmet (document : Fields) : List Requirement → Requirement → Prop where
  | here {r : Requirement} {rs : List Requirement} (h : ¬r.Met document) :
      FirstUnmet document (r :: rs) r
  | later {r r' : Requirement} {rs : List Requirement} (hmet : r.Met document)
      (h : FirstUnmet document rs r') : FirstUnmet document (r :: rs) r'

theorem exists_firstUnmet {document : Fields} {rs : List Requirement}
    (h : ¬∀ r ∈ rs, r.Met document) : ∃ r, FirstUnmet document rs r := by
  induction rs with
  | nil => exact absurd (by simp) h
  | cons r rs ih =>
      by_cases hr : r.Met document
      · obtain ⟨r', hr'⟩ := ih fun hrs => h (List.forall_mem_cons.mpr ⟨hr, hrs⟩)
        exact ⟨r', .later hr hr'⟩
      · exact ⟨r, .here hr⟩

theorem firstUnmet_append {document : Fields} {rs rs' : List Requirement} {r : Requirement}
    (h : FirstUnmet document (rs ++ rs') r) :
    FirstUnmet document rs r ∨ (∀ b ∈ rs, b.Met document) ∧ FirstUnmet document rs' r := by
  induction rs with
  | nil => exact .inr ⟨by simp, h⟩
  | cons b rs ih =>
      cases h with
      | here hb => exact .inl (.here hb)
      | later hb h =>
          rcases ih h with hfirst | ⟨hmet, hfirst⟩
          · exact .inl (.later hb hfirst)
          · exact .inr ⟨List.forall_mem_cons.mpr ⟨hb, hmet⟩, hfirst⟩

/-! ## Checks -/

/-- A check of a document: if the requirements are met, it gives a value with a property, and if
not, it complains about the first that is not. -/
structure Checks {α : Type} (path : String) (document : Fields) (rs : List Requirement)
    (p : α → Prop) (x : Except Fault α) : Prop where
  returns : (∀ r ∈ rs, r.Met document) → ∃ a, x = .ok a ∧ p a
  complains : ∀ r, FirstUnmet document rs r → ∃ text, x = .error (complain path text r.name)

namespace Checks

variable {α β : Type} {path : String} {document : Fields} {rs rs' : List Requirement}
  {p : α → Prop} {q : β → Prop} {x : Except Fault α}

theorem ok {a : α} (h : p a) : Checks path document [] p (.ok a) := by
  refine ⟨fun _ => ⟨a, rfl, h⟩, ?_⟩
  rintro r ⟨⟩

theorem single {r : Requirement} (hmet : r.Met document → ∃ a, x = .ok a ∧ p a)
    (hunmet : ¬r.Met document → ∃ text, x = .error (complain path text r.name)) :
    Checks path document [r] p x := by
  refine ⟨fun h => hmet (h r (by simp)), ?_⟩
  rintro r' (hr | ⟨-, ⟨⟩⟩)
  exact hunmet hr

/-- A check of the value under some keys. -/
theorem ofValue {keys : List String} {accepts : Value → Prop}
    (habsent : under? keys document = none → ∃ a, x = .ok a ∧ p a)
    (haccepted : ∀ v, under? keys document = some v → accepts v → ∃ a, x = .ok a ∧ p a)
    (hrefused : ∀ v, under? keys document = some v → ¬accepts v →
      ∃ text, x = .error (complain path text (".".intercalate keys))) :
    Checks path document [⟨keys, accepts⟩] p x := by
  cases hunder : under? keys document with
  | none =>
      refine .single (fun _ => habsent hunder) fun hunmet => absurd ?_ hunmet
      intro v hv
      cases hunder.symm.trans hv
  | some v =>
      refine .single (fun hmet => haccepted v hunder (hmet v hunder)) fun hunmet => ?_
      refine hrefused v hunder fun haccepts => hunmet ?_
      intro w hw
      rwa [← Option.some.inj (hunder.symm.trans hw)]

/-- A check of the text under some keys, where the default has the property. -/
theorem ofText {keys : List String} {default : String} {accepts : String → Prop}
    (hdefault : accepts default)
    (haccepted : accepts (textUnder keys default document) → ∃ a, x = .ok a ∧ p a)
    (hrefused : ¬accepts (textUnder keys default document) →
      ∃ text, x = .error (complain path text (".".intercalate keys))) :
    Checks path document [⟨keys, Value.TextIs accepts⟩] p x := by
  refine .single (fun hmet => haccepted ?_) fun hunmet => hrefused fun haccepts => hunmet ?_
  · exact (met_textIs_iff hdefault).mp hmet
  · exact (met_textIs_iff hdefault).mpr haccepts

/-- A check that the text under some keys, in some spelling, is the label of a choice. -/
theorem ofChoice {keys : List String} {default : String} {label : α → String} (choices : List α)
    {spell : String → String} (hdefault : spell default ∈ choices.map label)
    (hfound : ∀ a, choices.find? (label · = spell (textUnder keys default document)) = some a →
      x = .ok a)
    (hmissing : choices.find? (label · = spell (textUnder keys default document)) = none →
      ∃ text, x = .error (complain path text (".".intercalate keys))) :
    Checks path document [⟨keys, Value.TextIs (spell · ∈ choices.map label)⟩]
      (fun a => label a = spell (textUnder keys default document)) x := by
  cases hfind : choices.find? (label · = spell (textUnder keys default document)) with
  | none =>
      refine .ofText hdefault (fun hknown => ?_) fun _ => hmissing hfind
      obtain ⟨a, ha, hlabel⟩ := List.mem_map.mp hknown
      exact absurd hlabel (by simpa using List.find?_eq_none.mp hfind a ha)
  | some a =>
      have hlabel : label a = spell (textUnder keys default document) := by
        simpa using List.find?_some hfind
      refine .ofText hdefault (fun _ => ⟨a, hfound a hfind, hlabel⟩) fun hunknown => ?_
      exact absurd (List.mem_map.mpr ⟨a, List.mem_of_find?_eq_some hfind, hlabel⟩) hunknown

/-- A check after a check looks at its own requirements after those of the first. -/
theorem bind {f : α → Except Fault β} (hx : Checks path document rs p x)
    (hf : ∀ a, p a → Checks path document rs' q (f a)) :
    Checks path document (rs ++ rs') q (x >>= f) := by
  refine ⟨fun h => ?_, fun r h => ?_⟩
  · obtain ⟨a, rfl, ha⟩ := hx.returns fun r hr => h r (by simp [hr])
    exact (hf a ha).returns fun r hr => h r (by simp [hr])
  · rcases firstUnmet_append h with hfirst | ⟨hmet, hfirst⟩
    · obtain ⟨text, rfl⟩ := hx.complains r hfirst
      exact ⟨text, rfl⟩
    · obtain ⟨a, rfl, ha⟩ := hx.returns hmet
      exact (hf a ha).complains r hfirst

end Checks

/-! ## The checks of settings -/

section Keys

variable {path : String} {document fields : Fields} {table key default : String}

/-- The table under a key of a document has its values, if it is one or is not there. -/
def TableOf (document : Fields) (name : String) (fields : Fields) : Prop :=
  ∀ key, Assoc.get? fields key = under? [name, key] document

theorem checks_table? (path : String) (document : Fields) (name : String) :
    Checks path document [⟨[name], Value.IsTable⟩] (TableOf document name)
      (table? path document name) := by
  rw [table?]
  refine .ofValue (fun habsent => ?_) (fun v hv haccepts => ?_) fun v hv hrefuses => ?_
  · change Assoc.get? document name = none at habsent
    rw [habsent]
    refine ⟨[], rfl, fun key => ?_⟩
    simp only [under?, habsent]
    rfl
  · change Assoc.get? document name = some v at hv
    obtain ⟨fields, rfl⟩ := haccepts
    rw [hv]
    refine ⟨fields, rfl, fun key => ?_⟩
    simp only [under?, hv]
  · change Assoc.get? document name = some v at hv
    rw [hv]
    cases v with
    | table fields => exact absurd ⟨fields, rfl⟩ hrefuses
    | _ => exact ⟨_, rfl⟩

theorem checks_text? (hfields : TableOf document table fields) :
    Checks path document [⟨[table, key], Value.IsText⟩]
      (· = textUnder [table, key] default document) (text? path fields table key default) := by
  rw [text?, textUnder, hfields key]
  refine .ofValue (fun habsent => ?_) (fun v hv haccepts => ?_) fun v hv hrefuses => ?_
  · rw [habsent]
    exact ⟨default, rfl, rfl⟩
  · obtain ⟨s, rfl⟩ := haccepts
    rw [hv]
    exact ⟨s, rfl, rfl⟩
  · rw [hv]
    cases v with
    | text s => exact absurd ⟨s, rfl⟩ hrefuses
    | _ => exact ⟨_, rfl⟩

theorem checks_name? (hfields : TableOf document table fields) (hdefault : IsName default) :
    Checks path document ([⟨[table, key], Value.IsText⟩] ++ [⟨[table, key], Value.TextIs IsName⟩])
      (· = textUnder [table, key] default document) (name? path fields table key default) := by
  refine (checks_text? hfields).bind fun s hs => ?_
  subst hs
  refine .ofText hdefault (fun hname => ?_) fun hblank => ?_
  · rw [if_neg hname]
    exact ⟨_, rfl, rfl⟩
  · rw [if_pos (not_not.mp hblank)]
    exact ⟨_, rfl⟩

end Keys

theorem checks_dialect? (path : String) (document : Fields) :
    Checks path document [⟨["criteria", "dialect"], Value.TextIs IsDialectName⟩]
      (fun d => d.label = Text.lowered (textUnder ["criteria", "dialect"] "name" document))
      (dialect? path (textUnder ["criteria", "dialect"] "name" document)) := by
  have hdefault : Text.lowered "name" ∈ Rule.Dialect.all.map Rule.Dialect.label := by decide
  refine .ofChoice Rule.Dialect.all hdefault (fun d hfound => ?_) fun hmissing => ?_
  · simp only [dialect?, Rule.Dialect.ofLabel?, hfound]
  · simp only [dialect?, Rule.Dialect.ofLabel?, hmissing]
    exact ⟨_, rfl⟩

theorem checks_level? (path : String) (document : Fields) :
    Checks path document [⟨["logging", "level"], Value.TextIs IsLevelName⟩]
      (fun l => Level.name l = Text.uppered (textUnder ["logging", "level"] "INFO" document))
      (level? path (textUnder ["logging", "level"] "INFO" document)) := by
  have hdefault : Text.uppered "INFO" ∈ Level.standard.map Level.name := by decide
  refine .ofChoice Level.standard hdefault (fun l hfound => ?_) fun hmissing => ?_
  · simp only [level?, hfound]
  · simp only [level?, hmissing]
    exact ⟨_, rfl⟩

/-- The settings of a document are its texts, the dialect in lower and the level in upper case. -/
structure IsOf (s : Settings) (document : Fields) : Prop where
  dialect : s.dialect.label = Text.lowered (textUnder ["criteria", "dialect"] "name" document)
  level : Level.name s.level = Text.uppered (textUnder ["logging", "level"] "INFO" document)
  defaultSection :
    s.defaultSection = textUnder ["schema", "default_section"] "Other" document
  metadataObject :
    s.metadataObject = textUnder ["schema", "metadata_object"] "Generic_Form__mdt" document
  logDirectory : s.logDirectory = textUnder ["logging", "log_dir"] ".dynaform/logs" document

theorem checks_ofDocument? (path : String) (document : Fields) :
    Checks path document requirements (IsOf · document) (ofDocument? path document) := by
  have hsection : IsName Section.defaultName := by
    rw [IsName]
    decide
  have hobject : IsName Response.defaultObject := by
    rw [IsName]
    decide
  refine (checks_table? path document "criteria").bind fun criteria hcriteria => ?_
  refine (checks_table? path document "schema").bind fun schema hschema => ?_
  refine (checks_table? path document "logging").bind fun logging hlogging => ?_
  refine (checks_text? hcriteria).bind ?_
  rintro _ rfl
  refine (checks_dialect? path document).bind fun dialect hdialect => ?_
  refine (checks_text? hlogging).bind ?_
  rintro _ rfl
  refine (checks_level? path document).bind fun level hlevel => ?_
  refine (checks_name? hschema hsection).bind fun s hs => ?_
  refine (checks_name? hschema hobject).bind fun o ho => ?_
  refine (checks_text? hlogging).bind fun l hl => ?_
  exact .ok ⟨hdialect, hlevel, hs, ho, hl⟩

/-! ## The settings of a file -/

/-- What a document of settings leads to: settings exactly if all requirements are met, and then
those of the document; if not, a complaint with the key of the first that is not met. -/
structure Decides (path : String) (document : Fields) (x : Except Fault Settings) : Prop where
  returns_iff : (∃ s, x = .ok s) ↔ ∀ r ∈ requirements, r.Met document
  settings : ∀ s, x = .ok s → s.IsOf document
  complains : ∀ fault, x = .error fault → ∃ r text, FirstUnmet document requirements r ∧
    fault = .complaint ⟨.settings, text, some path, some r.name⟩

theorem Checks.decides {path : String} {document : Fields} {x : Except Fault Settings}
    (h : Checks path document requirements (IsOf · document) x) : Decides path document x := by
  by_cases hmet : ∀ r ∈ requirements, r.Met document
  · obtain ⟨s, rfl, hs⟩ := h.returns hmet
    refine ⟨iff_of_true ⟨s, rfl⟩ hmet, ?_, ?_⟩
    · rintro s' ⟨⟩
      exact hs
    · rintro fault ⟨⟩
  · obtain ⟨r, hr⟩ := exists_firstUnmet hmet
    obtain ⟨text, rfl⟩ := h.complains r hr
    refine ⟨iff_of_false (by simp) hmet, ?_, ?_⟩
    · rintro s ⟨⟩
    · rintro fault ⟨⟩
      exact ⟨r, text, hr, rfl⟩

theorem load?_of_document (path : String) {content : List UInt8} {cs : List Char}
    {document : Fields} (hcs : Text.Utf8.readText content = .ok cs)
    (hdocument : Toml.read cs = .ok document) :
    load? path (.bytes content) = ofDocument? (Text.normalPath path) document := by
  simp only [load?, FileState.text?, hcs, document?, hdocument, Fault.ok_bind]

/-- A file that holds a document leads to what the document leads to, whatever values it has. -/
theorem decides_of_document (path : String) {content : List UInt8} {cs : List Char}
    {document : Fields} (hcs : Text.Utf8.readText content = .ok cs)
    (hdocument : Toml.read cs = .ok document) :
    Decides (Text.normalPath path) document (load? path (.bytes content)) := by
  rw [load?_of_document path hcs hdocument]
  exact (checks_ofDocument? _ document).decides

def loudText : String :=
  "[schema]\ndefault_section = 7\n[criteria]\ndialect = \"Positional\"\n" ++
  "[logging]\nlevel = \"loud\"\n"

def loudDocument : Fields := [
  ("schema", .table [("default_section", .int 7)]),
  ("criteria", .table [("dialect", .text "Positional")]),
  ("logging", .table [("level", .text "loud")])]

/-- Of an unknown level and a section that is no text, the level is complained about. -/
theorem decides_of_document_loud :
    Text.Utf8.readText loudText.toByteArray.data.toList = .ok loudText.toList ∧
      Toml.read loudText.toList = .ok loudDocument ∧
      Decides "dynaform.toml" loudDocument
        (load? "./dynaform.toml" (.bytes loudText.toByteArray.data.toList)) ∧
      load? "./dynaform.toml" (.bytes loudText.toByteArray.data.toList) =
        .error (.complaint ⟨.settings, "Unknown log level 'LOUD'", some "dynaform.toml",
          some "logging.level"⟩) := by
  have hcs : Text.Utf8.readText loudText.toByteArray.data.toList = .ok loudText.toList := by
    decide +kernel
  have hdocument : Toml.read loudText.toList = .ok loudDocument := by
    unfold loudText
    rw [String.toList_append]
    simp only [String.reduceToList]
    rfl
  refine ⟨hcs, hdocument, decides_of_document "./dynaform.toml" hcs hdocument, ?_⟩
  rw [load?_of_document _ hcs hdocument]
  rfl

end Settings

end ConditionalForms
