import ConditionalForms.Proofs.Rule.Body
import ConditionalForms.Proofs.Rule.Grammar

/-! # The grammar of rules that name their field

A rule that names its field is read exactly when the trimmed text can be written as two names in
brackets and a body in braces. However it is written in that way, what is read is the same. Any
other text reads as no rule, and is reported unless it is blank.
-/

namespace ConditionalForms.Rule

open Text (trim trimStart)

/-! ## Ways to write a rule -/

/-- The parts of a rule that names its field: two names, blanks before the body, and in the body
blanks, operator characters, a literal and blanks. -/
structure NamedParts where
  sectionName : List Char
  fieldName : List Char
  gap : List Char
  margin : List Char
  symbol : List Char
  literal : List Char
  tail : List Char

def NamedParts.body (p : NamedParts) : List Char :=
  p.margin ++ (p.symbol ++ (p.literal ++ p.tail))

/-- A way to write a rule that names its field. -/
structure NamedParts.Writes (p : NamedParts) (cs : List Char) : Prop where
  text : cs = '[' :: (p.sectionName ++ ']' :: '.' :: '[' :: (p.fieldName ++ ']' ::
    (p.gap ++ '{' :: (p.body ++ ['}']))))
  sectionName : p.sectionName ≠ [] ∧ ']' ∉ p.sectionName
  fieldName : p.fieldName ≠ [] ∧ ']' ∉ p.fieldName
  gap : Blanks p.gap
  margin : Blanks p.margin
  symbol : ∀ c ∈ p.symbol, isOperatorChar c
  literal : ∀ c ∈ p.literal, isBrace c = false
  tail : Blanks p.tail

/-- Characters of a class without braces are no braces. -/
theorem isBrace_eq_false {p : Char → Bool} (hopen : p '{' = false) (hclose : p '}' = false)
    {c : Char} (h : p c) : isBrace c = false := by
  have hne : c ≠ '{' ∧ c ≠ '}' := by
    constructor
    · rintro rfl
      exact absurd h (by simp [hopen])
    · rintro rfl
      exact absurd h (by simp [hclose])
  simpa [isBrace] using hne

theorem NamedParts.Writes.body {p : NamedParts} {cs : List Char} (h : p.Writes cs) :
    ∀ c ∈ p.body, isBrace c = false := by
  simp only [NamedParts.body, List.forall_mem_append]
  exact ⟨fun c hc => isBrace_eq_false (by decide) (by decide) (h.margin c hc),
    fun c hc => isBrace_eq_false (by decide) (by decide) (h.symbol c hc), h.literal,
    fun c hc => isBrace_eq_false (by decide) (by decide) (h.tail c hc)⟩

/-! ## Reading one rule -/

/-- The atom of two names and a body. -/
def atomOfNames (sectionName fieldName body raw : List Char) : Atom where
  target := .names (some (String.ofList sectionName)) (some (String.ofList fieldName))
  operator := operatorOf ((trimStart body).takeWhile isOperatorChar)
  expected := String.ofList (unquote ((trimStart body).dropWhile isOperatorChar))
  raw := String.ofList raw

theorem NamedParts.Writes.readNamed?_eq {p : NamedParts} {cs : List Char} (h : p.Writes cs) :
    readNamed? cs = some (atomOfNames p.sectionName p.fieldName p.body cs) := by
  have hsection : bracketed? cs = some (p.sectionName, '.' :: '[' :: (p.fieldName ++ ']' ::
      (p.gap ++ '{' :: (p.body ++ ['}'])))) :=
    bracketed?_eq_some_iff.mpr ⟨h.text, h.sectionName⟩
  have hfield : bracketed? ('[' :: (p.fieldName ++ ']' :: (p.gap ++ '{' :: (p.body ++ ['}'])))) =
      some (p.fieldName, p.gap ++ '{' :: (p.body ++ ['}'])) :=
    bracketed?_eq_some_iff.mpr ⟨rfl, h.fieldName⟩
  have hgap : trimStart (p.gap ++ '{' :: (p.body ++ ['}'])) = '{' :: (p.body ++ ['}']) :=
    trimStart_blanks h.gap (by decide)
  have hinside : inside? ('{' :: (p.body ++ ['}'])) = some p.body :=
    inside?_eq_some_iff.mpr ⟨rfl, h.body⟩
  simp only [readNamed?, hsection, hfield, hgap, hinside, Option.bind_eq_bind, Option.bind_some,
    List.span_eq_takeWhile_dropWhile]
  rfl

theorem exists_writes_of_readNamed? {cs : List Char} {a : Atom} (h : readNamed? cs = some a) :
    ∃ p : NamedParts, p.Writes cs := by
  simp only [readNamed?, Option.bind_eq_bind, Option.bind_eq_some_iff] at h
  obtain ⟨⟨sectionName, rest⟩, hsection, h⟩ := h
  obtain ⟨hcs, hsectionName⟩ := bracketed?_eq_some_iff.mp hsection
  dsimp only at h
  split at h
  · simp only [Option.bind_eq_some_iff] at h
    obtain ⟨⟨fieldName, last⟩, hfield, body, hbody, -⟩ := h
    obtain ⟨hrest, hfieldName⟩ := bracketed?_eq_some_iff.mp hfield
    obtain ⟨gap, hgap, hlast⟩ := Text.exists_blanks_append_trimStart last
    obtain ⟨hbraced, hliteral⟩ := inside?_eq_some_iff.mp hbody
    -- The whole body serves as the literal.
    refine ⟨⟨sectionName, fieldName, gap, [], [], body, []⟩, ?_, hsectionName, hfieldName, hgap,
      blanks_nil, by simp, hliteral, blanks_nil⟩
    rw [hcs, hrest, hlast, hbraced]
    simp [NamedParts.body]
  · cases h

theorem readNamed?_eq_none_iff {cs : List Char} :
    readNamed? cs = none ↔ ∀ p : NamedParts, ¬p.Writes cs := by
  constructor
  · intro h p hp
    rw [hp.readNamed?_eq] at h
    cases h
  · intro h
    cases hread : readNamed? cs with
    | none => rfl
    | some a =>
        obtain ⟨p, hp⟩ := exists_writes_of_readNamed? hread
        exact absurd hp (h p)

/-- Two ways to write one rule have the same names. -/
theorem NamedParts.Writes.names_eq {p q : NamedParts} {cs : List Char} (hp : p.Writes cs)
    (hq : q.Writes cs) : p.sectionName = q.sectionName ∧ p.fieldName = q.fieldName := by
  have hsame : atomOfNames p.sectionName p.fieldName p.body cs =
      atomOfNames q.sectionName q.fieldName q.body cs :=
    Option.some.inj (hp.readNamed?_eq.symm.trans hq.readNamed?_eq)
  have htarget := congrArg Atom.target hsame
  simpa [atomOfNames, String.ofList_inj] using htarget

/-! ## Reading a text -/

theorem namedReadings_eq {raw : List Char} {a : Atom} (h : readNamed? (trim raw) = some a) :
    namedReadings raw = [.atom a] := by
  unfold namedReadings
  split
  · rename_i hblank
    rw [hblank] at h
    cases h
  · rw [h]

theorem namedReadings_eq_of_none {raw : List Char} (h : readNamed? (trim raw) = none) :
    namedReadings raw =
      if trim raw = [] then [] else [.unmatched (String.ofList (trim raw))] := by
  unfold namedReadings
  split
  · rename_i hblank
    rw [if_pos hblank]
  · rename_i hfull
    rw [h, if_neg hfull]

/-- The report of a text that is no rule of the dialect of names. -/
def unmatchedNames (cs : List Char) : Entry where
  level := Level.warning
  logger := "dynaform.core.criteria.parser"
  message := "Criteria did not match [Section].[Field]\x7b...\x7d: " ++
    Text.quoted (String.ofList cs)

section

variable {raw : String}

theorem parse_name_of_writes {p : NamedParts} (h : p.Writes (trim raw.toList)) :
    parse .name raw =
        .ok [atomOfNames p.sectionName p.fieldName p.body (trim raw.toList)] ∧
      parseJournal .name raw = [] := by
  have hreadings := namedReadings_eq h.readNamed?_eq
  simp only [parse, parseJournal, readings, hreadings]
  exact ⟨rfl, rfl⟩

theorem parse_name_of_not_writes (h : ∀ p : NamedParts, ¬p.Writes (trim raw.toList)) :
    parse .name raw = .ok [] ∧ parseJournal .name raw =
      if trim raw.toList = [] then [] else [unmatchedNames (trim raw.toList)] := by
  have hreadings := namedReadings_eq_of_none (readNamed?_eq_none_iff.mpr h)
  simp only [parse, parseJournal, readings, hreadings]
  by_cases hblank : trim raw.toList = []
  · simp only [if_pos hblank]
    exact ⟨rfl, rfl⟩
  · simp only [if_neg hblank]
    exact ⟨rfl, rfl⟩

end

/-! ## The grammar -/

/-- What an atom says of a rule that names its field. -/
structure NamedParts.Gives (p : NamedParts) (cs : List Char) (a : Atom) : Prop where
  target : a.target = .names (some (String.ofList p.sectionName)) (some (String.ofList p.fieldName))
  raw : a.raw = String.ofList cs
  operator : a.operator.symbol = symbolOr ((trimStart p.body).takeWhile isOperatorChar)
  expected : Unquotes ((trimStart p.body).dropWhile isOperatorChar) a.expected.toList

/-- How the dialect of names reads a text. -/
structure ReadByNames (raw : String) : Prop where
  accepted : (∃ a, parse .name raw = .ok [a]) ↔ ∃ p : NamedParts, p.Writes (trim raw.toList)
  names : ∀ p q : NamedParts, p.Writes (trim raw.toList) → q.Writes (trim raw.toList) →
    p.sectionName = q.sectionName ∧ p.fieldName = q.fieldName
  atom : ∀ p : NamedParts, p.Writes (trim raw.toList) → ∃ a, parse .name raw = .ok [a] ∧
    p.Gives (trim raw.toList) a ∧ parseJournal .name raw = []
  refused : (∀ p : NamedParts, ¬p.Writes (trim raw.toList)) → parse .name raw = .ok [] ∧
    parseJournal .name raw =
      if trim raw.toList = [] then [] else [unmatchedNames (trim raw.toList)]

theorem NamedParts.gives_atomOfNames (p : NamedParts) (cs : List Char) :
    p.Gives cs (atomOfNames p.sectionName p.fieldName p.body cs) where
  target := rfl
  raw := rfl
  operator := symbol_operatorOf _
  expected := by
    rw [atomOfNames, String.toList_ofList]
    exact unquotes_unquote _

/-- The dialect of names accepts the texts of its grammar and no other text. -/
theorem readByNames (raw : String) : ReadByNames raw where
  accepted := by
    constructor
    · rintro ⟨a, ha⟩
      by_contra hnone
      rw [(parse_name_of_not_writes (not_exists.mp hnone)).1] at ha
      cases ha
    · rintro ⟨p, hp⟩
      exact ⟨_, (parse_name_of_writes hp).1⟩
  names _ _ hp hq := hp.names_eq hq
  atom p hp := ⟨_, (parse_name_of_writes hp).1, p.gives_atomOfNames _, (parse_name_of_writes hp).2⟩
  refused := parse_name_of_not_writes

end ConditionalForms.Rule
