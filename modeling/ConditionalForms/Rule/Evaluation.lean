import ConditionalForms.Form.Basic
import ConditionalForms.Rule.Compare
import ConditionalForms.Rule.Reader

/-!
# Judging rules

An atom looks up its field and compares the value that is there now. Whatever keeps it from
comparing fails it, with the reason in words. The atoms of a rule must all hold; the first that
fails is the reason of the whole.
-/

namespace ConditionalForms.Rule

/-- What looking up a target comes to. -/
inductive Resolution where
  | field (f : Field)
  | sectionMissing
  | fieldMissing
  deriving Repr, Inhabited

/-- Looks up a target: by positions among the rows, or by names. -/
def resolve (s : Schema) : Target → Resolution
  | .position i j =>
    match s.sectionAt? i with
    | none => .sectionMissing
    | some sec =>
      match sec.fieldAt? (j.getD 0) with
      | none => .fieldMissing
      | some f => .field f
  | .names sectionName fieldName =>
    match s.section? (sectionName.getD "") with
    | none => .sectionMissing
    | some sec =>
      match sec.field? (fieldName.getD "") with
      | none => .fieldMissing
      | some f => .field f

/-- How a target's section and field are called in a reason, if they can be written. -/
def Target.partTexts? : Target → Except Fault (String × String)
  | .position i j => do
    let i ← indexText? (some i)
    let j ← indexText? j
    .ok (i, j)
  | .names s f => .ok (partText s, partText f)
where
  partText : Option String → String
    | none => "None"
    | some s => Text.quoted s

/-- Why a target was not found, none when it was. -/
def Resolution.reason? (t : Target) : Resolution → Except Fault (Option String)
  | .field _ => .ok none
  | .sectionMissing => do
    let (s, _) ← t.partTexts?
    .ok (some ("section " ++ s ++ " not found"))
  | .fieldMissing => do
    let (s, f) ← t.partTexts?
    .ok (some ("field " ++ f ++ " not found in section " ++ s))

/-- Whether something holds, and why not. -/
structure Result where
  satisfied : Bool
  detail : Option String := none
  deriving DecidableEq, Repr, Inhabited

/-- What judging one atom comes to. -/
inductive Verdict where
  | unresolved (reason : String)
  | noValue
  | notNumeric (actual : String)
  | holds
  | fails (actual : String)
  deriving DecidableEq, Repr, Inhabited

/-- Whether an operator needs numbers and a value or the literal is none. -/
def Atom.lacksNumber? (a : Atom) (actual : Json) : Except Fault Bool :=
  if a.operator.isNumeric then do
    let x ← asNumber? actual
    .ok (x.isNone || (textNumber? a.expected).isNone)
  else .ok false

def Atom.verdict? (s : Schema) (a : Atom) : Except Fault Verdict :=
  match resolve s a.target with
  | .field f =>
    match f.value with
    | .null => .ok .noValue
    | actual => do
      if ← a.lacksNumber? actual then
        let text ← asText? actual
        .ok (.notNumeric text)
      else if ← compare actual a.operator a.expected then .ok .holds
      else
        let text ← asText? actual
        .ok (.fails text)
  | missing => do
    let reason ← missing.reason? a.target
    .ok (.unresolved (reason.getD ""))

/-- The reason of a verdict, without the target that it is about. -/
def Verdict.reason? (a : Atom) : Verdict → Option String
  | .holds => none
  | .unresolved reason => some reason
  | .noValue => some "actual value is null"
  | .notNumeric actual =>
    some ("non-numeric operand for " ++ a.operator.symbol ++ " (actual=" ++ Text.quoted actual ++
      ", expected=" ++ Text.quoted a.expected ++ ")")
  | .fails actual =>
    some (Text.quoted actual ++ " " ++ a.operator.symbol ++ " " ++ Text.quoted a.expected ++
      " is false")

/-- The result of an atom: the reason of a failure follows the target. -/
def Atom.evaluate? (s : Schema) (a : Atom) : Except Fault Result := do
  let verdict ← a.verdict? s
  let target ← a.target.text?
  match verdict.reason? a with
  | none => .ok ⟨true, none⟩
  | some reason => .ok ⟨false, some (target ++ ": " ++ reason)⟩

def evaluateAll? (s : Schema) : List Atom → Except Fault Result
  | [] => .ok ⟨true, none⟩
  | a :: as => do
    let r ← a.evaluate? s
    if r.satisfied then evaluateAll? s as else .ok r

def judge? (d : Dialect) (s : Schema) (raw : String) : Except Fault Result := do
  let atoms ← parse d raw
  evaluateAll? s atoms

/-! ## Reports -/

/-- The report of judging an atom. -/
def Verdict.entries (s : Schema) (a : Atom) (target : String) : Verdict → List Entry
  | .unresolved reason =>
    [note ("Criteria " ++ (if a.raw.isEmpty then target else a.raw) ++ " unresolved: " ++ reason)]
  | .holds => [compared "True"]
  | .fails _ => [compared "False"]
  | _ => []
where
  note (message : String) : Entry :=
    ⟨Level.debug, "dynaform.core.criteria.evaluator", message, none⟩
  compared (outcome : String) : Entry :=
    let actual := match resolve s a.target with
      | .field f => String.ofList f.value.literal
      | _ => ""
    note ("Criteria " ++ target ++ " " ++ a.operator.symbol ++ " " ++ Text.quoted a.expected ++
      " against " ++ actual ++ " -> " ++ outcome)

/-- The reports of judging one atom. -/
def Atom.journal (s : Schema) (a : Atom) : List Entry :=
  match a.verdict? s, a.target.text? with
  | .ok verdict, .ok target => verdict.entries s a target
  | _, _ => []

/-- The reports of judging atoms that must all hold. -/
def journalAll (s : Schema) : List Atom → List Entry
  | [] => []
  | a :: as =>
    a.journal s ++
      match a.evaluate? s with
      | .ok r => if r.satisfied then journalAll s as else []
      | .error _ => []

/-- The reports of judging a rule text. -/
def journal (d : Dialect) (s : Schema) (raw : String) : List Entry :=
  parseJournal d raw ++
    match parse d raw with
    | .ok atoms => journalAll s atoms
    | .error _ => []

end ConditionalForms.Rule
