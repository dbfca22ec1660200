import ConditionalForms.Proofs.Form.Addresses
import ConditionalForms.Proofs.Rule.NamedGrammar
import ConditionalForms.Proofs.Rule.Returning

/-! # The two dialects agree

A rule may name a field or give its positions. Where the names are clear, both ways of writing the
rule come to the same, whatever the values and standings of the form are.
-/

namespace ConditionalForms.Rule

open Decimal (fitsDigits)
open Fault (ReturnsIff Overlong)

/-! ## Bodies -/

/-- A body that both dialects read: it holds no brace and no separator, and what starts it after
blanks is no operator or one that is known. -/
structure Shared (body : List Char) : Prop where
  clear : ∀ c ∈ body, isBrace c = false ∧ c ≠ ';' ∧ c ≠ '\n'
  operator : (Text.trimStart body).takeWhile isOperatorChar = [] ∨
    ∃ op ∈ Operator.known, (Text.trimStart body).takeWhile isOperatorChar = op.symbol.toList

theorem isOperatorChar_eq_false_iff {c : Char} :
    isOperatorChar c = false ↔ c ≠ '!' ∧ c ≠ '<' ∧ c ≠ '>' ∧ c ≠ '=' ∧ c ≠ '~' := by
  simp [isOperatorChar, and_assoc]

theorem splitSymbol_of_head {rest : List Char} (h : ∀ c ∈ rest.head?, isOperatorChar c = false) :
    splitSymbol rest = ([], rest) := by
  cases rest with
  | nil => rfl
  | cons c cs =>
      obtain ⟨hbang, hless, hgreater, hequals, htilde⟩ :=
        isOperatorChar_eq_false_iff.mp (h c rfl)
      simp [splitSymbol, hbang, hless, hgreater, hequals, htilde]

theorem splitSymbol_append {op : Operator} (hop : op ∈ Operator.known) {rest : List Char}
    (h : ∀ c ∈ rest.head?, isOperatorChar c = false) :
    splitSymbol (op.symbol.toList ++ rest) = (op.symbol.toList, rest) := by
  have hequals : ∀ c ∈ rest.head?, c ≠ '=' :=
    fun c hc => (isOperatorChar_eq_false_iff.mp (h c hc)).2.2.2.1
  simp only [Operator.known, List.mem_cons, List.not_mem_nil, or_false] at hop
  rcases hop with rfl | rfl | rfl | rfl | rfl | rfl | rfl | rfl
  -- A symbol that starts a longer one goes on with an equals sign, which does not start `rest`.
  all_goals
    cases rest with
    | nil => rfl
    | cons c cs => simp [splitSymbol, Operator.symbol, hequals c rfl]

/-- Where the operator characters are those of one operator, both dialects split them off. -/
theorem splitSymbol_eq_span {cs : List Char}
    (h : cs.takeWhile isOperatorChar = [] ∨
      ∃ op ∈ Operator.known, cs.takeWhile isOperatorChar = op.symbol.toList) :
    splitSymbol cs = cs.span isOperatorChar := by
  cases hspan : cs.span isOperatorChar with
  | mk symbol rest =>
      obtain ⟨hcs, hsymbol, hrest⟩ := Text.span_eq_iff.mp hspan
      have htake : cs.takeWhile isOperatorChar = symbol := by
        have hfirst := congrArg Prod.fst hspan
        rwa [List.span_eq_takeWhile_dropWhile] at hfirst
      rw [htake] at h
      rcases h with rfl | ⟨op, hop, rfl⟩
      · rw [hcs, List.nil_append]
        exact splitSymbol_of_head hrest
      · rw [hcs]
        exact splitSymbol_append hop hrest

example : splitSymbol "=>7".toList ≠ "=>7".toList.span isOperatorChar := by decide

/-- The operator that the body of a rule asks for. -/
def operatorIn (body : List Char) : Operator :=
  operatorOf ((Text.trimStart body).span isOperatorChar).1

/-- The literal that the body of a rule compares with. -/
def literalIn (body : List Char) : String :=
  String.ofList (unquote ((Text.trimStart body).span isOperatorChar).2)

/-! ## Reading a rule that names its field -/

/-- The rule of a body about the field of two names. -/
def namedRule (sectionName fieldName body : String) : String :=
  "[" ++ sectionName ++ "].[" ++ fieldName ++ "]\x7b" ++ body ++ "\x7d"

def namedAtom (sectionName fieldName body : String) : Atom where
  target := .names (some sectionName) (some fieldName)
  operator := operatorIn body.toList
  expected := literalIn body.toList
  raw := namedRule sectionName fieldName body

def namedText (sectionName fieldName body : List Char) : List Char :=
  '[' :: (sectionName ++ ']' :: '.' :: '[' :: (fieldName ++ ']' :: '{' :: (body ++ ['}'])))

theorem toList_namedRule (sectionName fieldName body : String) :
    (namedRule sectionName fieldName body).toList =
      namedText sectionName.toList fieldName.toList body.toList := by
  simp [namedRule, namedText]

theorem trim_namedText (sectionName fieldName body : List Char) :
    Text.trim (namedText sectionName fieldName body) = namedText sectionName fieldName body := by
  apply Text.trim_eq_self
  · intro c hc
    obtain rfl : '[' = c := by simpa [namedText] using hc
    decide
  · intro c hc
    obtain rfl : '}' = c := by simpa [namedText, List.getLast?_cons] using hc
    decide

theorem writes_namedRule {sectionName fieldName body : String}
    (hsection : sectionName ≠ "" ∧ ']' ∉ sectionName.toList)
    (hfield : fieldName ≠ "" ∧ ']' ∉ fieldName.toList)
    (hbody : ∀ c ∈ body.toList, isBrace c = false) :
    NamedParts.Writes ⟨sectionName.toList, fieldName.toList, [], [], [], body.toList, []⟩
      (namedRule sectionName fieldName body).toList where
  text := by simp [toList_namedRule, namedText, NamedParts.body]
  sectionName := ⟨by simpa using hsection.1, hsection.2⟩
  fieldName := ⟨by simpa using hfield.1, hfield.2⟩
  gap := blanks_nil
  margin := blanks_nil
  symbol := by simp
  literal := hbody
  tail := blanks_nil

theorem parse_namedRule {sectionName fieldName body : String}
    (hsection : sectionName ≠ "" ∧ ']' ∉ sectionName.toList)
    (hfield : fieldName ≠ "" ∧ ']' ∉ fieldName.toList)
    (hbody : ∀ c ∈ body.toList, isBrace c = false) :
    parse .name (namedRule sectionName fieldName body) =
      .ok [namedAtom sectionName fieldName body] := by
  have htrim : Text.trim (namedRule sectionName fieldName body).toList =
      (namedRule sectionName fieldName body).toList := by
    rw [toList_namedRule, trim_namedText]
  have hwrites := writes_namedRule hsection hfield hbody
  rw [(parse_name_of_writes (htrim.symm ▸ hwrites)).1, htrim]
  simp [atomOfNames, namedAtom, NamedParts.body, operatorIn, literalIn,
    List.span_eq_takeWhile_dropWhile]

/-! ## Reading a rule that gives positions -/

/-- The rule of a body about the field at two positions. -/
def positionalRule (i j : Int) (body : String) : String :=
  toString i ++ "-" ++ toString j ++ "\x7b" ++ body ++ "\x7d"

def positionalAtom (i j : Int) (body : String) : Atom where
  target := .position i (some j)
  operator := operatorIn body.toList
  expected := literalIn body.toList
  raw := positionalRule i j body

def numberedPiece (m n : Nat) (body : String) : Piece :=
  ⟨Nat.toDigits 10 m, Nat.toDigits 10 n, body.toList⟩

theorem toList_positionalRule (m n : Nat) (body : String) :
    (positionalRule m n body).toList =
      Nat.toDigits 10 m ++ '-' :: (Nat.toDigits 10 n ++ '{' :: (body.toList ++ ['}'])) := by
  simp only [positionalRule, String.toList_append, Decimal.toList_toString_natCast]
  simp

theorem writes_positionalRule {body : String} (hbody : Shared body.toList) (m n : Nat) :
    (numberedPiece m n body).Writes (positionalRule m n body).toList where
  text := ⟨[], [], [], blanks_nil, blanks_nil, blanks_nil, toList_positionalRule m n body⟩
  sectionDigits := ⟨Nat.toDigits_ne_nil, fun _ => Decimal.isDigit_of_mem_toDigits⟩
  fieldDigits := ⟨Nat.toDigits_ne_nil, fun _ => Decimal.isDigit_of_mem_toDigits⟩
  body c hc := (hbody.clear c hc).1

theorem short_numberedPiece_iff {m n : Nat} {body : String} :
    (numberedPiece m n body).Short ↔ fitsDigits m ∧ fitsDigits n :=
  and_congr Decimal.length_toDigits_le_iff Decimal.length_toDigits_le_iff

theorem separator_notMem_positionalRule {body : String} (hbody : Shared body.toList) (m n : Nat) :
    ∀ c ∈ (positionalRule m n body).toList, c ≠ '\n' ∧ c ≠ ';' := by
  have hdigits : ∀ k, ∀ c ∈ Nat.toDigits 10 k, c ≠ '\n' ∧ c ≠ ';' := by
    intro k c hc
    have hdigit := Decimal.isDigit_of_mem_toDigits hc
    constructor
    · rintro rfl
      exact absurd hdigit (by decide)
    · rintro rfl
      exact absurd hdigit (by decide)
  have hliteral : ∀ c ∈ body.toList, c ≠ '\n' ∧ c ≠ ';' :=
    fun c hc => ⟨(hbody.clear c hc).2.2, (hbody.clear c hc).2.1⟩
  rw [toList_positionalRule]
  simp only [List.forall_mem_append, List.forall_mem_cons]
  exact ⟨hdigits m, by decide, hdigits n, by decide, hliteral, by decide, by simp⟩

theorem Piece.atom_of_shared {p : Piece} (h : Shared p.body) (i j : Int) (raw : List Char) :
    p.atom i j raw =
      { target := .position i (some j)
        operator := operatorIn p.body
        expected := literalIn p.body
        raw := String.ofList raw } := by
  rw [Piece.atom, splitSymbol_eq_span h.operator]
  rfl

theorem parse_positionalRule {body : String} (hbody : Shared body.toList) {m n : Nat}
    (hm : 0 < m) (hn : 0 < n) (hfits : fitsDigits m ∧ fitsDigits n) :
    parse .positional (positionalRule m n body) = .ok [positionalAtom m n body] := by
  have hwrites := writes_positionalRule hbody m n
  have hread := readPiece_of_short hwrites (short_numberedPiece_iff.mpr hfits)
  have hpositive : ((m : Int) < 1 || (n : Int) < 1) = false := by
    simp only [Bool.or_eq_false_iff, decide_eq_false_iff_not]
    omega
  simp only [numberedPiece, Decimal.valueOf_toDigits, hpositive] at hread
  rw [if_neg (by decide), Piece.atom_of_shared hbody, String.ofList_toList] at hread
  simp only [parse, readings, positionalReadings,
    hwrites.splitPieces_eq (separator_notMem_positionalRule hbody m n), List.map_cons,
    List.map_nil, hread, collect, Fault.map_ok]
  rfl

theorem legible_positionalRule_iff {body : String} (hbody : Shared body.toList) {m n : Nat} :
    Legible .positional (positionalRule m n body) ↔ fitsDigits m ∧ fitsDigits n := by
  have hwrites := writes_positionalRule hbody m n
  have hshort : (numberedPiece m n body).Short ↔ fitsDigits m ∧ fitsDigits n :=
    short_numberedPiece_iff
  rw [legible_positional_iff, ← hshort,
    hwrites.splitPieces_eq (separator_notMem_positionalRule hbody m n)]
  simp [hwrites.splitPiece?_eq]

/-! ## Judging one atom -/

theorem judge?_of_parse {d : Dialect} {s : Schema} {raw : String} {a : Atom} {v : Verdict}
    (hparse : parse d raw = .ok [a]) (hv : a.verdict? s = .ok v) (ha : a.target.Writable) :
    ∃ r, judge? d s raw = .ok r ∧ r.satisfied = decide (v = .holds) := by
  obtain ⟨t, ht⟩ := ha.text?
  simp only [judge?, hparse, Fault.ok_bind, evaluateAll?, Atom.evaluate?, hv, ht]
  cases v <;> exact ⟨_, rfl, rfl⟩

/-- What an atom comes to hangs on the field that it is about, not on how it gives that field. -/
theorem Atom.verdict?_congr {s : Schema} {a b : Atom} {f : Field}
    (ha : resolve s a.target = .field f) (hb : resolve s b.target = .field f)
    (hoperator : a.operator = b.operator) (hexpected : a.expected = b.expected) :
    a.verdict? s = b.verdict? s := by
  simp only [Atom.verdict?, ha, hb, Atom.lacksNumber?, hoperator, hexpected]

theorem resolve_names_of_mem {s : Schema} (hnames : (s.sections.map (·.name)).Nodup)
    {sec : Section} (hsec : sec ∈ s.sections) {f : Field} (hf : f ∈ sec.fields)
    (honce : (sec.fields.filter (·.name = f.name)).length = 1) :
    resolve s (.names (some sec.name) (some f.name)) = .field f := by
  obtain ⟨g, hg⟩ := List.length_eq_one_iff.mp honce
  have hmem : f ∈ sec.fields.filter (·.name = f.name) := List.mem_filter.mpr ⟨hf, by simp⟩
  obtain rfl : f = g := by simpa [hg] using hmem
  have hfield : sec.field? f.name = some f := by
    rw [Section.field?, ← List.head?_filter, hg, List.head?_cons]
  simp only [resolve, Option.getD_some, Schema.section?_of_mem hnames hsec, hfield]

/-! ## Agreement -/

/-- Over plain values rules of one body that both find one field come to the same. -/
theorem rules_agree_of_resolve {s : Schema} (hs : s.IsPlain) {sectionName fieldName body : String}
    {m n : Nat} {f : Field} (hsection : sectionName ≠ "" ∧ ']' ∉ sectionName.toList)
    (hfield : fieldName ≠ "" ∧ ']' ∉ fieldName.toList) (hm : 0 < m) (hn : 0 < n)
    (hbody : Shared body.toList)
    (hname : resolve s (.names (some sectionName) (some fieldName)) = .field f)
    (hposition : resolve s (.position m (some n)) = .field f) :
    ∃ r, judge? .name s (namedRule sectionName fieldName body) = .ok r ∧
      ReturnsIff (fitsDigits m ∧ fitsDigits n) Overlong
        (judge? .positional s (positionalRule m n body)) ∧
      ∀ q, judge? .positional s (positionalRule m n body) = .ok q → q.satisfied = r.satisfied := by
  have hparse := parse_namedRule hsection hfield fun c hc => (hbody.clear c hc).1
  obtain ⟨v, hv⟩ := Atom.verdict?_returns hs (writable_of_parse hparse _ List.mem_cons_self)
  obtain ⟨r, hr, hsatisfied⟩ := judge?_of_parse hparse hv trivial
  have hreturns := (judge?_returnsIff hs .positional (positionalRule m n body)).congr
    (legible_positionalRule_iff hbody)
  refine ⟨r, hr, hreturns, ?_⟩
  intro q hq
  have hparse' := parse_positionalRule hbody hm hn (hreturns.returns.mp ⟨q, hq⟩)
  have hsame : (positionalAtom m n body).verdict? s =
      (namedAtom sectionName fieldName body).verdict? s :=
    Atom.verdict?_congr hposition hname rfl rfl
  obtain ⟨q', hq', hsatisfied'⟩ :=
    judge?_of_parse hparse' (hsame.trans hv) (writable_of_parse hparse' _ List.mem_cons_self)
  obtain rfl : q = q' := Except.ok.inj (hq.symm.trans hq')
  rw [hsatisfied, hsatisfied']

/-- In a form that records make, whatever its values and standings are, a rule about a field that is
clearly named can be judged, and comes to the same if it gives the positions of the field. These can
be read unless they have too many digits. -/
theorem dialects_agree {d : String} {records : Json} {built form : Schema} {sec : Section}
    {f : Field} {body : String} (hbuilt : Builder.buildFrom d records = .ok built)
    (hform : form.blank = built.blank) (hplain : form.IsPlain) (hsec : sec ∈ form.sections)
    (hf : f ∈ sec.fields) (hsection : sec.name ≠ "" ∧ ']' ∉ sec.name.toList)
    (hfield : f.name ≠ "" ∧ ']' ∉ f.name.toList)
    (honce : (sec.fields.filter (·.name = f.name)).length = 1) (hbody : Shared body.toList) :
    ∃ r, judge? .name form (namedRule sec.name f.name body) = .ok r ∧
      ReturnsIff (fitsDigits sec.position ∧ fitsDigits f.position) Overlong
        (judge? .positional form (positionalRule sec.position f.position body)) ∧
      ∀ q, judge? .positional form (positionalRule sec.position f.position body) = .ok q →
        q.satisfied = r.satisfied := by
  obtain ⟨rows, rfl⟩ := Builder.exists_rows_of_buildFrom hbuilt
  have haddressed := Schema.addressed_of_blank_eq hform
  have hplaced : form.Placed := (Schema.placed_ofRows d rows).congr hform.symm
  have hposition : resolve form (.position sec.position (some f.position)) = .field f :=
    hplaced.resolve_eq_field_iff.mpr ⟨sec, hsec, rfl, hf, rfl⟩
  have hname := resolve_names_of_mem haddressed.nodup hsec hf honce
  obtain ⟨hi, -, hj, -⟩ := (haddressed.found _ _).mp ⟨f, hposition⟩
  obtain ⟨m, hm⟩ := Int.eq_ofNat_of_zero_le (by omega : 0 ≤ sec.position)
  obtain ⟨n, hn⟩ := Int.eq_ofNat_of_zero_le (by omega : 0 ≤ f.position)
  rw [hm, hn] at hposition ⊢
  exact rules_agree_of_resolve hplain hsection hfield (by omega) (by omega) hbody hname hposition

/-- A section of a built form, once a value has been given. -/
def repairSection : Section where
  name := "Repair"
  order := some 2
  rule := "[Visit].[Outcome]{=broken}"
  position := 2
  fields := [{ name := "Cost", position := 1, value := .text " 17" }]

theorem dialects_agree_repairSection :
    ∃ r q, judge? .name (LiveForm.setValue "Cost" (.text " 17") visitForm)
        (namedRule "Repair" "Cost" "\t>= '7'") = .ok r ∧
      judge? .positional (LiveForm.setValue "Cost" (.text " 17") visitForm)
        (positionalRule 2 1 "\t>= '7'") = .ok q ∧
      q.satisfied = r.satisfied := by
  have hplain : visitForm.IsPlain := by
    simp [Schema.IsPlain, visitForm, Json.isPlain]
  have hsec : repairSection ∈ (LiveForm.setValue "Cost" (.text " 17") visitForm).sections :=
    List.mem_of_getElem? (i := 1) rfl
  have hbody : Shared "\t>= '7'".toList :=
    ⟨by simp [isBrace], .inr ⟨.greaterEqual, by decide, by decide⟩⟩
  obtain ⟨r, hr, hreturns, hsame⟩ := dialects_agree (buildFrom_visitRecords "Other")
    (Schema.blank_setValue _ _ _) (hplain.setValue "Cost" rfl) hsec List.mem_cons_self
    ⟨by decide, by decide⟩ ⟨by decide, by decide⟩ (by decide) hbody
  have hshort : (numberedPiece 2 1 "\t>= '7'").Short := ⟨by decide, by decide⟩
  obtain ⟨q, hq⟩ := hreturns.returns.mpr (short_numberedPiece_iff.mp hshort)
  exact ⟨r, q, hr, hq, hsame q hq⟩

end ConditionalForms.Rule
