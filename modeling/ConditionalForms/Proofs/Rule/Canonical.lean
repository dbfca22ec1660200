import ConditionalForms.Proofs.Rule.Agreement
import ConditionalForms.Proofs.Rule.PieceGrammar

/-! # Writing atoms and reading them again

An atom that was read from a rule can be written as a rule of its own: its target, its operator, and
its literal between double quotation marks. Reading that gives the atom back, and so does reading
the piece of text that it came from.
-/

namespace ConditionalForms.Rule

open Decimal (valueOf)
open Text (isBlank trim trimStart)

/-- The body of an operator and a literal, with quotation marks around the literal. -/
def quotedBody (op : Operator) (literal : String) : String :=
  op.symbol ++ "\"" ++ literal ++ "\""

/-- An atom as a rule of its own, if its target can be written. -/
def Atom.canonical? (a : Atom) : Except Fault String := do
  let target ← a.target.text?
  .ok (target ++ "\x7b" ++ quotedBody a.operator a.expected ++ "\x7d")

/-! ## Literals -/

/-- Quotation marks around a text are the one layer that is taken off. -/
theorem unquote_quoted (cs : List Char) : unquote ('"' :: (cs ++ ['"'])) = cs := by
  have htrim : trim ('"' :: (cs ++ ['"'])) = '"' :: (cs ++ ['"']) := by
    apply Text.trim_eq_self
    · intro c hc
      obtain rfl : '"' = c := by simpa using hc
      decide
    · intro c hc
      obtain rfl : '"' = c := by simpa [List.getLast?_cons] using hc
      decide
  simp [unquote, htrim]

theorem Unquotes.isInfix {cs literal : List Char} (h : Unquotes cs literal) : literal <:+: cs := by
  rcases h with ⟨q, -, hquoted⟩ | ⟨rfl, -⟩
  · refine List.IsInfix.trans ?_ (Text.trim_infix cs)
    rw [hquoted]
    exact ⟨[q], [q], rfl⟩
  · exact Text.trim_infix cs

theorem isInfix_unquote (cs : List Char) : unquote cs <:+: cs := (unquotes_unquote cs).isInfix

/-! ## Operators -/

/-- The operator of a symbol is the operator of its own symbol. -/
theorem operatorOf_symbol (symbol : List Char) :
    operatorOf (operatorOf symbol).symbol.toList = operatorOf symbol := by
  rw [symbol_operatorOf]
  cases symbol with
  | nil => decide
  | cons c cs => simp [symbolOr]

theorem operatorOf_mem_known {symbol : List Char}
    (h : symbol = [] ∨ ∃ op ∈ Operator.known, op.symbol.toList = symbol) :
    operatorOf symbol ∈ Operator.known := by
  have hall : ∀ op ∈ Operator.known, operatorOf op.symbol.toList ∈ Operator.known := by decide
  rcases h with rfl | ⟨op, hop, rfl⟩
  · decide
  · exact hall op hop

theorem isOperatorChar_of_known {op : Operator} (h : op ∈ Operator.known) :
    ∀ c ∈ op.symbol.toList, isOperatorChar c := by
  have hall : ∀ op ∈ Operator.known, op.symbol.toList.all isOperatorChar := by decide
  exact List.all_eq_true.mp (hall op h)

/-! ## Bodies -/

section

variable {op : Operator} (literal : String)

theorem toList_quotedBody :
    (quotedBody op literal).toList = op.symbol.toList ++ '"' :: (literal.toList ++ ['"']) := by
  simp [quotedBody]

/-- The quotation mark ends the operator, whatever the literal starts with. -/
theorem span_quotedBody (h : ∀ c ∈ op.symbol.toList, isOperatorChar c) :
    (trimStart (quotedBody op literal).toList).span isOperatorChar =
      (op.symbol.toList, '"' :: (literal.toList ++ ['"'])) := by
  have hstart : trimStart (quotedBody op literal).toList = (quotedBody op literal).toList := by
    apply Text.trimStart_of_head
    rw [toList_quotedBody]
    intro c hc
    cases hsymbol : op.symbol.toList with
    | nil =>
        obtain rfl : '"' = c := by simpa [hsymbol] using hc
        decide
    | cons d ds =>
        obtain rfl : d = c := by simpa [hsymbol] using hc
        have hd : isOperatorChar d := h d (by simp [hsymbol])
        simp only [isOperatorChar, Bool.or_eq_true, decide_eq_true_iff] at hd
        rcases hd with (((rfl | rfl) | rfl) | rfl) | rfl <;> decide
  rw [hstart, toList_quotedBody]
  exact Text.span_eq_iff.mpr ⟨rfl, h, by simp [isOperatorChar]⟩

theorem operatorIn_quotedBody (h : ∀ c ∈ op.symbol.toList, isOperatorChar c) :
    operatorIn (quotedBody op literal).toList = operatorOf op.symbol.toList := by
  rw [operatorIn, span_quotedBody literal h]

theorem literalIn_quotedBody (h : ∀ c ∈ op.symbol.toList, isOperatorChar c) :
    literalIn (quotedBody op literal).toList = literal := by
  rw [literalIn, span_quotedBody literal h, unquote_quoted, String.ofList_toList]

end

/-! ## Atoms that were read -/

/-- What the operator and the literal of an atom are like when they were read from a body. -/
structure Atom.FromBody (a : Atom) : Prop where
  operator : ∃ symbol, (∀ c ∈ symbol, isOperatorChar c) ∧ a.operator = operatorOf symbol
  literal : ∀ c ∈ a.expected.toList, isBrace c = false

namespace Atom.FromBody

variable {a : Atom} (h : a.FromBody)

include h

theorem symbol : ∀ c ∈ a.operator.symbol.toList, isOperatorChar c := by
  obtain ⟨symbol, hsymbol, hoperator⟩ := h.operator
  rw [hoperator, symbol_operatorOf]
  cases symbol with
  | nil =>
      have hequals : Operator.equals ∈ Operator.known := List.mem_cons_self
      exact isOperatorChar_of_known hequals
  | cons c cs => simpa [symbolOr] using hsymbol

theorem operatorIn_eq : operatorIn (quotedBody a.operator a.expected).toList = a.operator := by
  obtain ⟨symbol, -, hoperator⟩ := h.operator
  rw [operatorIn_quotedBody a.expected h.symbol, hoperator, operatorOf_symbol]

theorem literalIn_eq : literalIn (quotedBody a.operator a.expected).toList = a.expected :=
  literalIn_quotedBody a.expected h.symbol

theorem isBrace_quotedBody :
    ∀ c ∈ (quotedBody a.operator a.expected).toList, isBrace c = false := by
  rw [toList_quotedBody]
  simp only [List.forall_mem_append, List.forall_mem_cons]
  exact ⟨fun c hc => isBrace_eq_false (by decide) (by decide) (h.symbol c hc), by decide,
    h.literal, by decide, by simp⟩

end Atom.FromBody

/-! ## Rules that name their field -/

theorem parse_name_of_readNamed? {raw : String} {a : Atom}
    (h : readNamed? (trim raw.toList) = some a) : parse .name raw = .ok [a] := by
  simp only [parse, readings, namedReadings_eq h]
  rfl

theorem NamedParts.Writes.fromBody {p : NamedParts} {cs : List Char} (h : p.Writes cs) :
    (atomOfNames p.sectionName p.fieldName p.body cs).FromBody where
  operator := ⟨_, fun _ hc => List.mem_takeWhile_imp hc, rfl⟩
  literal := by
    rw [atomOfNames, String.toList_ofList]
    intro c hc
    apply h.body
    have hliteral := (isInfix_unquote _).subset hc
    exact (List.dropWhile_suffix _).subset ((List.dropWhile_suffix _).subset hliteral)

theorem parse_name_canonical {p : NamedParts} {cs : List Char} (h : p.Writes cs) :
    ∃ text, (atomOfNames p.sectionName p.fieldName p.body cs).canonical? = .ok text ∧
      parse .name text =
        .ok [{ atomOfNames p.sectionName p.fieldName p.body cs with raw := text }] := by
  have hbody := h.fromBody
  -- All that counts from here on is the target, and that the rest was read from a body.
  generalize ha : atomOfNames p.sectionName p.fieldName p.body cs = a at hbody ⊢
  have htarget : a.target =
      .names (some (String.ofList p.sectionName)) (some (String.ofList p.fieldName)) := by
    rw [← ha, atomOfNames]
  refine ⟨namedRule (String.ofList p.sectionName) (String.ofList p.fieldName)
    (quotedBody a.operator a.expected), ?_, ?_⟩
  · simp only [Atom.canonical?, htarget, Target.text?, Fault.ok_bind, Option.getD_some]
    rw [Except.ok.injEq, ← String.toList_inj]
    simp [namedRule]
  · rw [parse_namedRule (by simpa using h.sectionName) (by simpa using h.fieldName)
      hbody.isBrace_quotedBody, namedAtom, hbody.operatorIn_eq, hbody.literalIn_eq, ← htarget]

/-! ## Rules that give positions -/

theorem separator_notMem_of_mem_splitPieces {raw cs : List Char} (h : cs ∈ splitPieces raw) :
    ∀ c ∈ cs, c ≠ '\n' ∧ c ≠ ';' := by
  obtain ⟨part, hpart, rfl⟩ := List.mem_map.mp (List.mem_filter.mp h).1
  intro c hc
  simpa using Text.forall_of_mem_splitOnP hpart c ((Text.trim_infix part).subset hc)

theorem exists_writes_of_readPiece {cs : List Char} {a : Atom} (h : readPiece cs = .atom a) :
    ∃ p : Piece, p.Writes cs ∧ p.Short ∧ p.Positive ∧
      a = p.atom (valueOf p.sectionDigits) (valueOf p.fieldDigits) cs := by
  rcases readPiece_cases cs with ⟨p, -, -, n, -, hread⟩ | ⟨p, hp, hs, hread⟩ | hread | hread
  case inr.inl =>
    refine ⟨p, hp, hs, ?_, Reading.atom.inj (h.symm.trans hread)⟩
    by_contra hpositive
    rw [readPiece_of_short hp hs, if_pos (Piece.lt_one_eq.mpr hpositive)] at h
    cases h
  all_goals
    rw [hread] at h
    cases h

/-- A piece reads on its own as it reads among others. -/
theorem parse_positional_of_mem {raw cs : List Char} {a : Atom} (hcs : cs ∈ splitPieces raw)
    (h : readPiece cs = .atom a) : parse .positional (String.ofList cs) = .ok [a] := by
  obtain ⟨p, hp, -⟩ := exists_writes_of_readPiece h
  have hpieces := hp.splitPieces_eq (separator_notMem_of_mem_splitPieces hcs)
  simp only [parse, readings, positionalReadings, String.toList_ofList, hpieces, List.map_cons,
    List.map_nil, h]
  rfl

theorem Piece.operator_atom_mem_known (p : Piece) (i j : Int) (cs : List Char) :
    (p.atom i j cs).operator ∈ Operator.known :=
  operatorOf_mem_known (splitSymbol_known _)

theorem Piece.expected_atom_infix (p : Piece) (i j : Int) (cs : List Char) :
    (p.atom i j cs).expected.toList <:+: p.body := by
  rw [Piece.atom, String.toList_ofList]
  have hrest : (splitSymbol (trimStart p.body)).2 <:+ trimStart p.body :=
    ⟨_, splitSymbol_append_eq _⟩
  exact (isInfix_unquote _).trans (hrest.isInfix.trans (List.dropWhile_suffix _).isInfix)

theorem Piece.Writes.fromBody {p : Piece} {cs : List Char} (h : p.Writes cs) (i j : Int) :
    (p.atom i j cs).FromBody where
  operator := by
    refine ⟨(splitSymbol (trimStart p.body)).1, ?_, rfl⟩
    rcases splitSymbol_known (trimStart p.body) with hnone | ⟨op, hop, hsymbol⟩
    · simp [hnone]
    · exact hsymbol ▸ isOperatorChar_of_known hop
  literal c hc := h.body c ((p.expected_atom_infix i j cs).subset hc)

theorem Piece.Writes.body_infix {p : Piece} {cs : List Char} (h : p.Writes cs) :
    p.body <:+: cs := by
  obtain ⟨⟨u, v, w, -, -, -, rfl⟩, -, -, -⟩ := h
  exact ⟨p.sectionDigits ++ (u ++ '-' :: (v ++ (p.fieldDigits ++ (w ++ ['{'])))), ['}'], by simp⟩

/-- The operator and the literal of a piece make a body for both dialects. -/
theorem Piece.Writes.shared {p : Piece} {cs : List Char} (h : p.Writes cs)
    (hcs : ∀ c ∈ cs, c ≠ '\n' ∧ c ≠ ';') (i j : Int) :
    Shared (quotedBody (p.atom i j cs).operator (p.atom i j cs).expected).toList where
  clear := by
    have hsymbol : ∀ c ∈ (p.atom i j cs).operator.symbol.toList, c ≠ ';' ∧ c ≠ '\n' := by
      intro c hc
      have hoperator := (h.fromBody i j).symbol c hc
      constructor <;> (rintro rfl; cases hoperator)
    -- A piece has no separator in it, and the literal is a part of the piece.
    have hliteral : ∀ c ∈ (p.atom i j cs).expected.toList, c ≠ ';' ∧ c ≠ '\n' :=
      fun c hc => (hcs c (h.body_infix.subset ((p.expected_atom_infix i j cs).subset hc))).symm
    intro c hc
    refine ⟨(h.fromBody i j).isBrace_quotedBody c hc, ?_⟩
    rw [toList_quotedBody] at hc
    revert c
    simp only [List.forall_mem_append, List.forall_mem_cons]
    exact ⟨hsymbol, by decide, hliteral, by decide, by simp⟩
  operator := by
    refine .inr ⟨_, p.operator_atom_mem_known i j cs, ?_⟩
    have hspan := span_quotedBody (p.atom i j cs).expected (h.fromBody i j).symbol
    rw [List.span_eq_takeWhile_dropWhile] at hspan
    exact congrArg Prod.fst hspan

theorem Target.indexText?_eq {i : Int} (h : Decimal.fitsDigits i) :
    Target.indexText? (some i) = .ok (toString i) := by
  have hdisplay : (Json.int i).display = (toString i).toList := rfl
  rw [Target.indexText?, Json.ofInt?, Json.display?, Json.fitsDigits, if_pos h, hdisplay,
    String.ofList_toList]

theorem parse_positional_canonical {p : Piece} {cs : List Char} (h : p.Writes cs) (hs : p.Short)
    (hpositive : p.Positive) (hcs : ∀ c ∈ cs, c ≠ '\n' ∧ c ≠ ';') :
    ∃ text, (p.atom (valueOf p.sectionDigits) (valueOf p.fieldDigits) cs).canonical? = .ok text ∧
      parse .positional text =
        .ok [{ p.atom (valueOf p.sectionDigits) (valueOf p.fieldDigits) cs with raw := text }] := by
  have hbody := h.fromBody (valueOf p.sectionDigits) (valueOf p.fieldDigits)
  have hshared := h.shared hcs (valueOf p.sectionDigits) (valueOf p.fieldDigits)
  have hfits : Decimal.fitsDigits (valueOf p.sectionDigits) ∧
      Decimal.fitsDigits (valueOf p.fieldDigits) :=
    ⟨Decimal.fitsDigits_valueOf hs.1, Decimal.fitsDigits_valueOf hs.2⟩
  generalize ha : p.atom (valueOf p.sectionDigits) (valueOf p.fieldDigits) cs = a at *
  have htarget : a.target = .position (valueOf p.sectionDigits) (some (valueOf p.fieldDigits)) := by
    rw [← ha, Piece.atom]
  refine ⟨positionalRule (valueOf p.sectionDigits) (valueOf p.fieldDigits)
    (quotedBody a.operator a.expected), ?_, ?_⟩
  · simp only [Atom.canonical?, htarget, Target.text?, Target.indexText?_eq hfits.1,
      Target.indexText?_eq hfits.2, Fault.ok_bind]
    rfl
  · rw [parse_positionalRule hshared hpositive.1 hpositive.2 hfits, positionalAtom,
      hbody.operatorIn_eq, hbody.literalIn_eq, ← htarget]

/-! ## Reading again -/

/-- An atom of a rule is read again from its own piece of the rule, and, but for that piece, from
what it is written as: the same target, the same operator and the same literal. -/
theorem parse_canonical {d : Dialect} {raw : String} {atoms : List Atom}
    (h : parse d raw = .ok atoms) {a : Atom} (ha : a ∈ atoms) :
    parse d a.raw = .ok [a] ∧
      ∃ text, a.canonical? = .ok text ∧ parse d text = .ok [{ a with raw := text }] := by
  have hmem := mem_readings_of_collect h a ha
  cases d with
  | name =>
      have hread := readNamed?_of_mem hmem
      obtain ⟨p, hp⟩ := exists_writes_of_readNamed? hread
      obtain rfl := Option.some.inj (hp.readNamed?_eq.symm.trans hread)
      refine ⟨parse_name_of_readNamed? ?_, parse_name_canonical hp⟩
      rwa [atomOfNames, String.toList_ofList, Text.trim_trim]
  | positional =>
      obtain ⟨cs, hcs, hread⟩ := List.mem_map.mp hmem
      obtain ⟨p, hp, hs, hpositive, rfl⟩ := exists_writes_of_readPiece hread
      exact ⟨parse_positional_of_mem hcs hread, parse_positional_canonical hp hs hpositive
        (separator_notMem_of_mem_splitPieces hcs)⟩

/-- A rule whose operator has no meaning of its own. Its literal starts and ends with blanks, goes
on with a symbol that is an operator as well, and holds both kinds of quotation mark. -/
def spacedRule : String := "[Visit].[Cost] \x7b !=~ \"  =\"x'  \" \x7d\n"

def spacedAtom : Atom where
  target := .names (some "Visit") (some "Cost")
  operator := .other "!=~"
  expected := "  =\"x'  "
  raw := "[Visit].[Cost] \x7b !=~ \"  =\"x'  \" \x7d"

theorem parse_canonical_spacedRule :
    parse .name spacedRule = .ok [spacedAtom] ∧ parse .name spacedAtom.raw = .ok [spacedAtom] ∧
      ∃ text, spacedAtom.canonical? = .ok text ∧
        parse .name text = .ok [{ spacedAtom with raw := text }] := by
  have hparse : parse .name spacedRule = .ok [spacedAtom] := by decide +kernel
  exact ⟨hparse, parse_canonical hparse List.mem_cons_self⟩

end ConditionalForms.Rule
