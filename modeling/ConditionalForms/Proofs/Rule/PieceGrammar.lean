import ConditionalForms.Proofs.Rule.Body
import ConditionalForms.Proofs.Rule.Legible

/-! # The grammar of rules that give positions

A rule that gives positions is read piece by piece. A piece that can be written as two positive
positions and a body in braces makes one atom, and any other piece makes one warning, so that no
piece is lost in silence.
-/

namespace ConditionalForms.Rule

open Decimal (digitLimit valueOf)
open Text (isDigit trimStart)

/-! ## Runs of digits -/

/-- No run of digits in a text is too long to be read. -/
def ShortRuns (cs : List Char) : Prop :=
  ∀ run, run <:+: cs → (∀ c ∈ run, isDigit c) → run.length ≤ digitLimit

theorem shortRuns_of_length_le {cs : List Char} (h : cs.length ≤ digitLimit) : ShortRuns cs :=
  fun _ hrun _ => hrun.length_le.trans h

theorem ShortRuns.of_mem_splitPieces {raw cs : List Char} (h : ShortRuns raw)
    (hcs : cs ∈ splitPieces raw) : ShortRuns cs := by
  obtain ⟨part, hpart, rfl⟩ := List.mem_map.mp (List.mem_filter.mp hcs).1
  have hinfix : Text.trim part <:+: raw :=
    (Text.trim_infix part).trans (Text.infix_of_mem_splitOnP hpart)
  exact fun run hrun => h run (hrun.trans hinfix)

/-- The positions of a piece are runs of digits in its text. -/
theorem ShortRuns.short {cs : List Char} (h : ShortRuns cs) {p : Piece} (hp : p.Writes cs) :
    p.Short := by
  obtain ⟨⟨u, v, w, -, -, -, rfl⟩, hsection, hfield, -⟩ := hp
  refine ⟨h _ (List.prefix_append _ _).isInfix hsection.2, h _ ?_ hfield.2⟩
  exact ⟨p.sectionDigits ++ (u ++ '-' :: v), w ++ '{' :: (p.body ++ ['}']), by simp⟩

/-! ## One piece -/

/-- Both positions of a piece are at least one. -/
def Piece.Positive (p : Piece) : Prop := 1 ≤ valueOf p.sectionDigits ∧ 1 ≤ valueOf p.fieldDigits

/-- What an atom says of a piece. -/
structure Piece.Gives (p : Piece) (cs : List Char) (a : Atom) : Prop where
  target : a.target = .position (valueOf p.sectionDigits) (some (valueOf p.fieldDigits))
  raw : a.raw = String.ofList cs
  body : ∃ symbol literal, LongestSymbol (trimStart p.body) symbol literal ∧
    a.operator.symbol = symbolOr symbol ∧ Unquotes literal a.expected.toList

theorem Piece.gives_atom (p : Piece) (cs : List Char) :
    p.Gives cs (p.atom (valueOf p.sectionDigits) (valueOf p.fieldDigits) cs) where
  target := rfl
  raw := rfl
  body := by
    refine ⟨_, _, longestSymbol_splitSymbol _, symbol_operatorOf _, ?_⟩
    rw [Piece.atom, String.toList_ofList]
    exact unquotes_unquote _

/-- The report of a piece that is left out, for some reason. -/
def leftOut (reason : String) (cs : List Char) : Entry where
  level := Level.warning
  logger := "dynaform.core.criteria.parser"
  message := reason ++ Text.quoted (String.ofList cs)

/-- What a piece makes: an atom, if it is written as the grammar says and its positions are at least
one, and a warning otherwise. -/
inductive Makes (cs : List Char) : Atom ⊕ Entry → Prop where
  | atom {p : Piece} {a : Atom} (written : p.Writes cs) (positive : p.Positive)
      (gives : p.Gives cs a) : Makes cs (.inl a)
  | nonPositive {p : Piece} (written : p.Writes cs) (positive : ¬p.Positive) :
      Makes cs (.inr (leftOut "Dropping criteria piece with non-positive index: " cs))
  | unmatched (written : ∀ p : Piece, ¬p.Writes cs) :
      Makes cs (.inr (leftOut "Dropping criteria piece, expected sec-fld\x7b...\x7d: " cs))

theorem Piece.lt_one_eq {p : Piece} :
    ((valueOf p.sectionDigits : Int) < 1 || (valueOf p.fieldDigits : Int) < 1) = true ↔
      ¬p.Positive := by
  simp only [Piece.Positive, Bool.or_eq_true, decide_eq_true_iff]
  omega

/-- Reading one piece more adds what it makes, to the atoms or to the reports. -/
theorem exists_makes {cs : List Char} (h : ShortRuns cs) :
    ∃ made, Makes cs made ∧
      (∀ rs, collect (readPiece cs :: rs) = (collect rs).map (made.getLeft?.toList ++ ·)) ∧
      ∀ rs, (beforeFault (readPiece cs :: rs)).filterMap (·.report?) =
        made.getRight?.toList ++ (beforeFault rs).filterMap (·.report?) := by
  have hcollect : ∀ rs, collect rs = (collect rs).map ([] ++ ·) := by
    intro rs
    cases collect rs <;> rfl
  by_cases hwritten : ∃ p : Piece, p.Writes cs
  · obtain ⟨p, hp⟩ := hwritten
    have hread := readPiece_of_short hp (h.short hp)
    by_cases hpositive : p.Positive
    · rw [if_neg (by rw [Piece.lt_one_eq]; exact not_not.mpr hpositive)] at hread
      exact ⟨_, .atom hp hpositive (p.gives_atom cs), fun rs => by rw [hread]; rfl,
        fun rs => by rw [hread]; rfl⟩
    · rw [if_pos (Piece.lt_one_eq.mpr hpositive)] at hread
      exact ⟨_, .nonPositive hp hpositive, fun rs => by rw [hread]; exact hcollect rs,
        fun rs => by rw [hread]; rfl⟩
  · have hread := readPiece_of_not_writes (not_exists.mp hwritten)
    exact ⟨_, .unmatched (not_exists.mp hwritten), fun rs => by rw [hread]; exact hcollect rs,
      fun rs => by rw [hread]; rfl⟩

/-! ## Whole rules -/

/-- What the pieces make, one after another, are the atoms and the warnings of the rule. -/
theorem exists_forall₂_makes {pieces : List (List Char)} (h : ∀ cs ∈ pieces, ShortRuns cs) :
    ∃ made, List.Forall₂ Makes pieces made ∧
      collect (pieces.map readPiece) = .ok (made.filterMap (·.getLeft?)) ∧
      (beforeFault (pieces.map readPiece)).filterMap (·.report?) =
        made.filterMap (·.getRight?) := by
  induction pieces with
  | nil => exact ⟨[], .nil, rfl, rfl⟩
  | cons cs pieces ih =>
      obtain ⟨hcs, hpieces⟩ := List.forall_mem_cons.mp h
      obtain ⟨one, hone, hatom, hreport⟩ := exists_makes hcs
      obtain ⟨made, hmade, hatoms, hreports⟩ := ih hpieces
      refine ⟨one :: made, .cons hone hmade, ?_, ?_⟩
      · rw [List.map_cons, hatom, hatoms, Fault.map_ok]
        cases one <;> rfl
      · rw [List.map_cons, hreport, hreports]
        cases one <;> rfl

/-- A rule that gives positions, in which no run of digits is too long, is split at every newline
and semicolon, and each piece that is not blank makes one atom or one warning, in order. -/
theorem pieces_make {raw : String} (h : ShortRuns raw.toList) :
    ∃ made, List.Forall₂ Makes
        (((raw.toList.splitOnP fun c => c = '\n' || c = ';').map Text.trim).filter (· ≠ [])) made ∧
      parse .positional raw = .ok (made.filterMap (·.getLeft?)) ∧
      parseJournal .positional raw = made.filterMap (·.getRight?) :=
  exists_forall₂_makes fun _ hcs => h.of_mem_splitPieces hcs

/-- A rule with an operator that starts another one, digits of other scripts, a piece that is no
rule, one whose section is zero, and blank pieces. -/
def mixedRule : String := "1-1\x7b=>7\x7d;; ٢ - ٠१ \x7b >= '7'\x7d\ndrop;0-1\x7bx\x7d; "

theorem pieces_make_mixedRule :
    ∃ made, List.Forall₂ Makes ["1-1\x7b=>7\x7d".toList, "٢ - ٠१ \x7b >= '7'\x7d".toList,
        "drop".toList, "0-1\x7bx\x7d".toList] made ∧
      parse .positional mixedRule = .ok (made.filterMap (·.getLeft?)) ∧
      parseJournal .positional mixedRule = made.filterMap (·.getRight?) := by
  have hruns : ShortRuns mixedRule.toList := shortRuns_of_length_le (by decide)
  have hpieces : ((mixedRule.toList.splitOnP fun c => c = '\n' || c = ';').map Text.trim).filter
      (· ≠ []) = ["1-1\x7b=>7\x7d".toList, "٢ - ٠१ \x7b >= '7'\x7d".toList, "drop".toList,
        "0-1\x7bx\x7d".toList] := by
    decide +kernel
  have hmake := pieces_make hruns
  rwa [hpieces] at hmake

end ConditionalForms.Rule
