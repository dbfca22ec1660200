import ConditionalForms.Proofs.Text.Scanning
import ConditionalForms.Rule.Reader
import Mathlib.Data.List.Basic

/-! # The shapes of rules

What the readers of both dialects accept, as ways to write a text: a name in brackets, a body in
braces, and a piece that names two positions.
-/

namespace ConditionalForms.Rule

open Text (isBlank isDigit)

theorem inside?_eq_some_iff {cs body : List Char} :
    inside? cs = some body ↔ cs = '{' :: (body ++ ['}']) ∧ ∀ c ∈ body, isBrace c = false := by
  constructor
  · intro h
    cases cs with
    | nil => cases h
    | cons c cs =>
        by_cases hopen : c = '{'
        · subst c
          simp only [inside?] at h
          split at h
          · rename_i hcond
            obtain rfl : cs.dropLast = body := Option.some.inj h
            simp only [Bool.and_eq_true, decide_eq_true_eq, Bool.not_eq_true',
              List.any_eq_false] at hcond
            obtain ⟨hlast, hbraces⟩ := hcond
            have hcs : cs.dropLast ++ ['}'] = cs :=
              List.dropLast_append_getLast? '}' (Option.mem_def.mpr hlast)
            exact ⟨by rw [hcs], fun d hd => Bool.eq_false_iff.mpr (hbraces d hd)⟩
          · cases h
        · simp [inside?, hopen] at h
  · rintro ⟨rfl, hbody⟩
    have hbraces : (body.any isBrace) = false :=
      List.any_eq_false.mpr fun d hd => Bool.eq_false_iff.mp (hbody d hd)
    simp [inside?, hbraces]

theorem bracketed?_eq_some_iff {cs name rest : List Char} :
    bracketed? cs = some (name, rest) ↔
      cs = '[' :: (name ++ ']' :: rest) ∧ name ≠ [] ∧ ']' ∉ name := by
  constructor
  · intro h
    cases cs with
    | nil => cases h
    | cons c cs =>
        by_cases hopen : c = '['
        · subst c
          rw [bracketed?] at h
          cases hspan : cs.span (· ≠ ']') with
          | mk taken left =>
              obtain ⟨hcs, htaken, hleft⟩ := Text.span_eq_iff.mp hspan
              rw [hspan] at h
              cases taken with
              | nil => cases h
              | cons t ts =>
                  cases left with
                  | nil => cases h
                  | cons l ls =>
                      obtain ⟨rfl, rfl⟩ : t :: ts = name ∧ ls = rest := by simpa using h
                      have hl : l = ']' := by simpa using hleft l rfl
                      refine ⟨by rw [hcs, hl], by simp, ?_⟩
                      intro hmem
                      simpa using htaken ']' hmem
        · simp [bracketed?, hopen] at h
  · rintro ⟨rfl, hne, hname⟩
    have hspan : (name ++ ']' :: rest).span (· ≠ ']') = (name, ']' :: rest) := by
      refine Text.span_eq_iff.mpr ⟨rfl, ?_, by simp⟩
      intro c hc
      have hc' : c ≠ ']' := fun he => hname (he ▸ hc)
      simpa using hc'
    cases name with
    | nil => exact absurd rfl hne
    | cons c cs => simp only [bracketed?, hspan]

/-! ## Pieces -/

/-- Blanks, as they may stand between the parts of a piece. -/
def Blanks (w : List Char) : Prop := ∀ c ∈ w, isBlank c

theorem blanks_nil : Blanks [] := by simp [Blanks]

/-- A way to write a piece: two runs of digits around a hyphen, and a body in braces. -/
structure Piece.Writes (p : Piece) (cs : List Char) : Prop where
  text : ∃ u v w, Blanks u ∧ Blanks v ∧ Blanks w ∧
    cs = p.sectionDigits ++ (u ++ '-' :: (v ++ (p.fieldDigits ++ (w ++ '{' :: (p.body ++ ['}'])))))
  sectionDigits : p.sectionDigits ≠ [] ∧ ∀ c ∈ p.sectionDigits, isDigit c
  fieldDigits : p.fieldDigits ≠ [] ∧ ∀ c ∈ p.fieldDigits, isDigit c
  body : ∀ c ∈ p.body, isBrace c = false

/-- A run of digits ends where blanks or a sign follow. -/
theorem span_digits {ds w rest : List Char} {c : Char} (hds : ∀ d ∈ ds, isDigit d) (hw : Blanks w)
    (hc : isDigit c = false) :
    (ds ++ (w ++ c :: rest)).span isDigit = (ds, w ++ c :: rest) := by
  refine Text.span_eq_iff.mpr ⟨rfl, hds, ?_⟩
  cases w with
  | nil => simpa using hc
  | cons b w =>
      intro d hd
      obtain rfl : b = d := by simpa using hd
      have hb : isBlank b := hw b (by simp)
      by_contra hdigit
      rw [Text.not_isBlank_of_isDigit (by simpa using hdigit)] at hb
      cases hb

theorem trimStart_blanks {w rest : List Char} {c : Char} (hw : Blanks w) (hc : isBlank c = false) :
    Text.trimStart (w ++ c :: rest) = c :: rest := by
  rw [Text.trimStart_append hw, Text.trimStart_of_head]
  simpa using hc

theorem Piece.Writes.of_splitPiece? {cs : List Char} {p : Piece} (h : splitPiece? cs = some p) :
    p.Writes cs := by
  rw [splitPiece?] at h
  cases hsection : cs.span isDigit with
  | mk ds rest =>
      obtain ⟨hcs, hds, -⟩ := Text.span_eq_iff.mp hsection
      obtain ⟨u, hu, hrest⟩ := Text.exists_blanks_append_trimStart rest
      rw [hsection] at h
      cases ds with
      | nil => cases h
      | cons d ds =>
          cases hhyphen : Text.trimStart rest with
          | nil => simp [hhyphen] at h
          | cons c rest' =>
              by_cases hc : c = '-'
              · subst c
                obtain ⟨v, hv, hrest'⟩ := Text.exists_blanks_append_trimStart rest'
                simp only [hhyphen] at h
                cases hfield : (Text.trimStart rest').span isDigit with
                | mk es last =>
                    obtain ⟨hes', hes, -⟩ := Text.span_eq_iff.mp hfield
                    obtain ⟨w, hw, hlast⟩ := Text.exists_blanks_append_trimStart last
                    rw [hfield] at h
                    cases es with
                    | nil => cases h
                    | cons e es =>
                        obtain ⟨body, hinside, rfl⟩ := Option.map_eq_some_iff.mp h
                        obtain ⟨hbraced, hbody⟩ := inside?_eq_some_iff.mp hinside
                        refine ⟨⟨u, v, w, hu, hv, hw, ?_⟩, ⟨by simp, hds⟩, ⟨by simp, hes⟩, hbody⟩
                        -- Each part is what the scanner of the part before it has left.
                        rw [← hbraced, ← hlast, ← hes', ← hrest', ← hhyphen, ← hrest]
                        exact hcs
              · simp [hhyphen, hc] at h

theorem Piece.Writes.splitPiece?_eq {cs : List Char} {p : Piece} (h : p.Writes cs) :
    splitPiece? cs = some p := by
  obtain ⟨⟨u, v, w, hu, hv, hw, rfl⟩, ⟨hne, hds⟩, ⟨hne', hes⟩, hbody⟩ := h
  obtain ⟨ds, es, body⟩ := p
  have hinside : inside? ('{' :: (body ++ ['}'])) = some body :=
    inside?_eq_some_iff.mpr ⟨rfl, hbody⟩
  have hfield : Text.trimStart (v ++ (es ++ (w ++ '{' :: (body ++ ['}'])))) =
      es ++ (w ++ '{' :: (body ++ ['}'])) := by
    rw [Text.trimStart_append hv, Text.trimStart_of_head]
    intro c hc
    obtain ⟨e, es', rfl⟩ := List.exists_cons_of_ne_nil hne'
    obtain rfl : e = c := by simpa using hc
    exact Text.not_isBlank_of_isDigit (hes e (by simp))
  have hsection : (ds ++ (u ++ '-' :: (v ++ (es ++ (w ++ '{' :: (body ++ ['}'])))))).span isDigit =
      (ds, u ++ '-' :: (v ++ (es ++ (w ++ '{' :: (body ++ ['}']))))) :=
    span_digits hds hu (by decide)
  have hrest : (es ++ (w ++ '{' :: (body ++ ['}']))).span isDigit =
      (es, w ++ '{' :: (body ++ ['}'])) := span_digits hes hw (by decide)
  obtain ⟨d, ds, rfl⟩ := List.exists_cons_of_ne_nil hne
  obtain ⟨e, es, rfl⟩ := List.exists_cons_of_ne_nil hne'
  simp only [splitPiece?, hsection, trimStart_blanks hu (by decide : isBlank '-' = false), hfield,
    hrest, trimStart_blanks hw (by decide : isBlank '{' = false), hinside, Option.map_some]

/-- A piece starts with a digit and ends with a brace. -/
theorem Piece.Writes.trim_eq {cs : List Char} {p : Piece} (h : p.Writes cs) :
    Text.trim cs = cs := by
  obtain ⟨⟨u, v, w, -, -, -, rfl⟩, ⟨hne, hds⟩, -, -⟩ := h
  apply Text.trim_eq_self
  · intro c hc
    obtain ⟨d, ds, hcons⟩ := List.exists_cons_of_ne_nil hne
    obtain rfl : d = c := by simpa [hcons] using hc
    exact Text.not_isBlank_of_isDigit (hds d (by simp [hcons]))
  · intro c hc
    obtain rfl : '}' = c := by simpa [List.getLast?_cons] using hc
    decide

theorem Piece.Writes.splitPieces_eq {cs : List Char} {p : Piece} (h : p.Writes cs)
    (hcs : ∀ c ∈ cs, c ≠ '\n' ∧ c ≠ ';') : splitPieces cs = [cs] := by
  have hwhole : cs.splitOnP (fun c => c = '\n' || c = ';') = [cs] := by
    apply List.splitOnP_eq_singleton
    intro c hc
    simpa using hcs c hc
  have hne : cs ≠ [] := by
    obtain ⟨⟨u, v, w, -, -, -, rfl⟩, ⟨hne, -⟩, -, -⟩ := h
    simp [hne]
  simp [splitPieces, hwhole, h.trim_eq, hne]

/-- A text splits into the parts that it writes, and into none other. -/
theorem splitPiece?_eq_some_iff {cs : List Char} {p : Piece} :
    splitPiece? cs = some p ↔ p.Writes cs :=
  ⟨.of_splitPiece?, (·.splitPiece?_eq)⟩

end ConditionalForms.Rule
