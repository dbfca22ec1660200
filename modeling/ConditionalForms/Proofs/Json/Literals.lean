import ConditionalForms.Json.Layout
import ConditionalForms.Json.Reader

/-! # String literals

A text is got back from its literal, whatever characters it has: quotation marks, control
characters, and characters that are written as surrogate pairs. A literal for log lines is made of
printable ASCII.
-/

namespace ConditionalForms.Json

/-- A printable character of ASCII. -/
def IsPrintable (c : Char) : Prop := 32 ≤ c.toNat ∧ c.toNat < 127

instance : DecidablePred IsPrintable := fun _ => inferInstanceAs (Decidable (_ ∧ _))

theorem toNat_range (c : Char) : c.toNat < 0xD800 ∨ 0xE000 ≤ c.toNat ∧ c.toNat < 0x110000 := by
  have hvalid := c.valid
  simp only [UInt32.isValidChar, Nat.isValidChar] at hvalid
  have hc : c.toNat = c.val.toNat := rfl
  omega

/-! ## Units -/

namespace Reader

/-- The first unit of the surrogate pair of a character. -/
def highUnit (c : Char) : Nat := 0xD800 + (c.toNat - 0x10000) / 0x400

/-- The second unit of the surrogate pair of a character. -/
def lowUnit (c : Char) : Nat := 0xDC00 + (c.toNat - 0x10000) % 0x400

theorem hexValue?_digitChar : ∀ d < 16, hexValue? (Nat.digitChar d) = some d := by decide

theorem unit?_hexDigits {n : Nat} (h : n < 0x10000) :
    ∃ a b c d, Text.hexDigits 4 n = [a, b, c, d] ∧ unit? a b c d = some n := by
  refine ⟨_, _, _, _, rfl, ?_⟩
  simp only [unit?, hexValue?_digitChar _ (Nat.mod_lt _ (by decide : 0 < 16)), Option.bind_eq_bind,
    Option.bind_some, Option.some.injEq]
  omega

/-- The unit of a character does not start a surrogate pair. -/
theorem pairChar?_toNat (c : Char) (n : Nat) : pairChar? c.toNat n = none := by
  have hrange := toNat_range c
  have hplain : (0xD800 ≤ c.toNat && c.toNat < 0xDC00) = false := by
    simp only [Bool.and_eq_false_iff, decide_eq_false_iff_not]
    omega
  simp [pairChar?, hplain]

/-- The two units of a character are read as it. -/
theorem pairChar?_units {c : Char} (h : 0x10000 ≤ c.toNat) :
    pairChar? (highUnit c) (lowUnit c) = some c := by
  have hrange := toNat_range c
  have hhigh : (c.toNat - 0x10000) / 0x400 < 0x400 := by omega
  have hlow : (c.toNat - 0x10000) % 0x400 < 0x400 := by omega
  have hnumber : 0x10000 + (0xD800 + (c.toNat - 0x10000) / 0x400 - 0xD800) * 0x400 +
      (0xDC00 + (c.toNat - 0x10000) % 0x400 - 0xDC00) = c.toNat := by omega
  rw [highUnit, lowUnit, pairChar?, hnumber, Char.ofNat_toNat, if_pos]
  simp only [Bool.and_eq_true, decide_eq_true_eq]
  omega

/-! ## Pieces -/

/-- A text as pieces: each character stands as it is, as its unit, or as the two units of a
surrogate pair. -/
inductive Denotes : List Piece → List Char → Prop where
  | nil : Denotes [] []
  | char (c : Char) {ps : List Piece} {cs : List Char} (h : Denotes ps cs) :
      Denotes (.inl c :: ps) (c :: cs)
  | unit {c : Char} (hc : c.toNat < 0x10000) {ps : List Piece} {cs : List Char}
      (h : Denotes ps cs) : Denotes (.inr c.toNat :: ps) (c :: cs)
  | pair {c : Char} (hc : 0x10000 ≤ c.toNat) {ps : List Piece} {cs : List Char}
      (h : Denotes ps cs) :
      Denotes (.inr (highUnit c) :: .inr (lowUnit c) :: ps) (c :: cs)

section

variable (held : Option Char) (ps : List Piece)

theorem joinPieces_char (c : Char) :
    joinPieces (held.map Char.toNat) (.inl c :: ps) = held.toList ++ c :: joinPieces none ps := by
  cases held with
  | none => rfl
  | some d => simp [joinPieces]

theorem joinPieces_unit (n : Nat) :
    joinPieces (held.map Char.toNat) (.inr n :: ps) = held.toList ++ joinPieces (some n) ps := by
  cases held with
  | none => rfl
  | some d => simp [joinPieces, pairChar?_toNat]

theorem joinPieces_pair {m n : Nat} {c : Char} (h : pairChar? m n = some c) :
    joinPieces (some m) (.inr n :: ps) = c :: joinPieces none ps := by
  simp [joinPieces, h]

end

/-- Pieces are joined to the text that they denote, after a character that is held as its unit. -/
theorem Denotes.joinPieces_eq {ps : List Piece} {cs : List Char} (h : Denotes ps cs)
    (held : Option Char) : joinPieces (held.map Char.toNat) ps = held.toList ++ cs := by
  induction h generalizing held with
  | nil =>
      cases held with
      | none => rfl
      | some d => simp [joinPieces]
  | char c _ ih =>
      have hnone := ih none
      rw [Option.map_none, Option.toList_none, List.nil_append] at hnone
      rw [joinPieces_char, hnone]
  | @unit c _ _ _ _ ih =>
      have hsome := ih (some c)
      rw [Option.map_some, Option.toList_some, List.singleton_append] at hsome
      rw [joinPieces_unit, hsome]
  | pair hc _ ih =>
      have hnone := ih none
      rw [Option.map_none, Option.toList_none, List.nil_append] at hnone
      rw [joinPieces_unit, joinPieces_pair _ (pairChar?_units hc), hnone]

/-! ## Literals -/

section

variable (opening : List Char) {rest : List Char}

theorem pieces_plain {c : Char} (hquote : c ≠ '"') (hslash : c ≠ '\\') (hc : 32 ≤ c.toNat) :
    pieces opening (c :: rest) = (pieces opening rest).map fun r => (.inl c :: r.1, r.2) := by
  have hlow : ¬c.toNat < 32 := by omega
  rw [pieces.eq_def]
  split
  · rename_i h
    cases h
  · rename_i h
    exact absurd (List.cons.inj h).1 hquote
  · rename_i h
    exact absurd (List.cons.inj h).1 hslash
  · rename_i h
    exact absurd (List.cons.inj h).1 hslash
  · rename_i h
    exact absurd (List.cons.inj h).1 hslash
  · rename_i h
    obtain ⟨rfl, rfl⟩ := List.cons.inj h
    rw [if_neg hlow]

theorem pieces_short {c e : Char} (he : shortEscape? e = some c) :
    pieces opening ('\\' :: e :: rest) =
      (pieces opening rest).map fun r => (.inl c :: r.1, r.2) := by
  have hunit : e ≠ 'u' := by
    rintro rfl
    cases he
  simp [pieces, hunit, he]

theorem pieces_unitEscape {n : Nat} (hn : n < 0x10000) (hrest : rest ≠ []) :
    pieces opening (unitEscape n ++ rest) =
      (pieces opening rest).map fun r => (.inr n :: r.1, r.2) := by
  obtain ⟨a, b, c, d, hdigits, hunit⟩ := unit?_hexDigits hn
  simp [unitEscape, hdigits, pieces, hrest, hunit]

end

/-- What a character stands as in a literal, which is read as pieces that denote the character. -/
def Writes (c : Char) (written : List Char) : Prop :=
  ∃ ps, (∀ qs cs, Denotes qs cs → Denotes (ps ++ qs) (c :: cs)) ∧
    ∀ opening rest, rest ≠ [] →
      pieces opening (written ++ rest) = (pieces opening rest).map fun r => (ps ++ r.1, r.2)

theorem writes_plain {c : Char} (hquote : c ≠ '"') (hslash : c ≠ '\\') (hc : 32 ≤ c.toNat) :
    Writes c [c] :=
  ⟨[.inl c], fun _ _ h => h.char c, fun opening _ _ => pieces_plain opening hquote hslash hc⟩

theorem writes_short {c e : Char} (he : shortEscape? e = some c) : Writes c ['\\', e] :=
  ⟨[.inl c], fun _ _ h => h.char c, fun opening _ _ => pieces_short opening he⟩

theorem writes_charEscape (c : Char) : Writes c (charEscape c) := by
  unfold charEscape
  split
  · rename_i hc
    exact ⟨[.inr c.toNat], fun _ _ h => h.unit hc,
      fun opening _ hrest => pieces_unitEscape opening hc hrest⟩
  · have hrange := toNat_range c
    have hhigh : highUnit c < 0x10000 := by
      rw [highUnit]
      omega
    have hlow : lowUnit c < 0x10000 := by
      rw [lowUnit]
      omega
    refine ⟨[.inr (highUnit c), .inr (lowUnit c)], fun _ _ h => h.pair (by omega), ?_⟩
    intro opening rest hrest
    have hsecond : unitEscape (lowUnit c) ++ rest ≠ [] := by simp [unitEscape]
    rw [← highUnit, ← lowUnit, List.append_assoc, pieces_unitEscape opening hhigh hsecond,
      pieces_unitEscape opening hlow hrest]
    cases pieces opening rest <;> rfl

/-- How a character may be encoded: by a short escape, by its code point, or as it stands. -/
inductive Encoding (ascii : Bool) (c : Char) : List Char → Prop where
  | short {e : Char} (he : shortEscape? e = some c) : Encoding ascii c ['\\', e]
  | code : Encoding ascii c (charEscape c)
  | plain (hquote : c ≠ '"') (hslash : c ≠ '\\') (hlow : 32 ≤ c.toNat)
      (hhigh : ascii → c.toNat < 127) : Encoding ascii c [c]

theorem encoding_encodeChar (ascii : Bool) (c : Char) : Encoding ascii c (encodeChar ascii c) := by
  unfold encodeChar
  split
  · rename_i h
    rcases (by simpa using h : c = '"' ∨ c = '\\') with rfl | rfl
    · exact .short rfl
    · exact .short rfl
  rename_i hmarks
  split
  · subst c
    exact .short rfl
  split
  · subst c
    exact .short rfl
  split
  · subst c
    exact .short rfl
  split
  · subst c
    exact .short rfl
  split
  · subst c
    exact .short rfl
  split
  · exact .code
  · rename_i hcode
    obtain ⟨hquote, hslash⟩ : c ≠ '"' ∧ c ≠ '\\' := by simpa using hmarks
    obtain ⟨hlow, hhigh⟩ : 32 ≤ c.toNat ∧ (ascii → c.toNat < 127) := by simpa using hcode
    exact .plain hquote hslash hlow hhigh

theorem Encoding.writes {ascii : Bool} {c : Char} {written : List Char}
    (h : Encoding ascii c written) : Writes c written := by
  cases h with
  | short he => exact writes_short he
  | code => exact writes_charEscape c
  | plain hquote hslash hlow _ => exact writes_plain hquote hslash hlow

/-! ## Texts -/

theorem exists_pieces_flatMap (ascii : Bool) (cs opening rest : List Char) :
    ∃ ps, Denotes ps cs ∧
      pieces opening (cs.flatMap (encodeChar ascii) ++ '"' :: rest) = .ok (ps, rest) := by
  induction cs with
  | nil => exact ⟨[], .nil, by simp [pieces]⟩
  | cons c cs ih =>
      obtain ⟨ps, hps, hrest⟩ := ih
      obtain ⟨qs, hqs, hchar⟩ := (encoding_encodeChar ascii c).writes
      refine ⟨qs ++ ps, hqs ps cs hps, ?_⟩
      rw [List.flatMap_cons, List.append_assoc, hchar opening _ (by simp), hrest]
      rfl

/-- A text is got back from what stands between the quotation marks of its literal. -/
theorem string_encoded (ascii : Bool) (s : String) (opening rest : List Char) :
    string opening (s.toList.flatMap (encodeChar ascii) ++ '"' :: rest) = .ok (s, rest) := by
  obtain ⟨ps, hps, hread⟩ := exists_pieces_flatMap ascii s.toList opening rest
  have hjoin : joinPieces none ps = s.toList := by simpa using hps.joinPieces_eq none
  rw [string, hread]
  simp [Except.map, hjoin]

end Reader

/-! ## Printable literals -/

theorem isPrintable_digitChar : ∀ d < 16, IsPrintable (Nat.digitChar d) := by decide

theorem isPrintable_unitEscape (n : Nat) : ∀ c ∈ unitEscape n, IsPrintable c := by
  have hdigit (m : Nat) : IsPrintable (Nat.digitChar (m % 16)) :=
    isPrintable_digitChar _ (Nat.mod_lt _ (by decide))
  have hslash : IsPrintable '\\' := by decide
  have hu : IsPrintable 'u' := by decide
  simp [unitEscape, Text.hexDigits, hdigit, hslash, hu]

theorem isPrintable_charEscape (d : Char) : ∀ c ∈ charEscape d, IsPrintable c := by
  unfold charEscape
  split
  · exact isPrintable_unitEscape _
  · intro c hc
    rcases List.mem_append.mp hc with hc | hc
    · exact isPrintable_unitEscape _ c hc
    · exact isPrintable_unitEscape _ c hc

theorem isPrintable_of_shortEscape? {e c : Char} (h : Reader.shortEscape? e = some c) :
    IsPrintable e := by
  unfold Reader.shortEscape? at h
  split at h
  all_goals first | decide | cases h

theorem Reader.Encoding.isPrintable {d : Char} {written : List Char}
    (h : Encoding true d written) : ∀ c ∈ written, IsPrintable c := by
  cases h with
  | short he =>
      have hslash : IsPrintable '\\' := by decide
      simp [hslash, isPrintable_of_shortEscape? he]
  | code => exact isPrintable_charEscape d
  | plain _ _ hlow hhigh => exact List.forall_mem_singleton.mpr ⟨hlow, hhigh rfl⟩

theorem isPrintable_encodeText (s : String) : ∀ c ∈ encodeText true s, IsPrintable c := by
  have hquote : IsPrintable '"' := by decide
  intro c hc
  rcases List.mem_append.mp hc with hc | hc
  · rcases List.mem_cons.mp hc with rfl | hc
    · exact hquote
    · obtain ⟨d, -, hc⟩ := List.mem_flatMap.mp hc
      exact (Reader.encoding_encodeChar true d).isPrintable c hc
  · obtain rfl : c = '"' := by simpa using hc
    exact hquote

end ConditionalForms.Json
