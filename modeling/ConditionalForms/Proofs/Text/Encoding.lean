import ConditionalForms.Text.Utf8
import Mathlib.Tactic.SplitIfs

/-! # The bytes of texts

Decoding accepts exactly the bytes that texts are encoded as: every text is got back from its bytes,
and bytes that are those of no text are refused.
-/

namespace ConditionalForms.Text.Utf8

open String (utf8EncodeChar)

/-- The bytes of a text. -/
def encode (cs : List Char) : List UInt8 := cs.flatMap utf8EncodeChar

theorem encode_cons (c : Char) (cs : List Char) :
    encode (c :: cs) = utf8EncodeChar c ++ encode cs :=
  List.flatMap_cons

/-! ## Bytes by their numbers -/

theorem width_eq_one_iff {a : UInt8} : width a = 1 ↔ a.toNat < 0x80 := by
  simp only [width, UInt8.lt_iff_toNat_lt, UInt8.reduceToNat]
  grind

theorem width_eq_two_iff {a : UInt8} : width a = 2 ↔ 0xC2 ≤ a.toNat ∧ a.toNat < 0xE0 := by
  simp only [width, UInt8.lt_iff_toNat_lt, UInt8.reduceToNat]
  grind

theorem width_eq_three_iff {a : UInt8} : width a = 3 ↔ 0xE0 ≤ a.toNat ∧ a.toNat < 0xF0 := by
  simp only [width, UInt8.lt_iff_toNat_lt, UInt8.reduceToNat]
  grind

theorem width_eq_four_iff {a : UInt8} : width a = 4 ↔ 0xF0 ≤ a.toNat ∧ a.toNat < 0xF5 := by
  simp only [width, UInt8.lt_iff_toNat_lt, UInt8.reduceToNat]
  grind

theorem isTail_iff {b : UInt8} : isTail b ↔ 0x80 ≤ b.toNat ∧ b.toNat < 0xC0 := by
  simp [isTail, UInt8.lt_iff_toNat_lt, UInt8.le_iff_toNat_le]

theorem isSecond_iff {a b : UInt8} : isSecond a b ↔
    (0x80 ≤ b.toNat ∧ b.toNat < 0xC0) ∧ (a.toNat = 0xE0 → 0xA0 ≤ b.toNat) ∧
      (a.toNat = 0xED → b.toNat < 0xA0) ∧ (a.toNat = 0xF0 → 0x90 ≤ b.toNat) ∧
      (a.toNat = 0xF4 → b.toNat < 0x90) := by
  simp only [isSecond, Bool.and_eq_true, isTail_iff, ← UInt8.toNat_inj, UInt8.reduceToNat]
  refine and_congr_right fun _ => ?_
  split_ifs <;> simp [UInt8.lt_iff_toNat_lt, UInt8.le_iff_toNat_le] <;> omega

/-! ## The sequence of a character -/

/-- The sequences that decoding takes, with the numbers of their characters: a lead byte and as many
more as it opens. -/
inductive Sequence : Nat → List UInt8 → Prop where
  | one {a : UInt8} (ha : width a = 1) : Sequence a.toNat [a]
  | two {a b : UInt8} (ha : width a = 2) (hb : isSecond a b) :
      Sequence (a.toNat % 32 * 64 + tailBits b) [a, b]
  | three {a b c : UInt8} (ha : width a = 3) (hb : isSecond a b) (hc : isTail c) :
      Sequence ((a.toNat % 16 * 64 + tailBits b) * 64 + tailBits c) [a, b, c]
  | four {a b c d : UInt8} (ha : width a = 4) (hb : isSecond a b) (hc : isTail c)
      (hd : isTail d) :
      Sequence (((a.toNat % 8 * 64 + tailBits b) * 64 + tailBits c) * 64 + tailBits d) [a, b, c, d]

theorem utf8EncodeChar_ofNat {n : Nat} (h : n.isValidChar) :
    utf8EncodeChar (Char.ofNat n) =
      if n ≤ 127 then [UInt8.ofNat n]
      else if n ≤ 2047 then [UInt8.ofNat (n / 64 % 32 + 192), UInt8.ofNat (n % 64 + 128)]
      else if n ≤ 65535 then
        [UInt8.ofNat (n / 4096 % 16 + 224), UInt8.ofNat (n / 64 % 64 + 128),
          UInt8.ofNat (n % 64 + 128)]
      else
        [UInt8.ofNat (n / 262144 % 8 + 240), UInt8.ofNat (n / 4096 % 64 + 128),
          UInt8.ofNat (n / 64 % 64 + 128), UInt8.ofNat (n % 64 + 128)] := by
  have hn : (Char.ofNat n).val.toNat = n := by
    rw [Char.ofNat, dif_pos h]
    rfl
  simp only [utf8EncodeChar, hn]

theorem ofNat_eq_iff {n : Nat} {a : UInt8} : UInt8.ofNat n = a ↔ n % 256 = a.toNat := by
  rw [← UInt8.toNat_inj, UInt8.toNat_ofNat']

/-- A sequence is what its character is encoded as. -/
theorem Sequence.encode_eq {n : Nat} {bytes : List UInt8} (h : Sequence n bytes) :
    utf8EncodeChar (Char.ofNat n) = bytes := by
  cases h with
  | @one a ha =>
      rw [width_eq_one_iff] at ha
      rw [utf8EncodeChar_ofNat (.inl (by omega)), if_pos (by omega), UInt8.ofNat_toNat]
  | two ha hb =>
      rw [width_eq_two_iff] at ha
      rw [isSecond_iff] at hb
      rw [tailBits, utf8EncodeChar_ofNat (.inl (by omega)), if_neg (by omega),
        if_pos (by omega)]
      simp only [List.cons.injEq, ofNat_eq_iff, and_true]
      omega
  | three ha hb hc =>
      rw [width_eq_three_iff] at ha
      rw [isSecond_iff] at hb
      rw [isTail_iff] at hc
      rw [tailBits, tailBits, utf8EncodeChar_ofNat (by simp only [Nat.isValidChar]; omega),
        if_neg (by omega), if_neg (by omega), if_pos (by omega)]
      simp only [List.cons.injEq, ofNat_eq_iff, and_true]
      omega
  | four ha hb hc hd =>
      rw [width_eq_four_iff] at ha
      rw [isSecond_iff] at hb
      rw [isTail_iff] at hc hd
      rw [tailBits, tailBits, tailBits,
        utf8EncodeChar_ofNat (by simp only [Nat.isValidChar]; omega),
        if_neg (by omega), if_neg (by omega), if_neg (by omega)]
      simp only [List.cons.injEq, ofNat_eq_iff, and_true]
      omega

theorem toNat_ofNat_of_lt {n : Nat} (h : n < 256) : (UInt8.ofNat n).toNat = n := by
  rw [UInt8.toNat_ofNat', Nat.mod_eq_of_lt h]

/-- Every character has a sequence. -/
theorem exists_sequence {n : Nat} (h : n.isValidChar) : ∃ bytes, Sequence n bytes := by
  simp only [Nat.isValidChar] at h
  by_cases hone : n < 0x80
  · have ha : (UInt8.ofNat n).toNat = n := toNat_ofNat_of_lt (by omega)
    have hwidth : width (UInt8.ofNat n) = 1 := by
      rw [width_eq_one_iff]
      omega
    exact ⟨_, ha ▸ Sequence.one hwidth⟩
  let last := UInt8.ofNat (n % 64 + 128)
  have hlast : last.toNat = n % 64 + 128 := toNat_ofNat_of_lt (by omega)
  by_cases htwo : n < 0x800
  · let a := UInt8.ofNat (n / 64 + 192)
    have ha : a.toNat = n / 64 + 192 := toNat_ofNat_of_lt (by omega)
    have hwidth : width a = 2 := by
      rw [width_eq_two_iff]
      omega
    have hsecond : isSecond a last := by
      rw [isSecond_iff]
      omega
    have hn : a.toNat % 32 * 64 + tailBits last = n := by
      rw [tailBits]
      omega
    exact ⟨_, hn ▸ Sequence.two hwidth hsecond⟩
  have htail : isTail last := by
    rw [isTail_iff]
    omega
  let middle := UInt8.ofNat (n / 64 % 64 + 128)
  have hmiddle : middle.toNat = n / 64 % 64 + 128 := toNat_ofNat_of_lt (by omega)
  by_cases hthree : n < 0x10000
  · let a := UInt8.ofNat (n / 4096 + 224)
    have ha : a.toNat = n / 4096 + 224 := toNat_ofNat_of_lt (by omega)
    have hwidth : width a = 3 := by
      rw [width_eq_three_iff]
      omega
    have hsecond : isSecond a middle := by
      rw [isSecond_iff]
      omega
    have hn : (a.toNat % 16 * 64 + tailBits middle) * 64 + tailBits last = n := by
      rw [tailBits, tailBits]
      omega
    exact ⟨_, hn ▸ Sequence.three hwidth hsecond htail⟩
  · let a := UInt8.ofNat (n / 262144 + 240)
    let b := UInt8.ofNat (n / 4096 % 64 + 128)
    have ha : a.toNat = n / 262144 + 240 := toNat_ofNat_of_lt (by omega)
    have hb : b.toNat = n / 4096 % 64 + 128 := toNat_ofNat_of_lt (by omega)
    have hwidth : width a = 4 := by
      rw [width_eq_four_iff]
      omega
    have hsecond : isSecond a b := by
      rw [isSecond_iff]
      omega
    have hmid : isTail middle := by
      rw [isTail_iff]
      omega
    have hn : ((a.toNat % 8 * 64 + tailBits b) * 64 + tailBits middle) * 64 + tailBits last =
        n := by
      rw [tailBits, tailBits, tailBits]
      omega
    exact ⟨_, hn ▸ Sequence.four hwidth hsecond hmid htail⟩

/-! ## Decoding -/

/-- A sequence is decoded to its character, whatever comes after it. -/
theorem Sequence.exists_decodeFrom {n : Nat} {bytes : List UInt8} (h : Sequence n bytes)
    (position : Nat) (rest : List UInt8) :
    ∃ after, decodeFrom position (bytes ++ rest) =
      (Char.ofNat n :: ·) <$> decodeFrom after rest := by
  cases h with
  | @one a ha =>
      refine ⟨position + 1, ?_⟩
      rw [List.cons_append, List.nil_append, decodeFrom.eq_def]
      simp only [ha]
  | two ha hb => exact ⟨position + 2, by simp [decodeFrom, ha, hb]⟩
  | three ha hb hc => exact ⟨position + 3, by simp [decodeFrom, ha, hb, hc]⟩
  | four ha hb hc hd => exact ⟨position + 4, by simp [decodeFrom, ha, hb, hc, hd]⟩

theorem decodeFrom_encode (position : Nat) (cs : List Char) :
    decodeFrom position (encode cs) = .ok cs := by
  induction cs generalizing position with
  | nil => rfl
  | cons c cs ih =>
      have hc : Char.ofNat c.val.toNat = c := Char.ofNat_toNat c
      obtain ⟨bytes, hbytes⟩ := exists_sequence c.valid
      obtain ⟨after, hafter⟩ := hbytes.exists_decodeFrom position (encode cs)
      rw [encode_cons, ← hc, hbytes.encode_eq, hafter, ih]
      rfl

theorem exists_of_map_eq_ok {ε α β : Type} {f : α → β} {x : Except ε α} {b : β}
    (h : f <$> x = .ok b) : ∃ a, x = .ok a ∧ f a = b := by
  cases x with
  | error e => cases h
  | ok a => exact ⟨a, rfl, Except.ok.inj h⟩

theorem Sequence.encode_cons {n : Nat} {bytes : List UInt8} (h : Sequence n bytes)
    (cs : List Char) : encode (Char.ofNat n :: cs) = bytes ++ encode cs := by
  rw [Utf8.encode_cons, h.encode_eq]

-- Every byte that is not refused belongs to a sequence, so only the cases that go on are left.
theorem eq_encode_of_decodeFrom {position : Nat} {bytes : List UInt8} {cs : List Char}
    (h : decodeFrom position bytes = .ok cs) : bytes = encode cs := by
  fun_induction decodeFrom position bytes generalizing cs with
  | case1 =>
      cases h
      rfl
  | case2 position a rest ha ih =>
      obtain ⟨cs, hcs, rfl⟩ := exists_of_map_eq_ok h
      rw [(Sequence.one ha).encode_cons, ← ih hcs]
      rfl
  | case4 position a ha b rest hb ih =>
      obtain ⟨cs, hcs, rfl⟩ := exists_of_map_eq_ok h
      rw [(Sequence.two ha hb).encode_cons, ← ih hcs]
      rfl
  | case11 position a ha b c rest hb hc ih =>
      obtain ⟨cs, hcs, rfl⟩ := exists_of_map_eq_ok h
      simp only [Bool.not_eq_true', Bool.not_eq_false] at hb hc
      rw [(Sequence.three ha hb hc).encode_cons, ← ih hcs]
      rfl
  | case21 position a ha b c d rest hb hc hd ih =>
      obtain ⟨cs, hcs, rfl⟩ := exists_of_map_eq_ok h
      simp only [Bool.not_eq_true', Bool.not_eq_false] at hb hc hd
      rw [(Sequence.four ha hb hc hd).encode_cons, ← ih hcs]
      rfl
  | _ => cases h

/-- Decoding gives a text exactly on the bytes of that text. -/
theorem decodeFrom_eq_ok_iff {position : Nat} {bytes : List UInt8} {cs : List Char} :
    decodeFrom position bytes = .ok cs ↔ bytes = encode cs := by
  constructor
  · exact eq_encode_of_decodeFrom
  · rintro rfl
    exact decodeFrom_encode position cs

/-- A file has a text exactly when its bytes are those of a text, whose line endings are read as
newlines. -/
theorem readText_eq_ok_iff {bytes : List UInt8} {cs : List Char} :
    readText bytes = .ok cs ↔ ∃ written, bytes = encode written ∧ joinLineEnds written = cs := by
  constructor
  · intro h
    obtain ⟨written, hwritten, hcs⟩ := exists_of_map_eq_ok h
    exact ⟨written, decodeFrom_eq_ok_iff.mp hwritten, hcs⟩
  · rintro ⟨written, rfl, rfl⟩
    rw [readText, decodeFrom_encode]
    rfl

end ConditionalForms.Text.Utf8
