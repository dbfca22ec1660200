/-!
# Characters

Texts, here and everywhere, are sequences of whole characters, that is of the Unicode scalar values.
Half of a surrogate pair is no character and no text holds one, so that every text can be encoded.
-/

namespace ConditionalForms.Text

/-- The character of a code point. Half of a surrogate pair is none, and neither is a number beyond
the last code point. -/
def character? (n : Nat) : Option Char := if n.isValidChar then some (Char.ofNat n) else none

/-- The character of a code point, the replacement character where there is none. -/
def characterAt (n : Nat) : Char := (character? n).getD '\uFFFD'

@[simp] theorem character?_toNat (c : Char) : character? c.toNat = some c := by
  have hvalid : c.toNat.isValidChar := c.valid
  rw [character?, if_pos hvalid, Char.ofNat_toNat]

@[simp] theorem characterAt_toNat (c : Char) : characterAt c.toNat = c := by
  rw [characterAt, character?_toNat, Option.getD_some]

end ConditionalForms.Text
