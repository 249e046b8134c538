/-!
# Lengths in UTF-16 code units

Editors count columns in UTF-16 code units. A character of the basic plane takes one unit and every other character
two, a surrogate pair. `unitCount` is the exact length of a text, and `utf16Length` is that length held to 32 bits,
which is the width of a column number.
-/

namespace ElixirLint.Text

/-- The UTF-16 code units of one character: itself, or the high and the low surrogate. -/
def charUnits (c : Char) : List Nat :=
  if c.toNat < 0x10000 then [c.toNat]
  else [0xD800 + (c.toNat - 0x10000) / 0x400, 0xDC00 + (c.toNat - 0x10000) % 0x400]

/-- The UTF-16 encoding of a text, unit by unit. -/
def units (cs : List Char) : List Nat := cs.flatMap charUnits

/-- The number of UTF-16 code units of one character. -/
def unitWidth (c : Char) : Nat := if c.toNat < 0x10000 then 1 else 2

/-- The number of UTF-16 code units of a text. -/
def unitCount : List Char → Nat
  | [] => 0
  | c :: cs => unitWidth c + unitCount cs

/-- The largest column or line number. -/
def maxWord : Nat := 4294967295

/-- A natural number held to the largest 32-bit value. -/
def clampWord (n : Nat) : UInt32 := UInt32.ofNat (min n maxWord)

/-- The length of a text in UTF-16 code units, at most the largest 32-bit number. -/
def utf16Length (s : String) : UInt32 := clampWord (unitCount s.toList)

@[simp] theorem unitCount_nil : unitCount [] = 0 := rfl

@[simp] theorem unitCount_cons (c : Char) (cs : List Char) : unitCount (c :: cs) = unitWidth c + unitCount cs := rfl

@[simp] theorem unitCount_append (as bs : List Char) : unitCount (as ++ bs) = unitCount as + unitCount bs := by
  induction as with
  | nil => simp
  | cons a as ih => simp [ih, Nat.add_assoc]

theorem unitWidth_pos (c : Char) : 0 < unitWidth c := by
  unfold unitWidth
  split <;> omega

/-- The width of a character is the number of its units. -/
theorem length_charUnits (c : Char) : (charUnits c).length = unitWidth c := by
  unfold charUnits unitWidth
  split <;> rfl

/-- The count is the length of the encoding. -/
theorem length_units (cs : List Char) : (units cs).length = unitCount cs := by
  induction cs with
  | nil => rfl
  | cons c cs ih => simp_all [units, length_charUnits]

/-- A value within 32 bits is kept. -/
theorem toNat_clampWord_of_le {n : Nat} (h : n ≤ maxWord) : (clampWord n).toNat = n := by
  simp only [clampWord, maxWord] at *
  simp only [UInt32.toNat_ofNat', Nat.reducePow]
  omega

end ElixirLint.Text
