import ElixirLint.Text.Utf8

/-!
# Percent triplets

A URI spells a byte that it cannot hold as a percent sign and two hexadecimal digits. Which bytes those are depends on
where they stand, so `Percent.encode` is told; `Percent.decode` puts the bytes back and leaves alone what is no
triplet.
-/

namespace ElixirLint.Percent

/-- The byte of the percent sign. -/
def sign : UInt8 := 37

/-- The value of the byte of a hexadecimal digit of either case. -/
def digitValue? (b : UInt8) : Option UInt8 :=
  if 48 ≤ b && b ≤ 57 then some (b - 48)
  else if 97 ≤ b && b ≤ 102 then some (b - 87)
  else if 65 ≤ b && b ≤ 70 then some (b - 55)
  else none

/-- The byte of the upper-case hexadecimal digit with a value. -/
def digit (n : UInt8) : UInt8 := if n < 10 then n + 48 else n + 55

/-- The bytes that triplets stand for; other bytes stand for themselves. -/
def decode : List UInt8 → List UInt8
  | a :: b :: c :: rest =>
    if a = sign then
      match digitValue? b, digitValue? c with
      | some hi, some lo => (hi * 16 + lo) :: decode rest
      | _, _ => a :: decode (b :: c :: rest)
    else a :: decode (b :: c :: rest)
  | b :: rest => b :: decode rest
  | [] => []

/-- The triplet of a byte. -/
def triplet (b : UInt8) : List UInt8 := [sign, digit (b / 16), digit (b % 16)]

/-- Bytes with triplets in place of those that must be spelled so. -/
def encode (special : UInt8 → Bool) (bs : List UInt8) : List UInt8 :=
  bs.flatMap fun b => if special b then triplet b else [b]

end ElixirLint.Percent
