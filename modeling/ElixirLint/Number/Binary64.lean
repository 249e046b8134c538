/-!
# Double-precision numbers

Finite binary floating-point numbers with 53 bits of precision, as an exact value: a sign, a whole mantissa and a
power of two. Rounding is done on quotients of natural numbers, to the nearest double and to the even one of two
equally near, so every operation here is exact up to one stated rounding.
-/

namespace ElixirLint

/-- A finite double: `mantissa * 2 ^ exponent`, negated when `negative` is set. Zero keeps its sign. -/
structure Binary64 where
  /-- Whether the sign is minus; zero has a sign too. -/
  negative : Bool
  /-- The mantissa, below `2 ^ 53`. -/
  mantissa : Nat
  /-- The exponent of two, between -1074 and 971. -/
  exponent : Int
  deriving DecidableEq, Repr

namespace Binary64

/-- The least exponent: doubles are multiples of `2 ^ -1074`. -/
def minExponent : Int := -1074

/-- The greatest exponent of a finite double. -/
def maxExponent : Int := 971

/-- Zero with the sign given. -/
def zero (negative : Bool) : Binary64 := ⟨negative, 0, minExponent⟩

/-- Whether the value is zero, of either sign. -/
def isZero (x : Binary64) : Bool := x.mantissa == 0

/-- The quotient of two natural numbers rounded to the nearest whole number, and to the even one of two. -/
def roundDiv (num den : Nat) : Nat :=
  let q := num / den
  let r := num % den
  if 2 * r < den then q
  else if den < 2 * r then q + 1
  else if q % 2 = 0 then q
  else q + 1

/-- The fraction `num / den` divided by `2 ^ e`. -/
def scale (num den : Nat) (e : Int) : Nat × Nat :=
  if 0 ≤ e then (num, den * Nat.pow 2 e.toNat) else (num * Nat.pow 2 (-e).toNat, den)

/-- The exponent at which the fraction `num / den` has a 53-bit whole part, but never below the least exponent. -/
def exponentFor (num den : Nat) : Int :=
  let guess : Int := (Nat.log2 num : Int) - (Nat.log2 den : Int) - 52
  let s := scale num den guess
  let e := if s.1 / s.2 < Nat.pow 2 52 then guess - 1 else guess
  max e minExponent

/-- The positive double nearest to `num / den`, if it is finite. -/
def ofFraction (num den : Nat) : Option Binary64 :=
  if num = 0 then some (zero false)
  else
    let e := exponentFor num den
    let s := scale num den e
    let m := roundDiv s.1 s.2
    let x : Binary64 := if m = Nat.pow 2 53 then ⟨false, Nat.pow 2 52, e + 1⟩ else ⟨false, m, e⟩
    if maxExponent < x.exponent then none else some x

/-- The magnitude of a double as a fraction. -/
def fraction (x : Binary64) : Nat × Nat :=
  if 0 ≤ x.exponent then (x.mantissa * Nat.pow 2 x.exponent.toNat, 1) else (x.mantissa, Nat.pow 2 (-x.exponent).toNat)

/-- The double nearest to a natural number, if it is finite. -/
def ofNat (n : Nat) : Option Binary64 := ofFraction n 1

/-- The product of two magnitudes, rounded once, if it is finite. -/
def mul (x y : Binary64) : Option Binary64 :=
  ofFraction (x.fraction.1 * y.fraction.1) (x.fraction.2 * y.fraction.2)

/-- The quotient of two magnitudes, rounded once. The divisor is not zero. -/
def div (x y : Binary64) : Option Binary64 :=
  ofFraction (x.fraction.1 * y.fraction.2) (x.fraction.2 * y.fraction.1)

/-- A double with the sign given. -/
def withSign (negative : Bool) (x : Binary64) : Binary64 := { x with negative }

end Binary64

end ElixirLint
