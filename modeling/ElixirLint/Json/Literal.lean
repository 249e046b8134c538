import ElixirLint.Json.Basic

/-!
# JSON numbers

A number literal as it is written, and the number it stands for. A literal without point and exponent that fits into
64 bits, signed or unsigned, is a whole number, except that `-0` is the negative zero. Any other literal is a double,
and its reading is fixed here: the first digits that fit into an unsigned 64-bit number make the significand, which
is rounded to a double and then multiplied or divided by a power of ten, with a rounding for each operation. A value
beyond the doubles is no number.
-/

namespace ElixirLint.Json

/-- A number literal: its sign, the digits before and behind the point, and the sign and digits of its exponent. -/
structure Literal where
  /-- Whether a minus stands in front. -/
  negative : Bool
  /-- The digits before the point. -/
  whole : List Nat
  /-- The digits behind the point, if there is a point. -/
  fraction : Option (List Nat)
  /-- Whether the exponent is negative, and its digits, if there is an exponent. -/
  exponent : Option (Bool × List Nat)
  deriving Repr

namespace Literal

/-- The largest unsigned 64-bit number. -/
def maxUnsigned : Nat := 18446744073709551615

/-- The largest signed 64-bit number. -/
def maxSigned : Nat := 9223372036854775807

/-- Takes digits into a significand as long as it stays within 64 bits; returns it and the digits left over. -/
def significand : Nat → List Nat → Nat × List Nat
  | acc, [] => (acc, [])
  | acc, d :: ds => if acc * 10 + d ≤ maxUnsigned then significand (acc * 10 + d) ds else (acc, d :: ds)

/-- The largest exponent that is taken at its word. -/
def maxExponent : Nat := 2147483647

/-- A power of ten as a double; powers up to 308 are finite. -/
def tenTo (n : Nat) : Binary64 := (Binary64.ofNat (Nat.pow 10 n)).getD (Binary64.zero false)

/-- Divides by `10 ^ 308` until the power of ten left over is a double, then divides by that. -/
def shrink : Nat → Binary64 → Nat → Option Binary64
  | 0, x, _ => some x
  | fuel + 1, x, n =>
    if n ≤ 308 then x.div (tenTo n)
    else if x.isZero then some x
    else
      match x.div (tenTo 308) with
      | some y => shrink fuel y (n - 308)
      | none => none

/-- A significand scaled by a power of ten, if the result is finite. -/
def scaled (sig : Nat) (exponent : Int) : Option Binary64 :=
  match Binary64.ofNat sig with
  | none => none
  | some x =>
    if 0 ≤ exponent then
      if exponent ≤ 308 then x.mul (tenTo exponent.toNat)
      else if x.isZero then some x
      else none
    else shrink 8 x (-exponent).toNat

/-- The value of some digits. -/
def digitsValue (ds : List Nat) : Nat := ds.foldl (fun n d => n * 10 + d) 0

/-- The significand of a literal and the exponent that its written digits give it. Digits before the point that do
not fit raise the exponent; digits behind the point lower it until one does not fit, and the rest are dropped. -/
def significandAndExponent (l : Literal) : Nat × Int :=
  let (sig, left) := significand 0 l.whole
  let behind := l.fraction.getD []
  let (sig', left') := significand sig behind
  (sig', (left.length : Int) - ((behind.length : Int) - (left'.length : Int)))

/-- The double a literal stands for, if it is finite. -/
def double? (l : Literal) : Option Binary64 :=
  let (sig, exponent) := l.significandAndExponent
  let value :=
    match l.exponent with
    | none => scaled sig exponent
    | some (false, ds) =>
      if digitsValue ds ≤ maxExponent then scaled sig (exponent + digitsValue ds)
      else if sig = 0 then some (Binary64.zero false)
      else none
    | some (true, ds) =>
      if digitsValue ds ≤ maxExponent then scaled sig (exponent - digitsValue ds)
      else some (Binary64.zero false)
  value.map (·.withSign l.negative)

/-- The value a literal stands for: a whole number if it is written as one and fits, else a double if it is finite. -/
def value? (l : Literal) : Option Json :=
  if l.fraction.isNone && l.exponent.isNone then
    let n := digitsValue l.whole
    if !l.negative && n ≤ maxUnsigned then some (.int n)
    else if l.negative && 0 < n && n ≤ maxSigned + 1 then some (.int (-n))
    else l.double?.map .double
  else l.double?.map .double

end Literal

end ElixirLint.Json
