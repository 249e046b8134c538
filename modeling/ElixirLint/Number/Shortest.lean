import ElixirLint.Number.Binary64

/-!
# The shortest decimal of a double

A double stands for all reals that round to it. Its shortest decimal has the fewest digits among those reals, and of
the decimals with that many digits it is the one nearest to the double. `Binary64.shortest` finds it by trying powers
of ten from coarse to fine: a grid of multiples of a power of ten has a point in the interval as soon as one of the
two neighbours of the double on that grid lies in it.
-/

namespace ElixirLint

/-- A positive decimal: `digits * 10 ^ exponent`. -/
structure Decimal where
  /-- The digits as one whole number. -/
  digits : Nat
  /-- The exponent of ten. -/
  exponent : Int
  deriving DecidableEq, Repr

namespace Binary64

/-- The reals that round to a double, as fractions over one denominator: the lower and the upper end and the value. -/
structure Interval where
  /-- The numerator of the lower end. -/
  low : Nat
  /-- The numerator of the value. -/
  value : Nat
  /-- The numerator of the upper end. -/
  high : Nat
  /-- The common denominator. -/
  den : Nat
  /-- Whether the ends themselves round to the value. -/
  closed : Bool

/-- The interval around a double that is not zero. The step down is half as wide at a power of two. -/
def interval (x : Binary64) : Interval :=
  let narrow := x.mantissa = Nat.pow 2 52 ∧ minExponent < x.exponent
  let e := x.exponent - 2
  let up : Nat := if 0 ≤ e then Nat.pow 2 e.toNat else 1
  let den : Nat := if 0 ≤ e then 1 else Nat.pow 2 (-e).toNat
  let m := 4 * x.mantissa
  ⟨(if narrow then m - 1 else m - 2) * up, m * up, (m + 2) * up, den, x.mantissa % 2 == 0⟩

/-- Whether `n / d` lies in the interval. -/
def Interval.holds (i : Interval) (n d : Nat) : Bool :=
  if i.closed then i.low * d ≤ n * i.den && n * i.den ≤ i.high * d
  else i.low * d < n * i.den && n * i.den < i.high * d

/-- The distance of `n / d` from the value, times both denominators. -/
def Interval.distance (i : Interval) (n d : Nat) : Nat :=
  let a := n * i.den
  let b := i.value * d
  if a ≤ b then b - a else a - b

/-- The point of the grid of multiples of `10 ^ k` in the interval that is nearest to the value, if there is one. -/
def Interval.onGrid (i : Interval) (k : Int) : Option Decimal :=
  let up : Nat := if 0 ≤ k then Nat.pow 10 k.toNat else 1
  let d : Nat := if 0 ≤ k then 1 else Nat.pow 10 (-k).toNat
  let below := i.value * d / (i.den * up)
  let above := below + 1
  let lowHit := 0 < below && i.holds (below * up) d
  let highHit := i.holds (above * up) d
  if lowHit && highHit then
    let dl := i.distance (below * up) d
    let dh := i.distance (above * up) d
    some ⟨if dl < dh || (dl == dh && below % 2 == 0) then below else above, k⟩
  else if lowHit then some ⟨below, k⟩
  else if highHit then some ⟨above, k⟩
  else none

/-- The first grid with a point in the interval, going down from exponent `k`. -/
def Interval.search (i : Interval) : Nat → Int → Option Decimal
  | 0, k => i.onGrid k
  | n + 1, k => (i.onGrid k).or (i.search n (k - 1))

/-- An exponent of ten above the magnitude of a double. -/
def topExponent (x : Binary64) : Int :=
  ((Nat.log2 x.mantissa : Int) + x.exponent + 1) * 30103 / 100000 + 2

/-- The shortest decimal that rounds to the magnitude of a double; zero has the single digit zero. Twenty-two powers
of ten cover one guess too high and seventeen digits. -/
def shortest (x : Binary64) : Decimal :=
  if x.mantissa = 0 then ⟨0, 0⟩
  else (x.interval.search 22 x.topExponent).getD ⟨0, 0⟩

end Binary64

namespace Decimal

/-- The digits of a decimal as characters. -/
def digitChars (d : Decimal) : List Char := (toString d.digits).toList

/-- The position of the decimal point, counted from the front of the digits. -/
def pointAt (d : Decimal) : Int := (d.digitChars.length : Int) + d.exponent

/-- A decimal without an exponent: the digits with the point in its place, and a digit behind the point always. -/
def positional (d : Decimal) : List Char :=
  let ds := d.digitChars
  let p := d.pointAt
  if 0 ≤ d.exponent then ds ++ List.replicate d.exponent.toNat '0' ++ ['.', '0']
  else if 0 < p then ds.take p.toNat ++ '.' :: ds.drop p.toNat
  else ['0', '.'] ++ List.replicate (-p).toNat '0' ++ ds

/-- A decimal with one digit before the point and an exponent, always with its sign, behind the letter `e`; a lone
digit has no point. -/
def scientific (d : Decimal) : List Char :=
  let ds := d.digitChars
  let tail := if ds.length ≤ 1 then [] else '.' :: ds.drop 1
  let power := d.pointAt - 1
  let sign := if 0 ≤ power then ['+'] else []
  ds.take 1 ++ tail ++ 'e' :: sign ++ (toString power).toList

end Decimal

end ElixirLint
