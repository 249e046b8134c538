/-!
# Names in plain letters

A part of a domain name with letters beyond ASCII has a spelling in ASCII alone, which begins with `xn--`. Behind that
stand the plain letters of the name, a hyphen if there are any, and a number for each other letter: how far one has to
go from the last insertion, counting all places in the name for each code point in turn. The numbers are written with
the digits `a` to `z` and `0` to `9`, the lowest digit first; where a number ends follows from a bias that adapts to
the numbers read before.

Main definition: `decode?`.
-/

namespace ElixirLint.Punycode

/-- The number of digits. -/
def base : Nat := 36

/-- The value of a digit. -/
def digitValue? (c : Char) : Option Nat :=
  if 'a' ≤ c && c ≤ 'z' then some (c.toNat - 97)
  else if 'A' ≤ c && c ≤ 'Z' then some (c.toNat - 65)
  else if c.isDigit then some (c.toNat - 22)
  else none

/-- From which value on a digit does not end its number. -/
def threshold (k bias : Nat) : Nat := if k ≤ bias then 1 else if bias + 26 ≤ k then 26 else k - bias

/-- A number at the front of some digits and the digits behind it. Every digit so far makes the next worth `weight`,
and `k` grows by the base with each. -/
def number? (bias : Nat) (k weight : Nat) : List Char → Option (Nat × List Char)
  | [] => none
  | c :: cs =>
    match digitValue? c with
    | none => none
    | some d =>
      let t := threshold k bias
      if d < t then some (d * weight, cs)
      else (number? bias (k + base) (weight * (base - t)) cs).map fun (n, rest) => (n + d * weight, rest)

/-- The bias after a large number: it grows by the base for each division; `fuel` bounds their count. -/
def adaptLarge : Nat → Nat → Nat → Nat
  | 0, delta, k => k + base * delta / (delta + 38)
  | fuel + 1, delta, k =>
    if 455 < delta then adaptLarge fuel (delta / 35) (k + base) else k + base * delta / (delta + 38)

/-- The bias after a number, in a name that has so many letters now. -/
def adapt (delta letters : Nat) (first : Bool) : Nat :=
  let delta := if first then delta / 700 else delta / 2
  adaptLarge 32 (delta + delta / letters) 0

/-- How far the insertions have come. -/
structure State where
  /-- The letters so far. -/
  letters : List Char
  /-- The code point of the last insertion. -/
  code : Nat := 128
  /-- The place at which the next one may be. -/
  place : Nat := 0
  /-- The bias. -/
  bias : Nat := 72
  /-- Whether nothing has been inserted. -/
  first : Bool := true

/-- The state after the insertion that a number stands for; none if it is of no character. -/
def State.insert? (s : State) (delta : Nat) : Option State :=
  let count := s.letters.length + 1
  let position := s.place + delta
  let code := s.code + position / count
  let place := position % count
  if h : code.isValidChar then
    some
      { letters := s.letters.take place ++ Char.ofNatAux code h :: s.letters.drop place
        code := code
        place := place + 1
        bias := adapt delta count s.first
        first := false }
  else none

/-- The letters after all insertions; there are no more of them than digits. -/
def insertAll? : Nat → State → List Char → Option (List Char)
  | _, s, [] => some s.letters
  | 0, _, _ => none
  | fuel + 1, s, cs =>
    match number? s.bias base 1 cs with
    | none => none
    | some (delta, rest) =>
      match s.insert? delta with
      | none => none
      | some s => insertAll? fuel s rest

/-- The part of a name whose spelling stands behind `xn--`. -/
def decode? (cs : List Char) : Option (List Char) :=
  let digits := (cs.reverse.takeWhile (· ≠ '-')).reverse
  let plain := cs.take (cs.length - digits.length - 1)
  if plain.all fun c => c.toNat < 0x80 then
    insertAll? cs.length { letters := plain } (if plain.isEmpty then cs else digits)
  else none

end ElixirLint.Punycode
