/-!
# Addresses of hosts

A host may be named by a number: four bytes between dots, or eight groups of sixteen bits between colons, which stand
between brackets in a URI.
-/

namespace ElixirLint.Address

/-- Whether a character is a hexadecimal digit. -/
def isHexDigit (c : Char) : Bool := c.isDigit || ('a' ≤ c && c ≤ 'f') || ('A' ≤ c && c ≤ 'F')

/-- The parts of a text between its occurrences of a character. -/
def parts (x : Char) : List Char → List (List Char)
  | [] => [[]]
  | c :: cs =>
    match parts x cs with
    | [] => [[c]]
    | p :: ps => if c = x then [] :: p :: ps else (c :: p) :: ps

/-! ### Eight groups -/

/-- Whether a text is a number from 0 to 255 without a zero in front. -/
def isByteText (cs : List Char) : Bool :=
  !cs.isEmpty && cs.length ≤ 3 && cs.all Char.isDigit && (cs.length == 1 || cs.head? != some '0') &&
    cs.foldl (fun n c => n * 10 + (c.toNat - 48)) 0 ≤ 255

/-- How many groups of sixteen bits a group stands for: one, or two for an address of four bytes at the end. -/
def groupSize? (last : Bool) (g : List Char) : Option Nat :=
  if !g.isEmpty && g.length ≤ 4 && g.all isHexDigit then some 1
  else if last && (parts '.' g).length == 4 && (parts '.' g).all isByteText then some 2
  else none

/-- How many groups of sixteen bits some groups stand for. -/
def groupsSize? (final : Bool) : List (List Char) → Option Nat
  | [] => some 0
  | [g] => groupSize? final g
  | g :: gs =>
    match groupSize? false g, groupsSize? final gs with
    | some a, some b => some (a + b)
    | _, _ => none

/-- A text before and behind its first two colons in a row. -/
def splitGap : List Char → Option (List Char × List Char)
  | ':' :: ':' :: cs => some ([], cs)
  | c :: cs => (splitGap cs).map fun (a, b) => (c :: a, b)
  | [] => none

/-- Whether a text is an address of eight groups; two colons stand for groups of zeros. -/
def isGroups (cs : List Char) : Bool :=
  let size (final : Bool) (cs : List Char) : Option Nat :=
    if cs.isEmpty then some 0 else groupsSize? final (parts ':' cs)
  match splitGap cs with
  | some (before, behind) =>
    match size false before, size true behind with
    | some a, some b => a + b ≤ 7
    | _, _ => false
  | none => size true cs == some 8

/-! ### Four bytes -/

/-- The number that a text spells, in base eight or sixteen behind the marks for them. -/
def number? (cs : List Char) : Option Nat :=
  let digits (base : Nat) (cs : List Char) : Option Nat :=
    cs.foldlM (fun n c =>
      let c := c.toLower
      let d := if c.isDigit then c.toNat - 48 else if 'a' ≤ c && c ≤ 'f' then c.toNat - 87 else 16
      if d < base then some (n * base + d) else none) 0
  match cs with
  | [] => none
  | '0' :: 'x' :: cs => digits 16 cs
  | '0' :: 'X' :: cs => digits 16 cs
  | '0' :: cs => digits 8 cs
  | cs => digits 10 cs

/-- The labels of a name but for an empty one at its end. -/
def proper (labels : List (List Char)) : List (List Char) :=
  if 1 < labels.length && labels.getLast? == some [] then labels.dropLast else labels

/-- Whether the last label of a name is a number, so that the name must be an address. -/
def endsInNumber (labels : List (List Char)) : Bool :=
  match (proper labels).getLast? with
  | none => false
  | some last => !last.isEmpty && (last.all Char.isDigit || (number? last).isSome)

/-- Whether labels spell an address of four bytes: every number but the last is a byte, and the last fills the rest. -/
def isBytes (labels : List (List Char)) : Bool :=
  match (proper labels).mapM number? with
  | none => false
  | some ns =>
    ns.length ≤ 4 && ns.dropLast.all (· ≤ 255) &&
      match ns.getLast? with
      | some n => n < Nat.pow 256 (5 - ns.length)
      | none => false

end ElixirLint.Address
