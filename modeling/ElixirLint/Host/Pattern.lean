import ElixirLint.Host.Bytes

/-!
# Patterns

The patterns of the shell: a question mark stands for any character, an asterisk for any characters, and brackets for
one character of a set. Characters that are quoted stand for themselves.
-/

namespace ElixirLint.Host

/-- A part of a pattern. -/
inductive PatternPart
  | one (c : Char)
  | any
  | many
  /-- A character of one of some ranges, or of none of them. -/
  | set (negated : Bool) (ranges : List (Char × Char))
  deriving DecidableEq, Repr

/-- Characters of a pattern, each with whether it is quoted. -/
abbrev Quotable := List (Char × Bool)

namespace Pattern

/-- The ranges of a set. -/
def ranges : List Char → List (Char × Char)
  | c :: '-' :: d :: cs => (c, d) :: ranges cs
  | c :: cs => (c, c) :: ranges cs
  | [] => []

/-- The set behind a bracket and what stands behind the bracket that ends it; none if nothing ends it. A bracket at the
front does not end it. -/
def set? (cs : Quotable) : Option (PatternPart × Quotable) :=
  let negated := cs.head? == some ('!', false)
  let cs := if negated then cs.tail else cs
  let inside := cs.take 1 ++ cs.tail.takeWhile (· ≠ (']', false))
  match cs.drop inside.length with
  | [] => none
  | _ :: rest => some (.set negated (ranges (inside.map (·.1))), rest)

/-- The parts of a pattern. A bracket that nothing ends stands for itself. -/
def parts : Nat → Quotable → List PatternPart
  | fuel + 1, ('?', false) :: cs => .any :: parts fuel cs
  | fuel + 1, ('*', false) :: cs => .many :: parts fuel cs
  | fuel + 1, ('[', false) :: cs =>
    match set? cs with
    | some (p, cs) => p :: parts fuel cs
    | none => .one '[' :: parts fuel cs
  | fuel + 1, (c, _) :: cs => .one c :: parts fuel cs
  | _, _ => []

/-- The pattern that characters spell. -/
def ofChars (cs : Quotable) : List PatternPart := parts cs.length cs

/-- Whether a text matches a pattern. -/
def isMatch : List PatternPart → List Char → Bool
  | [], cs => cs.isEmpty
  | .many :: ps, [] => isMatch ps []
  | .many :: ps, c :: cs => isMatch ps (c :: cs) || isMatch (.many :: ps) cs
  | .one d :: ps, c :: cs => c == d && isMatch ps cs
  | .any :: ps, _ :: cs => isMatch ps cs
  | .set negated ranges :: ps, c :: cs => (ranges.any (fun (a, b) => a ≤ c && c ≤ b) != negated) && isMatch ps cs
  | _ :: _, [] => false
termination_by ps cs => (ps.length, cs.length)

/-- A text without a front or a back that matches, the shortest or the longest. -/
def trim (front longest : Bool) (ps : List PatternPart) (cs : List Char) : List Char :=
  let lengths := List.range (cs.length + 1)
  let found := (if longest then lengths.reverse else lengths).find? fun n =>
    isMatch ps (if front then cs.take n else cs.drop (cs.length - n))
  match found with
  | some n => if front then cs.drop n else cs.take (cs.length - n)
  | none => cs

/-- Whether characters hold one that makes them a pattern. -/
def isPattern (cs : Quotable) : Bool := cs.any fun (c, quoted) => !quoted && (c == '*' || c == '?' || c == '[')

end Pattern

end ElixirLint.Host
