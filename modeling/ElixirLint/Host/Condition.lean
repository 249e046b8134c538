import ElixirLint.Host.Arithmetic
import ElixirLint.Host.Files

/-!
# Conditions

The conditions that scripts test: about files, texts and numbers, with negation, conjunction and disjunction. What a word
means depends on the number of words: a sign with nothing to work on is a text like any other.
-/

namespace ElixirLint.Host

namespace Condition

/-- The number that a word is. -/
def number (s : String) : Except String Int :=
  let (negative, body) := splitSign (s.toList.dropWhile isSpace)
  match leadingNumber? 10 body with
  | some (n, rest) => if rest.all isSpace then .ok (withSign negative n) else .error ("Illegal number: " ++ s)
  | none => .error ("Illegal number: " ++ s)

/-- The signs that ask about files. -/
def fileSigns : List String := ["-e", "-f", "-d", "-r", "-w", "-x", "-s", "-h", "-L", "-t"]

/-- Whether something is true of a file or a text; none if the sign is not known. -/
def unary? (t : FileTree) (operator s : String) : Option Bool :=
  match operator with
  | "-z" => some s.isEmpty
  | "-n" => some !s.isEmpty
  | _ =>
    if fileSigns.contains operator then
      match t.at? s with
      | .ok (_, .directory) => some (["-e", "-d", "-r", "-w", "-x", "-s"].contains operator)
      | .ok (_, .file contents executable) =>
        some (["-e", "-f", "-r", "-w"].contains operator || (operator == "-s" && !contents.isEmpty) ||
          (operator == "-x" && executable))
      | .error _ => some (s == "/dev/null" && ["-e", "-r", "-w"].contains operator)
    else none

/-- Whether something is true of two words; none if the sign is not known. -/
def binary? (operator a b : String) : Option (Except String Bool) :=
  let numbers (f : Int → Int → Bool) : Option (Except String Bool) := some do return f (← number a) (← number b)
  match operator with
  | "=" => some (.ok (a == b))
  | "!=" => some (.ok (a != b))
  | "<" => some (.ok (a < b))
  | ">" => some (.ok (b < a))
  | "-eq" => numbers (· == ·)
  | "-ne" => numbers (· != ·)
  | "-ge" => numbers fun x y => y ≤ x
  | "-gt" => numbers fun x y => y < x
  | "-le" => numbers fun x y => x ≤ y
  | "-lt" => numbers fun x y => x < y
  | _ => none

/-- Whether a condition without signs that join holds. -/
def single (t : FileTree) : List String → Except String Bool
  | [] => .ok false
  | [s] => .ok !s.isEmpty
  | "!" :: ws => do
    match ws with
    | [operator, b] => ((binary? operator "!" b).getD ((single t [operator, b]).map (!·)))
    | ws => return !(← single t ws)
  | [operator, s] =>
    match unary? t operator s with
    | some b => .ok b
    | none => .error (if (binary? s "" "").isSome then s ++ ": argument expected" else operator ++ ": unexpected operator")
  | [a, operator, b] => (binary? operator a b).getD (.error (a ++ ": unexpected operator"))
  | w :: _ => .error (w ++ ": unexpected operator")

/-- The parts of some words between occurrences of a word. -/
def splitAt (sign : String) (ws : List String) : List (List String) :=
  ws.foldr (fun w parts => if w = sign then [] :: parts else (w :: parts.headD []) :: parts.tail) [[]]

/-- Whether the condition that some words are holds. -/
def holds (t : FileTree) (ws : List String) : Except String Bool :=
  if ws.length ≤ 4 then single t ws
  else (splitAt "-o" ws).anyM fun part => (splitAt "-a" part).allM (single t)

end Condition

end ElixirLint.Host
