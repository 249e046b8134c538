import ElixirLint.Host.Bytes

/-!
# Arithmetic of scripts

Expressions over whole numbers of 64 bits with a sign, which wrap around. An expression is computed while it is read, by
the ranks of its operators, the loosest first.
-/

namespace ElixirLint.Host

namespace Arithmetic

/-- A whole number of 64 bits with a sign. -/
def wrap (n : Int) : Int := Int.bmod n (Nat.pow 2 64)

/-- A number as near as can be among those of 64 bits with a sign. -/
def bounded (n : Int) : Int := max (-(Nat.pow 2 63 : Nat)) (min n ((Nat.pow 2 63 : Nat) - 1))

/-- A token of an expression. -/
inductive Lexeme
  | number (n : Int)
  | operator (s : String)
  deriving DecidableEq, Repr

/-- The operators, longer ones before those that they begin with. -/
def operators : List String :=
  ["<<", ">>", "<=", ">=", "==", "!=", "&&", "||", "+", "-", "*", "/", "%", "<", ">", "!", "~", "&", "^", "|", "(", ")", "?",
   ":"]

/-- The number at the front of some characters: with a zero in front it is octal, with a zero and an x hexadecimal. -/
def leading? (cs : List Char) : Option (Nat × List Char) :=
  match cs with
  | '0' :: 'x' :: rest => leadingNumber? 16 rest
  | '0' :: 'X' :: rest => leadingNumber? 16 rest
  | '0' :: rest => some ((leadingNumber? 8 rest).getD (0, rest))
  | cs => leadingNumber? 10 cs

/-- The number that a text is, with a sign and blank space around; none if it is none. A blank text is zero. -/
def number? (s : String) : Option Int :=
  let cs := s.toList.dropWhile isSpace
  let (negative, body) := splitSign cs
  match leading? body with
  | some (n, rest) => if rest.all isSpace then some (bounded (withSign negative n)) else none
  | none => if cs.isEmpty then some 0 else none

/-- The tokens of an expression; the value of a variable stands for its name. What cannot be read ends them. -/
def lexemes (lookup : String → Option String) : Nat → List Char → Except String (List Lexeme)
  | 0, _ => .ok []
  | _, [] => .ok []
  | fuel + 1, c :: rest => do
    let cs := c :: rest
    if isSpace c then lexemes lookup fuel rest
    else if c.isDigit then
      match leading? cs with
      | some (n, rest) => return .number (bounded n) :: (← lexemes lookup fuel rest)
      | none => return [.operator ""]
    else if isNameStart c then
      let name := cs.takeWhile isNameChar
      let text := (lookup (String.ofList name)).getD ""
      match number? text with
      | some n => return .number n :: (← lexemes lookup fuel (cs.drop name.length))
      | none => throw ("Illegal number: " ++ text)
    else
      match operators.find? fun o => o.toList.isPrefixOf cs with
      | some o => return .operator o :: (← lexemes lookup fuel (cs.drop o.length))
      | none => return [.operator ""]

/-- How tightly a binary operator binds. -/
def rank? (operator : String) : Option Nat :=
  let ranks : List (List String) :=
    [["||"], ["&&"], ["|"], ["^"], ["&"], ["==", "!="], ["<", "<=", ">", ">="], ["<<", ">>"], ["+", "-"], ["*", "/", "%"]]
  (ranks.findIdx? (·.contains operator)).map (· + 1)

/-- A truth value as a number. -/
def truth (b : Bool) : Int := if b then 1 else 0

/-- The value of an operator with one side. -/
def unary? (operator : String) (x : Int) : Option Int :=
  match operator with
  | "-" => some (wrap (-x))
  | "+" => some x
  | "!" => some (truth (x == 0))
  | "~" => some (-x - 1)
  | _ => none

/-- The value of an operator with two sides; none for a division by zero. -/
def binary? (operator : String) (x y : Int) : Option Int :=
  let bits (f : BitVec 64 → BitVec 64 → BitVec 64) : Int := (f (BitVec.ofInt 64 x) (BitVec.ofInt 64 y)).toInt
  match operator with
  | "*" => some (wrap (x * y))
  | "/" => if y = 0 then none else some (wrap (Int.tdiv x y))
  | "%" => if y = 0 then none else some (Int.tmod x y)
  | "+" => some (wrap (x + y))
  | "-" => some (wrap (x - y))
  | "<<" => some (wrap (x * (Nat.pow 2 (y.emod 64).toNat : Nat)))
  | ">>" => some (Int.fdiv x (Nat.pow 2 (y.emod 64).toNat : Nat))
  | "<" => some (truth (x < y))
  | "<=" => some (truth (x ≤ y))
  | ">" => some (truth (y < x))
  | ">=" => some (truth (y ≤ x))
  | "==" => some (truth (x == y))
  | "!=" => some (truth (x != y))
  | "&" => some (bits (· &&& ·))
  | "^" => some (bits (· ^^^ ·))
  | "|" => some (bits (· ||| ·))
  | "&&" => some (truth (x != 0 && y != 0))
  | "||" => some (truth (x != 0 || y != 0))
  | _ => none

/-- The value at the front of some tokens and those behind it, or what was expected there. -/
abbrev Computing := List Lexeme → Except String (Int × List Lexeme)

mutual

/-- The value of a number, or of what stands in parentheses or behind an operator with one side. -/
def primary : Nat → Computing
  | fuel + 1, .operator "(" :: ls => do
    match ← choice fuel ls with
    | (x, .operator ")" :: ls) => return (x, ls)
    | _ => throw "expecting ')'"
  | fuel + 1, .operator o :: ls => do
    if (unary? o 0).isNone then throw "expecting primary"
    else
      let (x, ls) ← primary fuel ls
      return ((unary? o x).getD 0, ls)
  | _ + 1, .number n :: ls => .ok (n, ls)
  | _, _ => .error "expecting primary"

/-- The value of a number with the operators behind it that bind at least as tightly as some rank. -/
def binaries : Nat → Nat → Int → Computing
  | fuel + 1, least, x, .operator o :: ls => do
    match rank? o with
    | none => return (x, .operator o :: ls)
    | some r =>
      if r < least then return (x, .operator o :: ls)
      else
        let (y, ls) ← primary fuel ls
        let (y, ls) ← binaries fuel (r + 1) y ls
        match binary? o x y with
        | some z => binaries fuel least z ls
        | none => throw "division by zero"
  | _, _, x, ls => .ok (x, ls)

/-- The value of an expression, which may choose between two others. -/
def choice : Nat → Computing
  | 0, _ => .error "expecting primary"
  | fuel + 1, ls => do
    let (x, ls) ← primary fuel ls
    match ← binaries fuel 1 x ls with
    | (test, .operator "?" :: ls) =>
      match ← choice fuel ls with
      | (yes, .operator ":" :: ls) =>
        let (no, ls) ← choice fuel ls
        return (if test = 0 then no else yes, ls)
      | _ => throw "expecting ':'"
    | found => return found

end

/-- The value of a text as an expression, or what is wrong with it. -/
def value (lookup : String → Option String) (text : String) : Except String Int := do
  let ls ← lexemes lookup (text.length + 1) text.toList
  let wrong (m : String) : String := "arithmetic expression: " ++ m ++ ": \"" ++ text ++ "\""
  match choice (4 * ls.length + 8) ls with
  | .ok (x, []) => return x
  | .ok _ => throw (wrong "expecting EOF")
  | .error m => throw (wrong m)

end Arithmetic

end ElixirLint.Host
