import ElixirLint.Json.Basic
import ElixirLint.Number.Shortest
import ElixirLint.Text.Quoted

/-!
# Printing JSON

Two layouts of a value: compact, without any white space, and indented, with two spaces for each level and empty
arrays and objects closed on the spot. A string escapes the quote, the backslash and the controls. A double is
written with the fewest digits that read back, without an exponent from `1e-5` up to `1e16`.
-/

namespace ElixirLint.Json

/-- One character inside a string literal. -/
def stringChar (c : Char) : List Char :=
  if c = '"' then ['\\', '"']
  else if c = '\\' then ['\\', '\\']
  else if c = '\n' then ['\\', 'n']
  else if c = '\r' then ['\\', 'r']
  else if c = '\t' then ['\\', 't']
  else if c = '\x08' then ['\\', 'b']
  else if c = '\x0c' then ['\\', 'f']
  else if c.toNat < 0x20 then ['\\', 'u', '0', '0', Text.hexDigit (c.toNat / 16), Text.hexDigit (c.toNat % 16)]
  else [c]

/-- A string literal. -/
def stringText (s : String) : List Char := '"' :: s.toList.flatMap stringChar ++ ['"']

/-- A double: positional while the point falls behind digit -5 and not beyond digit 16, else with an exponent. -/
def doubleText (x : Binary64) : List Char :=
  let d := x.shortest
  let p := d.pointAt
  let text := if (0 ≤ d.exponent ∧ p ≤ 16) ∨ (-5 < p ∧ p ≤ 16) then d.positional else d.scientific
  if x.negative then '-' :: text else text

mutual

/-- A value without white space. -/
def compactText : Json → List Char
  | .null => "null".toList
  | .bool true => "true".toList
  | .bool false => "false".toList
  | .int n => (toString n).toList
  | .double x => doubleText x
  | .string s => stringText s
  | .array items => '[' :: compactItems items ++ [']']
  | .object members => '\x7b' :: compactMembers members ++ ['\x7d']

/-- The items of an array without white space. -/
def compactItems : List Json → List Char
  | [] => []
  | [v] => compactText v
  | v :: w :: vs => compactText v ++ ',' :: compactItems (w :: vs)

/-- The members of an object without white space. -/
def compactMembers : List (String × Json) → List Char
  | [] => []
  | [(k, v)] => stringText k ++ ':' :: compactText v
  | (k, v) :: m :: ms => stringText k ++ ':' :: compactText v ++ ',' :: compactMembers (m :: ms)

end

/-- A new line indented by two spaces for each level. -/
def newLine (level : Nat) : List Char := '\n' :: List.replicate (2 * level) ' '

mutual

/-- A value over several lines, at the level of indentation given. -/
def indentedText (level : Nat) : Json → List Char
  | .array [] => ['[', ']']
  | .object [] => ['\x7b', '\x7d']
  | .array (v :: vs) => '[' :: indentedItems (level + 1) (v :: vs) ++ newLine level ++ [']']
  | .object (m :: ms) => '\x7b' :: indentedMembers (level + 1) (m :: ms) ++ newLine level ++ ['\x7d']
  | .null => "null".toList
  | .bool true => "true".toList
  | .bool false => "false".toList
  | .int n => (toString n).toList
  | .double x => doubleText x
  | .string s => stringText s

/-- The items of an array, each on its own lines. -/
def indentedItems (level : Nat) : List Json → List Char
  | [] => []
  | [v] => newLine level ++ indentedText level v
  | v :: w :: vs => newLine level ++ indentedText level v ++ ',' :: indentedItems level (w :: vs)

/-- The members of an object, each on its own lines. -/
def indentedMembers (level : Nat) : List (String × Json) → List Char
  | [] => []
  | [(k, v)] => newLine level ++ stringText k ++ ':' :: ' ' :: indentedText level v
  | (k, v) :: m :: ms =>
    newLine level ++ stringText k ++ ':' :: ' ' :: indentedText level v ++ ',' :: indentedMembers level (m :: ms)

end

/-- A value as a compact text. -/
def compact (v : Json) : String := String.ofList (compactText v)

/-- A value as a text over several lines. -/
def indented (v : Json) : String := String.ofList (indentedText 0 v)

end ElixirLint.Json
