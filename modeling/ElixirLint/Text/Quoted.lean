import ElixirLint.Text.Printable

/-!
# Quoted texts

How a message shows a text it talks about: between double quotes, with the quote and the backslash escaped, the
common controls by their short escapes, and every other character that cannot be shown by its code point.
-/

namespace ElixirLint.Text

/-- A hexadecimal digit in lower case; the value is below sixteen. -/
def hexDigit (n : Nat) : Char := if n < 10 then Char.ofNat (48 + n) else Char.ofNat (87 + n)

/-- The hexadecimal digits of a number, without leading zeros, in front of those given; `fuel` bounds their count. -/
def hexDigits : Nat → Nat → List Char → List Char
  | 0, _, rest => rest
  | fuel + 1, n, rest => if n < 16 then hexDigit n :: rest else hexDigits fuel (n / 16) (hexDigit (n % 16) :: rest)

/-- A number in lower-case hexadecimal. Eight digits are enough for every code point. -/
def hexText (n : Nat) : List Char := hexDigits 8 n []

/-- One character as a quoted text shows it. -/
def quotedChar (c : Char) : List Char :=
  if c = '"' then ['\\', '"']
  else if c = '\\' then ['\\', '\\']
  else if c = '\n' then ['\\', 'n']
  else if c = '\r' then ['\\', 'r']
  else if c = '\t' then ['\\', 't']
  else if c.toNat = 0 then ['\\', '0']
  else if isPrintable c then [c]
  else ['\\', 'u', '\x7b'] ++ hexText c.toNat ++ ['\x7d']

/-- A text between double quotes, with everything escaped that could be misread. -/
def quoted (s : String) : String := String.ofList ('"' :: s.toList.flatMap quotedChar ++ ['"'])

end ElixirLint.Text
