import ElixirLint.Toml.Basic

/-!
# Scalar values of TOML

Readers for strings, numbers, truth values and points in time. A reader takes the characters of its value off the
front of a text and returns the rest; it gives none if no such value stands there.
-/

namespace ElixirLint.Toml

/-- Takes a value off the front of a text. -/
abbrev Reader (α : Type) := List Char → Option (α × List Char)

/-- Whether a character may stand in a comment or a literal string: a tab, or no control character. -/
def isPlain (c : Char) : Bool := c == '\t' || (0x20 ≤ c.toNat && c.toNat ≠ 0x7F)

/-- Whether a character is a space or a tab. -/
def isGap (c : Char) : Bool := c == ' ' || c == '\t'

/-- A text behind its leading spaces and tabs. -/
def skipGap (cs : List Char) : List Char := cs.dropWhile isGap

/-- A text behind the word that it begins with. -/
def after? (word : List Char) (cs : List Char) : Option (List Char) :=
  if word.isPrefixOf cs then some (cs.drop word.length) else none

/-- A text behind the end of a line that it begins with. -/
def afterNewline? : List Char → Option (List Char)
  | '\n' :: cs => some cs
  | '\r' :: '\n' :: cs => some cs
  | _ => none

/-- The value of a digit in a base. -/
def digit? (base : Nat) (c : Char) : Option Nat :=
  let value :=
    if '0' ≤ c && c ≤ '9' then some (c.toNat - 48)
    else if 'a' ≤ c && c ≤ 'f' then some (c.toNat - 87)
    else if 'A' ≤ c && c ≤ 'F' then some (c.toNat - 55)
    else none
  value.filter (· < base)

/-- The value of digits in a base. -/
def ofDigits (base : Nat) (ds : List Nat) : Nat := ds.foldl (fun n d => n * base + d) 0

/-! ### Strings -/

/-- Exactly `n` hexadecimal digits. -/
def readHex : Nat → Reader (List Nat)
  | 0, cs => some ([], cs)
  | _ + 1, [] => none
  | n + 1, c :: cs =>
    match digit? 16 c with
    | none => none
    | some d => (readHex n cs).map fun (ds, rest) => (d :: ds, rest)

/-- The character with a code given by `n` hexadecimal digits; halves of surrogate pairs are no characters. -/
def readCode (n : Nat) : Reader Char := fun cs =>
  match readHex n cs with
  | none => none
  | some (ds, rest) =>
    let code := ofDigits 16 ds
    if code < 0xD800 || (0xE000 ≤ code && code < 0x110000) then some (Char.ofNat code, rest) else none

/-- The character that an escape stands for, behind its backslash. -/
def readEscape : Reader Char
  | 'b' :: cs => some ('\x08', cs)
  | 't' :: cs => some ('\t', cs)
  | 'n' :: cs => some ('\n', cs)
  | 'f' :: cs => some ('\x0c', cs)
  | 'r' :: cs => some ('\r', cs)
  | '"' :: cs => some ('"', cs)
  | '\\' :: cs => some ('\\', cs)
  | 'u' :: cs => readCode 4 cs
  | 'U' :: cs => readCode 8 cs
  | _ => none

/-- A string on one line behind its opening double quote. Every step takes a character. -/
def readBasic : Nat → Reader (List Char)
  | 0, _ => none
  | _ + 1, [] => none
  | fuel + 1, c :: cs =>
    if c = '"' then some ([], cs)
    else if c = '\\' then
      match readEscape cs with
      | none => none
      | some (e, rest) => (readBasic fuel rest).map fun (s, rest) => (e :: s, rest)
    else if isPlain c then (readBasic fuel cs).map fun (s, rest) => (c :: s, rest)
    else none

/-- A string without escapes on one line behind its opening quote. -/
def readLiteralString : Reader (List Char)
  | [] => none
  | c :: cs =>
    if c = '\'' then some ([], cs)
    else if isPlain c then (readLiteralString cs).map fun (s, rest) => (c :: s, rest)
    else none

/-- The end of a string over several lines, if it stands here: three quotes, behind at most two that belong to it. -/
def closing? (quote : Char) (cs : List Char) : Option (List Char × List Char) :=
  let run := cs.takeWhile (· == quote)
  let rest := cs.dropWhile (· == quote)
  if 3 ≤ run.length then
    let own := min 2 (run.length - 3)
    some (List.replicate own quote, List.replicate (run.length - 3 - own) quote ++ rest)
  else none

/-- A text behind white space and ends of lines. -/
def skipLines : Nat → List Char → List Char
  | 0, cs => cs
  | fuel + 1, cs =>
    match afterNewline? (skipGap cs) with
    | some rest => skipLines fuel rest
    | none => skipGap cs

/-- A string over several lines behind its opening quotes. An end of a line is a line feed; with escapes, a backslash at
the end of a line takes away all white space and ends of lines behind it. -/
def readLines (quote : Char) (escapes : Bool) : Nat → Reader (List Char)
  | 0, _ => none
  | _ + 1, [] => none
  | fuel + 1, c :: cs =>
    if c = quote then
      match closing? quote (c :: cs) with
      | some found => some found
      | none => (readLines quote escapes fuel cs).map fun (s, rest) => (c :: s, rest)
    else
      match afterNewline? (c :: cs) with
      | some rest => (readLines quote escapes fuel rest).map fun (s, rest) => ('\n' :: s, rest)
      | none =>
        if escapes && c == '\\' then
          match afterNewline? (skipGap cs) with
          | some rest => readLines quote escapes fuel (skipLines (rest.length + 1) rest)
          | none =>
            match readEscape cs with
            | none => none
            | some (e, rest) => (readLines quote escapes fuel rest).map fun (s, rest) => (e :: s, rest)
        else if isPlain c then (readLines quote escapes fuel cs).map fun (s, rest) => (c :: s, rest)
        else none

/-- A string over several lines behind its opening quotes; an end of a line right behind them does not count. -/
def readBlock (quote : Char) (escapes : Bool) : Reader (List Char) := fun cs =>
  let body := (afterNewline? cs).getD cs
  readLines quote escapes (body.length + 1) body

/-- A string on one line, with its quotes. -/
def readShortString : Reader String
  | '"' :: cs => (readBasic (cs.length + 1) cs).map fun (s, rest) => (String.ofList s, rest)
  | '\'' :: cs => (readLiteralString cs).map fun (s, rest) => (String.ofList s, rest)
  | _ => none

/-- A string of any kind, with its quotes. -/
def readString : Reader String := fun cs =>
  match after? ['"', '"', '"'] cs, after? ['\'', '\'', '\''] cs with
  | some body, _ => (readBlock '"' true body).map fun (s, rest) => (String.ofList s, rest)
  | none, some body => (readBlock '\'' false body).map fun (s, rest) => (String.ofList s, rest)
  | none, none => readShortString cs

/-! ### Numbers -/

/-- Digits in a base behind a first one, with single underscores between digits. -/
def moreDigits (base : Nat) : List Char → Option (List Nat × List Char)
  | [] => some ([], [])
  | '_' :: c :: cs =>
    match digit? base c with
    | none => none
    | some d => (moreDigits base cs).map fun (ds, rest) => (d :: ds, rest)
  | ['_'] => none
  | c :: cs =>
    match digit? base c with
    | none => some ([], c :: cs)
    | some d => (moreDigits base cs).map fun (ds, rest) => (d :: ds, rest)

/-- At least one digit in a base, with single underscores between digits. -/
def readDigits (base : Nat) : Reader (List Nat)
  | [] => none
  | c :: cs =>
    match digit? base c with
    | none => none
    | some d => (moreDigits base cs).map fun (ds, rest) => (d :: ds, rest)

/-- A sign, if there is one: whether it is a minus, and the text behind it. -/
def readSign : List Char → Bool × List Char
  | '-' :: cs => (true, cs)
  | '+' :: cs => (false, cs)
  | cs => (false, cs)

/-- The digits of a decimal number before its point; a zero in front stands alone. -/
def readWhole : Reader (List Nat)
  | '0' :: cs => some ([0], cs)
  | cs => readDigits 10 cs

/-- The digits behind a point, if a point stands here. -/
def readPlaces : Reader (List Nat)
  | '.' :: cs => readDigits 10 cs
  | cs => some ([], cs)

/-- The exponent, if one stands here: whether it is negative, and its digits. -/
def readExponent : Reader (Bool × List Nat)
  | c :: cs =>
    if c = 'e' ∨ c = 'E' then
      let (negative, cs) := readSign cs
      (readDigits 10 cs).map fun (ds, rest) => ((negative, ds), rest)
    else some ((false, []), c :: cs)
  | [] => some ((false, []), [])

/-- The least number that rounds to no finite double. -/
def tooLarge : Nat := Nat.pow 2 1024 - Nat.pow 2 970

/-- Whether `digits * 10 ^ exponent` rounds to a finite double. The number of digits settles it unless the number has
about as many places as the greatest double. -/
def isFinite (digits : Nat) (exponent : Int) : Bool :=
  let size : Int := (Nat.toDigits 10 digits).length + exponent
  if digits = 0 ∨ size < 300 then true
  else if 320 < size then false
  else if 0 ≤ exponent then digits * Nat.pow 10 exponent.toNat < tooLarge
  else digits < tooLarge * Nat.pow 10 (-exponent).toNat

/-- Whether a number is one of 64 bits with a sign. -/
def isSigned64 (n : Int) : Bool := -9223372036854775808 ≤ n && n ≤ 9223372036854775807

/-- A decimal number. One with a fraction or an exponent must be finite, unless it is negative. -/
def readDecimal : Reader Toml := fun cs =>
  let (negative, cs) := readSign cs
  match readWhole cs with
  | none => none
  | some (whole, afterWhole) =>
    match readPlaces afterWhole with
    | none => none
    | some (places, afterPlaces) =>
      match readExponent afterPlaces with
      | none => none
      | some ((down, power), rest) =>
        if rest.length = afterWhole.length then
          let n : Int := ofDigits 10 whole
          let n := if negative then -n else n
          if isSigned64 n then some (.int n, rest) else none
        else
          let power : Int := ofDigits 10 power
          let exponent := (if down then -power else power) - places.length
          if negative || isFinite (ofDigits 10 (whole ++ places)) exponent then some (.fraction, rest) else none

/-- The names of the numbers that have no digits. -/
def readNamed : Reader Toml := fun cs =>
  let cs := (readSign cs).2
  match after? ['i', 'n', 'f'] cs, after? ['n', 'a', 'n'] cs with
  | some rest, _ => some (.fraction, rest)
  | none, some rest => some (.fraction, rest)
  | none, none => none

/-- A whole number in another base, behind its mark. -/
def readBased (base : Nat) : Reader Toml := fun cs =>
  match readDigits base cs with
  | none => none
  | some (ds, rest) => if isSigned64 (ofDigits base ds) then some (.int (ofDigits base ds), rest) else none

/-- A number. -/
def readNumber : Reader Toml
  | '0' :: 'x' :: cs => readBased 16 cs
  | '0' :: 'o' :: cs => readBased 8 cs
  | '0' :: 'b' :: cs => readBased 2 cs
  | cs => (readNamed cs).or (readDecimal cs)

/-! ### Points in time -/

/-- A number of exactly `n` decimal digits within bounds. -/
def readField (n low high : Nat) : Reader Nat := fun cs =>
  match (cs.take n).mapM (digit? 10) with
  | none => none
  | some ds =>
    let value := ofDigits 10 ds
    if ds.length = n ∧ low ≤ value ∧ value ≤ high then some (value, cs.drop n) else none

/-- The number of days of a month. -/
def daysOf (year month : Nat) : Nat :=
  if month = 2 then if year % 4 = 0 ∧ (year % 100 ≠ 0 ∨ year % 400 = 0) then 29 else 28
  else if month = 4 ∨ month = 6 ∨ month = 9 ∨ month = 11 then 30
  else 31

/-- The text behind a date. -/
def afterDate? (cs : List Char) : Option (List Char) := do
  let (year, cs) ← readField 4 0 9999 cs
  let cs ← after? ['-'] cs
  let (month, cs) ← readField 2 1 12 cs
  let cs ← after? ['-'] cs
  let (_, cs) ← readField 2 1 (daysOf year month) cs
  return cs

/-- The text behind a time of day. -/
def afterTime? (cs : List Char) : Option (List Char) := do
  let (_, cs) ← readField 2 0 23 cs
  let cs ← after? [':'] cs
  let (_, cs) ← readField 2 0 59 cs
  let cs ← after? [':'] cs
  let (_, cs) ← readField 2 0 60 cs
  match cs with
  | '.' :: rest =>
    let digits := rest.takeWhile fun c => (digit? 10 c).isSome
    if digits.isEmpty then none else some (rest.drop digits.length)
  | _ => some cs

/-- The text behind the distance of a time from the universal one, if there is one. -/
def afterOffset? (cs : List Char) : Option (List Char) :=
  match cs with
  | 'Z' :: rest => some rest
  | 'z' :: rest => some rest
  | c :: rest =>
    if c = '+' ∨ c = '-' then do
      let (_, rest) ← readField 2 0 23 rest
      let rest ← after? [':'] rest
      let (_, rest) ← readField 2 0 59 rest
      return rest
    else some cs
  | [] => some []

/-- A date, a time of day, or both with or without the distance from the universal time. -/
def readMoment : Reader Toml := fun cs =>
  match afterDate? cs with
  | none => (afterTime? cs).map (.moment, ·)
  | some rest =>
    match rest with
    | c :: behind =>
      if c = 'T' ∨ c = 't' ∨ c = ' ' then
        match afterTime? behind with
        | some afterwards => (afterOffset? afterwards).map (.moment, ·)
        | none => some (.moment, rest)
      else some (.moment, rest)
    | [] => some (.moment, [])

/-- A truth value. -/
def readBool : Reader Toml := fun cs =>
  match after? ['t', 'r', 'u', 'e'] cs, after? ['f', 'a', 'l', 's', 'e'] cs with
  | some rest, _ => some (.bool true, rest)
  | none, some rest => some (.bool false, rest)
  | none, none => none

/-- A value that is no array and no table. -/
def readScalar : Reader Toml := fun cs =>
  match cs with
  | [] => none
  | c :: _ =>
    if c = '"' ∨ c = '\'' then (readString cs).map fun (s, rest) => (.string s, rest)
    else if c = 't' ∨ c = 'f' then readBool cs
    else (readMoment cs).or (readNumber cs)

end ElixirLint.Toml
