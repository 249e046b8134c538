import ElixirLint.Host.Arithmetic

/-!
# Formatted printing

Texts with escapes, and formats whose directives take arguments: texts, characters and whole numbers in fields of some
width. A format is used again as long as there are arguments and it takes any.
-/

namespace ElixirLint.Host

/-! ### Escapes -/

/-- The character that a letter behind a backslash stands for. -/
def escaped? (c : Char) : Option Char :=
  [('a', '\x07'), ('b', '\x08'), ('f', '\x0c'), ('n', '\n'), ('r', '\r'), ('t', '\t'), ('v', '\x0b'), ('\\', '\\'),
    ('e', '\x1b')].lookup c

/-- The character at the front of what stands behind a backslash, and what stands behind it: a letter or up to three octal
digits. A backslash that hides nothing stays. -/
def escapedAt (cs : List Char) : Char × List Char :=
  match cs.head?.bind escaped?, leadingNumber? 8 (cs.take 3) with
  | some e, _ => (e, cs.tail)
  | none, some (n, more) => (Char.ofNat (n % 256), more ++ cs.drop 3)
  | none, none => ('\\', cs)

/-- A text in which escapes are replaced, and whether one of them ends all printing. -/
def unescape : Nat → List Char → List Char × Bool
  | fuel + 1, '\\' :: rest =>
    if rest.head? = some 'c' then ([], true)
    else
      let (c, rest) := escapedAt (if rest.head? = some '0' && (rest[1]?.bind (digit? 8)).isSome then rest.tail else rest)
      let (more, ends) := unescape fuel rest
      (c :: more, ends)
  | fuel + 1, c :: rest =>
    let (more, ends) := unescape fuel rest
    (c :: more, ends)
  | _, _ => ([], false)

/-! ### Directives -/

/-- How a value is printed. -/
structure Directive where
  /-- The signs in front: a minus, a plus, a blank, a number sign and a zero. -/
  flags : List Char
  /-- The width of the field. -/
  width : Nat
  /-- How exactly the value is printed. -/
  precision : Option Nat
  /-- The letter of the directive. -/
  letter : Char
  deriving DecidableEq, Repr

namespace Directive

/-- Repeats a character. -/
def repeated (n : Nat) (c : Char) : String := String.ofList (List.replicate n c)

/-- A text in its field. -/
def inField (d : Directive) (s : String) : String :=
  let filling := repeated (d.width - s.length) ' '
  if d.flags.contains '-' then s ++ filling else filling ++ s

/-- Digits behind a sign or a base. There are at least as many as the precision says, or as fill the field with zeros. -/
def numeral (d : Directive) (front : String) (digits : List Char) : String :=
  let least :=
    match d.precision with
    | some n => n
    | none => if d.flags.contains '0' && !d.flags.contains '-' then d.width - front.length else 1
  let digits := if d.precision = some 0 && digits = ['0'] then [] else digits
  d.inField (front ++ repeated (least - digits.length) '0' ++ String.ofList digits)

/-- A whole number. -/
def integer (d : Directive) (n : Int) : String :=
  let sign := if n < 0 then "-" else if d.flags.contains '+' then "+" else if d.flags.contains ' ' then " " else ""
  d.numeral sign (Nat.toDigits 10 n.natAbs)

/-- A whole number without a sign, in the base of the directive. -/
def unsigned (d : Directive) (n : Nat) : String :=
  let front (base : String) : String := if d.flags.contains '#' && n ≠ 0 then base else ""
  match d.letter with
  | 'o' => d.numeral (front "0") (Nat.toDigits 8 n)
  | 'x' => d.numeral (front "0x") (Nat.toDigits 16 n)
  | 'X' => d.numeral (front "0X") ((Nat.toDigits 16 n).map Char.toUpper)
  | _ => d.numeral "" (Nat.toDigits 10 n)

/-- The directive behind a percent sign and what stands behind it; none if its letter is missing. -/
def ofChars? (cs : List Char) : Option (Directive × List Char) :=
  let flags := cs.takeWhile ['#', '-', '+', ' ', '0'].contains
  let rest := cs.drop flags.length
  let (width, rest) := (leadingNumber? 10 rest).getD (0, rest)
  let (precision, rest) : Option Nat × List Char :=
    match rest with
    | '.' :: rest => let (n, rest) := (leadingNumber? 10 rest).getD (0, rest); (some n, rest)
    | rest => (none, rest)
  match rest with
  | [] => none
  | c :: rest => some (⟨flags, width, precision, c⟩, rest)

end Directive

/-! ### Formats -/

/-- What printing has come to. -/
structure Printing where
  /-- What is to be printed. -/
  text : String
  /-- The arguments that are left. -/
  args : List String
  /-- What is to be told about words that are no numbers, the last first. -/
  complaints : List String
  /-- Whether printing has ended. -/
  ended : Bool
  /-- An error that ends it. -/
  failure : Option String

namespace Printing

/-- Adds to what is printed. -/
def add (p : Printing) (s : String) : Printing := { p with text := p.text ++ s }

/-- The number that a word is, with what is to be told about it. A quotation mark stands in front of a character whose
number is meant. -/
def integerOf (s : String) : Int × Option String :=
  match s.toList with
  | '"' :: c :: _ => (c.toNat, none)
  | '\'' :: c :: _ => (c.toNat, none)
  | cs =>
    let (negative, body) := splitSign (cs.dropWhile isSpace)
    match Arithmetic.leading? body with
    | some (n, rest) => (withSign negative n, if rest.isEmpty then none else some (s ++ ": not completely converted"))
    | none => (0, if cs.isEmpty then none else some (s ++ ": expected numeric value"))

/-- Prints the next argument by a directive. -/
def one (d : Directive) (p : Printing) : Printing :=
  let word := p.args.headD ""
  let p := { p with args := p.args.tail }
  let cut (cs : List Char) : String := d.inField (String.ofList (cs.take (d.precision.getD cs.length)))
  let number (shown : Int → String) : Printing :=
    let (n, complaint) := integerOf word
    { p.add (shown n) with complaints := complaint.toList ++ p.complaints }
  if d.letter == 's' then p.add (cut word.toList)
  else if d.letter == 'b' then
    let (cs, ends) := unescape (word.length + 1) word.toList
    { p.add (cut cs) with ended := ends }
  else if d.letter == 'c' then p.add (d.inField (String.ofList (word.toList.take 1)))
  else if d.letter == 'd' || d.letter == 'i' then number fun n => d.integer (Arithmetic.bounded n)
  else if ['o', 'u', 'x', 'X'].contains d.letter then number fun n => d.unsigned (n.emod (Nat.pow 2 64)).toNat
  else { p with ended := true, failure := some ("%" ++ String.singleton d.letter ++ ": invalid directive") }

/-- Goes through a format once. -/
def once : Nat → List Char → Printing → Printing
  | 0, _, p => p
  | _, [], p => p
  | fuel + 1, c :: rest, p =>
    if p.ended then p
    else
      match c, rest with
      | '\\', rest =>
        let (c, rest) := escapedAt rest
        once fuel rest (p.add (String.singleton c))
      | '%', '%' :: rest => once fuel rest (p.add "%")
      | '%', rest =>
        match Directive.ofChars? rest with
        | some (d, rest) => once fuel rest (one d p)
        | none => { p with ended := true, failure := some "missing format character" }
      | c, rest => once fuel rest (p.add (String.singleton c))

/-- Prints arguments by a format, as often as there are arguments and it takes any. -/
def repeatedly (format : List Char) : Nat → Printing → Printing
  | 0, p => p
  | fuel + 1, p =>
    let q := once (format.length + 1) format p
    if q.ended || q.args.isEmpty || q.args.length = p.args.length then q else repeatedly format fuel q

/-- Prints arguments by a format. -/
def apply (format : String) (args : List String) : Printing :=
  repeatedly format.toList (args.length + 1) ⟨"", args, [], false, none⟩

end Printing

end ElixirLint.Host
