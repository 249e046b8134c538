import ElixirLint.Json.Literal

/-!
# JSON texts

Reading a JSON text keeps it as a tree, `Raw`, which knows more than a value does: members stand in the order of the
text with their repetitions, and a number or a string may be well formed without denoting anything, when the number
lies beyond the doubles or the string holds half a surrogate pair. What nobody looks at need not denote anything, so
this is left to the readers of the tree. `Raw.toJson?` is the value of a tree that does denote one and is not nested
deeper than allowed.
-/

namespace ElixirLint.Json

/-- A JSON text that has been read. A number, string or key is none when it is well formed but denotes nothing. -/
inductive Raw
  | null
  | bool (value : Bool)
  | number (value : Option Json)
  | string (value : Option String)
  | array (items : List Raw)
  | object (members : List (Option String × Raw))
  deriving Repr

namespace Raw

/-- Whether a character is white space between the tokens of a JSON text. -/
def isSpace (c : Char) : Bool := c == ' ' || c == '\n' || c == '\t' || c == '\r'

/-- A text from its first token on. -/
def skipSpace (cs : List Char) : List Char := cs.dropWhile isSpace

/-- The value of an ASCII digit. -/
def digit? (c : Char) : Option Nat := if '0' ≤ c && c ≤ '9' then some (c.toNat - 48) else none

/-- The value of a hexadecimal digit of either case. -/
def hexDigit? (c : Char) : Option Nat :=
  if '0' ≤ c && c ≤ '9' then some (c.toNat - 48)
  else if 'a' ≤ c && c ≤ 'f' then some (c.toNat - 87)
  else if 'A' ≤ c && c ≤ 'F' then some (c.toNat - 55)
  else none

/-- The digits at the front of a text, and the text behind them. -/
def takeDigits : List Char → List Nat × List Char
  | [] => ([], [])
  | c :: cs =>
    match digit? c with
    | some d => (d :: (takeDigits cs).1, (takeDigits cs).2)
    | none => ([], c :: cs)

/-- Reads an exponent, if one stands at the front: a letter, perhaps a sign, and at least one digit. -/
def readExponent (cs : List Char) : Option (Option (Bool × List Nat) × List Char) :=
  match cs with
  | c :: rest =>
    if c = 'e' ∨ c = 'E' then
      let (negative, rest) :=
        match rest with
        | '-' :: r => (true, r)
        | '+' :: r => (false, r)
        | r => (false, r)
      let (ds, after) := takeDigits rest
      if ds.isEmpty then none else some (some (negative, ds), after)
    else some (none, cs)
  | [] => some (none, [])

/-- Reads the digits behind a point, if a point stands at the front: at least one. -/
def readFraction (cs : List Char) : Option (Option (List Nat) × List Char) :=
  match cs with
  | '.' :: rest =>
    let (ds, after) := takeDigits rest
    if ds.isEmpty then none else some (some ds, after)
  | _ => some (none, cs)

/-- Reads a number. A zero in front stands alone before the point. -/
def readLiteral (cs : List Char) : Option (Literal × List Char) :=
  let (negative, cs) :=
    match cs with
    | '-' :: r => (true, r)
    | r => (false, r)
  let (whole, rest) := takeDigits cs
  if whole.isEmpty || (1 < whole.length && whole.head? == some 0) then none
  else
    match readFraction rest with
    | none => none
    | some (fraction, rest) =>
      match readExponent rest with
      | none => none
      | some (exponent, rest) => some (⟨negative, whole, fraction, exponent⟩, rest)

/-- Four hexadecimal digits at the front of a text. -/
def readHex4 : List Char → Option (Nat × List Char)
  | a :: b :: c :: d :: rest =>
    match hexDigit? a, hexDigit? b, hexDigit? c, hexDigit? d with
    | some a, some b, some c, some d => some (((a * 16 + b) * 16 + c) * 16 + d, rest)
    | _, _, _, _ => none
  | _ => none

/-- One piece of a string: a character, or an escaped UTF-16 unit that is half of a surrogate pair. -/
inductive Piece
  | char (c : Char)
  | half (unit : Nat)

/-- The character that a one-letter escape stands for. -/
def escapeChar? (c : Char) : Option Char :=
  match c with
  | '"' => some '"'
  | '\\' => some '\\'
  | '/' => some '/'
  | 'b' => some '\x08'
  | 'f' => some '\x0c'
  | 'n' => some '\n'
  | 'r' => some '\r'
  | 't' => some '\t'
  | _ => none

/-- Reads the pieces of a string up to its closing quote; the opening one has been read. Every step takes at least
one character, so `fuel` need not exceed the length of the text. -/
def readPieces : Nat → List Char → Option (List Piece × List Char)
  | 0, _ => none
  | _ + 1, [] => none
  | fuel + 1, c :: cs =>
    if c = '"' then some ([], cs)
    else if c = '\\' then
      match cs with
      | 'u' :: rest =>
        match readHex4 rest with
        | none => none
        | some (n, rest) =>
          let piece := if 0xD800 ≤ n ∧ n ≤ 0xDFFF then Piece.half n else .char (Char.ofNat n)
          (readPieces fuel rest).map fun (ps, after) => (piece :: ps, after)
      | e :: rest =>
        match escapeChar? e with
        | none => none
        | some c => (readPieces fuel rest).map fun (ps, after) => (.char c :: ps, after)
      | [] => none
    else if c.toNat < 0x20 then none
    else (readPieces fuel cs).map fun (ps, after) => (.char c :: ps, after)

/-- The text of a string: halves join into pairs, a high one before a low one, and a half alone denotes nothing. -/
def joinPieces : List Piece → Option (List Char)
  | [] => some []
  | .char c :: ps => (joinPieces ps).map (c :: ·)
  | .half hi :: .half lo :: ps =>
    if hi ≤ 0xDBFF ∧ 0xDC00 ≤ lo then
      (joinPieces ps).map (Char.ofNat (0x10000 + (hi - 0xD800) * 0x400 + (lo - 0xDC00)) :: ·)
    else none
  | .half _ :: _ => none

/-- Reads a string behind its opening quote. -/
def readString (cs : List Char) : Option (Option String × List Char) :=
  (readPieces (cs.length + 1) cs).map fun (ps, rest) => ((joinPieces ps).map String.ofList, rest)

/-- The text behind a word, if the word stands at its front. -/
def afterWord (word : List Char) (cs : List Char) : Option (List Char) :=
  if word.isPrefixOf cs then some (cs.drop word.length) else none

mutual

/-- Reads one value from the front of a text. Each level of nesting and each item uses one unit of `fuel`. -/
def readValue : Nat → List Char → Option (Raw × List Char)
  | 0, _ => none
  | fuel + 1, cs =>
    match skipSpace cs with
    | [] => none
    | c :: rest =>
      if c = 'n' then (afterWord ['u', 'l', 'l'] rest).map (.null, ·)
      else if c = 't' then (afterWord ['r', 'u', 'e'] rest).map (.bool true, ·)
      else if c = 'f' then (afterWord ['a', 'l', 's', 'e'] rest).map (.bool false, ·)
      else if c = '"' then (readString rest).map fun (s, after) => (.string s, after)
      else if c = '[' then
        match skipSpace rest with
        | ']' :: after => some (.array [], after)
        | _ => (readItems fuel rest).map fun (items, after) => (.array items, after)
      else if c = '\x7b' then
        match skipSpace rest with
        | '\x7d' :: after => some (.object [], after)
        | _ => (readMembers fuel rest).map fun (members, after) => (.object members, after)
      else (readLiteral (c :: rest)).map fun (l, after) => (.number l.value?, after)

/-- Reads the items of an array up to its end; there is at least one. -/
def readItems : Nat → List Char → Option (List Raw × List Char)
  | 0, _ => none
  | fuel + 1, cs =>
    match readValue fuel cs with
    | none => none
    | some (v, rest) =>
      match skipSpace rest with
      | ',' :: rest => (readItems fuel rest).map fun (vs, after) => (v :: vs, after)
      | ']' :: after => some ([v], after)
      | _ => none

/-- Reads the members of an object up to its end; there is at least one. -/
def readMembers : Nat → List Char → Option (List (Option String × Raw) × List Char)
  | 0, _ => none
  | fuel + 1, cs =>
    match skipSpace cs with
    | '"' :: rest =>
      match readString rest with
      | none => none
      | some (key, rest) =>
        match skipSpace rest with
        | ':' :: rest =>
          match readValue fuel rest with
          | none => none
          | some (v, rest) =>
            match skipSpace rest with
            | ',' :: rest => (readMembers fuel rest).map fun (ms, after) => ((key, v) :: ms, after)
            | '\x7d' :: after => some ([(key, v)], after)
            | _ => none
        | _ => none
    | _ => none

end

/-- Reads a whole text as one value, with nothing but white space around it. Nesting and items together are fewer
than the characters of the text, twice over. -/
def ofText? (s : String) : Option Raw :=
  match readValue (2 * s.toList.length + 2) s.toList with
  | some (v, rest) => if (skipSpace rest).isEmpty then some v else none
  | none => none

/-- The deepest nesting that a value read from a text may have. -/
def maxLevels : Nat := 127

mutual

/-- The value of a tree, if all of it denotes something and it nests at most `levels` deep. -/
def toJson? : Nat → Raw → Option Json
  | _, .null => some .null
  | _, .bool b => some (.bool b)
  | _, .number n => n
  | _, .string s => s.map .string
  | 0, .array _ => none
  | 0, .object _ => none
  | levels + 1, .array items => (itemsToJson? levels items).map .array
  | levels + 1, .object members => (membersToJson? levels members).map ofMembers

/-- The values of the items of an array. -/
def itemsToJson? : Nat → List Raw → Option (List Json)
  | _, [] => some []
  | levels, v :: vs =>
    match toJson? levels v, itemsToJson? levels vs with
    | some j, some js => some (j :: js)
    | _, _ => none

/-- The keys and values of the members of an object. -/
def membersToJson? : Nat → List (Option String × Raw) → Option (List (String × Json))
  | _, [] => some []
  | levels, (key, v) :: ms =>
    match key, toJson? levels v, membersToJson? levels ms with
    | some k, some j, some js => some ((k, j) :: js)
    | _, _, _ => none

end

mutual

/-- The tree of a value. -/
def ofJson : Json → Raw
  | .null => .null
  | .bool b => .bool b
  | .int n => .number (some (.int n))
  | .double x => .number (some (.double x))
  | .string s => .string (some s)
  | .array items => .array (ofItems items)
  | .object members => .object (ofMembers members)

/-- The trees of some values. -/
def ofItems : List Json → List Raw
  | [] => []
  | v :: vs => ofJson v :: ofItems vs

/-- The trees of some members. -/
def ofMembers : List (String × Json) → List (Option String × Raw)
  | [] => []
  | (k, v) :: ms => (some k, ofJson v) :: ofMembers ms

end

mutual

/-- How many arrays and objects are nested in a tree, itself included. -/
def depth : Raw → Nat
  | .array items => depthItems items + 1
  | .object members => depthMembers members + 1
  | _ => 0

/-- The greatest depth of some trees. -/
def depthItems : List Raw → Nat
  | [] => 0
  | v :: vs => max (depth v) (depthItems vs)

/-- The greatest depth of the trees of some members. -/
def depthMembers : List (Option String × Raw) → Nat
  | [] => 0
  | (_, v) :: ms => max (depth v) (depthMembers ms)

end

end Raw

/-- The value that a text denotes, if it is JSON, denotes something throughout and is not nested too deep. -/
def ofText? (s : String) : Option Json := (Raw.ofText? s).bind (Raw.toJson? Raw.maxLevels)

end ElixirLint.Json
