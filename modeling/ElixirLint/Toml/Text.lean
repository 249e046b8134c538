import ElixirLint.Json.Raw
import ElixirLint.Toml.Scalar

/-!
# TOML texts

Reading a text takes it apart into statements, one a line, and builds the document from them. `Toml.toRaw` is the
document as a tree from which records are decoded.
-/

namespace ElixirLint.Toml

/-- The deepest nesting of values, and the greatest number of keys joined by dots. -/
def maxLevels : Nat := 79

/-- Whether a character may stand in a key without quotes. -/
def isBare (c : Char) : Bool :=
  ('a' ≤ c && c ≤ 'z') || ('A' ≤ c && c ≤ 'Z') || ('0' ≤ c && c ≤ '9') || c == '-' || c == '_'

/-- One key, with or without quotes. -/
def readKey : Reader String := fun cs =>
  match cs with
  | [] => none
  | c :: _ =>
    if c = '"' ∨ c = '\'' then readShortString cs
    else
      let word := cs.takeWhile isBare
      if word.isEmpty then none else some (String.ofList word, cs.dropWhile isBare)

/-- Keys joined by dots, with the spaces around them. -/
def readKeys : Nat → Reader (List String)
  | 0, _ => none
  | fuel + 1, cs =>
    match readKey (skipGap cs) with
    | none => none
    | some (key, rest) =>
      match skipGap rest with
      | '.' :: rest => (readKeys fuel rest).map fun (keys, rest) => (key :: keys, rest)
      | rest => some ([key], rest)

/-- Keys joined by dots: the way to a table and the last key. -/
def readWay : Reader (List String × String) := fun cs =>
  match readKeys maxLevels cs with
  | none => none
  | some (keys, rest) => keys.getLast?.map fun key => ((keys.dropLast, key), rest)

/-- A text behind white space, ends of lines and comments. -/
def skipBetween : Nat → List Char → Option (List Char)
  | 0, cs => some cs
  | fuel + 1, cs =>
    match skipGap cs with
    | '#' :: rest =>
      let rest := rest.dropWhile isPlain
      match afterNewline? rest with
      | some rest => skipBetween fuel rest
      | none => if rest.isEmpty then some [] else none
    | rest =>
      match afterNewline? rest with
      | some rest => skipBetween fuel rest
      | none => some rest

mutual

/-- Reads a value nested at most `levels` deep. Each level, item and entry uses one unit of `fuel`. -/
def readValue : Nat → Nat → Reader Toml
  | 0, _, _ => none
  | fuel + 1, levels, cs =>
    match cs with
    | [] => none
    | c :: rest =>
      if c = '[' then
        if levels = 0 then none else (readItems fuel (levels - 1) rest).map fun (vs, rest) => (.array vs, rest)
      else if c = '\x7b' then
        if levels = 0 then none
        else
          match skipGap rest with
          | '\x7d' :: rest => some (.table .inline [], rest)
          | _ =>
            match readEntries fuel (levels - 1) rest with
            | none => none
            | some (entries, rest) => (ofEntries? entries).map fun t => (t, rest)
      else readScalar cs

/-- Reads the items of an array up to its end; a comma may stand behind the last. -/
def readItems : Nat → Nat → Reader (List Toml)
  | 0, _, _ => none
  | fuel + 1, levels, cs =>
    match skipBetween cs.length cs with
    | none => none
    | some (']' :: rest) => some ([], rest)
    | some cs =>
      match readValue fuel levels cs with
      | none => none
      | some (v, rest) =>
        match skipBetween rest.length rest with
        | some (',' :: rest) => (readItems fuel levels rest).map fun (vs, rest) => (v :: vs, rest)
        | some (']' :: rest) => some ([v], rest)
        | _ => none

/-- Reads the entries of a table between braces up to its end; there is at least one. -/
def readEntries : Nat → Nat → Reader (List (List String × String × Toml))
  | 0, _, _ => none
  | fuel + 1, levels, cs =>
    match readWay cs with
    | some ((way, key), '=' :: rest) =>
      match readValue fuel levels (skipGap rest) with
      | none => none
      | some (v, rest) =>
        match skipGap rest with
        | ',' :: rest => (readEntries fuel levels rest).map fun (es, rest) => ((way, key, v) :: es, rest)
        | '\x7d' :: rest => some ([(way, key, v)], rest)
        | _ => none
    | _ => none

end

/-- The text behind what may end a line: spaces and a comment. The text may end there too. -/
def afterLine? (cs : List Char) : Option (List Char) :=
  let rest :=
    match skipGap cs with
    | '#' :: rest => rest.dropWhile isPlain
    | rest => rest
  if rest.isEmpty then some [] else afterNewline? rest

/-- Reads a line with a statement, or an empty one. -/
def readLine : Reader (Option Statement) := fun cs =>
  match skipGap cs with
  | '[' :: '[' :: rest =>
    match readWay rest with
    | some ((way, key), ']' :: ']' :: rest) => (afterLine? rest).map (some (.item way key), ·)
    | _ => none
  | '[' :: rest =>
    match readWay rest with
    | some ((way, key), ']' :: rest) => (afterLine? rest).map (some (.header way key), ·)
    | _ => none
  | c :: cs =>
    if c = '#' ∨ c = '\n' ∨ c = '\r' then (afterLine? (c :: cs)).map (none, ·)
    else
      match readWay (c :: cs) with
      | some ((way, key), '=' :: rest) =>
        match readValue (2 * rest.length + 2) maxLevels (skipGap rest) with
        | none => none
        | some (v, rest) => (afterLine? rest).map (some (.entry way key v), ·)
      | _ => none
  | [] => some (none, [])

/-- Reads all lines. Each takes at least one character. -/
def readStatements : Nat → List Char → Option (List Statement)
  | 0, cs => if cs.isEmpty then some [] else none
  | fuel + 1, cs =>
    if cs.isEmpty then some []
    else
      match readLine cs with
      | none => none
      | some (s, rest) => (readStatements fuel rest).map (s.toList ++ ·)

/-- The document that a text holds. A byte order mark in front does not count. -/
def ofText? (s : String) : Option Toml :=
  let cs :=
    match s.toList with
    | '\uFEFF' :: cs => cs
    | cs => cs
  (readStatements cs.length cs).bind ofStatements?

mutual

/-- The document as a tree. A point in time reads as a record without known fields. -/
def toRaw : Toml → Json.Raw
  | .string s => .string (some s)
  | .int n => .number (some (.int n))
  | .fraction => .number none
  | .bool b => .bool b
  | .moment => .object []
  | .array items => .array (itemsToRaw items)
  | .table _ entries => .object (entriesToRaw entries)
  | .tables items => .array (itemsToRaw items).reverse

/-- The trees of some values. -/
def itemsToRaw : List Toml → List Json.Raw
  | [] => []
  | v :: vs => toRaw v :: itemsToRaw vs

/-- The trees of some entries. -/
def entriesToRaw : List (String × Toml) → List (Option String × Json.Raw)
  | [] => []
  | (k, v) :: es => (some k, toRaw v) :: entriesToRaw es

end

end ElixirLint.Toml
