import ElixirLint.Json.Printer
import ElixirLint.Json.Raw

/-!
# Decoding records from JSON

Typed data is read from the tree of a text or of a value. A record is read from an object, whose members are taken in
the order in which they stand, or from an array, whose items are the fields in the order of declaration. Unknown
members are passed over unread. What can go wrong is a `DecodeError`, and the first thing that does decides.
-/

namespace ElixirLint.Json

/-- What a decoder looks for. -/
inductive Expected
  | string
  | boolean
  | sequence
  | integer
  | int32
  | word32
  | decimal
  | nothing
  | mapping
  | table
  | path
  | choice
  | record (name : String)
  deriving DecidableEq, Repr

namespace Expected

/-- What is looked for, in messages. -/
def text : Expected → String
  | .string => "a string"
  | .boolean => "a boolean"
  | .sequence => "a sequence"
  | .integer => "i64"
  | .int32 => "i32"
  | .word32 => "u32"
  | .decimal => "f32"
  | .nothing => "unit"
  | .mapping => "a map"
  | .table => "map"
  | .path => "path string"
  | .choice => "string or map"
  | .record name => "struct " ++ name

end Expected

/-- Why data could not be decoded. -/
inductive DecodeError
  /-- A value of another type stands there; the text names what was found. -/
  | invalidType (found : String) (expected : Expected)
  /-- A whole number beyond the numbers expected. -/
  | invalidValue (value : Int) (expected : Expected)
  /-- An array with too few items for the required fields of a record with `fields` fields. -/
  | tooShort (length : Nat) (name : String) (fields : Nat)
  /-- An array with more items than the record has fields; the number of fields is not always told. -/
  | tooLong (length : Nat) (fields : Option Nat)
  /-- An object that names a choice must have a single member. -/
  | severalMembers
  /-- A required member is missing. -/
  | missingField (name : String)
  /-- A member is repeated. -/
  | duplicateField (name : String)
  /-- Arrays and objects are nested too deep. -/
  | tooDeep
  /-- A number, string or key that denotes nothing. -/
  | noValue
  /-- A value of the right type that is refused for a reason of its own. -/
  | refused (reason : String)
  deriving DecidableEq, Repr

/-- A name between backticks, as messages show it. -/
def ticked (s : String) : String := String.ofList ('\x60' :: s.toList ++ ['\x60'])

namespace DecodeError

/-- The message of a decoding error. -/
def message : DecodeError → String
  | .invalidType found expected => "invalid type: " ++ found ++ ", expected " ++ expected.text
  | .invalidValue n expected =>
    "invalid value: integer " ++ ticked (toString n) ++ ", expected " ++ expected.text
  | .tooShort n name fields =>
    "invalid length " ++ toString n ++ ", expected struct " ++ name ++ " with " ++ toString fields ++
      (if fields = 1 then " element" else " elements")
  | .tooLong n none => "invalid length " ++ toString n ++ ", expected fewer elements in array"
  | .tooLong n (some fields) =>
    "invalid length " ++ toString n ++ ", expected " ++ toString fields ++
      (if fields = 1 then " element" else " elements") ++ " in sequence"
  | .severalMembers => "invalid value: map, expected map with a single key"
  | .missingField name => "missing field " ++ ticked name
  | .duplicateField name => "duplicate field " ++ ticked name
  | .tooDeep => "recursion limit exceeded"
  | .noValue => "number out of range or lone surrogate"
  | .refused reason => reason

end DecodeError

/-- What a tree is, in messages. -/
def Raw.describe : Raw → String
  | .null => "null"
  | .bool b => "boolean " ++ ticked (if b then "true" else "false")
  | .number (some (.int n)) => "integer " ++ ticked (toString n)
  | .number (some (.double x)) => "floating point " ++ ticked (String.ofList (doubleText x))
  | .number _ => "number"
  | .string (some s) => "string " ++ Text.quoted s
  | .string none => "string"
  | .array _ => "sequence"
  | .object _ => "map"

/-- What becomes of the items of an array that are left when a record has been read from it. -/
inductive Leftover
  /-- They are passed over. -/
  | passed
  /-- They are refused. -/
  | refused
  /-- They are refused, and the message counts the fields. -/
  | counted
  deriving DecidableEq, Repr

/-- The bounds within which a tree is decoded. -/
structure Limits where
  /-- How many arrays and objects may still be nested. -/
  levels : Nat
  /-- What becomes of items that are left over. -/
  leftover : Leftover

/-- The bounds one level further in. -/
def Limits.deeper (l : Limits) : Limits := { l with levels := l.levels - 1 }

/-- A way to read data from a tree. -/
abbrev Decoder (α : Type) := Limits → Raw → Except DecodeError α

namespace Decoder

/-- The error for a tree that is not what was expected. -/
def mismatch {α : Type} (expected : Expected) (v : Raw) : Except DecodeError α :=
  match v with
  | .number none => .error .noValue
  | .string none => .error .noValue
  | v => .error (.invalidType v.describe expected)

/-- Reads a string. -/
def string : Decoder String := fun _ v =>
  match v with
  | .string (some s) => .ok s
  | v => mismatch .string v

/-- Reads a string that names a file or a directory. -/
def path : Decoder String := fun _ v =>
  match v with
  | .string (some s) => .ok s
  | v => mismatch .path v

/-- Reads a truth value. -/
def boolean : Decoder Bool := fun _ v =>
  match v with
  | .bool b => .ok b
  | v => mismatch .boolean v

/-- Reads a whole number within bounds. -/
def between (low high : Int) (expected : Expected) : Decoder Int := fun _ v =>
  match v with
  | .number (some (.int n)) => if low ≤ n ∧ n ≤ high then .ok n else .error (.invalidValue n expected)
  | v => mismatch expected v

/-- Reads a signed 64-bit number. -/
def integer : Decoder Int := between (-(Literal.maxSigned + 1 : Nat)) Literal.maxSigned .integer

/-- Reads a signed 32-bit number. -/
def int32 : Decoder Int := between (-2147483648) 2147483647 .int32

/-- Reads an unsigned 32-bit number. -/
def word32 : Decoder Int := between 0 4294967295 .word32

/-- The words that may be chosen, in messages. -/
def wordList : List String → String
  | [a, b] => ticked a ++ " or " ++ ticked b
  | words => "one of " ++ ", ".intercalate (words.map ticked)

/-- Reads one of some words, which stands as a string or as the only key of an object, before null. -/
def word (words : List String) : Decoder String := fun _ v =>
  let chosen (s : String) : Except DecodeError String :=
    if words.contains s then .ok s
    else .error (.refused ("unknown variant " ++ ticked s ++ ", expected " ++ wordList words))
  match v with
  | .string (some s) => chosen s
  | .object [(some s, content)] =>
    match chosen s, content with
    | .ok s, .null => .ok s
    | .ok _, content => mismatch .nothing content
    | .error e, _ => .error e
  | .object [(none, _)] => .error .noValue
  | .object _ => .error .severalMembers
  | v => mismatch .choice v

/-- Reads a number of any kind. -/
def decimal : Decoder Unit := fun _ v =>
  match v with
  | .number (some _) => .ok ()
  | v => mismatch .decimal v

/-- Reads any value as it is. -/
def json : Decoder Json := fun l v =>
  match v.toJson? l.levels with
  | some j => .ok j
  | none => .error (if l.levels < v.depth then .tooDeep else .noValue)

/-- Reads nothing from null, and otherwise what the decoder reads. -/
def optional {α : Type} (d : Decoder α) : Decoder (Option α) := fun l v =>
  match v with
  | .null => .ok none
  | v => (d l v).map some

/-- Reads what a decoder reads, only to see that it can be read. -/
def skip {α : Type} (d : Decoder α) : Decoder Unit := fun l v => (d l v).map fun _ => ()

/-- Reads every item of an array. -/
def items {α : Type} (d : Decoder α) (l : Limits) : List Raw → Except DecodeError (List α)
  | [] => .ok []
  | v :: vs =>
    match d l v with
    | .error e => .error e
    | .ok a => (items d l vs).map (a :: ·)

/-- Reads an array of like items. -/
def list {α : Type} (d : Decoder α) : Decoder (List α) := fun l v =>
  match v with
  | .array vs => if l.levels = 0 then .error .tooDeep else items d l.deeper vs
  | v => mismatch .sequence v

/-- Reads the members of an object one after the other, a key before its value. -/
def members {κ α : Type} (key : String → Except DecodeError κ) (d : Decoder α) (l : Limits) :
    List (Option String × Raw) → Except DecodeError (List (κ × α))
  | [] => .ok []
  | (none, _) :: _ => .error .noValue
  | (some k, v) :: ms =>
    match key k with
    | .error e => .error e
    | .ok k =>
      match d l v with
      | .error e => .error e
      | .ok a => (members key d l ms).map ((k, a) :: ·)

/-- Reads an object with keys of one kind and values of one kind; `expected` says what messages call it. -/
def mapping {κ α : Type} (expected : Expected) (key : String → Except DecodeError κ) (d : Decoder α) :
    Decoder (List (κ × α)) := fun l v =>
  match v with
  | .object ms => if l.levels = 0 then .error .tooDeep else members key d l.deeper ms
  | v => mismatch expected v

/-- Reads a value in one of some ways; the name of the choice stands in the message if none of them succeeds. -/
def firstOf {α : Type} (name : String) (ds : List (Decoder α)) : Decoder α := fun l v =>
  match ds.findSome? fun d => (d l v).toOption with
  | some a => .ok a
  | none => .error (.refused ("data did not match any variant of untagged enum " ++ name))

end Decoder

/-- One field of a record that is being read. -/
structure RecordField (σ : Type) where
  /-- The name of the field. -/
  name : String
  /-- Other names under which it is accepted. -/
  aliases : List String := []
  /-- Whether an object must have a member for it. -/
  required : Bool := false
  /-- Whether an array must have an item for it. -/
  itemRequired : Bool := required
  /-- Reads the field into the record. -/
  read : Limits → Raw → σ → Except DecodeError σ

/-- How a record is read: its name, the record with every field at its default, and its fields in order. -/
structure Record (σ : Type) where
  /-- The name of the record in messages. -/
  name : String
  /-- The record before any field is read. -/
  initial : σ
  /-- The fields, in the order of declaration. -/
  fields : List (RecordField σ)

namespace RecordField

variable {σ α : Type}

/-- The field that reads its value with a decoder and stores it; the record may lack it. -/
def of (name : String) (d : Decoder α) (store : α → σ → σ) : RecordField σ where
  name := name
  read l v s := (d l v).map (store · s)

/-- The field that reads its value with a decoder and stores it; the record must have it. -/
def needed (name : String) (d : Decoder α) (store : α → σ → σ) : RecordField σ :=
  { of name d store with required := true, itemRequired := true }

/-- The field that may be null or lack in an object, but not in an array. -/
def nullable (name : String) (d : Decoder α) (store : Option α → σ → σ) : RecordField σ :=
  { of name (Decoder.optional d) store with itemRequired := true }

end RecordField

namespace Record

variable {σ : Type}

/-- The field that a key names. -/
def field? (r : Record σ) (key : String) : Option (RecordField σ) :=
  r.fields.find? fun f => f.name == key || f.aliases.contains key

/-- Reads the members of an object in turn; `seen` holds the fields met so far. -/
def readMembers (r : Record σ) (l : Limits) :
    List (Option String × Raw) → List String → σ → Except DecodeError (List String × σ)
  | [], seen, s => .ok (seen, s)
  | (none, _) :: _, _, _ => .error .noValue
  | (some key, v) :: ms, seen, s =>
    match r.field? key with
    | none => readMembers r l ms seen s
    | some f =>
      if seen.contains f.name then .error (.duplicateField f.name)
      else
        match f.read l v s with
        | .error e => .error e
        | .ok s => readMembers r l ms (f.name :: seen) s

/-- Reads the items of an array into the fields in turn; `count` is the number of items read. -/
def readItems (r : Record σ) (l : Limits) :
    List (RecordField σ) → List Raw → Nat → σ → Except DecodeError (List Raw × σ)
  | [], vs, _, s => .ok (vs, s)
  | f :: fs, [], count, s =>
    if f.itemRequired then .error (.tooShort count r.name r.fields.length) else readItems r l fs [] (count + 1) s
  | f :: fs, v :: vs, count, s =>
    match f.read l v s with
    | .error e => .error e
    | .ok s => readItems r l fs vs (count + 1) s

/-- Reads the record from an object or an array. -/
def decoder (r : Record σ) : Decoder σ := fun l v =>
  match v with
  | .object ms =>
    if l.levels = 0 then .error .tooDeep
    else
      match r.readMembers l.deeper ms [] r.initial with
      | .error e => .error e
      | .ok (seen, s) =>
        match r.fields.find? fun f => f.required && !seen.contains f.name with
        | some f => .error (.missingField f.name)
        | none => .ok s
  | .array vs =>
    if l.levels = 0 then .error .tooDeep
    else
      match r.readItems l.deeper r.fields vs 0 r.initial with
      | .error e => .error e
      | .ok (left, s) =>
        if left.isEmpty then .ok s
        else
          match l.leftover with
          | .passed => .ok s
          | .refused => .error (.tooLong vs.length none)
          | .counted => .error (.tooLong vs.length (some r.fields.length))
  | v => Decoder.mismatch (.record r.name) v

/-- Reads the record from an object only. -/
def objectDecoder (r : Record σ) : Decoder σ := fun l v =>
  match v with
  | .array vs => Decoder.mismatch (.record r.name) (.array vs)
  | v => r.decoder l v

/-- Reads the record from an object, and then from the same object each of some parts whose members stand among those
of the record. -/
def withParts (r : Record σ) (parts : List (Decoder Unit)) : Decoder σ := fun l v =>
  match r.objectDecoder l v with
  | .error e => .error e
  | .ok s =>
    match parts.forM fun part => part { l with leftover := .counted } v with
    | .error e => .error e
    | .ok () => .ok s

end Record

/-- Decodes a value. A value may be nested as deep as it is. -/
def decodeValue {α : Type} (d : Decoder α) (v : Json) : Except DecodeError α :=
  d ⟨(Raw.ofJson v).depth, .refused⟩ (Raw.ofJson v)

/-- Decodes a text; none if it is not JSON or does not decode. -/
def decodeText? {α : Type} (d : Decoder α) (s : String) : Option α :=
  match Raw.ofText? s with
  | none => none
  | some v => (d ⟨Raw.maxLevels, .refused⟩ v).toOption

end ElixirLint.Json
