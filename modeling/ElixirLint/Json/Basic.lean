import ElixirLint.Number.Binary64

/-!
# JSON values

A JSON value as a program holds it. Numbers are whole numbers of 64 bits, signed or unsigned, or else doubles. An
object is a map from keys to values: its members stand in the order of their keys, each key once, and `ofMembers`
brings any list of members into that form, the last of several members with one key winning.
-/

namespace ElixirLint

/-- A JSON value. -/
inductive Json
  | null
  | bool (value : Bool)
  | int (value : Int)
  | double (value : Binary64)
  | string (value : String)
  | array (items : List Json)
  | object (members : List (String × Json))
  deriving Repr

namespace Json

/-- Puts a member into a list of members in key order, replacing one with the same key. -/
def putMember (key : String) (value : Json) : List (String × Json) → List (String × Json)
  | [] => [(key, value)]
  | (k, v) :: rest =>
    if key = k then (key, value) :: rest
    else if key < k then (key, value) :: (k, v) :: rest
    else (k, v) :: putMember key value rest

/-- The object with the members given: in key order, and of several members with one key the last. -/
def ofMembers (members : List (String × Json)) : Json :=
  .object (members.foldl (fun sorted m => putMember m.1 m.2 sorted) [])

/-- The value under a key of an object; none if the key is missing or the value is no object. -/
def get? (key : String) : Json → Option Json
  | .object members => members.lookup key
  | _ => none

/-- The text of a string value. -/
def string? : Json → Option String
  | .string s => some s
  | _ => none

/-- Whether a value is null. -/
def isNull : Json → Bool
  | .null => true
  | _ => false

/-- A text, or null if there is none. -/
def ofOptionString : Option String → Json
  | some s => .string s
  | none => .null

/-- A whole number, or null if there is none. -/
def ofOptionInt : Option Int → Json
  | some n => .int n
  | none => .null

end Json

end ElixirLint
