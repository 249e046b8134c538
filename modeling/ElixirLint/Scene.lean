import ElixirLint.Json.Basic
import ElixirLint.Surroundings

/-!
# Scenes

What a rehearsal is given, as JSON: the files below a root directory, the search path, variables and the replies that
commands come to. Bytes are a text, or an object with their numbers where they are no text. A file is its contents, or
a stand-in for the program that builds projects, which can be run.
-/

namespace ElixirLint

namespace Scene

/-- A member of an object; null if there is none. -/
def member (v : Json) (name : String) : Json := (v.get? name).getD .null

/-- A text; empty if the value is none. -/
def text (v : Json) : String := v.string?.getD ""

/-- The items of an array; none if the value is no array. -/
def items : Json → List Json
  | .array vs => vs
  | _ => []

/-- The members of an object; none if the value is no object. -/
def members : Json → List (String × Json)
  | .object ms => ms
  | _ => []

/-- A whole number; zero if the value is none. -/
def number : Json → Int
  | .int n => n
  | _ => 0

/-- Whether a value is true. -/
def isTrue : Json → Bool
  | .bool b => b
  | _ => false

/-- Bytes given by their numbers. -/
def byteList (v : Json) : List UInt8 := (items v).map fun b => UInt8.ofNat (number b).toNat

/-- Bytes given as a text or by their numbers. -/
def bytes : Json → List UInt8
  | .string s => Text.utf8Bytes s
  | v => byteList (member v "bytes")

/-- The names from the root that a path leads through. -/
def names (p : Path) : Names :=
  p.components.filterMap fun c =>
    match c with
    | .name n => some n
    | _ => none

/-- An entry below a root directory. A slash at the end of its key makes it a directory. -/
def entry (root key : String) (v : Json) : Names × Entry :=
  let place := names (.ofString (root ++ "/" ++ key))
  if key.endsWith "/" then (place, .directory)
  else if (v.get? "mix").isSome then (place, .file [] true)
  else (place, .file (bytes v) false)

/-- The files below a root directory, seen from a working directory. -/
def tree (root : String) (files : Json) (current : String) : FileTree :=
  let here := names (.ofString current)
  ⟨(members files).map (fun (k, v) => entry root k v) ++
    [(names (.ofString root), .directory), (here, .directory)], here⟩

/-- What a process prints, given as a text or by its bytes. -/
def printed (v : Json) (name : String) : String :=
  match v.get? (name ++ "_bytes") with
  | some bs => Text.decodeUtf8Lossy (byteList bs)
  | none => text (member v name)

/-- The status of a process, which is zero unless it is given. -/
def status (v : Json) : Option Int :=
  match v.get? "status" with
  | none => some 0
  | some .null => none
  | some n => some (number n)

/-- A process that ends. -/
def finished (v : Json) : Finished := ⟨status v, printed v "stdout", printed v "stderr"⟩

/-- What a command comes to that cannot be run. -/
def failure (reason : String) : ExecFailure :=
  match reason with
  | "not_found" => .notFound
  | "not_executable" => .notExecutable
  | reason => .other reason

/-- What a command comes to, at most `depth` times held back. -/
def replyWithin : Nat → Json → Reply
  | _, .null => .silence
  | _, .string _ => .crash
  | depth, v =>
    if isTrue (member v "hang") then
      match depth with
      | 0 => .hang .silence
      | depth + 1 => .hang (replyWithin depth (member v "then"))
    else
      match v.get? "error" with
      | some reason => .failed (failure (text reason))
      | none => .finished (finished v)

/-- What a command comes to. -/
def reply (v : Json) : Reply := replyWithin 16 v

/-- What commands come to, in order. -/
def replies (v : Json) : List Reply := (items v).map reply

/-- The search path; none if it is null. -/
def search (v : Json) : Option (List UInt8) := if v.isNull then none else some (bytes v)

/-- The variable with a name, if it is a text. -/
def variableOf (v : Json) (name : String) : Option String := (v.get? name).bind Json.string?

end Scene

end ElixirLint
