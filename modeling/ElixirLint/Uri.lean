import ElixirLint.Text.Quoted
import ElixirLint.Text.Utf8

/-!
# Document URIs

A document is identified by the text of its URI, taken literally: two URIs name the same document when their texts
are equal. Most are URIs of files; unsaved buffers and comparison views have other schemes.
-/

namespace ElixirLint

/-- The identity of a document. -/
structure DocumentUri where
  /-- The URI as it was given. -/
  text : String
  deriving DecidableEq, Repr

namespace DocumentUri

/-- The text before the first colon, if there is a colon. -/
def scheme? (u : DocumentUri) : Option String :=
  let cs := u.text.toList
  if ':' ∈ cs then some (String.ofList (cs.takeWhile (· ≠ ':'))) else none

/-- Whether a URI names a file. -/
def isFile (u : DocumentUri) : Bool := u.scheme? == some "file"

/-- The order of bytes, the first that differs deciding and a longer list coming after its beginning. -/
def compareBytes : List UInt8 → List UInt8 → Ordering
  | [], [] => .eq
  | [], _ :: _ => .lt
  | _ :: _, [] => .gt
  | a :: as, b :: bs => (compare a b).then (compareBytes as bs)

/-- The order of URIs: that of the bytes of their texts. -/
def order (a b : DocumentUri) : Ordering := compareBytes (Text.utf8Bytes a.text) (Text.utf8Bytes b.text)

/-- A URI as diagnostic displays of the queue show it. -/
def display (u : DocumentUri) : String := "DocumentUri(" ++ Text.quoted u.text ++ ")"

end DocumentUri

end ElixirLint
