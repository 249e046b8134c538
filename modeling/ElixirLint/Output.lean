import ElixirLint.Json.Decode
import ElixirLint.Text.Blank
import ElixirLint.Text.Search

/-!
# Recovering a report from the output of a command

A command prints its report somewhere in its output, often behind warnings of the compiler. The payload is everything
from the first opening to the last closing brace. If it does not decode, the output is malformed, unless it mentions
that the process was told to terminate: such output is cut off, and is passed over without complaint.
-/

namespace ElixirLint

/-- Why the output of a command holds no report. -/
inductive OutputError
  /-- Nothing was printed. -/
  | empty
  /-- No report can be read from the output. -/
  | malformed (output : String)
  deriving DecidableEq, Repr

/-- The message of an output error. -/
def OutputError.message : OutputError → String
  | .empty => "Command returned empty output"
  | .malformed output => "Error on parsing output (It might be non-JSON output): \"" ++ output ++ "\""

namespace Output

/-- A text up to and with its last closing brace. -/
def untilLastBrace (cs : List Char) : List Char := (cs.reverse.dropWhile (· ≠ '\x7d')).reverse

/-- The part of an output from its first opening brace to its last closing brace, if there is one. -/
def payload? (output : String) : Option String :=
  let inner := untilLastBrace (output.toList.dropWhile (· ≠ '\x7b'))
  if inner.isEmpty then none else some (String.ofList inner)

/-- The word that output of a terminated process holds. -/
def terminationMark : List Char := "SIGTERM".toList

/-- Whether an output says that the process was told to terminate. -/
def mentionsTermination (output : String) : Bool := Text.occursIn terminationMark output.toList

/-- The report in an output; none if the process was told to terminate before it was complete. -/
def report? {α : Type} (d : Json.Decoder α) (output : String) : Except OutputError (Option α) :=
  if output = "" then .error .empty
  else
    match (payload? output).bind (Json.decodeText? d) with
    | some a => .ok (some a)
    | none =>
      if mentionsTermination output then .ok none else .error (.malformed (Text.collapse output))

end Output

end ElixirLint
