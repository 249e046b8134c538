import ElixirLint.Issue
import ElixirLint.Position
import ElixirLint.Text.Digit
import ElixirLint.Text.Search

/-!
# Where an issue is shown

The range of a document that marks an issue, always within one line. The columns of the issue come first; without
them, the first place on its line where its trigger stands; without that, the whole line, or its first column so that
something can be seen.
-/

namespace ElixirLint

namespace Highlight

/-- A text without the digits at its end, and those digits. -/
def splitDigits (cs : List Char) : List Char × List Char :=
  ((cs.reverse.dropWhile Text.isDecimalDigit).reverse, (cs.reverse.takeWhile Text.isDecimalDigit).reverse)

/-- A reference to a function without its arity: without a slash and digits at the very end, if it ends so. -/
def stripArityChars (cs : List Char) : List Char :=
  let (front, digits) := splitDigits cs
  if digits.isEmpty then cs
  else if front.getLast? = some '/' then front.dropLast
  else cs

/-- A reference to a function without its arity. -/
def stripArity (trigger : String) : String := String.ofList (stripArityChars trigger.toList)

/-- A count from one as a count from zero; a missing or too small one is zero, and one too large the largest. -/
def zeroBased : Option Int → UInt32
  | some n => if 0 < n then Text.clampWord (n - 1).toNat else 0
  | none => 0

/-- The columns of a whole line: at least one, so that it can be seen. -/
def wholeLine (line : UInt32) (text : List Char) : Range :=
  Range.onLine line 0 (max 1 (Text.clampWord (Text.unitCount text)))

/-- The columns of the first place where a trigger stands on a line. -/
def triggerRange? (line : UInt32) (text trigger : List Char) : Option Range :=
  if trigger.isEmpty then none
  else
    (Text.find? trigger text).map fun n =>
      let start := Text.clampWord (Text.unitCount (text.take n))
      Range.onLine line start (start + Text.clampWord (Text.unitCount trigger))

/-- The range of a document that marks an issue. -/
def range (issue : Issue) (text : String) : Range :=
  let line := zeroBased issue.lineNo
  if issue.lacksColumns then
    match Text.line? text line.toNat with
    | none => Range.onLine line 0 1
    | some l =>
      let found := issue.triggerText.bind fun t => triggerRange? line l (stripArityChars t.toList)
      found.getD (wholeLine line l)
  else
    let start := zeroBased issue.column
    Range.onLine line start (max start (zeroBased issue.columnEnd))

end Highlight

end ElixirLint
