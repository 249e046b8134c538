import ElixirLint.Highlight
import ElixirLint.Report
import ElixirLint.Severity

/-!
# Diagnostics

An issue as an editor shows it: a range of the document, a severity and a message. The category decides the severity;
only for issues that suggest refactoring it can be chosen.
-/

namespace ElixirLint

/-- How categories rank: the severity of issues that suggest refactoring is free. -/
structure SeverityMap where
  /-- The severity of refactoring issues. -/
  refactor : Severity
  deriving DecidableEq, Repr

namespace SeverityMap

/-- The map that shows refactoring issues as hints, or else as information. -/
def ofRefactorAsHint (asHint : Bool) : SeverityMap := ⟨if asHint then .hint else .information⟩

/-- The severity of a category. An unknown category is an error, so that it is not overlooked. -/
def severity (m : SeverityMap) : Category → Severity
  | .consistency => .warning
  | .warning => .warning
  | .design => .information
  | .readability => .information
  | .refactor => m.refactor
  | .other _ => .error

end SeverityMap

/-- An issue as an editor shows it. -/
structure Diagnostic where
  /-- What is marked. -/
  range : Range
  /-- How grave it is. -/
  severity : Severity
  /-- The message, with category and check. -/
  message : String
  /-- The check that fired. -/
  code : String
  /-- The category of the issue. -/
  category : Category
  deriving DecidableEq, Repr

namespace Diagnostic

/-- The name under which all diagnostics are shown. -/
def source : String := "credo"

/-- The diagnostic for an issue in a document with the text given. -/
def ofIssue (issue : Issue) (text : String) (severities : SeverityMap) : Diagnostic where
  range := Highlight.range issue text
  severity := severities.severity issue.category
  message := issue.message ++ " (" ++ issue.category.name ++ ":" ++ issue.check ++ ")"
  code := issue.check
  category := issue.category

/-- The diagnostics for issues, in the same order. -/
def ofIssues (issues : List Issue) (text : String) (severities : SeverityMap) : List Diagnostic :=
  issues.map fun i => ofIssue i text severities

/-- A diagnostic on one line of text. -/
def text (d : Diagnostic) : String := d.range.text ++ " " ++ d.severity.text ++ ": " ++ d.message

/-- A numbered list of diagnostic texts, for reading. -/
def listing (lines : List String) : String :=
  if lines.isEmpty then "(no diagnostics)"
  else "\n".intercalate (lines.mapIdx fun i l => "[" ++ toString (i + 1) ++ "] " ++ l)

end Diagnostic

end ElixirLint
