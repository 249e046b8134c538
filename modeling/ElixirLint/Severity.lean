/-!
# Severities

The four levels at which an editor shows a diagnostic.
-/

namespace ElixirLint

/-- How grave a diagnostic is. -/
inductive Severity
  | error
  | warning
  | information
  | hint
  deriving DecidableEq, Repr

namespace Severity

/-- Only errors are errors. -/
def isError (s : Severity) : Bool := s == .error

/-- Whether a severity is a warning or an error. -/
def isWarningOrHigher (s : Severity) : Bool := s == .error || s == .warning

/-- A severity in messages. -/
def text : Severity → String
  | .error => "error"
  | .warning => "warning"
  | .information => "info"
  | .hint => "hint"

end Severity

end ElixirLint
