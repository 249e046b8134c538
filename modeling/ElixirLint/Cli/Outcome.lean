import ElixirLint.Cli.Style

/-!
# What a command leaves behind

What is printed and the status with which the program ends. The status tells issues from faults of the configuration and
from faults of the linter; a file that is not there counts as neither.
-/

namespace ElixirLint.Cli

/-- What a command leaves behind. -/
structure Outcome where
  /-- The status. -/
  exit : Nat
  /-- What is printed. -/
  stdout : String
  /-- What is printed as errors and warnings. -/
  stderr : String
  deriving DecidableEq, Repr

/-- How a command ends. -/
inductive ExitStatus
  | success
  /-- The linter reports issues. -/
  | issuesFound
  /-- The configuration cannot be used. -/
  | configError
  /-- The linter cannot be used. -/
  | toolError
  /-- What the command is about cannot be read. -/
  | failure
  /-- The arguments cannot be understood. -/
  | usage
  deriving DecidableEq, Repr

/-- The number of a status. -/
def ExitStatus.code : ExitStatus → Nat
  | .success => 0
  | .issuesFound => 1
  | .configError => 2
  | .toolError => 3
  | .failure => 1
  | .usage => 2

/-- What the user wants to see. -/
structure Display where
  /-- Whether styles are used. -/
  styled : Bool
  /-- Whether warnings and summaries are shown. -/
  talkative : Bool
  deriving DecidableEq, Repr

/-- Lines of text. -/
def lines (ls : List String) : String := String.join (ls.map (· ++ "\n"))

namespace Outcome

/-- The outcome with some printed lines. -/
def ofLines (status : ExitStatus) (stdout stderr : List String) : Outcome :=
  ⟨status.code, lines stdout, lines stderr⟩

end Outcome

namespace Display

/-- The line for an error. -/
def error (d : Display) (message : String) : String := (Style.strong .red).paint d.styled "error:" ++ " " ++ message

/-- The line for a warning. -/
def warning (d : Display) (message : String) : String :=
  (Style.strong .yellow).paint d.styled "warning:" ++ " " ++ message

/-- The lines for warnings, if they are shown. -/
def warnings (d : Display) (messages : List String) : List String :=
  if d.talkative then messages.map d.warning else []

/-- The outcome of a command that ends with an error, after warnings. -/
def failing (d : Display) (status : ExitStatus) (message : String) (warnings : List String) : Outcome :=
  .ofLines status [] (d.warnings warnings ++ [d.error message])

end Display

/-- The outcome of a command about something that cannot be read. -/
def unreadable (what cause : String) : Outcome :=
  .ofLines .failure [] ["Error: " ++ what, "", "Caused by:", "    " ++ cause]

end ElixirLint.Cli
