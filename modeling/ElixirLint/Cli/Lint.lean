import ElixirLint.Cli.Arguments
import ElixirLint.Cli.Outcome
import ElixirLint.Config.Choice
import ElixirLint.Diagnostic
import ElixirLint.Linter
import ElixirLint.Surroundings

/-!
# Linting a file from the command line

A file is linted as it is on disk. What comes of it is a `LintVerdict`, and `LintVerdict.outcome` is what the user sees.
Positions are shown from one on.
-/

namespace ElixirLint.Cli

/-- What comes of linting a file. -/
inductive LintVerdict
  /-- The file is not there. -/
  | lost (file : Path) (error : WalkError)
  /-- The file cannot be read. -/
  | unread (file : Path) (error : ReadError)
  /-- The configuration cannot be loaded. -/
  | misconfigured (failure : ConfigFailure)
  /-- The file has no URI. -/
  | unnamed (file : Path)
  /-- The file cannot be a target. -/
  | untargeted (file : Path) (error : LintError)
  /-- The file belongs to no project. -/
  | homeless (file : Path)
  /-- The linter gives no result. -/
  | failed (error : LintError)
  /-- The project does not cover the file. -/
  | excluded (file : String) (warnings : List String)
  /-- The linter reports what it finds. -/
  | checked (file : String) (warnings : List String) (diagnostics : List Diagnostic)

namespace LintVerdict

/-- What comes of the result of a lint run. -/
def ofResult (target : LintTarget) (severities : SeverityMap) : Except LintError LintReport → LintVerdict
  | .error e => .failed e
  | .ok report =>
    let file := ((target.layout.relativePath target.file).getD target.file).display
    match report.findings with
    | none => .excluded file report.warnings
    | some f =>
      .checked file report.warnings (Diagnostic.ofIssues f.issues target.document.text severities)

/-- Lints a file, with what executes commands. The commands come in order. -/
def ofFile {σ : Type} (env : Surroundings) (execute : Command → σ → Except ExecError Finished × σ)
    (config : Option Path) (file : Path) (s : σ) : LintVerdict × List Command × σ :=
  match env.tree.canonical file with
  | .error e => (.lost file e, [], s)
  | .ok file =>
    match env.tree.readText file with
    | .error e => (.unread file e, [], s)
    | .ok text =>
      match Config.choose env.tree config (file.parent?.getD file) with
      | .error e => (.misconfigured e, [], s)
      | .ok c =>
        match DocumentUri.ofFilePath? file with
        | none => (.unnamed file, [], s)
        | some uri =>
          match LintTarget.ofDocument env.tree ⟨uri, Document.elixir, text⟩ none with
          | .error e => (.untargeted file e, [], s)
          | .ok target =>
            if target.layout.isMixProject then
              let (result, commands, s) := (Linter.ofConfig env.tree c env.search).run env.tree target execute s
              (ofResult target (.ofRefactorAsHint c.refactorAsHint) result, commands, s)
            else (.homeless file, [], s)

/-- The diagnostics that are shown; none if the command fails. -/
def diagnostics? : LintVerdict → Option (List Diagnostic)
  | .excluded _ _ => some []
  | .checked _ _ ds => some ds
  | _ => none

/-! ### What the user sees -/

/-- A number counted from one on. -/
def oneBased (n : UInt32) : UInt32 := n + 1

/-- A diagnostic as JSON. -/
def diagnosticJson (file : String) (d : Diagnostic) : Json :=
  .object
    [("file", .string file), ("line", .int (oneBased d.range.start.line).toNat),
     ("column", .int (oneBased d.range.start.character).toNat), ("end_line", .int (oneBased d.range.stop.line).toNat),
     ("end_column", .int (oneBased d.range.stop.character).toNat), ("severity", .string d.severity.text),
     ("category", .string d.category.name), ("check", .string d.code), ("message", .string d.message)]

/-- Diagnostics as JSON. -/
def diagnosticsJson (file : String) (ds : List Diagnostic) : Json := .array (ds.map (diagnosticJson file))

/-- Where a diagnostic starts. -/
def location (file : String) (d : Diagnostic) : String :=
  file ++ ":" ++ toString (oneBased d.range.start.line).toNat ++ ":" ++
    toString (oneBased d.range.start.character).toNat

/-- The line for a diagnostic. -/
def diagnosticLine (view : Display) (file : String) (d : Diagnostic) : String :=
  location file d ++ ": " ++ (Style.ofSeverity d.severity).paint view.styled d.severity.text ++ " " ++ d.message

/-- The lines that sum up, if they are shown. -/
def summary (view : Display) (count : Nat) : List String :=
  if !view.talkative then []
  else if count = 0 then [(Style.plain .green).paint view.styled "✓ No issues found"]
  else
    let text := "✗ Found " ++ toString count ++ (if count = 1 then " issue" else " issues")
    ["", (Style.plain .yellow).paint view.styled text]

/-- The lines for diagnostics. -/
def report (view : Display) (format : OutputFormat) (file : String) (ds : List Diagnostic) : List String :=
  match format with
  | .human => ds.map (diagnosticLine view file) ++ summary view ds.length
  | .json => [(diagnosticsJson file ds).indented]

/-- The lines for a file that the project does not cover. -/
def exclusion (view : Display) (format : OutputFormat) (file : String) : List String :=
  match format with
  | .human =>
    if view.talkative then
      [(Style.plain .yellow).paint view.styled (file ++ " is excluded by the Credo configuration")]
    else []
  | .json => [(diagnosticsJson file []).indented]

/-- What the user sees of a verdict. -/
def outcome (view : Display) (format : OutputFormat) : LintVerdict → Outcome
  | .lost file e => unreadable ("Cannot find " ++ file.display) e.message
  | .unread file e => unreadable ("Cannot read " ++ file.display) e.message
  | .misconfigured e => view.failing .configError e.message []
  | .unnamed file => view.failing .toolError (file.display ++ " is not an absolute path") []
  | .untargeted file e => view.failing .toolError (file.display ++ ": " ++ e.message) []
  | .homeless file => view.failing .toolError ("No mix.exs found above " ++ file.display) []
  | .failed e => view.failing .toolError e.message []
  | .excluded file warnings => .ofLines .success (exclusion view format file) (view.warnings warnings)
  | .checked file warnings ds =>
    .ofLines (if ds.isEmpty then .success else .issuesFound) (report view format file ds) (view.warnings warnings)

end LintVerdict

end ElixirLint.Cli
