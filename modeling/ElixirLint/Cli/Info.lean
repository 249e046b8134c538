import ElixirLint.Cli.Arguments
import ElixirLint.Cli.Outcome
import ElixirLint.Config.Choice
import ElixirLint.Linter
import ElixirLint.Surroundings

/-!
# Telling about a project from the command line

The project above a directory is asked for its coverage and the versions of its tools. What comes of it is an
`InfoVerdict`, and `InfoVerdict.outcome` is what the user sees.
-/

namespace ElixirLint.Cli

/-- What comes of asking about a project. -/
inductive InfoVerdict
  /-- The directory is not there. -/
  | lost (directory : Path) (error : WalkError)
  /-- The configuration cannot be loaded. -/
  | misconfigured (failure : ConfigFailure)
  /-- There is no project above the directory. -/
  | homeless (directory : Path)
  /-- The linter gives no result. -/
  | failed (error : LintError) (warnings : List String)
  /-- The linter tells about the project. -/
  | known (folder : Path) (info : ProjectInfo) (warnings : List String)

namespace InfoVerdict

/-- Asks about the project of a directory, with what executes commands. -/
def ofDirectory {σ : Type} (env : Surroundings) (execute : Command → σ → Except ExecError Finished × σ)
    (config : Option Path) (directory : Path) (s : σ) : InfoVerdict × σ :=
  match env.tree.canonical directory with
  | .error e => (.lost directory e, s)
  | .ok start =>
    match Config.choose env.tree config start with
    | .error e => (.misconfigured e, s)
    | .ok c =>
      match Project.findUp env.tree Project.projectFile start none with
      | none => (.homeless start, s)
      | some folder =>
        let l := Linter.ofConfig env.tree c env.search
        let (r, s) := execute (l.coverageCommand ⟨folder, true⟩) s
        match l.answer ProjectInfo.decoder r with
        | (.error e, warnings) => (.failed e warnings, s)
        | (.ok info, warnings) => (.known folder info warnings, s)

/-- The lines that sum up a project. -/
def summary (view : Display) (folder : Path) (info : ProjectInfo) : List String :=
  [Style.paint ⟨true, none⟩ view.styled "Credo" ++ " " ++ info.versions.credo ++ " (Elixir " ++
     info.versions.elixir ++ ", Erlang/OTP " ++ info.versions.erlang ++ ")",
   "Project: " ++ folder.display,
   "Checks enabled: " ++ toString info.coverage.checks.length,
   "Files analyzed: " ++ toString info.coverage.files.length]

/-- The lines that tell about a project. -/
def report (view : Display) (format : OutputFormat) (folder : Path) (info : ProjectInfo) : List String :=
  match format with
  | .human => summary view folder info
  | .json => [info.toJson.indented]

/-- What the user sees of a verdict. -/
def outcome (view : Display) (format : OutputFormat) : InfoVerdict → Outcome
  | .lost directory e => unreadable ("Cannot find " ++ directory.display) e.message
  | .misconfigured e => view.failing .configError e.message []
  | .homeless start => view.failing .toolError ("No mix.exs found above " ++ start.display) []
  | .failed e warnings => view.failing .toolError e.message warnings
  | .known folder info warnings => .ofLines .success (report view format folder info) (view.warnings warnings)

end InfoVerdict

end ElixirLint.Cli
