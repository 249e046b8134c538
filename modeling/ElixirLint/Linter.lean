import ElixirLint.Command
import ElixirLint.Document
import ElixirLint.Output
import ElixirLint.Project
import ElixirLint.Report
import ElixirLint.Uri.FilePath

/-!
# Linting a document

A lint run asks the linter for its coverage, and if the file is covered for the issues in the document, whose text is
fed to the second command. A run is a value: its `Stage` says which command it waits for, `Linter.command` is that
command, and `Linter.resume` goes on with what came of it. So the same run can be driven by whatever executes commands.
-/

namespace ElixirLint

/-- Why a lint run gives no result. -/
inductive LintError
  /-- A command could not be run. -/
  | exec (error : ExecError)
  /-- A command was killed, most likely because nobody wants its result any more. -/
  | terminated
  /-- The shell found no program, or could not run it. -/
  | commandFailed (code : Int) (stderr : String)
  /-- A command printed nothing. -/
  | emptyOutput (mix : String)
  /-- No report can be read from the output of a command. -/
  | malformedOutput (error : OutputError)
  /-- The output is that of a command that was told to terminate. -/
  | discarded
  /-- The document is no file. -/
  | notAFile
  deriving DecidableEq, Repr

namespace LintError

/-- The message of a lint error. -/
def message : LintError → String
  | .exec e => e.message
  | .terminated => "Process was terminated"
  | .commandFailed code stderr =>
    "An error occurred: \"" ++ stderr ++ "\" (exit status " ++ toString code ++ ")"
  | .emptyOutput mix =>
    "Command " ++ Json.ticked (mix ++ " credo") ++ " returns empty output! Please check your configuration. " ++
      "Did you add or modify your dependencies? You might need to run " ++ Json.ticked "mix deps.get" ++
      " or recompile."
  | .malformedOutput e => e.message
  | .discarded => "Output of a terminated process was discarded"
  | .notAFile => "The document is not a file on disk"

/-- Whether an error is to be expected when runs are canceled, and so not worth telling. -/
def isSilent : LintError → Bool
  | .terminated => true
  | .discarded => true
  | _ => false

end LintError

/-- A document with its place in a project. -/
structure LintTarget where
  /-- The document. -/
  document : Document
  /-- The file that it is. -/
  file : Path
  /-- Where the file belongs. -/
  layout : ProjectLayout
  deriving DecidableEq, Repr

/-- The target for a document in a workspace folder. -/
def LintTarget.ofDocument (t : FileTree) (d : Document) (workspace : Option Path) : Except LintError LintTarget :=
  match d.uri.filePath? with
  | none => .error .notAFile
  | some file => .ok ⟨d, file, .discover t file workspace⟩

/-- What came of a lint run. -/
structure LintReport where
  /-- The issues; none if the file is not covered. -/
  findings : Option Findings
  /-- What the user should know. -/
  warnings : List String
  deriving Repr

/-- A linter: a configuration with the program that it leads to. -/
structure Linter where
  /-- The configuration. -/
  config : Config
  /-- The program for building projects. -/
  program : Path
  /-- The variables for its commands. -/
  env : List (String × List UInt8)
  deriving DecidableEq, Repr

/-- What a run waits for. -/
inductive Stage
  /-- The coverage of the linter. -/
  | coverage
  /-- The issues; the warnings are those so far. -/
  | issues (warnings : List String)
  deriving DecidableEq, Repr

/-- A run that goes on, or its end. -/
inductive Progress
  | waiting (stage : Stage)
  | ended (result : Except LintError LintReport)

namespace Linter

/-- The linter for a configuration and a search path. -/
def ofConfig (t : FileTree) (c : Config) (search : Option (List UInt8)) : Linter :=
  ⟨c, Mix.program t c search, Mix.env c search⟩

/-! ### Arguments -/

/-- The arguments that ask for the coverage. -/
def coverageArgs : List String := ["credo", "info", "--format", "json", "--verbose"]

/-- A flag in front of every value. -/
def flagged (flag : String) (values : List String) : List String := values.flatMap fun v => [flag, v]

/-- The arguments that follow from a configuration and its file. Of the two ways to choose checks by their tags only one
is used. -/
def configArgs (c : Config) (file : Option Path) : List String :=
  flagged "--config-file" (file.map Path.display).toList ++
  (if c.credoConfiguration = "" then [] else ["--config-name", c.credoConfiguration]) ++
  (if c.checksWithTag.isEmpty then flagged "--checks-without-tag" c.checksWithoutTag
   else flagged "--checks-with-tag" c.checksWithTag) ++
  (if c.strictMode then ["--strict"] else [])

/-- The arguments for JSON output about a text that is fed in. -/
def streamArgs : List String := ["--format", "json", "--read-from-stdin"]

/-- The arguments that ask for all issues. -/
def suggestArgs (c : Config) (file : Option Path) : List String :=
  ["credo", "suggest"] ++ configArgs c file ++ streamArgs

/-- The arguments that ask for the issues compared with a revision. -/
def diffArgs (c : Config) (file : Option Path) : List String :=
  ["credo", "diff"] ++ configArgs c file ++ streamArgs ++ ["--from-git-merge-base", c.diffMode.mergeBase]

/-! ### Commands -/

/-- The command with some arguments in a project. -/
def mix (l : Linter) (args : List String) (layout : ProjectLayout) (stdin : Option String) : Command :=
  ⟨l.program, args, layout.folder, l.env, stdin⟩

/-- The configuration file of the linter for a target. -/
def configFile (l : Linter) (t : FileTree) (target : LintTarget) : ConfigFileLookup :=
  target.layout.configFile t l.config.configurationFile

/-- The command that asks for the coverage. -/
def coverageCommand (l : Linter) (layout : ProjectLayout) : Command := l.mix coverageArgs layout none

/-- The command that asks for all issues. -/
def suggestCommand (l : Linter) (t : FileTree) (target : LintTarget) : Command :=
  l.mix (suggestArgs l.config (l.configFile t target).path) target.layout (some target.document.text)

/-- The command that asks for the issues compared with a revision. -/
def diffCommand (l : Linter) (t : FileTree) (target : LintTarget) : Command :=
  l.mix (diffArgs l.config (l.configFile t target).path) target.layout (some target.document.text)

/-- The command that a stage waits for. -/
def command (l : Linter) (t : FileTree) (target : LintTarget) : Stage → Command
  | .coverage => l.coverageCommand target.layout
  | .issues _ => if l.config.diffMode.enabled then l.diffCommand t target else l.suggestCommand t target

/-! ### Output -/

/-- What a process printed, if it ran to its end. Errors it printed are only a warning. -/
def check (l : Linter) (p : Finished) : Except LintError String × List String :=
  match p.status with
  | none => (.error .terminated, [])
  | some code =>
    let stderr := Text.trim p.stderr
    if code = 126 ∨ code = 127 then (.error (.commandFailed code stderr), [])
    else (.ok p.stdout, if stderr = "" || l.config.ignoreWarningMessages then [] else ["Warning: \"" ++ stderr ++ "\""])

/-- The report in what a process printed. -/
def decode {α : Type} (l : Linter) (d : Json.Decoder α) (stdout : String) : Except LintError α :=
  match Output.report? d stdout with
  | .ok (some a) => .ok a
  | .ok none => .error .discarded
  | .error .empty => .error (.emptyOutput l.config.mixCommand)
  | .error (.malformed output) => .error (.malformedOutput (.malformed output))

/-- The report that a command leads to, and the warnings that come with it. -/
def answer {α : Type} (l : Linter) (d : Json.Decoder α) (r : Except ExecError Finished) :
    Except LintError α × List String :=
  match r with
  | .error e => (.error (.exec e), [])
  | .ok p => ((l.check p).1.bind (l.decode d), (l.check p).2)

/-- The findings that a command leads to, and the warnings that come with them. -/
def findings (l : Linter) (r : Except ExecError Finished) : Except LintError Findings × List String :=
  if l.config.diffMode.enabled then
    let (result, warnings) := l.answer DiffReport.decoder r
    (result.map .diff, warnings)
  else
    let (result, warnings) := l.answer SuggestReport.decoder r
    (result.map .suggest, warnings)

/-! ### Runs -/

/-- Whether the coverage includes the file of a target. -/
def covers (info : ProjectInfo) (target : LintTarget) : Bool :=
  match target.layout.relativePath target.file with
  | some p => info.includes p.display
  | none => false

/-- The stage that waits for the issues, with what is known about the configuration file. -/
def issuesStage (l : Linter) (t : FileTree) (target : LintTarget) (warnings : List String) : Stage :=
  .issues (warnings ++ (l.configFile t target).warning.toList)

/-- The first stage of a run. Files that the project does not list may be linted without asking. -/
def start (l : Linter) (t : FileTree) (target : LintTarget) : Stage :=
  if l.config.lintEverything then l.issuesStage t target [] else .coverage

/-- What follows on a stage when its command is done. -/
def resume (l : Linter) (t : FileTree) (target : LintTarget) (stage : Stage) (r : Except ExecError Finished) :
    Progress :=
  match stage with
  | .coverage =>
    match l.answer ProjectInfo.decoder r with
    | (.error e, _) => .ended (.error e)
    | (.ok info, warnings) =>
      if covers info target then .waiting (l.issuesStage t target warnings) else .ended (.ok ⟨none, warnings⟩)
  | .issues warnings =>
    match l.findings r with
    | (.error e, _) => .ended (.error e)
    | (.ok findings, more) => .ended (.ok ⟨some findings, warnings ++ more⟩)

/-- The commands that a run still needs at most. -/
def stagesLeft : Stage → Nat
  | .coverage => 1
  | .issues _ => 0

/-- A stage that follows on another is later. -/
theorem stagesLeft_resume {l : Linter} {t : FileTree} {target : LintTarget} {stage next : Stage}
    {r : Except ExecError Finished} (h : l.resume t target stage r = .waiting next) :
    stagesLeft next < stagesLeft stage := by
  cases stage with
  | coverage =>
    simp only [resume] at h
    split at h
    · simp at h
    · split at h
      · simp only [Progress.waiting.injEq] at h
        simp [← h, stagesLeft, issuesStage]
      · simp at h
  | issues =>
    simp only [resume] at h
    split at h <;> simp at h

/-- Runs a stage and those that follow, with what executes commands; `execute` passes on a state. The result comes with
the commands in order. -/
def runFrom {σ : Type} (l : Linter) (t : FileTree) (target : LintTarget)
    (execute : Command → σ → Except ExecError Finished × σ) (stage : Stage) (s : σ) :
    Except LintError LintReport × List Command × σ :=
  let c := l.command t target stage
  let (r, s') := execute c s
  match _h : l.resume t target stage r with
  | .ended result => (result, [c], s')
  | .waiting next =>
    let (result, commands, s'') := runFrom l t target execute next s'
    (result, c :: commands, s'')
termination_by stagesLeft stage
decreasing_by exact stagesLeft_resume _h

/-- Runs the linter on a target. -/
def run {σ : Type} (l : Linter) (t : FileTree) (target : LintTarget)
    (execute : Command → σ → Except ExecError Finished × σ) (s : σ) :
    Except LintError LintReport × List Command × σ :=
  l.runFrom t target execute (l.start t target) s

end Linter

end ElixirLint
