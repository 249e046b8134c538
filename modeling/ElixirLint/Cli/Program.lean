import ElixirLint.Cli.Info
import ElixirLint.Cli.Lint
import ElixirLint.Version

/-!
# The command line

From arguments and surroundings to what is printed. Arguments that ask for help, for the version or for nothing that can
be understood are answered without doing anything.
-/

namespace ElixirLint.Cli

/-- The name of the program. -/
def programName : String := "credo-ls"

/-- How the program is used. -/
def usage : List String :=
  ["Usage: " ++ programName ++ " [OPTIONS] <COMMAND>",
   "",
   "Commands:",
   "  lsp          Serve an editor over standard input and output",
   "  lint <FILE>  Lint a file and print its issues",
   "  info [DIR]   Tell about the project of a directory",
   "  help         Print this help",
   "",
   "Options:",
   "  -c, --config <FILE>  The configuration file",
   "      --color          Use colors in any case",
   "      --no-color       Use no colors",
   "  -q, --quiet          Print only results and errors",
   "  -f, --format <NAME>  Print results as human or json",
   "  -h, --help           Print this help",
   "  -V, --version        Print the version"]

/-- The outcome of arguments that lead to no action. -/
def Stop.outcome : Stop → Outcome
  | .help => .ofLines .success usage []
  | .version => .ofLines .success [programName ++ " " ++ ElixirLint.version] []
  | .usageError => .ofLines .usage [] usage

/-- The directory that the program works in. -/
def workingDirectory (t : FileTree) : Path := ⟨Path.slash :: Path.joinWith Path.slash t.current⟩

/-- Does what the user asks for. Serving an editor that says nothing leaves nothing behind. -/
def perform (env : Surroundings) (view : Display) (i : Invocation) (r : Rehearsal) : Outcome × Rehearsal :=
  let config := i.config.map Path.ofString
  match i.action with
  | .serve => (.ofLines .success [] [], r)
  | .lint file format =>
    let (verdict, _, r) := LintVerdict.ofFile env (Rehearsal.execute env) config (.ofString file) r
    (verdict.outcome view format, r)
  | .info directory format =>
    let directory := (directory.map Path.ofString).getD (workingDirectory env.tree)
    let (verdict, r) := InfoVerdict.ofDirectory env (Rehearsal.execute env) config directory r
    (verdict.outcome view format, r)

/-- Runs the program with some arguments, in surroundings with some variables. -/
def run (env : Surroundings) (lookup : String → Option String) (terminal : Bool) (arguments : List String)
    (r : Rehearsal) : Outcome × Rehearsal :=
  match Invocation.ofArguments arguments with
  | .error stop => (stop.outcome, r)
  | .ok i => perform env ⟨usesStyles i.color i.noColor lookup terminal, !i.quiet⟩ i r

end ElixirLint.Cli
