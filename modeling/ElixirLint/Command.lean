import ElixirLint.Config.Basic
import ElixirLint.FileTree

/-!
# Commands

A command as it is handed to the operating system, and what comes back: either the process ran and left its output
behind, or it could not be run. The program for building projects is looked for in the directory that the
configuration names and then in the directories of the search path; that directory is also added to the search path
of the command.
-/

namespace ElixirLint

/-- A command. -/
structure Command where
  /-- The program to run. -/
  program : Path
  /-- Its arguments. -/
  args : List String
  /-- The directory to run it in. -/
  cwd : Path
  /-- Variables to set, beside those that are there. -/
  env : List (String × List UInt8)
  /-- The text to feed to it. -/
  stdin : Option String
  deriving DecidableEq, Repr

/-- A command in messages. -/
def Command.display (c : Command) : String := " ".intercalate (c.program.display :: c.args)

/-- What a process left behind. -/
structure Finished where
  /-- The exit status; none if a signal killed the process. -/
  status : Option Int
  /-- What it printed. -/
  stdout : String
  /-- What it printed as errors. -/
  stderr : String
  deriving DecidableEq, Repr

/-- Why a command could not be run. -/
inductive ExecFailure
  | notFound
  | notExecutable
  | other (reason : String)
  deriving DecidableEq, Repr

/-- A program that could not be run. -/
structure ExecError where
  /-- The program as messages show it. -/
  program : String
  /-- The reason. -/
  failure : ExecFailure
  deriving DecidableEq, Repr

/-- The message for a program that could not be run. -/
def ExecError.message (e : ExecError) : String :=
  let program := Json.ticked e.program
  match e.failure with
  | .notFound => program ++ " is not executable. Try setting \"mixBinaryPath\" to the directory of the mix binary."
  | .notExecutable => program ++ " is not executable: permission denied"
  | .other reason => "Failed to run " ++ program ++ ": " ++ reason

namespace Mix

/-- The name of the variable with the search path. -/
def searchVariable : String := "PATH"

/-- The directories of a search path, if there is one. -/
def searchDirs (search : Option (List UInt8)) : List Path := (search.map Path.splitSearch).getD []

/-- The variables for commands: the search path with the configured directory at its end. A directory that cannot be
part of a search path changes nothing. -/
def env (c : Config) (search : Option (List UInt8)) : List (String × List UInt8) :=
  match c.mixBinaryPath with
  | none => []
  | some extra =>
    match Path.joinSearch? (searchDirs search ++ [.ofString extra]) with
    | some joined => [(searchVariable, joined)]
    | none => []

/-- The program for building projects. A name alone is looked for; if it is not found it stays as it is. -/
def program (t : FileTree) (c : Config) (search : Option (List UInt8)) : Path :=
  let command := Path.ofString c.mixCommand
  if 1 < command.components.length then command
  else
    let dirs := (c.mixBinaryPath.map Path.ofString).toList ++ searchDirs search
    ((dirs.map fun d => d.join command).find? t.isFile).getD command

end Mix

end ElixirLint
