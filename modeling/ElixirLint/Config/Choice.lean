import ElixirLint.Config.File

/-!
# The configuration of a command

A command takes the configuration file that it is told to take, or else looks for one. A file that is found counts: if
it cannot be loaded, no other is looked for. Only where there is none the settings are those by default.
-/

namespace ElixirLint

/-- A configuration file that cannot be loaded. -/
structure ConfigFailure where
  /-- The file. -/
  path : Path
  /-- The reason. -/
  error : ConfigError
  deriving DecidableEq, Repr

/-- The message for a configuration file that cannot be loaded. What the operating system says is told as the cause,
too. -/
def ConfigFailure.message (f : ConfigFailure) : String :=
  let cause :=
    match f.error with
    | .unreadable e => ": " ++ e.message
    | _ => ""
  "Failed to load " ++ f.path.display ++ ": " ++ f.error.message ++ cause

namespace Config

/-- The file to load: the one named, or the nearest one. -/
def chosenFile (t : FileTree) (named : Option Path) (start : Path) : Option Path :=
  named.orElse fun _ => findFile t start

/-- The configuration of a command that starts in a directory. -/
def choose (t : FileTree) (named : Option Path) (start : Path) : Except ConfigFailure Config :=
  match chosenFile t named start with
  | none => .ok .default
  | some path =>
    match load t path with
    | .ok c => .ok c
    | .error e => .error ⟨path, e⟩

end Config

end ElixirLint
