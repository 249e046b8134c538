import ElixirLint.Command

/-!
# Starting commands

Which file the operating system runs for a command, or why it runs none. A program with a separator in its name is
taken from the directory of the command; a name alone is looked for in the directories of the search path that the
command gets. A file that is found but may not be run is remembered while the search goes on, and a place that cannot
be looked at ends it.
-/

namespace ElixirLint

namespace Command

/-- The search path where there is none. -/
def usualSearch : List UInt8 := Text.utf8Bytes "/bin:/usr/bin"

/-- The search path that a command gets: its own, the last if it has several, or else that of the program that starts
it. -/
def searchPath (c : Command) (inherited : Option (List UInt8)) : Option (List UInt8) :=
  match c.env.reverse.lookup Mix.searchVariable with
  | some own => some own
  | none => inherited

/-- The reason for a way that leads nowhere. -/
def failureOfWalk : WalkError → ExecFailure
  | .missing => .notFound
  | e => .other e.message

/-- Whether a byte of a command is the one that ends texts for the operating system. -/
def holdsNul (c : Command) : Bool :=
  (c.program.bytes :: c.cwd.bytes :: c.args.map Text.utf8Bytes ++
    c.env.flatMap fun (n, v) => [Text.utf8Bytes n, v]).any (·.contains 0)

/-- The most bytes that one argument or variable can have. -/
def longestArgument : Nat := 131071

/-- Whether an argument or a variable is longer than any can be. -/
def isTooLong (c : Command) : Bool :=
  (c.args.any fun a => longestArgument < a.utf8ByteSize) ||
    c.env.any fun (n, v) => longestArgument < n.utf8ByteSize + v.length + 1

/-- The file to run at a place, as a path from the root. -/
def runnable (t : FileTree) (p : Path) : Except ExecFailure Path :=
  match t.find p with
  | .error e => .error (failureOfWalk e)
  | .ok (names, .file _ true) => .ok ⟨Path.slash :: Path.joinWith Path.slash names⟩
  | .ok _ => .error .notExecutable

/-- The first file to run among some places, with the reason for the places before. -/
def firstRunnable (t : FileTree) : List Path → ExecFailure → Except ExecFailure Path
  | [], why => .error why
  | p :: ps, why =>
    match runnable t p with
    | .ok found => .ok found
    | .error new =>
      if new = failureOfWalk .tooLong then .error new
      else firstRunnable t ps (if why = .notExecutable then why else new)

/-- The file that is run for a command, as a path from the root. -/
def resolve (t : FileTree) (inherited : Option (List UInt8)) (c : Command) : Except ExecFailure Path :=
  if c.holdsNul then .error (.other "nul byte found in provided data")
  else
    match t.find c.cwd with
    | .error e => .error (failureOfWalk e)
    | .ok (_, .file ..) => .error (failureOfWalk .notADirectory)
    | .ok (names, .directory) =>
      let t : FileTree := { t with current := names }
      let found :=
        if c.program.bytes.isEmpty then .error .notFound
        else if c.program.bytes.contains Path.slash then runnable t c.program
        else
          let dirs := Path.splitSearch ((c.searchPath inherited).getD usualSearch)
          firstRunnable t (dirs.map fun d => if d.bytes.isEmpty then c.program else d.join c.program) .notFound
      if found.toBool && c.isTooLong then .error (.other "Argument list too long (os error 7)") else found

/-- Why a command cannot be started. -/
def refusal? (t : FileTree) (inherited : Option (List UInt8)) (c : Command) : Option ExecFailure :=
  match c.resolve t inherited with
  | .ok _ => none
  | .error why => some why

end Command

end ElixirLint
