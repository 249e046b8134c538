import ElixirLint.Launch
import ElixirLint.Reply

/-!
# Surroundings

What the program works in: the files there are, the search path, and which commands can be started at all. In
surroundings, a script of replies stands for the processes: a command that can be started takes the next reply.
-/

namespace ElixirLint

/-- What a program works in. -/
structure Surroundings where
  /-- The files and directories. -/
  tree : FileTree
  /-- The search path, if there is one. -/
  search : Option (List UInt8)
  /-- Why a command cannot be started. -/
  refuses : Command → Option ExecFailure
  /-- The status that is seen of a process that ends with a number. -/
  seen : Int → Int

namespace Surroundings

/-- Surroundings in which any command can be started. -/
def permissive (t : FileTree) (search : Option (List UInt8)) : Surroundings := ⟨t, search, fun _ => none, id⟩

/-- Surroundings in which commands are started as an operating system starts them, which sees the last byte of a
status. -/
def host (t : FileTree) (search : Option (List UInt8)) : Surroundings :=
  ⟨t, search, Command.refusal? t search, fun n => n.emod 256⟩

/-- What a command comes to, the script behind it, and the command if it was started. -/
def reply (env : Surroundings) (c : Command) (script : List Reply) : Reply × List Reply × List Command :=
  match env.refuses c with
  | some why => (.failed why, script, [])
  | none => ((Reply.next script).1.mapStatus env.seen, (Reply.next script).2, [c])

end Surroundings

/-- The commands of one run of the program. -/
structure Rehearsal where
  /-- The replies that commands will come to. -/
  script : List Reply
  /-- The commands that were started, the last first. -/
  calls : List Command
  deriving Repr

namespace Rehearsal

/-- The rehearsal before anything has been started. -/
def start (script : List Reply) : Rehearsal := ⟨script, []⟩

/-- The result of a process that had to be killed. -/
def killed : Finished := ⟨none, "", ""⟩

/-- Executes a command. One that would never end is killed. -/
def execute (env : Surroundings) (c : Command) (r : Rehearsal) : Except ExecError Finished × Rehearsal :=
  let (reply, script, started) := env.reply c r.script
  ((reply.result? c).getD (.ok killed), ⟨script, started ++ r.calls⟩)

end Rehearsal

end ElixirLint
