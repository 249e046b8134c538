import ElixirLint.Cli.Program
import ElixirLint.Json.Raw
import ElixirLint.Lsp.Server
import ElixirLint.Scene

/-!
# The program

The program runs in a scene, which is the first line of its input: nothing is read from a disk and no command is
started. `lsp` takes the messages of an editor from the lines that follow, and prints a line for each message of its
own.
-/

namespace ElixirLint.Program

/-- The directory below which the files of a scene lie, unless the scene names another. -/
def defaultRoot : String := "/project"

/-- The surroundings that a scene gives. -/
def surroundings (scene : Json) : Surroundings :=
  let root := (Scene.variableOf scene "root").getD defaultRoot
  let current := (Scene.variableOf scene "cwd").getD root
  .host (Scene.tree root (Scene.member scene "files") current) (Scene.search (Scene.member scene "path_env"))

/-- The lines that answer a message of an editor. -/
def answerLines (env : Surroundings) (line : String) (s : Lsp.Server) : Lsp.Server × List String :=
  let (s, answer, notifications) := s.attend env (Rpc.Arrival.ofJson ((Json.ofText? line).getD .null))
  let response :=
    match answer with
    | .response r => [r.toJson]
    | _ => []
  (s, (response ++ notifications.map (·.toJson)).map Json.compact)

/-- Answers the messages of an editor until there are no more. -/
partial def serve (env : Surroundings) (stdin stdout : IO.FS.Stream) (s : Lsp.Server) : IO Unit := do
  let line ← stdin.getLine
  if line.isEmpty then return
  let (s, lines) := answerLines env line s
  for l in lines do
    stdout.putStrLn l
  stdout.flush
  serve env stdin stdout s

/-- Whether the arguments ask to serve an editor. -/
def isServing (arguments : List String) : Bool :=
  match Cli.Invocation.ofArguments arguments with
  | .ok i => i.action == .serve
  | .error _ => false

end ElixirLint.Program

open ElixirLint in
/-- Runs the program in the scene that its input begins with. -/
def main (arguments : List String) : IO UInt32 := do
  let stdin ← IO.getStdin
  let stdout ← IO.getStdout
  let scene := (Json.ofText? (← stdin.getLine)).getD .null
  let env := Program.surroundings scene
  let replies := Scene.replies (Scene.member scene "replies")
  if Program.isServing arguments then
    Program.serve env stdin stdout (.start replies)
    return 0
  let lookup := Scene.variableOf (Scene.member scene "env")
  let (outcome, _) := Cli.run env lookup false arguments (.start replies)
  stdout.putStr outcome.stdout
  (← IO.getStderr).putStr outcome.stderr
  return UInt32.ofNat outcome.exit
