import ElixirLint.Host.Evaluation
import ElixirLint.Surroundings

/-!
# The programs of a host

A host on which commands really run: beside the files that are given there are the directories of the system with a shell
and the few programs that scripts make use of. `Host.execute` is a command from its start to what it leaves behind.

Nothing that is stated about linting rests on these programs: there a command is answered by any reply (`Surroundings`).
-/

namespace ElixirLint.Host

/-- The names that a path from the root goes through. -/
def namesOf (s : String) : Names := ((fieldsOf '/' s.toList).drop 1).map fun n => toBytes (String.ofList n)

/-- A tree with the directories and the programs of the system. -/
def withSystem (t : FileTree) : FileTree :=
  let programs := Evaluation.systemDirectories.flatMap fun d =>
    Evaluation.systemPrograms.map fun p => (namesOf (d ++ "/" ++ p), Entry.file [] true)
  { t with entries := t.entries ++ (namesOf "/tmp", .directory) :: programs }

/-- The number of the process that is started first. -/
def firstProcess : Nat := 4711

/-- The steps that a script may take. -/
def mostSteps : Nat := 200000

/-- How deep commands may be nested. -/
def mostLevels : Nat := 100000

/-- A host before anything runs, with the variables that the first process sees and what is fed to it. -/
def start (t : FileTree) (seen : List (String × String)) (stdin : String) : Shell :=
  { descriptors := [(0, .source 0), (1, .sink 0), (2, .sink 1)], name := "", process := firstProcess,
    bindings := seen.map fun (n, v) => (n, ⟨some v, true⟩), parameters := [], functions := [], options := [],
    traps := [], pending := [], status := 0, substituted := 0, line := 1, speaker := none, loops := 0, skip := none,
    tree := t, sinks := ["", ""], sources := [(ofWritten stdin).toList], processes := firstProcess, left := mostSteps }

/-- The variables that a command sees. -/
def environment (c : ElixirLint.Command) (inherited : Option (List UInt8)) : List (String × String) :=
  let own := c.env.reverse.map fun (n, v) => (ofWritten n, ofBytes v)
  let all := own ++ (inherited.map fun v => (Mix.searchVariable, ofBytes v)).toList
  (all.map (·.1)).eraseDups.filterMap fun n => (all.lookup n).map fun v => (n, v)

/-- What a host leaves behind. -/
def finished (status : Option Nat) (s : Shell) : Finished :=
  ⟨status.map fun n => (n % 256 : Nat), toWritten (s.sinks.headD ""), toWritten (s.sinks.tail.headD "")⟩

/-- Runs the program with a name, of which a command is the start. -/
def run (program : String) (c : ElixirLint.Command) (s : Shell) : Finished :=
  let argv := ofBytes c.program.bytes :: c.args.map ofWritten
  match Evaluation.runProgram (Evaluation.evaluate mostLevels) Evaluation.mostPrograms program argv s with
  | .ok n s => finished (some n) s
  | .error (.exit n) s => finished (some n) s
  | .error (.fault n) s => finished (some n) s
  | .error (.signal _ _) s => finished none s
  | .error .exhausted s => finished none s

/-- Executes a command on a host with some files. -/
def execute (t : FileTree) (inherited : Option (List UInt8)) (c : ElixirLint.Command) : Except ExecError Finished :=
  let t := withSystem t
  match c.resolve t inherited with
  | .error why => .error ⟨c.program.display, why⟩
  | .ok found =>
    let current :=
      match t.find c.cwd with
      | .ok (names, _) => names
      | .error _ => []
    let program := (found.fileName?.map ofBytes).getD ""
    .ok (run program c (start { t with current := current } (environment c inherited) (c.stdin.getD "")))

end ElixirLint.Host
