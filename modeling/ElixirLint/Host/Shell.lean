import ElixirLint.Host.Files
import ElixirLint.Host.Script

/-!
# Running shells

The state of a host on which a script runs: its files, the streams that programs read and write, and what belongs to
the shell that runs at the moment. A step of a script is a `Run`, which changes that state and may stop the shell.

What programs print is collected in sinks, and what they read comes from sources; a descriptor leads to one of them, to
a file or to nothing.
-/

namespace ElixirLint.Host

/-- Where a descriptor leads. -/
inductive Handle
  /-- Nothing comes from there, and what goes there is lost. -/
  | nothing
  /-- What goes there is collected. -/
  | sink (number : Nat)
  /-- What comes from there is taken away. -/
  | source (number : Nat)
  /-- What goes there is put behind the contents of a file. -/
  | file (names : Names)
  deriving DecidableEq, Repr

/-- A variable of a shell. -/
structure Variable where
  /-- Its value, if it has one. -/
  value : Option String
  /-- Whether programs see it. -/
  exported : Bool
  deriving DecidableEq, Repr

/-- Commands that are left out until something ends. -/
inductive Skip
  /-- A number of loops ends. -/
  | breaking (levels : Nat)
  /-- A number of loops ends but the last, which goes on. -/
  | continuing (levels : Nat)
  /-- A function ends. -/
  | returning
  deriving DecidableEq, Repr

/-- What belongs to a shell, and is lost when it ends. -/
structure Scope where
  /-- Where descriptors lead. -/
  descriptors : List (Nat × Handle)
  /-- The name that the script goes by. -/
  name : String
  /-- The number of its process. -/
  process : Nat
  /-- The variables. -/
  bindings : List (String × Variable)
  /-- The parameters of the script. -/
  parameters : List String
  /-- The functions. -/
  functions : List (String × Command)
  /-- The options, by their letters. -/
  options : List Char
  /-- What is done about signals. -/
  traps : List (String × String)
  /-- The signals that have come and wait. -/
  pending : List String
  /-- The status of the last command. -/
  status : Nat
  /-- The status of the last command in a word of the command at hand. -/
  substituted : Nat
  /-- The line of the command at hand. -/
  line : Nat
  /-- The command that speaks when something goes wrong. -/
  speaker : Option String
  /-- The number of loops around the command at hand. -/
  loops : Nat
  /-- What is left out. -/
  skip : Option Skip

/-- A host with the shell that runs at the moment. -/
structure Shell extends Scope where
  /-- The files, from the working directory. -/
  tree : FileTree
  /-- What was printed, by the numbers of sinks. -/
  sinks : List String
  /-- What is left to read, by the numbers of sources. -/
  sources : List (List Char)
  /-- The number of the last process. -/
  processes : Nat
  /-- The number of steps that are left. -/
  left : Nat

/-- Why a shell stops. -/
inductive Stop
  /-- It ends with a status. -/
  | exit (status : Nat)
  /-- Something went wrong that was told about. -/
  | fault (status : Nat)
  /-- A signal kills a process. -/
  | signal (process number : Nat)
  /-- It has run for too long. -/
  | exhausted
  deriving DecidableEq, Repr

/-- A step of a script. -/
abbrev Run := EStateM Stop Shell

namespace Run

/-! ### Streams -/

/-- Lets a descriptor lead to a handle, or closes it. -/
def setHandle (d : Nat) (h : Option Handle) : Run Unit := modify fun s =>
  { s with descriptors := h.toList.map (fun h => (d, h)) ++ s.descriptors.filter fun (n, _) => n ≠ d }

/-- Writes to where a descriptor leads. -/
def write (d : Nat) (text : String) : Run Unit := modify fun s =>
  match s.descriptors.lookup d with
  | some (.sink n) => { s with sinks := s.sinks.modify n (· ++ text) }
  | some (.file names) => { s with tree := s.tree.write names (s.tree.contentsOf names ++ toBytes text) }
  | _ => s

/-- Prints a text. -/
def print (text : String) : Run Unit := write 1 text

/-- What is left to read. -/
def input : Run (List Char) := do
  let s ← get
  match s.descriptors.lookup 0 with
  | some (.source n) => return (s.sources[n]?).getD []
  | _ => return []

/-- Sets what is left to read. -/
def setInput (cs : List Char) : Run Unit := modify fun s =>
  match s.descriptors.lookup 0 with
  | some (.source n) => { s with sources := s.sources.set n cs }
  | _ => s

/-- Reads all that is left. -/
def inputToEnd : Run (List Char) := do
  let cs ← input
  setInput []
  return cs

/-- A new source. -/
def newSource (cs : List Char) : Run Handle := modifyGet fun s =>
  (.source s.sources.length, { s with sources := s.sources ++ [cs] })

/-- What a step prints. -/
def collecting {α : Type} (step : Run α) : Run (α × String) := do
  let before ← get
  modify fun s => { s with sinks := s.sinks ++ [""] }
  setHandle 1 (some (.sink before.sinks.length))
  let a ← step
  let text := ((← get).sinks[before.sinks.length]?).getD ""
  modify fun s => { s with sinks := s.sinks.take before.sinks.length }
  setHandle 1 (before.descriptors.lookup 1)
  return (a, text)

/-! ### What goes wrong -/

/-- Tells that something went wrong, on the line of the command at hand. -/
def warn (message : String) : Run Unit := do
  let s ← get
  let speaker := (s.speaker.map (· ++ ": ")).getD ""
  write 2 (s.name ++ ": " ++ toString s.line ++ ": " ++ speaker ++ message ++ "\n")

/-- Tells that something went wrong, and stops. -/
def fail {α : Type} (message : String) : Run α := do
  warn message
  throw (.fault 2)

/-- Runs a step, and another one behind it even if it stops. -/
def ensuring {α : Type} (step : Run α) (leave : Run Unit) : Run α := do
  let a ←
    try step
    catch e =>
      leave
      throw e
  leave
  return a

/-! ### Variables -/

/-- The value of a variable, if it has one. -/
def value? (name : String) : Run (Option String) := do
  return ((← get).bindings.lookup name).bind (·.value)

/-- Sets a variable as it is, or removes it. A new one stands behind the others. -/
def putVariable (name : String) (v : Option Variable) : Run Unit := modify fun s =>
  match v with
  | none => { s with bindings := s.bindings.filter fun (n, _) => n ≠ name }
  | some v =>
    if s.bindings.any fun (n, _) => n == name then
      { s with bindings := s.bindings.map fun (n, old) => (n, if n = name then v else old) }
    else { s with bindings := s.bindings ++ [(name, v)] }

/-- Assigns a value to a variable, and perhaps lets programs see it. -/
def assign (name value : String) (exported : Bool) : Run Unit := do
  let old := ((← get).bindings.lookup name).getD ⟨none, false⟩
  putVariable name (some ⟨some value, old.exported || exported⟩)

/-- The variables that programs see. -/
def exportedVariables : Run (List (String × String)) := do
  return (← get).bindings.filterMap fun (n, v) => if v.exported then v.value.map fun x => (n, x) else none

/-- The characters that separate fields where nothing else is said. -/
def usualSeparators : List Char := [' ', '\t', '\n']

/-- The characters that separate fields. -/
def separators : Run (List Char) := do return ((← value? "IFS").map String.toList).getD usualSeparators

/-- Whether an option is set. -/
def hasOption (c : Char) : Run Bool := do return (← get).options.contains c

end Run

end ElixirLint.Host
