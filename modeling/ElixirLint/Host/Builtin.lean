import ElixirLint.Host.Condition
import ElixirLint.Host.Format
import ElixirLint.Host.Pattern
import ElixirLint.Host.Shell

/-!
# Commands of the shell

The commands that are part of the shell and run no other commands: they print, read lines, test conditions, and change
the variables, options, traps and the working directory of the shell. A command takes its words and ends with a status.
-/

namespace ElixirLint.Host

/-! ### Signals -/

/-- A signal by its name and its number, and what is told of a process that it has killed. -/
structure Signal where
  name : String
  number : Nat
  obituary : String

namespace Signal

/-- The signals that scripts may name; the first is the end of a shell. -/
def all : List Signal :=
  [⟨"EXIT", 0, ""⟩, ⟨"HUP", 1, "Hangup"⟩, ⟨"INT", 2, ""⟩, ⟨"QUIT", 3, "Quit"⟩, ⟨"ABRT", 6, "Aborted"⟩, ⟨"KILL", 9, "Killed"⟩,
    ⟨"USR1", 10, "User defined signal 1"⟩, ⟨"SEGV", 11, "Segmentation fault"⟩, ⟨"USR2", 12, "User defined signal 2"⟩,
    ⟨"PIPE", 13, ""⟩, ⟨"ALRM", 14, "Alarm clock"⟩, ⟨"TERM", 15, "Terminated"⟩]

/-- The signal that is given by its name or its number. -/
def named? (s : String) : Option Signal :=
  all.find? fun g => s == toString g.number || s == g.name || s == "SIG" ++ g.name

end Signal

namespace Builtin

/-- A status for a truth value. -/
def statusOf (b : Bool) : Nat := if b then 0 else 1

/-- The number that a word is; anything else is an error. -/
def number (s : String) : Run Nat := do
  match decimal? s with
  | some n => if n < Nat.pow 2 31 then return n else Run.fail ("Illegal number: " ++ s)
  | none => Run.fail ("Illegal number: " ++ s)

/-- The number that the first word is, or another one if there are no words. -/
def numberOr (otherwise : Nat) (words : List String) : Run Nat := (words.head?.map number).getD (pure otherwise)

/-! ### Printing -/

/-- Prints words with their escapes. -/
def echo (words : List String) : Run Nat := do
  let (words, ending) :=
    match words with
    | "-n" :: ws => (ws, "")
    | ws => (ws, "\n")
  let text := " ".intercalate words
  let (cs, ends) := unescape (text.length + 1) text.toList
  Run.print (String.ofList cs ++ if ends then "" else ending)
  return 0

/-- Prints words by a format. -/
def printf (words : List String) : Run Nat := do
  match words with
  | [] => Run.fail "usage: printf format [arg ...]"
  | format :: args =>
    let p := Printing.apply format args
    Run.print p.text
    p.complaints.reverse.forM Run.warn
    match p.failure with
    | some message => Run.fail message
    | none => return statusOf p.complaints.isEmpty

/-! ### The working directory -/

/-- Goes to a directory. -/
def changeDirectory (words : List String) : Run Nat := do
  let wanted ←
    match words with
    | [] => pure ((← Run.value? "HOME").getD "")
    | "-" :: _ => pure ((← Run.value? "OLDPWD").getD "")
    | w :: _ => pure w
  let s ← get
  match s.tree.at? wanted with
  | .ok (names, .directory) =>
    modify fun s => { s with tree := { s.tree with current := names } }
    Run.assign "OLDPWD" (FileTree.spelled s.tree.current) true
    Run.assign "PWD" (FileTree.spelled names) true
    if words.head? = some "-" then Run.print (FileTree.spelled names ++ "\n")
    return 0
  | _ => Run.fail ("can't cd to " ++ wanted)

/-- Prints the working directory. -/
def workingDirectory : Run Nat := do
  Run.print (FileTree.spelled (← get).tree.current ++ "\n")
  return 0

/-! ### Variables and parameters -/

/-- The name of a word and the value behind its first sign of equality, if it has one. -/
def nameAndValue (w : String) : String × Option String :=
  let front := w.toList.takeWhile (· ≠ '=')
  (String.ofList front, if front.length < w.length then some (String.ofList (w.toList.drop (front.length + 1))) else none)

/-- Lets programs see variables, perhaps with new values. -/
def exportAll (words : List String) : Run Nat := do
  for w in words do
    let (name, value) := nameAndValue w
    if !isName name then Run.fail (w ++ ": bad variable name")
    let old ← Run.value? name
    Run.putVariable name (some ⟨value.orElse fun _ => old, true⟩)
  return 0

/-- Removes variables or functions. -/
def unset (words : List String) : Run Nat := do
  match words with
  | "-f" :: names => modify fun s => { s with functions := s.functions.filter fun (n, _) => !names.contains n }
  | "-v" :: names => names.forM fun n => Run.putVariable n none
  | names => names.forM fun n => Run.putVariable n none
  return 0

/-- Leaves out the first parameters. -/
def shift (words : List String) : Run Nat := do
  let n ← numberOr 1 words
  let ps := (← get).parameters
  if ps.length < n then Run.fail "can't shift that many"
  else
    modify fun s => { s with parameters := ps.drop n }
    return 0

/-- The letters of options. -/
def optionLetters : List Char := "aefmnuvxC".toList

/-- Sets or clears options by the words in front, and gives those behind them; `marked` is whether two dashes ended
them. -/
def takeOptions : List String → Run (List String × Bool)
  | [] => return ([], false)
  | w :: rest => do
    match w.toList with
    | ['-', '-'] => return (rest, true)
    | sign :: cs =>
      if (sign == '-' || sign == '+') && !cs.isEmpty then
        match cs.find? fun c => !optionLetters.contains c with
        | some c => Run.fail ("Illegal option " ++ String.ofList [sign, c])
        | none =>
          modify fun s => { s with options := (if sign == '-' then cs else []) ++ s.options.filter (!cs.contains ·) }
          takeOptions rest
      else return (w :: rest, false)
    | [] => return (w :: rest, false)

/-- Sets options and parameters. -/
def setOptions (words : List String) : Run Nat := do
  let (rest, marked) ← takeOptions words
  if marked || !rest.isEmpty then modify fun s => { s with parameters := rest }
  return 0

/-! ### Loops and functions -/

/-- Leaves out what is left of loops. -/
def leaveLoops (skip : Nat → Skip) (words : List String) : Run Nat := do
  let n ← numberOr 1 words
  if n = 0 then Run.fail "Illegal number: 0"
  else
    modify fun s => if s.loops = 0 then s else { s with skip := some (skip (min n s.loops)) }
    return 0

/-- Ends a function. -/
def leaveFunction (words : List String) : Run Nat := do
  let status ← numberOr (← get).status words
  modify fun s => { s with skip := some .returning }
  return status

/-! ### Reading -/

/-- Reads a line up to its end; unless the line is `raw`, a backslash hides a character or the end of the line. Each
character comes with whether it was hidden, and the line with whether its end was there and what stands behind it. -/
def takeLine (raw : Bool) : List Char → Quotable × Bool × List Char
  | [] => ([], false, [])
  | '\n' :: cs => ([], true, cs)
  | '\\' :: c :: cs =>
    if raw then
      let (front, rest) := takeLine raw (c :: cs)
      (('\\', false) :: front, rest)
    else
      let (front, rest) := takeLine raw cs
      (if c = '\n' then front else (c, true) :: front, rest)
  | c :: cs =>
    let (front, rest) := takeLine raw cs
    ((c, false) :: front, rest)

/-- The fields of a line for a number of names. The last one takes what is left, without blank space at its end. -/
def lineFields (separators : List Char) : Nat → Quotable → List String
  | 0, _ => []
  | n + 1, cs =>
    let separates (p : Char × Bool) : Bool := !p.2 && separators.contains p.1
    let blank (p : Char × Bool) : Bool := separates p && Run.usualSeparators.contains p.1
    let text (cs : Quotable) : String := String.ofList (cs.map (·.1))
    let cs := cs.dropWhile blank
    if n = 0 then [text (cs.reverse.dropWhile blank).reverse]
    else
      let field := cs.takeWhile fun p => !separates p
      let behind := (cs.drop field.length).dropWhile blank
      let behind := if (behind.head?.map separates).getD false then behind.tail else behind
      text field :: lineFields separators n behind

/-- Reads a line into variables. -/
def read (words : List String) : Run Nat := do
  let raw := words.head? = some "-r"
  let names := if raw then words.tail else words
  if names.isEmpty then Run.fail "arg count"
  else
    let (line, ended, rest) := takeLine raw (← Run.input)
    Run.setInput rest
    for (n, value) in names.zip (lineFields (← Run.separators) names.length line) do
      if isName n then Run.assign n value false else Run.fail (n ++ ": bad variable name")
    return statusOf ended

/-! ### Conditions -/

/-- Tests a condition. -/
def test (words : List String) : Run Nat := do
  match Condition.holds (← get).tree words with
  | .ok b => return statusOf b
  | .error message => Run.fail message

/-- Tests a condition up to the bracket that ends it. -/
def bracket (words : List String) : Run Nat := do
  if words.getLast? = some "]" then test words.dropLast else Run.fail "missing ]"

/-! ### Signals -/

/-- Sends a signal to the shell itself: it waits if something is done about it, and else kills the shell. -/
def send (g : Signal) (word : String) : Run Nat := do
  let s ← get
  if word ≠ toString s.process then
    Run.warn "No such process\n"
    return 1
  else
    match if g.name = "KILL" then none else s.traps.lookup g.name with
    | some "" => return 0
    | some _ =>
      modify fun s => { s with pending := s.pending ++ [g.name] }
      return 0
    | none => if g.number = 0 then return 0 else throw (.signal s.process g.number)

/-- Sends a signal to processes. -/
def kill (words : List String) : Run Nat := do
  let (name, processes) :=
    match words with
    | "-s" :: n :: ws => (n, ws)
    | w :: ws => if w.startsWith "-" then (String.ofList (w.toList.drop 1), ws) else ("TERM", w :: ws)
    | [] => ("TERM", [])
  match Signal.named? name, processes with
  | none, _ => Run.fail ("invalid signal number or name: " ++ name)
  | some _, [] => Run.fail "Usage: kill [-s sigspec | -signum | -sigspec] [pid | job]... or\nkill -l [exitstatus]"
  | some g, processes => processes.foldlM (fun status p => return max status (← send g p)) 0

/-- Sets what is done about signals. -/
def trap (words : List String) : Run Nat := do
  let (action, signals) :=
    match words with
    | [] => (none, [])
    | [w] => (none, [w])
    | "-" :: ws => (none, ws)
    | action :: ws => (some action, ws)
  let mut status := 0
  for w in signals do
    match Signal.named? w with
    | some g =>
      modify fun s =>
        { s with traps := (action.map fun a => (g.name, a)).toList ++ s.traps.filter fun (m, _) => m ≠ g.name }
    | none =>
      Run.write 2 ("trap: " ++ w ++ ": bad trap\n")
      status := 1
  return status

/-! ### All commands -/

/-- The commands that run no other commands. -/
def find? : String → Option (List String → Run Nat)
  | ":" => some fun _ => return 0
  | "true" => some fun _ => return 0
  | "wait" => some fun _ => return 0
  | "false" => some fun _ => return 1
  | "echo" => some echo
  | "printf" => some printf
  | "cd" => some changeDirectory
  | "pwd" => some fun _ => workingDirectory
  | "export" => some exportAll
  | "unset" => some unset
  | "shift" => some shift
  | "set" => some setOptions
  | "break" => some (leaveLoops .breaking)
  | "continue" => some (leaveLoops .continuing)
  | "return" => some leaveFunction
  | "read" => some read
  | "test" => some test
  | "[" => some bracket
  | "kill" => some kill
  | "trap" => some trap
  | _ => none

/-- The commands of the shell that run other commands. -/
def running : List String := [".", "eval", "exec", "exit"]

/-- Whether a name is that of a command of the shell. -/
def isBuiltin (name : String) : Bool := (find? name).isSome || running.contains name

/-- Whether an error in a command ends the shell, and its assignments stay. -/
def isSpecial (name : String) : Bool :=
  [".", ":", "break", "continue", "eval", "exec", "exit", "export", "return", "set", "shift", "trap", "unset"].contains name

end Builtin

end ElixirLint.Host
