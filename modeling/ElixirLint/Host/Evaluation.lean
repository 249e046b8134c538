import ElixirLint.Host.Expansion
import ElixirLint.Host.Script.Grammar
import ElixirLint.Host.Tool

/-!
# Running commands

How scripts, commands and programs are run. Each way to put commands together has a function of its own, which is handed
the evaluator for the parts; `evaluate` ties them together, as deep as there is fuel, and `Shell.left` bounds the number
of steps.
-/

namespace ElixirLint.Host

/-- What runs commands; `tested` is whether the status of a command is looked at, so that failure does not end the
shell. -/
abbrev Evaluator := (tested : Bool) → Command → Run Nat

namespace Evaluation

/-! ### Scripts -/

/-- Runs a text as a script. -/
def runText (again : Evaluator) (tested : Bool) (text : String) : Run Nat := do
  match Script.parse text 1 with
  | .error fault =>
    modify fun s => { s with line := fault.line }
    Run.fail fault.message
  | .ok none => return 0
  | .ok (some c) => again tested c

/-- Runs a shell up to its end, at which something may be done. -/
def toEnd (again : Evaluator) (body : Run Nat) : Run Nat := do
  let ending (step : Run Nat) : Run Nat := do
    try step
    catch
      | .exit n => return n
      | .fault n => return n
      | e => throw e
  let status ← ending body
  match (← get).traps.lookup "EXIT" with
  | none => return status % 256
  | some action =>
    modify fun s => { s with traps := s.traps.filter fun (n, _) => n ≠ "EXIT", status := status, skip := none }
    ending do
      let _ ← runText again false action
      return status % 256

/-- What a shell does between two commands: it does something about signals, and may end because of a failure. -/
def settle (again : Evaluator) (tested : Bool) (status : Nat) : Run Nat := do
  let signals := (← get).pending
  modify fun s => { s with status := status, pending := [] }
  for n in signals do
    if let some action := (← get).traps.lookup n then
      let _ ← runText again false action
  modify fun s => { s with status := status }
  -- Where the status is looked at, a failure is no reason to end.
  if !tested && status ≠ 0 && (← Run.hasOption 'e') then throw (.exit status) else return status

/-! ### Processes -/

/-- Leaves what belongs to a shell as it was before. -/
def leave (before : Shell) : Run Unit := modify fun s =>
  { s with toScope := before.toScope, tree := { s.tree with current := before.tree.current } }

/-- Runs commands in a shell of their own, which does nothing about signals yet. -/
def subshell (again : Evaluator) (body : Run Nat) : Run Nat := do
  let before ← get
  let inside : Run Nat := do
    modify fun s => { s with traps := s.traps.filter fun (_, action) => action = "", pending := [] }
    toEnd again body
  Run.ensuring inside (leave before)

/-- What a command in a word prints. -/
def outputOf (again : Evaluator) (c : Command) : Run String := do
  let (status, text) ← Run.collecting (subshell again (again false c))
  modify fun s => { s with substituted := status }
  return String.ofList ((text.toList.filter (· ≠ '\x00')).reverse.dropWhile (· = '\n')).reverse

/-- Runs a process of its own. It is told if a signal has killed it. -/
def inProcess (body : Run Nat) : Run Nat := do
  let before ← get
  let process := before.processes + 1
  modify fun s => { s with process := process, processes := process }
  let status ←
    try body
    catch
      | .exit n => pure n
      | .fault n => pure n
      | .signal p n =>
        if p ≠ process then throw (.signal p n)
        else
          match Signal.all.find? fun g => g.number = n && g.obituary ≠ "" with
          | some g => Run.write 2 (g.obituary ++ "\n")
          | none => pure ()
          pure (128 + n)
      | .exhausted => throw .exhausted
  leave before
  return status % 256

/-! ### Redirections -/

/-- What is told of a way that leads nowhere. -/
def reasonOf (missing : String) : WalkError → String
  | .tooLong => "File name too long"
  | _ => missing

/-- Opens a file. -/
def openFile (mode : FileMode) (name : String) : Run Handle := do
  let s ← get
  if name = "/dev/null" then return .nothing
  else if mode = .input then
    match s.tree.at? name with
    | .ok (_, .file contents _) => Run.newSource (ofBytes contents).toList
    | .ok (_, .directory) => return .nothing
    | .error e => Run.fail ("cannot open " ++ name ++ ": " ++ reasonOf "No such file" e)
  else
    match s.tree.placeFor name with
    | .error e => Run.fail ("cannot create " ++ name ++ ": " ++ reasonOf "Directory nonexistent" e)
    | .ok names =>
      if s.tree.entry? names = some .directory then Run.fail ("cannot create " ++ name ++ ": Is a directory")
      else
        let kept := if mode = .append then s.tree.contentsOf names else []
        modify fun s => { s with tree := s.tree.write names kept }
        return .file names

/-- Follows a redirection. -/
def redirect (again : Evaluator) : Redirection → Run Unit
  | .file d mode w => do
    let h ← openFile mode (← Expansion.text (outputOf again) w)
    Run.setHandle d (some h)
  | .copy d w => do
    let name ← Expansion.text (outputOf again) w
    let descriptors := (← get).descriptors
    let handle := (decimal? name).bind fun n => descriptors.lookup n
    if name = "-" then Run.setHandle d none
    else if handle.isSome then Run.setHandle d handle
    else Run.fail (name ++ ": Bad file descriptor")
  | .document d w => do
    let text ← Expansion.text (outputOf again) w
    Run.setHandle d (some (← Run.newSource text.toList))

/-- Runs a step with redirections, unless one of them fails. They end with the step unless they are to stay. -/
def redirected (again : Evaluator) (stay special : Bool) (rs : List Redirection) (step : Run Nat) : Run Nat := do
  let before := (← get).descriptors
  let restore : Run Unit := modify fun s => { s with descriptors := before }
  let followed ←
    try
      rs.forM (redirect again)
      pure true
    catch
      | .fault n =>
        restore
        if special then throw (.fault n) else pure false
      | e => throw e
  if !followed then return 2
  else if stay then step
  else Run.ensuring step restore

/-! ### Programs -/

/-- The directories of the system that hold programs. -/
def systemDirectories : List String := ["/usr/bin", "/bin"]

/-- The programs of the system, with those that run others. -/
def systemPrograms : List String := Tool.all.map (·.1) ++ ["sh", "dash", "env"]

/-- A program by its name or its path: the name of what it is, or whether there was something that is none. -/
def program? (usual name : String) : Run (Except Bool String) := do
  let t := (← get).tree
  let directories := fieldsOf ':' ((← Run.value? "PATH").getD usual).toList
  let places :=
    if name.toList.contains '/' then [name]
    else directories.map fun d => if d.isEmpty then name else String.ofList d ++ "/" ++ name
  match places.find? fun p => t.isExecutable (FileTree.pathOf p) with
  | some p => return .ok (String.ofList (p.toList.reverse.takeWhile (· ≠ '/')).reverse)
  | none => return .error (places.any fun p => t.exists? (FileTree.pathOf p))

/-- Makes the process at hand a new shell, which begins with the variables that it sees. -/
def becomeShell (name : String) : Run Unit := do
  let seen ← Run.exportedVariables
  let given := (seen.filter fun (n, _) => isName n && n ≠ "IFS" && n ≠ "PWD").map fun (n, v) =>
    (n, (⟨some v, true⟩ : Variable))
  modify fun s =>
    { s with
      name := name, parameters := [], functions := [], options := [], pending := [], status := 0, line := 0,
      speaker := none, loops := 0, skip := none, traps := s.traps.filter fun (_, action) => action = "",
      bindings := given ++ [("IFS", ⟨some (String.ofList Run.usualSeparators), false⟩),
        ("PWD", ⟨some (FileTree.spelled s.tree.current), true⟩)] ++
        if given.any fun (n, _) => n == "PATH" then []
        else [("PATH", ⟨some "/usr/local/sbin:/usr/local/bin:/usr/sbin:/usr/bin:/sbin:/bin", false⟩)] }

/-- Runs a shell with arguments: a script that is given as a word, that stands in a file or that is fed to it. -/
def shellProgram (again : Evaluator) (name : String) (args : List String) : Run Nat := do
  becomeShell name
  toEnd again do
    match args with
    | [] => runText again false (String.ofList (← Run.inputToEnd))
    | w :: rest =>
      if w.startsWith "-" then
        let options := args.takeWhile (·.startsWith "-")
        let _ ← Builtin.takeOptions (options.map fun o => String.ofList (o.toList.filter (· ≠ 'c')))
        match args.drop options.length with
        | [] => Run.fail "-c requires an argument"
        | script :: words =>
          modify fun s => { s with name := words.headD s.name, parameters := words.tail }
          runText again false script
      else
        match (← get).tree.at? w with
        | .ok (_, .file contents _) =>
          modify fun s => { s with name := w, parameters := rest }
          runText again false (ofBytes contents)
        | _ => Run.fail ("cannot open " ++ w ++ ": No such file")

/-- Runs a program of the system in the process at hand; other programs do nothing. -/
def runProgram (again : Evaluator) : Nat → String → List String → Run Nat
  | 0, _, _ => throw .exhausted
  | fuel + 1, program, argv => do
    let name := argv.headD program
    if program = "sh" || program = "dash" then shellProgram again name argv.tail
    else if program = "env" then
      let words ←
        if argv.tail.head? = some "-i" then do
          modify fun s => { s with bindings := [] }
          pure argv.tail.tail
        else pure argv.tail
      let assignments := words.takeWhile fun w => w.toList.contains '='
      for w in assignments do
        let (n, v) := Builtin.nameAndValue w
        Run.putVariable n (some ⟨v, true⟩)
      match words.drop assignments.length with
      | [] =>
        Run.print (String.join ((← Run.exportedVariables).map fun (n, v) => n ++ "=" ++ v ++ "\n"))
        return 0
      | word :: words =>
        match ← program? "/bin:/usr/bin" word with
        | .ok found => runProgram again fuel found (word :: words)
        | .error true => Tool.refuse (name ++ ": '" ++ word ++ "': Permission denied") 126
        | .error false => Tool.refuse (name ++ ": '" ++ word ++ "': No such file or directory") 127
    else
      match Tool.all.lookup program with
      | some tool => tool name argv.tail
      | none => return 0

/-- How often programs may run each other without a shell between them. -/
def mostPrograms : Nat := 64

/-- Runs a program for the shell, or in its place. -/
def external (again : Evaluator) (replaces : Bool) (argv : List String) : Run Nat := do
  match ← program? "" (argv.headD "") with
  | .error seen =>
    Run.warn (argv.headD "" ++ ": " ++ if seen then "Permission denied" else "not found")
    return if seen then 126 else 127
  | .ok program =>
    let run := runProgram again mostPrograms program argv
    if replaces then run
    else
      inProcess do
        modify fun s => { s with bindings := s.bindings.filter fun (_, v) => v.exported }
        run

/-! ### Simple commands -/

/-- Runs a function. -/
def call (again : Evaluator) (tested : Bool) (body : Command) (words : List String) : Run Nat := do
  let before ← get
  modify fun s => { s with parameters := words, loops := 0 }
  Run.ensuring (again tested body) do
    modify fun s =>
      { s with
        parameters := before.parameters, loops := before.loops,
        skip := if s.skip = some .returning then none else s.skip }

/-- Runs a command of the shell. -/
def builtin (again : Evaluator) (tested : Bool) (name : String) (words : List String) : Run Nat := do
  match name with
  | "eval" => runText again tested (" ".intercalate words)
  | "." =>
    let file := words.headD ""
    match (← get).tree.at? file with
    | .ok (_, .file contents _) => runText again tested (ofBytes contents)
    | _ => Run.fail ("cannot open " ++ file ++ ": No such file")
  | "exit" => throw (.exit (← Builtin.numberOr (← get).status words))
  | "exec" => if words.isEmpty then return 0 else throw (.exit (← external again true words))
  | name =>
    match Builtin.find? name with
    | some run => run words
    | none => return 127

/-- Runs a command of the shell, which speaks when something goes wrong. An error ends the shell only where the command
is special. -/
def guarded (again : Evaluator) (tested : Bool) (name : String) (words : List String) : Run Nat := do
  let speaking : Run Nat := do
    modify fun s => { s with speaker := if name = "eval" then none else some name }
    Run.ensuring (builtin again tested name words) (modify fun s => { s with speaker := none })
  try speaking
  catch
    | .fault n => if Builtin.isSpecial name then throw (.fault n) else return n
    | e => throw e

/-- Runs a command by its name: a function, a command of the shell or a program. -/
def named (again : Evaluator) (tested : Bool) (argv : List String) : Run Nat := do
  match argv with
  | [] => return (← get).substituted
  | name :: words =>
    let functions := (← get).functions
    match if Builtin.isSpecial name then none else functions.lookup name with
    | some body => call again tested body words
    | none => if Builtin.isBuiltin name then guarded again tested name words else external again false argv

/-- Runs a simple command: its words are expanded, redirections are followed, and variables are assigned, for good
where there is no command or a special one. -/
def simple (again : Evaluator) (tested : Bool) (line : Nat) (assignments : List (String × Word)) (words : List Word)
    (rs : List Redirection) : Run Nat := do
  modify fun s => { s with line := line, substituted := 0 }
  let argv := (← words.mapM (Expansion.fields (outputOf again))).flatten
  let special := Builtin.isSpecial (argv.headD "")
  -- Special commands keep what is assigned in front of them, and so does a line without a command.
  let stays := argv.isEmpty || special
  redirected again (argv.head? = some "exec") special rs do
    let before := (← get).bindings
    for (n, v) in assignments do
      Run.assign n (← Expansion.text (outputOf again) v) (!stays)
    if stays then named again tested argv
    else
      Run.ensuring (named again tested argv) do
        for (n, _) in assignments do
          Run.putVariable n (before.lookup n)

/-! ### Compound commands -/

/-- What becomes of a loop behind one of its rounds: whether it goes on. -/
def nextRound : Run Bool := do
  let s ← get
  match s.skip with
  | none => return true
  | some (.breaking n) =>
    set { s with skip := if n ≤ 1 then none else some (.breaking (n - 1)) }
    return false
  | some (.continuing n) =>
    set { s with skip := if n ≤ 1 then none else some (.continuing (n - 1)) }
    return n ≤ 1
  | some .returning => return false

/-- Runs a step inside a loop. -/
def inLoop (step : Run Nat) : Run Nat := do
  modify fun s => { s with loops := s.loops + 1 }
  let status ← step
  modify fun s => { s with loops := s.loops - 1 }
  return status

/-- Runs a command as long as another one succeeds, or fails. -/
def loop (again : Evaluator) (tested whileSuccess : Bool) (test body : Command) : Nat → Nat → Run Nat
  | 0, _ => throw .exhausted
  | fuel + 1, status => do
    let i ← again true test
    if (← get).skip.isNone && (i = 0) != whileSuccess then return status
    else
      let status ← if (← get).skip.isSome then pure status else again tested body
      if ← nextRound then loop again tested whileSuccess test body fuel status else return status

/-- Runs a command for each of some words. -/
def each (again : Evaluator) (tested : Bool) (name : String) (body : Command) : List String → Nat → Run Nat
  | [], status => return status
  | w :: ws, _ => do
    Run.assign name w false
    let status ← again tested body
    if ← nextRound then each again tested name body ws status else return status

/-- Runs the command of the first clause with a pattern that a text matches. -/
def cases (again : Evaluator) (tested : Bool) (text : String) : List (List Word × Option Command) → Run Nat
  | [] => return 0
  | (ws, body) :: clauses => do
    let isMatch ← ws.anyM fun w => do
      return Pattern.isMatch (← Expansion.pattern (outputOf again) w) text.toList
    if isMatch then (body.map (again tested)).getD (pure 0) else cases again tested text clauses

/-- Runs commands each of which feeds the next. Each runs in a shell of its own. -/
def pipe (again : Evaluator) : List Command → Run Nat
  | [] => return 0
  | [c] => subshell again (again false c)
  | c :: cs => do
    let (_, text) ← Run.collecting (subshell again (again false c))
    let before := (← get).descriptors
    Run.setHandle 0 (some (← Run.newSource text.toList))
    Run.ensuring (pipe again cs) (modify fun s => { s with descriptors := before })

/-- Runs a command, with the evaluator for its parts; `fuel` bounds the rounds of loops. -/
def step (again : Evaluator) (fuel : Nat) (tested : Bool) (c : Command) : Run Nat := do
  match c with
  | .simple line assignments words rs => settle again tested (← simple again tested line assignments words rs)
  | .redirected body rs => settle again true (← redirected again false false rs (again tested body))
  | .subshell body => settle again tested (← subshell again (again tested body))
  | .pipe cs => settle again tested (← pipe again cs)
  | .sequence a b =>
    let status ← again tested a
    if (← get).skip.isSome then return status else again tested b
  | .ifSuccess a b =>
    let status ← again true a
    if status ≠ 0 || (← get).skip.isSome then return status else again tested b
  | .ifFailure a b =>
    let status ← again true a
    if status = 0 || (← get).skip.isSome then return status else again tested b
  | .background body =>
    let before := (← get).descriptors
    Run.setHandle 0 (some .nothing)
    let _ ← subshell again (again false body)
    modify fun s => { s with descriptors := before }
    settle again true 0
  | .negated body =>
    let status ← again true body
    settle again true (if status = 0 then 1 else 0)
  | .choice test success failure =>
    let status ← again true test
    if (← get).skip.isSome then return status
    else if status = 0 then again tested success
    else (failure.map (again tested)).getD (settle again true 0)
  | .loop whileSuccess test body => settle again true (← inLoop (loop again tested whileSuccess test body fuel 0))
  | .each name words body =>
    let words ←
      match words with
      | some ws => do pure (← ws.mapM (Expansion.fields (outputOf again))).flatten
      | none => pure (← get).parameters
    settle again true (← inLoop (each again tested name body words 0))
  | .cases w clauses =>
    let text ← Expansion.text (outputOf again) w
    settle again true (← cases again tested text clauses)
  | .function name body =>
    modify fun s => { s with functions := (name, body) :: s.functions.filter fun (n, _) => n ≠ name }
    settle again true 0

/-- Runs a command, as deep as there is fuel. -/
def evaluate : Nat → Evaluator
  | 0, _, _ => throw .exhausted
  | fuel + 1, tested, c => do
    let s ← get
    match s.left with
    | 0 => throw .exhausted
    | n + 1 =>
      set { s with left := n }
      step (evaluate fuel) s.left tested c

end Evaluation

end ElixirLint.Host
