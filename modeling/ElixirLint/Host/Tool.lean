import ElixirLint.Host.Builtin

/-!
# Programs of the system

The programs that run no others: they print their arguments, and they pass on, order, count, cut and translate what is
fed to them or stands in files. A program takes its name and its arguments and ends with a status.
-/

namespace ElixirLint.Host

/-- A program. -/
abbrev Tool := String → List String → Run Nat

namespace Tool

/-! ### Arguments -/

/-- Tells that something went wrong, and ends. -/
def refuse (message : String) (status : Nat) : Run Nat := do
  Run.write 2 (message ++ "\n")
  return status

/-- Tells of an option that is not known. -/
def misuse (name : String) (option : Char) (status : Nat) : Run Nat :=
  refuse (name ++ ": invalid option -- '" ++ String.singleton option ++ "'\nTry '" ++ name ++
    " --help' for more information.") status

/-- The letters of options in front of arguments, and the arguments behind them. -/
def letters : List String → List Char × List String
  | [] => ([], [])
  | "--" :: ws => ([], ws)
  | w :: ws =>
    match w.toList with
    | '-' :: c :: cs =>
      let (more, operands) := letters ws
      (c :: cs ++ more, operands)
    | _ => ([], w :: ws)

/-- A program whose options are letters. -/
def withLetters (known : List Char) (wrong : Nat) (run : String → List Char → List String → Run Nat) : Tool :=
  fun name args => do
    let (options, operands) := letters args
    match options.find? fun c => !known.contains c with
    | some c => misuse name c wrong
    | none => run name options operands

/-- What the operating system says of a path that leads nowhere. -/
def reasonOf : WalkError → String
  | .notADirectory => "Not a directory"
  | .tooLong => "File name too long"
  | _ => "No such file or directory"

/-- The contents of a file, or the reason why they cannot be read. -/
def contents (file : String) : Run (Except String (List Char)) := do
  if file = "-" then return .ok (← Run.inputToEnd)
  else if file = "/dev/null" then return .ok []
  else
    match (← get).tree.at? file with
    | .ok (_, .file bytes _) => return .ok (ofBytes bytes).toList
    | .ok (_, .directory) => return .error "Is a directory"
    | .error e => return .error (reasonOf e)

/-- The contents of files one behind the other, or what is fed where none is named. What cannot be read is told. -/
def joined (name : String) (files : List String) (bad : Nat) : Run (Nat × List Char) := do
  let mut all : List (List Char) := []
  let mut status := 0
  for file in if files.isEmpty then ["-"] else files do
    match ← contents file with
    | .ok cs => all := cs :: all
    | .error reason => status ← refuse (name ++ ": " ++ file ++ ": " ++ reason) bad
  return (status, all.reverse.flatten)

/-- Prints lines, each with its end. -/
def printLines (ls : List (List Char)) : Run Unit := Run.print (String.join (ls.map fun l => String.ofList l ++ "\n"))

/-! ### Programs for words -/

/-- Prints its arguments. -/
def echo : Tool := fun _ args => do
  let (words, ending) := if args.head? = some "-n" then (args.tail, "") else (args, "\n")
  Run.print (" ".intercalate words ++ ending)
  return 0

/-- Prints its arguments by a format. -/
def printf : Tool := fun name args => do
  match args with
  | [] => refuse (name ++ ": missing operand\nTry '" ++ name ++ " --help' for more information.") 1
  | format :: args =>
    let p := Printing.apply format args
    Run.print p.text
    (p.complaints.reverse ++ p.failure.toList).forM fun m => Run.write 2 (name ++ ": " ++ m ++ "\n")
    return Builtin.statusOf (p.complaints.isEmpty && p.failure.isNone)

/-- Tests a condition. -/
def test : Tool := fun name args => do
  match Condition.holds (← get).tree args with
  | .ok b => return Builtin.statusOf b
  | .error message => refuse (name ++ ": " ++ message) 2

/-- Prints whole numbers in a row. -/
def seq : Tool := fun name args => do
  match args.map String.toInt? with
  | [some last] => row 1 1 last
  | [some first, some last] => row first 1 last
  | [some first, some step, some last] => row first step last
  | _ => refuse (name ++ ": invalid arguments") 1
where
  /-- Prints the numbers from the first to the last. -/
  row (first step last : Int) : Run Nat := do
    let count := if step = 0 then 0 else ((last - first) / step + 1).toNat
    printLines ((List.range count).map fun (n : Nat) => (toString (first + n * step)).toList)
    return 0

/-! ### Programs for lines -/

/-- Prints files. -/
def cat : Tool := withLetters ['u'] 1 fun name _ files => do
  let (status, cs) ← joined name files 1
  Run.print (String.ofList cs)
  return status

/-- The part of lines, or of characters, that the options ask for, with what is left of the arguments. -/
def amount : List String → Bool × Nat × List String
  | "-n" :: n :: ws => (true, (decimal? n).getD 10, ws)
  | "-c" :: n :: ws => (false, (decimal? n).getD 10, ws)
  | w :: ws =>
    match w.toList with
    | '-' :: 'n' :: ds => (true, (decimal? (String.ofList ds)).getD 10, ws)
    | '-' :: 'c' :: ds => (false, (decimal? (String.ofList ds)).getD 10, ws)
    | '-' :: ds => ((decimal? (String.ofList ds)).map fun n => (true, n, ws)).getD (true, 10, w :: ws)
    | _ => (true, 10, w :: ws)
  | [] => (true, 10, [])

/-- Prints a part of the lines or characters of files. -/
def partOf (part : {α : Type} → Nat → List α → List α) : Tool := fun name args => do
  let (lines, n, files) := amount args
  let (status, cs) ← joined name files 1
  if lines then
    let ended := cs.getLast? = some '\n'
    let kept := part n (linesOf cs)
    let text := "\n".intercalate (kept.map String.ofList)
    let cut := kept.getLast? ≠ (linesOf cs).getLast?
    Run.print (if kept.isEmpty then "" else if ended || cut then text ++ "\n" else text)
  else Run.print (String.ofList (part n cs))
  return status

/-- Counts lines, words and bytes. -/
def wc : Tool := withLetters ['l', 'w', 'c'] 1 fun name options files => do
  let (status, cs) ← joined name files 1
  let options := if options.isEmpty then ['l', 'w', 'c'] else options
  let words := ((cs.map fun c => if isSpace c then ' ' else c).splitOn ' ').filter (!·.isEmpty)
  let counts := [('l', cs.count '\n'), ('w', words.length), ('c', cs.length)].filter fun (c, _) => options.contains c
  let width := if counts.length = 1 then 0 else 7
  let shown := counts.map fun (_, n) => Directive.inField ⟨[], width, none, 'd'⟩ (toString n)
  Run.print (" ".intercalate (shown ++ files) ++ "\n")
  return status

/-- Sorts the lines of files. -/
def sort : Tool := withLetters ['r', 'n', 'u'] 2 fun name options files => do
  let (status, cs) ← joined name files 2
  let value (l : List Char) : Int :=
    let (negative, body) := splitSign (l.dropWhile isSpace)
    withSign negative ((leadingNumber? 10 body).map (·.1) |>.getD 0)
  let before (a b : List Char) : Bool :=
    if options.contains 'n' && value a ≠ value b then value a < value b else !decide (b < a)
  let sorted := (linesOf cs).mergeSort fun a b => if options.contains 'r' then before b a else before a b
  printLines (if options.contains 'u' then sorted.eraseDups else sorted)
  return status

/-- The characters of a set: escapes and ranges are spelled out. -/
def setOf (s : String) : List Char := ranges (unescape (s.length + 1) s.toList).1
where
  /-- Spells ranges out. -/
  ranges : List Char → List Char
    | a :: '-' :: b :: cs => (List.range (b.toNat + 1 - a.toNat)).map (fun n => Char.ofNat (a.toNat + n)) ++ ranges cs
    | c :: cs => c :: ranges cs
    | [] => []

/-- Translates characters of one set into those of another one, or deletes them. -/
def tr : Tool := withLetters ['d'] 1 fun name options sets => do
  let cs ← Run.inputToEnd
  match options, sets.map setOf with
  | ['d'], [set] =>
    Run.print (String.ofList (cs.filter (!set.contains ·)))
    return 0
  | [], [old, new] =>
    let translated (c : Char) : Char := (old.idxOf? c).elim c fun n => new.getD n (new.getLastD c)
    Run.print (String.ofList (cs.map translated))
    return 0
  | _, _ => refuse (name ++ ": missing operand") 1

/-! ### All programs -/

/-- The programs by their names. -/
def all : List (String × Tool) :=
  [("cat", cat), ("echo", echo), ("false", fun _ _ => return 1), ("head", partOf fun n l => l.take n), ("printf", printf),
    ("pwd", fun _ _ => Builtin.workingDirectory), ("seq", seq), ("sleep", fun _ _ => return 0), ("sort", sort),
    ("tail", partOf fun n l => l.drop (l.length - n)), ("test", test), ("tr", tr), ("true", fun _ _ => return 0),
    ("wc", wc)]

end Tool

end ElixirLint.Host
