import ElixirLint.Host.Script.Words

/-!
# The grammar of scripts

How words are put together to commands: simple commands with their redirections, compound ones, and what joins them.
What does not fit is told by what stands where reading ends. `Script.parse` reads a whole script.
-/

namespace ElixirLint.Host

namespace Reader

/-! ### Signs -/

/-- How many characters at the front say nothing: blanks, joined lines, comments and perhaps ends of lines. -/
def idle (lines : Bool) : Bool → List Char → Nat
  | _, [] => 0
  | _, '\n' :: cs => if lines then idle lines false cs + 1 else 0
  | true, _ :: cs => idle lines true cs + 1
  | false, '#' :: cs => idle lines true cs + 1
  | false, '\\' :: '\n' :: cs => idle lines false cs + 2
  | false, c :: cs => if c = ' ' || c = '\t' then idle lines false cs + 1 else 0

/-- Goes on to what is no blank. -/
def skipBlanks : Reader Unit := do advance (idle false false (← get).rest)

/-- Goes on to what is no blank and no end of a line. -/
def skipLines : Reader Unit := do advance (idle true false (← get).rest)

/-- The words that are parts of the grammar where a command may begin. -/
def reserved : List String :=
  ["!", "case", "do", "done", "elif", "else", "esac", "fi", "for", "if", "in", "then", "until", "while", "\x7b", "\x7d"]

/-- What joins or ends commands and is no word. -/
def signs : List String := ["&&", "||", ";;", "&", "|", ";", "(", ")", "\n"]

/-- What a group of commands ends with. -/
def closing : List String := [")", ";;", "do", "done", "elif", "else", "esac", "fi", "then", "\x7d"]

/-- The sign or the reserved word that is next. -/
def sign? : Reader (Option String) := do
  skipBlanks
  let cs := (← get).rest
  let front := String.ofList (cs.takeWhile fun c => !isBreak c)
  return if reserved.contains front then some front else signs.find? fun s => s.toList.isPrefixOf cs

/-- Goes on if a sign or a reserved word is next. -/
def take (sign : String) : Reader Bool := do
  if (← sign?) == some sign then
    advance sign.length
    return true
  else return false

/-- Ends reading because of what is next, where something else may be expected. -/
def unexpected {α : Type} (expected : Option String) : Reader α := do
  let found ←
    match ← sign? with
    | some "\n" => pure "newline"
    | some s => pure ("\"" ++ s ++ "\"")
    | none => pure (if (← peek).isNone then "end of file" else "word")
  fail (found ++ " unexpected" ++ (expected.map fun s => " (expecting \"" ++ s ++ "\")").getD "")

/-- Goes on behind a sign or a reserved word that must come. -/
def expect (sign : String) : Reader Unit := do
  if !(← take sign) then unexpected (some sign)

/-! ### Redirections -/

/-- A text without what is quoted or not in it, as the end of another text is named. -/
def plainText (w : Word) : String :=
  String.join (w.map fun p => match p with | .text s _ => s | _ => "")

/-- Reads the word of a redirection. -/
def target (inner : CommandReader) : Reader Word := do
  skipBlanks
  let w ← word inner
  if w.isEmpty then unexpected none else return w

/-- Takes the text that begins behind the line at hand, up to the line that ends it, out of what is to be read. It is
taken as it stands if a part of the word that names its end is quoted. -/
def document (inner : CommandReader) : Reader Word := do
  let indented ← accept '-'
  let w ← target inner
  -- What is left of the line is read first, although it stands in front of the text.
  let before ← get
  let line := before.rest.takeWhile (· ≠ '\n')
  let lines := (linesOf (before.rest.drop (line.length + 1))).map fun l => if indented then l.dropWhile (· = '\t') else l
  let inside := lines.takeWhile fun l => String.ofList l ≠ plainText w
  let text := inside.flatMap (· ++ ['\n'])
  let behind := ['\n'].intercalate (lines.drop (inside.length + 1))
  let w ←
    if w.any fun p => p matches .mark then pure [.text (String.ofList text) true]
    else do
      set { before with rest := text }
      pieces inner (text.length + 2) .document []
  set { before with rest := line ++ '\n' :: behind }
  return w

/-- Reads a redirection, if there is one. -/
def redirection? (inner : CommandReader) : Reader (Option Redirection) := do
  skipBlanks
  let cs := (← get).rest
  -- A digit belongs to the redirection only if it stands right in front of the sign.
  let (d, cs) :=
    match cs with
    | c :: '<' :: rest => if c.isDigit then (digit? 10 c, '<' :: rest) else (none, cs)
    | c :: '>' :: rest => if c.isDigit then (digit? 10 c, '>' :: rest) else (none, cs)
    | cs => (none, cs)
  let behind (n : Nat) : Reader Word := do
    advance (if d.isSome then n + 1 else n)
    target inner
  match cs with
  | '>' :: '>' :: _ => return some (.file (d.getD 1) .append (← behind 2))
  | '>' :: '&' :: _ => return some (.copy (d.getD 1) (← behind 2))
  | '>' :: _ => return some (.file (d.getD 1) .output (← behind 1))
  | '<' :: '<' :: _ =>
    advance (if d.isSome then 3 else 2)
    return some (.document (d.getD 0) (← document inner))
  | '<' :: '&' :: _ => return some (.copy (d.getD 0) (← behind 2))
  | '<' :: _ => return some (.file (d.getD 0) .input (← behind 1))
  | _ => return none

/-- Reads the redirections behind a compound command. -/
def redirections (inner : CommandReader) : Nat → Reader (List Redirection)
  | 0 => return []
  | fuel + 1 => do
    match ← redirection? inner with
    | some r => return r :: (← redirections inner fuel)
    | none => return []

/-! ### Compound commands -/

/-- Reads commands, at least one, up to what ends them. -/
def block (inner : CommandReader) (ending : String) : Reader Command := do
  match ← inner with
  | some c =>
    expect ending
    return c
  | none => unexpected none

/-- Reads what follows the test of a choice. -/
def alternatives (inner : CommandReader) (test : Command) : Nat → Reader Command
  | 0 => unexpected none
  | fuel + 1 => do
    match ← inner with
    | none => unexpected none
    | some success =>
      if ← take "elif" then
        let next ← block inner "then"
        return .choice test success (some (← alternatives inner next fuel))
      else if ← take "else" then return .choice test success (some (← block inner "fi"))
      else
        expect "fi"
        return .choice test success none

/-- Reads words up to the end of a line. -/
def wordsOfLine (inner : CommandReader) : Nat → Reader (List Word)
  | 0 => return []
  | fuel + 1 => do
    skipBlanks
    match ← peek with
    | none => return []
    | some c =>
      if isBreak c then return []
      else
        let w ← word inner
        return w :: (← wordsOfLine inner fuel)

/-- Reads a loop over words. -/
def each (inner : CommandReader) : Reader Command := do
  skipBlanks
  let name ← takeWhile isNameChar
  if !isName name then fail "Bad for loop variable"
  else
    skipLines
    let words ← if ← take "in" then pure (some (← wordsOfLine inner ((← get).rest.length + 1))) else pure none
    let _ ← take ";"
    skipLines
    expect "do"
    return .each name words (← block inner "done")

/-- Reads the patterns of a clause up to the parenthesis that ends them. -/
def patterns (inner : CommandReader) : Nat → Reader (List Word)
  | 0 => return []
  | fuel + 1 => do
    let w ← target inner
    if ← take "|" then return w :: (← patterns inner fuel)
    else
      expect ")"
      return [w]

/-- Reads the clauses of a choice by patterns. -/
def clauses (inner : CommandReader) : Nat → Reader (List (List Word × Option Command))
  | 0 => return []
  | fuel + 1 => do
    skipLines
    if ← take "esac" then return []
    else
      let _ ← take "("
      let ps ← patterns inner ((← get).rest.length + 1)
      let body ← inner
      if ← take ";;" then return (ps, body) :: (← clauses inner fuel)
      else
        expect "esac"
        return [(ps, body)]

/-- Reads a compound command, if there is one. -/
def compound? (inner : CommandReader) : Reader (Option Command) := do
  let fuel := (← get).rest.length + 1
  if ← take "if" then return some (← alternatives inner (← block inner "then") fuel)
  else if ← take "while" then
    let test ← block inner "do"
    return some (.loop true test (← block inner "done"))
  else if ← take "until" then
    let test ← block inner "do"
    return some (.loop false test (← block inner "done"))
  else if ← take "for" then return some (← each inner)
  else if ← take "case" then
    let w ← target inner
    skipLines
    expect "in"
    return some (.cases w (← clauses inner fuel))
  else if ← take "(" then return some (.subshell (← block inner ")"))
  else if ← take "\x7b" then return some (← block inner "\x7d")
  else return none

/-! ### Simple commands -/

/-- The name and the value that a word assigns, if it does. -/
def assignment? : Word → Option (String × Word)
  | .text s false :: ps =>
    let front := s.toList.takeWhile (· ≠ '=')
    let back := s.toList.drop (front.length + 1)
    if front.length < s.length && isName (String.ofList front) then
      some (String.ofList front, if back.isEmpty then ps else .text (String.ofList back) false :: ps)
    else none
  | _ => none

/-- What has been read of a simple command. -/
structure Partial where
  /-- The assignments. -/
  assignments : List (String × Word)
  /-- The words. -/
  words : List Word
  /-- The redirections. -/
  redirections : List Redirection

/-- Reads the rest of a simple command, or of the definition of a function. -/
def simple (inner : CommandReader) (line : Nat) : Nat → Partial → Reader Command
  | 0, _ => unexpected none
  | fuel + 1, p => do
    match ← redirection? inner with
    | some r => simple inner line fuel { p with redirections := p.redirections ++ [r] }
    | none =>
      let w ← word inner
      match w, p.words with
      | [], [[.text name false]] =>
        if isName name && (← take "(") then
          expect ")"
          skipLines
          match ← compound? inner with
          | some body => return .function name body
          | none => unexpected none
        else return .simple line p.assignments p.words p.redirections
      | [], _ => return .simple line p.assignments p.words p.redirections
      | w, [] =>
        match assignment? w with
        | some a => simple inner line fuel { p with assignments := p.assignments ++ [a] }
        | none => simple inner line fuel { p with words := [w] }
      | w, ws => simple inner line fuel { p with words := ws ++ [w] }

/-- Reads a command. -/
def command (inner : CommandReader) : Reader Command := do
  let fuel := (← get).rest.length + 2
  match ← compound? inner with
  | some c =>
    match ← redirections inner fuel with
    | [] => return c
    | rs => return .redirected c rs
  | none =>
    if (← sign?).isSome || (← peek).isNone then unexpected none
    else simple inner (← get).line fuel ⟨[], [], []⟩

/-! ### Lists of commands -/

/-- Reads the commands behind a bar. -/
def piped (inner : CommandReader) : Nat → Reader (List Command)
  | 0 => return []
  | fuel + 1 => do
    if ← take "|" then
      skipLines
      let c ← command inner
      return c :: (← piped inner fuel)
    else return []

/-- Reads commands each of which feeds the next. -/
def pipeline (inner : CommandReader) : Reader Command := do
  let negated ← take "!"
  let first ← command inner
  let c :=
    match ← piped inner ((← get).rest.length + 1) with
    | [] => first
    | more => .pipe (first :: more)
  return if negated then .negated c else c

/-- Reads what is joined by conditions behind a command. -/
def joinedBy (inner : CommandReader) : Nat → Command → Reader Command
  | 0, c => return c
  | fuel + 1, c => do
    if ← take "&&" then
      skipLines
      joinedBy inner fuel (.ifSuccess c (← pipeline inner))
    else if ← take "||" then
      skipLines
      joinedBy inner fuel (.ifFailure c (← pipeline inner))
    else return c

/-- Reads commands up to what ends them. -/
def list (inner : CommandReader) : Nat → Option Command → CommandReader
  | 0, before => return before
  | fuel + 1, before => do
    skipLines
    let next ← sign?
    if (next.map closing.contains).getD (← peek).isNone then return before
    else
      let c ← joinedBy inner ((← get).rest.length + 1) (← pipeline inner)
      let behind (c : Command) : Option Command := some ((before.map fun b => Command.sequence b c).getD c)
      if ← take "&" then list inner fuel (behind (.background c))
      else if (← take ";") || (← take "\n") then list inner fuel (behind c)
      else return behind c

/-- Reads commands, nested as deep as there is fuel. -/
def read : Nat → CommandReader
  | 0 => fail "too deep"
  | fuel + 1 => do list (read fuel) ((← get).rest.length + 2) none

end Reader

/-- The command that a script is, if it holds any. -/
def Script.parse (text : String) (line : Nat) : Except ScriptFault (Option Command) :=
  let whole : CommandReader := do
    let c ← Reader.read (text.length + 2)
    if (← Reader.peek).isSome then Reader.unexpected none else return c
  match whole ⟨text.toList, line⟩ with
  | .ok c _ => .ok c
  | .error e _ => .error e

end ElixirLint.Host
