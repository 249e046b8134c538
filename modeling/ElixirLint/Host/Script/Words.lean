import ElixirLint.Host.Bytes
import ElixirLint.Host.Script

/-!
# Words of a script

How the words of a script are read, character by character: what quotation marks and backslashes do, and what stands
behind a dollar sign. What characters mean depends on what they stand in, which is a `Setting`. Commands in words are
read by the reader that is handed down.
-/

namespace ElixirLint.Host

/-- What is left of a script to be read, and the line on which it begins. -/
structure Source where
  /-- The characters to come. -/
  rest : List Char
  /-- The line that they begin on. -/
  line : Nat

/-- Why a script cannot be read. -/
structure ScriptFault where
  /-- The line on which reading ended. -/
  line : Nat
  /-- What is wrong. -/
  message : String

/-- A step of reading a script. -/
abbrev Reader := EStateM ScriptFault Source

/-- What reads the commands inside another one or in a word, up to the sign that ends them. -/
abbrev CommandReader := Reader (Option Command)

/-- What characters stand in. -/
inductive Setting
  /-- A word of a command. -/
  | bare
  /-- Double quotation marks. -/
  | double
  /-- A text that is fed to a command. -/
  | document
  /-- Braces of a parameter, perhaps between double quotation marks. -/
  | braces (quoted : Bool)
  /-- An expression, with a number of parentheses. -/
  | expression (level : Nat)
  deriving DecidableEq, Repr

namespace Setting

/-- Whether characters count as quoted. -/
def isQuoted : Setting → Bool
  | .bare => false
  | .braces quoted => quoted
  | _ => true

/-- Whether a backslash in front of a character hides it without being there itself. -/
def escapes (s : Setting) (c : Char) : Bool :=
  !s.isQuoted || c == '\\' || c == '\x60' || c == '$' || (c == '"' && s != .document) ||
    (c == '\x7d' && s == .braces true)

end Setting

namespace Reader

/-! ### Characters -/

/-- Ends reading. -/
def fail {α : Type} (message : String) : Reader α := fun s => .error ⟨s.line, "Syntax error: " ++ message⟩ s

/-- The next character. -/
def peek : Reader (Option Char) := do return (← get).rest.head?

/-- Goes on by some characters. -/
def advance (n : Nat) : Reader Unit := modify fun s => ⟨s.rest.drop n, s.line + (s.rest.take n).count '\n'⟩

/-- Goes on if a certain character is next. -/
def accept (c : Char) : Reader Bool := do
  if (← peek) == some c then
    advance 1
    return true
  else return false

/-- Reads characters of a kind. -/
def takeWhile (p : Char → Bool) : Reader String := do
  let front := (← get).rest.takeWhile p
  advance front.length
  return String.ofList front

/-- Whether a character ends a word of a command. -/
def isBreak (c : Char) : Bool := [' ', '\t', '\n', ';', '&', '|', '<', '>', '(', ')'].contains c

/-- Adds a character to pieces in reverse order. -/
def addChar (c : Char) (quoted : Bool) : List Piece → List Piece
  | .text s q :: ps => if q = quoted then .text (s.push c) q :: ps else .text (String.singleton c) quoted :: .text s q :: ps
  | ps => .text (String.singleton c) quoted :: ps

/-- Reads characters between single quotation marks, behind the first of these. -/
def singleQuoted : Reader String := do
  let text ← takeWhile (· ≠ '\'')
  if ← accept '\'' then return text else fail "Unterminated quoted string"

/-! ### Commands in words -/

/-- Reads a command that stands in a word, up to the parenthesis that ends it. -/
def newSubstitution (inner : CommandReader) (quoted : Bool) : Reader Piece := do
  let line := (← get).line
  let c ← inner
  if ← accept ')' then return .output (c.getD (.simple line [] [] [])) quoted
  else fail "end of file unexpected (expecting \")\")"

/-- The command in front of a backquote, without the backslashes that hide characters there, and the number of
characters that it takes with the backquote. -/
def backquoted? (quoted : Bool) : List Char → Option (List Char × Nat)
  | [] => none
  | '\x60' :: _ => some ([], 1)
  | '\\' :: c :: cs =>
    let hides := c == '\\' || c == '\x60' || c == '$' || (quoted && c == '"')
    (backquoted? quoted cs).map fun (text, n) => (if hides then c :: text else '\\' :: c :: text, n + 2)
  | c :: cs => (backquoted? quoted cs).map fun (text, n) => (c :: text, n + 1)

/-- Reads a command that stands in a word between backquotes. -/
def oldSubstitution (inner : CommandReader) (quoted : Bool) : Reader Piece := do
  match backquoted? quoted (← get).rest with
  | none => fail "EOF in backquote substitution"
  | some (text, n) =>
    let line := (← get).line
    advance n
    let behind ← get
    set { behind with rest := text }
    let c ← inner
    set behind
    return .output (c.getD (.simple line [] [] [])) quoted

/-! ### Parameters -/

/-- Reads the name of a parameter, if there is one. Behind a dollar sign alone only one digit belongs to it. -/
def parameterName? (braced : Bool) : Reader (Option String) := do
  match ← peek with
  | none => return none
  | some c =>
    if isNameStart c then return some (← takeWhile isNameChar)
    else if braced && c.isDigit then return some (← takeWhile Char.isDigit)
    else if c.isDigit || ['$', '?', '#', '*', '@', '-', '!'].contains c then
      advance 1
      return some (String.singleton c)
    else return none

/-- How a value may be substituted, by its sign. -/
def substitute? : Char → Option Substitute
  | '-' => some .default
  | '=' => some .assign
  | '?' => some .demand
  | '+' => some .alternative
  | _ => none

/-- Reads what is made of a parameter in braces, and the end of the braces; `within` reads a word in them. -/
def bracedUse (within : Setting → Reader Word) (quoted : Bool) : Reader Use := do
  if ← accept '\x7d' then return .value
  else if ← accept '%' then
    let longest ← accept '%'
    return .trimmed false longest (← within (.braces false))
  else if ← accept '#' then
    let longest ← accept '#'
    return .trimmed true longest (← within (.braces false))
  else
    let emptyToo ← accept ':'
    match (← peek).bind substitute? with
    | some kind =>
      advance 1
      return .substitute kind emptyToo (← within (.braces quoted))
    | none => fail "Bad substitution"

/-- Reads a parameter in braces. A number sign in front of its name asks for its length. -/
def braced (within : Setting → Reader Word) (quoted : Bool) : Reader Piece := do
  let measured := (← peek) == some '#' && (← get).rest[1]? != some '\x7d'
  if measured then advance 1
  match ← parameterName? true with
  | none => fail "Bad substitution"
  | some name =>
    if !measured then return .parameter name (← bracedUse within quoted) quoted
    else if ← accept '\x7d' then return .parameter name .length quoted
    else fail "Bad substitution"

/-- Reads what stands behind a dollar sign; none if the sign stands for itself. -/
def substitution? (inner : CommandReader) (within : Setting → Reader Word) (quoted : Bool) : Reader (Option Piece) := do
  if ← accept '(' then
    if ← accept '(' then return some (.number (← within (.expression 0)) quoted)
    else return some (← newSubstitution inner quoted)
  else if ← accept '\x7b' then return some (← braced within quoted)
  else return (← parameterName? false).map fun name => .parameter name .value quoted

/-! ### Words -/

/-- Pieces between quotation marks. Where there are no parameters at all, the marks around them do not count. -/
def marked : Word → Word
  | [.parameter "@" .value true] => [.parameter "@" .value true]
  | w => .mark :: w ++ [.mark]

/-- Reads the pieces of a word up to its end, in reverse order behind those that have been read. -/
def pieces (inner : CommandReader) : Nat → Setting → List Piece → Reader Word
  | 0, _, _ => fail "Unterminated quoted string"
  | fuel + 1, setting, ps => do
    let quoted := setting.isQuoted
    let within (s : Setting) : Reader Word := pieces inner fuel s []
    let goOn (ps : List Piece) : Reader Word := pieces inner fuel setting ps
    match (← get).rest with
    | [] =>
      match setting with
      | .double => fail "Unterminated quoted string"
      | .braces _ => fail "Missing '\x7d'"
      | .expression _ => fail "Missing '))'"
      | _ => return ps.reverse
    | '\\' :: '\n' :: _ =>
      advance 2
      goOn ps
    | '\\' :: c :: _ =>
      advance 2
      goOn (addChar c true (if setting.escapes c then ps else addChar '\\' true ps))
    | '$' :: _ =>
      advance 1
      match ← substitution? inner within quoted with
      | some p => goOn (p :: ps)
      | none => goOn (addChar '$' quoted ps)
    | '\x60' :: _ =>
      advance 1
      goOn ((← oldSubstitution inner quoted) :: ps)
    | c :: _ =>
      if setting == .bare && isBreak c then return ps.reverse
      else
        advance 1
        match setting, c with
        | .double, '"' => return ps.reverse
        | .braces _, '\x7d' => return ps.reverse
        | .expression 0, ')' => if ← accept ')' then return ps.reverse else goOn (addChar c true ps)
        | .expression (level + 1), ')' => pieces inner fuel (.expression level) (addChar c true ps)
        | .expression level, '(' => pieces inner fuel (.expression (level + 1)) (addChar c true ps)
        | .bare, '"' => goOn ((marked (← within .double)).reverse ++ ps)
        | .braces _, '"' => goOn ((marked (← within .double)).reverse ++ ps)
        | _, '\'' => if quoted then goOn (addChar c true ps) else goOn (.mark :: .text (← singleQuoted) true :: .mark :: ps)
        | _, c => goOn (addChar c quoted ps)

/-- Reads a word of a command. -/
def word (inner : CommandReader) : Reader Word := do pieces inner ((← get).rest.length + 2) .bare []

end Reader

end ElixirLint.Host
