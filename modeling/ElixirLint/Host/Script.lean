/-!
# Shell scripts

What a script consists of, as the shell understands it: words, whose pieces are text, parameters, the output of
commands and arithmetic expressions; redirections; and commands, simple and compound.
-/

namespace ElixirLint.Host

/-- How a file is opened. -/
inductive FileMode
  | input
  | output
  | append
  deriving DecidableEq, Repr

/-- What takes the place of a value, or is done about a value that is missing. -/
inductive Substitute
  /-- Another value takes the place of one that is missing. -/
  | default
  /-- The same, and the parameter gets that value. -/
  | assign
  /-- A missing value is an error. -/
  | demand
  /-- Another value takes the place of one that is there. -/
  | alternative
  deriving DecidableEq, Repr

mutual

/-- A piece of a word. -/
inductive Piece
  /-- Characters as they stand. -/
  | text (s : String) (quoted : Bool)
  /-- A quotation mark; a word that has one is there even if it comes to nothing. -/
  | mark
  /-- A parameter. -/
  | parameter (name : String) (use : Use) (quoted : Bool)
  /-- What a command prints. -/
  | output (command : Command) (quoted : Bool)
  /-- The value of an expression. -/
  | number (expression : List Piece) (quoted : Bool)

/-- What is made of a parameter. -/
inductive Use
  | value
  | length
  /-- Another word may take the place of the value; an empty value may count as missing. -/
  | substitute (kind : Substitute) (emptyToo : Bool) (word : List Piece)
  /-- The shortest or longest part at the front or the back that matches a pattern is left out. -/
  | trimmed (front longest : Bool) (pattern : List Piece)

/-- A redirection of a descriptor. -/
inductive Redirection
  /-- To a file. -/
  | file (descriptor : Nat) (mode : FileMode) (name : List Piece)
  /-- To where another descriptor leads, or to nothing. -/
  | copy (descriptor : Nat) (target : List Piece)
  /-- To a text that stands in the script. -/
  | document (descriptor : Nat) (text : List Piece)

/-- A command. -/
inductive Command
  /-- Assignments, then words, with redirections. -/
  | simple (line : Nat) (assignments : List (String × List Piece)) (words : List (List Piece))
      (redirections : List Redirection)
  /-- A compound command with redirections. -/
  | redirected (body : Command) (redirections : List Redirection)
  /-- A command in a shell of its own. -/
  | subshell (body : Command)
  /-- Commands each of which feeds the next. -/
  | pipe (commands : List Command)
  /-- One command after another. -/
  | sequence (first second : Command)
  /-- The second command only if the first has succeeded. -/
  | ifSuccess (first second : Command)
  /-- The second command only if the first has failed. -/
  | ifFailure (first second : Command)
  /-- A command that nothing waits for. -/
  | background (body : Command)
  /-- A command with the status turned around. -/
  | negated (body : Command)
  /-- One of two commands. -/
  | choice (test success : Command) (failure : Option Command)
  /-- A command as long as another succeeds, or fails. -/
  | loop (whileSuccess : Bool) (test body : Command)
  /-- A command for each of some words; none means the parameters of the script. -/
  | each (name : String) (words : Option (List (List Piece))) (body : Command)
  /-- The command of the first pattern that a word matches. -/
  | cases (word : List Piece) (clauses : List (List (List Piece) × Option Command))
  /-- The definition of a function. -/
  | function (name : String) (body : Command)

end

/-- A word of a script. -/
abbrev Word := List Piece

end ElixirLint.Host
