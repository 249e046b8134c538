import ElixirLint.Text.Search

/-!
# Command-line arguments

What the user asks for on the command line. Some options may stand before the name of a command and behind it; each may
be given once in either place, and the one behind the name is the nearer. A short option may be followed by others in
the same argument, a value by itself or behind an equals sign. Behind two dashes everything is an operand. Asking for
help or the version ends the reading at once.

Main definitions: `Invocation` and `Invocation.ofArguments`.
-/

namespace ElixirLint.Cli

/-- How results are printed. -/
inductive OutputFormat
  | human
  | json
  deriving DecidableEq, Repr

/-- The format with a name. -/
def OutputFormat.ofName? : String → Option OutputFormat
  | "human" => some .human
  | "json" => some .json
  | _ => none

/-- What is to be done. -/
inductive Action
  /-- Serve an editor. -/
  | serve
  /-- Lint a file. -/
  | lint (file : String) (format : OutputFormat)
  /-- Tell about the project of a directory. -/
  | info (directory : Option String) (format : OutputFormat)
  deriving DecidableEq, Repr

/-- What the user asks for. -/
structure Invocation where
  /-- The configuration file, if one is named. -/
  config : Option String
  /-- Whether colors are wanted in any case. -/
  color : Bool
  /-- Whether colors are unwanted. -/
  noColor : Bool
  /-- Whether only results and errors are wanted. -/
  quiet : Bool
  /-- What is to be done. -/
  action : Action
  deriving DecidableEq, Repr

/-- Why the arguments lead to no action. -/
inductive Stop
  | help
  | version
  | usageError
  deriving DecidableEq, Repr

/-- The options there are. -/
inductive Switch
  | config
  | color
  | noColor
  | quiet
  | format
  | help
  | version
  deriving DecidableEq, Repr

namespace Switch

/-- The long name of an option. -/
def long : Switch → String
  | .config => "config"
  | .color => "color"
  | .noColor => "no-color"
  | .quiet => "quiet"
  | .format => "format"
  | .help => "help"
  | .version => "version"

/-- The letter of an option, if it has one. -/
def letter? : Switch → Option Char
  | .config => some 'c'
  | .color => none
  | .noColor => none
  | .quiet => some 'q'
  | .format => some 'f'
  | .help => some 'h'
  | .version => some 'V'

/-- Whether an option needs a value. -/
def takesValue : Switch → Bool
  | .config => true
  | .format => true
  | _ => false

/-- Whether a value suits an option. -/
def accepts : Switch → String → Bool
  | .config, v => v != ""
  | .format, v => (OutputFormat.ofName? v).isSome
  | _, _ => true

end Switch

/-- Where options stand: before the name of a command, or behind it. -/
inductive Scope
  | top
  | serve
  | lint
  | info
  deriving DecidableEq, Repr

namespace Scope

/-- The options that may stand in a place. -/
def switches : Scope → List Switch
  | .top => [.config, .color, .noColor, .quiet, .help, .version]
  | .serve => [.config, .color, .noColor, .quiet, .help]
  | _ => [.config, .color, .noColor, .quiet, .format, .help]

/-- How many operands there may be. -/
def operands : Scope → Nat
  | .lint => 1
  | .info => 1
  | _ => 0

/-- The place behind the name of a command. -/
def ofName? : String → Option Scope
  | "lsp" => some .serve
  | "lint" => some .lint
  | "info" => some .info
  | _ => none

/-- The option with a letter. -/
def short? (s : Scope) (c : Char) : Option Switch := s.switches.find? fun o => o.letter? == some c

/-- The option with a long name. -/
def long? (s : Scope) (name : String) : Option Switch := s.switches.find? fun o => o.long == name

end Scope

/-- What has been given in one place. -/
structure Given where
  /-- The options with their values. -/
  switches : List (Switch × String)
  /-- The operands. -/
  operands : List String
  deriving DecidableEq, Repr

namespace Given

/-- Nothing has been given. -/
def nothing : Given := ⟨[], []⟩

/-- Whether an option has been given. -/
def has (g : Given) (o : Switch) : Bool := g.switches.any fun (p, _) => p == o

/-- The value that has been given for an option. -/
def value? (g : Given) (o : Switch) : Option String := g.switches.lookup o

/-- Takes an option with its value. No option may be given twice. -/
def take (g : Given) (o : Switch) (v : String) : Except Stop Given :=
  match o with
  | .help => .error .help
  | .version => .error .version
  | o => if g.has o || !o.accepts v then .error .usageError else .ok { g with switches := g.switches ++ [(o, v)] }

/-- Takes an operand, which may not be empty. -/
def operand (g : Given) (s : Scope) (v : String) : Except Stop Given :=
  if g.operands.length < s.operands && v != "" then .ok { g with operands := g.operands ++ [v] }
  else .error .usageError

/-- Takes operands. -/
def allOperands (g : Given) (s : Scope) (vs : List String) : Except Stop Given :=
  vs.foldlM (fun g v => g.operand s v) g

end Given

/-- Whether an argument looks like an option. A single dash does not. -/
def isOption (a : String) : Bool := a.toList.head? == some '-' && a != "-"

/-- The value behind an option in the same argument; an equals sign in front is not part of it. -/
def attached : List Char → String
  | '=' :: cs => String.ofList cs
  | cs => String.ofList cs

/-- Reads the letters of an argument. An option at the end may still want its value. -/
def readLetters (s : Scope) : List Char → Given → Except Stop (Given × Option Switch)
  | [], g => .ok (g, none)
  | c :: cs, g =>
    match s.short? c with
    | none => .error .usageError
    | some o =>
      if o.takesValue then
        if cs.isEmpty then .ok (g, some o) else (g.take o (attached cs)).map fun g => (g, none)
      else
        match g.take o "" with
        | .error e => .error e
        | .ok g => readLetters s cs g

/-- Reads a long option. It may still want its value. -/
def readLong (s : Scope) (cs : List Char) (g : Given) : Except Stop (Given × Option Switch) :=
  let name := cs.takeWhile (· ≠ '=')
  match s.long? (String.ofList name), cs.drop name.length with
  | none, _ => .error .usageError
  | some o, [] => if o.takesValue then .ok (g, some o) else (g.take o "").map fun g => (g, none)
  | some o, value =>
    if o.takesValue then (g.take o (attached value)).map fun g => (g, none) else .error .usageError

/-- Reads an argument that looks like an option. -/
def readOption (s : Scope) (a : String) (g : Given) : Except Stop (Given × Option Switch) :=
  match a.toList with
  | '-' :: '-' :: cs => readLong s cs g
  | '-' :: cs => readLetters s cs g
  | _ => .error .usageError

/-- What is left when a command is named: its place, and the arguments behind the name. -/
abbrev Rest := Option (Scope × List String)

/-- What comes of asking for help on something. -/
def helpOn : List String → Stop
  | [] => .help
  | [name] => if (Scope.ofName? name).isSome || name == "help" then .help else .usageError
  | _ => .usageError

/-- Reads the arguments in one place, up to the name of a command; `wanting` is the option that still wants its value. -/
def readArguments (s : Scope) : List String → Option Switch → Given → Except Stop (Given × Rest)
  | [], none, g => .ok (g, none)
  | [], some _, _ => .error .usageError
  | a :: as, some o, g =>
    if isOption a then .error .usageError
    else
      match g.take o a with
      | .error e => .error e
      | .ok g => readArguments s as none g
  | a :: as, none, g =>
    match (if s = .top then Scope.ofName? a else none) with
    | some below => .ok (g, some (below, as))
    | none =>
      if s = .top && a == "help" then .error (helpOn as)
      else if a == "--" then (g.allOperands s as).map fun g => (g, none)
      else if isOption a then
        match readOption s a g with
        | .error e => .error e
        | .ok (g, wanting) => readArguments s as wanting g
      else
        match g.operand s a with
        | .error e => .error e
        | .ok g => readArguments s as none g

/-- Whether options that exclude each other are given in one place. -/
def Given.conflicts (g : Given) : Bool := g.has .color && g.has .noColor

/-- The format that is given. -/
def Given.format (g : Given) : OutputFormat := ((g.value? .format).bind OutputFormat.ofName?).getD .human

/-- What is to be done in a place. -/
def Given.action? (g : Given) : Scope → Option Action
  | .top => none
  | .serve => some .serve
  | .lint => g.operands.head?.map fun file => .lint file g.format
  | .info => some (.info g.operands.head? g.format)

/-- What the user asks for with some arguments. -/
def Invocation.ofArguments (arguments : List String) : Except Stop Invocation :=
  match readArguments .top arguments none .nothing with
  | .error e => .error e
  | .ok (_, none) => .error .usageError
  | .ok (top, some (scope, rest)) =>
    match readArguments scope rest none .nothing with
    | .error e => .error e
    | .ok (below, _) =>
      match below.action? scope with
      | none => .error .usageError
      | some action =>
        if top.conflicts || below.conflicts then .error .usageError
        else
          .ok {
            config := (below.value? .config).orElse fun _ => top.value? .config
            color := top.has .color || below.has .color
            noColor := top.has .noColor || below.has .noColor
            quiet := top.has .quiet || below.has .quiet
            action := action }

end ElixirLint.Cli
