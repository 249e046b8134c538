import ElixirLint.Severity

/-!
# Styled text

Text for a terminal, in bold or in color, and when to use either. What the user asks for decides first; then three
variables, of which the first forbids colors, the second asks for them everywhere and the third forbids them again; and
last whether there is a terminal.
-/

namespace ElixirLint.Cli

/-- The colors of text. -/
inductive Color
  | red
  | green
  | yellow
  | blue
  | cyan
  deriving DecidableEq, Repr

/-- How text looks. -/
structure Style where
  /-- Whether it is bold. -/
  bold : Bool
  /-- Its color. -/
  color : Option Color
  deriving DecidableEq, Repr

/-- The number of a color for terminals. -/
def Color.code : Color → String
  | .red => "31"
  | .green => "32"
  | .yellow => "33"
  | .blue => "34"
  | .cyan => "36"

namespace Style

/-- Text in one color. -/
def plain (c : Color) : Style := ⟨false, some c⟩

/-- Bold text in one color. -/
def strong (c : Color) : Style := ⟨true, some c⟩

/-- The numbers of a style for terminals. -/
def codes (s : Style) : List String := (if s.bold then ["1"] else []) ++ (s.color.map Color.code).toList

/-- The sequence that ends all styles. -/
def reset : String := "\x1b[0m"

/-- The sequence that begins a style. -/
def opening (s : Style) : String := "\x1b[" ++ ";".intercalate s.codes ++ "m"

/-- Text in a style, if styles are used. Where a style ends inside the text, this one begins again. -/
def paint (s : Style) (styled : Bool) (text : String) : String :=
  if styled then s.opening ++ (reset ++ s.opening).intercalate (text.splitOn reset) ++ reset else text

/-- How the name of a severity looks. -/
def ofSeverity : Severity → Style
  | .error => strong .red
  | .warning => strong .yellow
  | .information => strong .blue
  | .hint => plain .cyan

end Style

/-- Whether styles are used. -/
def usesStyles (wanted unwanted : Bool) (lookup : String → Option String) (terminal : Bool) : Bool :=
  if wanted then true
  else if unwanted || (lookup "NO_COLOR").isSome then false
  else
    match lookup "CLICOLOR_FORCE" with
    | some v => v != "0" || (lookup "CLICOLOR" != some "0" && terminal)
    | none => lookup "CLICOLOR" != some "0" && terminal

end ElixirLint.Cli
