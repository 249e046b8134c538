import ElixirLint.Host.Arithmetic
import ElixirLint.Host.Pattern
import ElixirLint.Host.Shell

/-!
# Expansion of words

From the words of a script to the words of a command. Parameters, commands and expressions are replaced; what comes out
of them is split into fields unless it is quoted; names of files take the place of patterns; and quotation marks are
left out. Between these steps a word is a list of `Mark`s, which say of every character whether it is quoted and whether
it may separate fields.
-/

namespace ElixirLint.Host

/-- A part of a word while it is expanded. -/
inductive Mark
  | char (c : Char) (quoted splits : Bool)
  /-- Something that is there even if it comes to nothing. -/
  | edge
  /-- The end of a parameter before another one. -/
  | gap
  deriving DecidableEq, Repr

/-- What runs a command in a word and gives what it prints. -/
abbrev OutputOf := Command → Run String

namespace Expansion

/-- The marks of a value. -/
def ofValue (quoted : Bool) (s : String) : List Mark := s.toList.map fun c => .char c quoted (!quoted)

/-- The characters of marks, each with whether it is quoted. -/
def charsOf (ms : List Mark) : Quotable :=
  ms.filterMap fun m => match m with | .char c quoted _ => some (c, quoted) | _ => none

/-- The text of marks. -/
def textOf (ms : List Mark) : String := String.ofList ((charsOf ms).map (·.1))

/-! ### Parameters -/

/-- The value of a parameter as one text; none if it has no value. -/
def parameter? (name : String) : Run (Option String) := do
  let s ← get
  match name with
  | "@" => return some (" ".intercalate s.parameters)
  | "*" => return some ((String.ofList ((← Run.separators).take 1)).intercalate s.parameters)
  | "#" => return some (toString s.parameters.length)
  | "?" => return some (toString s.status)
  | "$" => return some (toString s.process)
  | "-" => return some (String.ofList s.options)
  | _ =>
    match decimal? name with
    | some 0 => return some s.name
    | some (n + 1) => return s.parameters[n]?
    | none => Run.value? name

/-- The marks of a parameter; none if it has no value. All parameters at once are one field each where fields count. -/
def parameterMarks? (name : String) (quoted fields : Bool) : Run (Option (List Mark)) := do
  if fields && (name = "@" || (name = "*" && !quoted)) then
    let all := (← get).parameters.map fun p => if quoted then .edge :: ofValue true p else ofValue false p
    return some ([Mark.gap].intercalate all)
  else return (← parameter? name).map (ofValue quoted)

/-- A parameter that has no value comes to nothing, unless an option forbids that. -/
def absent (name : String) : Run (List Mark) := do
  if (← Run.hasOption 'u') && name ≠ "@" && name ≠ "*" then Run.fail (name ++ ": parameter not set") else return []

/-- What the value of a parameter is when another word may take its place; `other` expands that word. -/
def substituted (name : String) (kind : Substitute) (emptyToo quoted : Bool) (value : Option (List Mark))
    (other : Run (List Mark)) : Run (List Mark) := do
  let present := value.filter fun ms => !emptyToo || !(charsOf ms).isEmpty
  match kind, present with
  | .alternative, some _ => other
  | .alternative, none => return []
  | _, some ms => return ms
  | .default, none => other
  | .demand, none =>
    let message := textOf (← other)
    let usual := if emptyToo then "parameter not set or null" else "parameter not set"
    Run.fail (name ++ ": " ++ if message = "" then usual else message)
  | .assign, none =>
    let text := textOf (← other)
    if isName name then Run.assign name text false else Run.fail (name ++ ": bad variable name")
    return ofValue quoted text

/-- The marks of a word; `splits` is whether its text may separate fields, and `fields` whether fields count. -/
def marksOf (outputOf : OutputOf) : Nat → Bool → Bool → Word → Run (List Mark)
  | 0, _, _, _ => throw .exhausted
  | fuel + 1, splits, fields, w => do
    let parts ← w.mapM fun p => do
      match p with
      | .text s quoted => return s.toList.map fun c => Mark.char c quoted (splits && !quoted)
      | .mark => return [.edge]
      | .output c quoted => return ofValue quoted (← outputOf c)
      | .number e quoted =>
        let text := textOf (← marksOf outputOf fuel false false e)
        let bindings := (← get).bindings
        match Arithmetic.value (fun name => (bindings.lookup name).bind (·.value)) text with
        | .ok n => return ofValue quoted (toString n)
        | .error m => Run.fail m
      | .parameter name use quoted =>
        match use with
        | .value =>
          match ← parameterMarks? name quoted fields with
          | some ms => return ms
          | none => absent name
        | .length =>
          match ← parameter? name with
          | some s => return ofValue quoted (toString s.length)
          | none => return (← absent name) ++ ofValue quoted "0"
        | .substitute kind emptyToo word =>
          let value ← parameterMarks? name quoted fields
          substituted name kind emptyToo quoted value (marksOf outputOf fuel (!quoted) fields word)
        | .trimmed front longest pattern =>
          match ← parameter? name with
          | some s =>
            let ps := Pattern.ofChars (charsOf (← marksOf outputOf fuel false false pattern))
            return ofValue quoted (String.ofList (Pattern.trim front longest ps s.toList))
          | none => absent name
    return parts.flatten

/-! ### Fields -/

/-- What has been split into fields. -/
structure Splitting where
  /-- The fields that have ended, the last first. -/
  ended : List Quotable
  /-- The field that has begun, its last character first. -/
  field : Quotable
  /-- Whether a field has begun. -/
  begun : Bool
  /-- Whether a field has just ended with blank space, so that one more separator belongs to its end. -/
  open? : Bool

namespace Splitting

/-- Ends a field. -/
def finish (blank : Bool) (s : Splitting) : Splitting := ⟨s.field.reverse :: s.ended, [], false, blank⟩

/-- One mark. -/
def step (separators : List Char) (s : Splitting) (m : Mark) : Splitting :=
  match m with
  | .edge => { s with begun := true, open? := false }
  | .gap => if s.begun then s.finish true else s
  | .char c quoted splits =>
    if splits && separators.contains c then
      if Run.usualSeparators.contains c then (if s.begun then s.finish true else s)
      else if !s.begun && s.open? then { s with open? := false }
      else s.finish false
    else { s with field := (c, quoted) :: s.field, begun := true, open? := false }

end Splitting

/-- The fields of marks. -/
def fieldsOfMarks (separators : List Char) (ms : List Mark) : List Quotable :=
  let s := ms.foldl (Splitting.step separators) ⟨[], [], false, false⟩
  (if s.begun then s.finish false else s).ended.reverse

/-- The words that a field comes to: the paths that match it, or the field itself. Only the last name of a path may be a
pattern, and names that begin with a dot are matched only by a dot. -/
def pathsOf (t : FileTree) (field : Quotable) : List String :=
  let name := (field.reverse.takeWhile (·.1 ≠ '/')).reverse
  let front := String.ofList ((field.take (field.length - name.length)).map (·.1))
  let itself := String.ofList (field.map (·.1))
  let ps := Pattern.ofChars name
  -- A pattern may spell the dot out; no other part of it stands for a dot at the front.
  let isShown (n : String) : Bool := ps.head? == some (.one '.') || !n.startsWith "."
  match Pattern.isPattern name, t.at? (if front = "" then "." else front) with
  | true, .ok (names, .directory) =>
    match (t.namesIn names).filter fun n => isShown n && Pattern.isMatch ps n.toList with
    | [] => [itself]
    | found => found.map (front ++ ·)
  | _, _ => [itself]

/-! ### Words -/

/-- How deep words may be nested. -/
def depth : Nat := 200

/-- The words of a command that a word of a script comes to. -/
def fields (outputOf : OutputOf) (w : Word) : Run (List String) := do
  let ms ← marksOf outputOf depth false true w
  let found := fieldsOfMarks (← Run.separators) ms
  if ← Run.hasOption 'f' then return found.map fun cs => String.ofList (cs.map (·.1))
  else return found.flatMap (pathsOf (← get).tree)

/-- The one text that a word of a script comes to. -/
def text (outputOf : OutputOf) (w : Word) : Run String := do return textOf (← marksOf outputOf depth false false w)

/-- The pattern that a word of a script comes to. -/
def pattern (outputOf : OutputOf) (w : Word) : Run (List PatternPart) := do
  return Pattern.ofChars (charsOf (← marksOf outputOf depth false false w))

end Expansion

end ElixirLint.Host
