import ElixirLint.Json.Decode

/-!
# Issues

One finding of the linter as it reports it: a category, the check that fired, a message, and where it is. Lines and
columns count from one, and both columns are missing when the linter could not tell them; the trigger then names the
source text at fault. The trigger is kept as it was reported, because it is not always a text.
-/

namespace ElixirLint

/-- The category of an issue, which ranks it. -/
inductive Category
  | consistency
  | design
  | readability
  | refactor
  | warning
  /-- A category that is not known here. -/
  | other (name : String)
  deriving DecidableEq, Repr

namespace Category

/-- The category that a name stands for. -/
def ofName (name : String) : Category :=
  if name = "consistency" then .consistency
  else if name = "design" then .design
  else if name = "readability" then .readability
  else if name = "refactor" then .refactor
  else if name = "warning" then .warning
  else .other name

/-- The name of a category. -/
def name : Category → String
  | .consistency => "consistency"
  | .design => "design"
  | .readability => "readability"
  | .refactor => "refactor"
  | .warning => "warning"
  | .other name => name

/-- Every name is the name of its category. -/
theorem name_ofName (n : String) : (ofName n).name = n := by
  unfold ofName
  split
  · simp_all [name]
  split
  · simp_all [name]
  split
  · simp_all [name]
  split
  · simp_all [name]
  split
  · simp_all [name]
  · rfl

end Category

/-- One finding of the linter. -/
structure Issue where
  /-- What kind of finding it is. -/
  category : Category
  /-- The check that fired. -/
  check : String
  /-- What is wrong. -/
  message : String
  /-- The file it was found in. -/
  filename : Option String
  /-- The line, from one. -/
  lineNo : Option Int
  /-- The first column, from one. -/
  column : Option Int
  /-- The column behind the last one, from one. -/
  columnEnd : Option Int
  /-- How much the linter cares. -/
  priority : Int
  /-- What in the source set the check off, usually a text. -/
  trigger : Option Json
  /-- The module or function around it. -/
  scope : Option String
  deriving Repr

namespace Issue

/-- The issue from which reading starts: nothing known. -/
def blank : Issue := ⟨.other "", "", "", none, none, none, none, 0, none, none⟩

/-- The trigger, if it is a text. -/
def triggerText (i : Issue) : Option String := i.trigger.bind Json.string?

/-- Whether the linter gave no column at all. -/
def lacksColumns (i : Issue) : Bool := i.column.isNone && i.columnEnd.isNone

open Json in
/-- How an issue is read. Category, check and message must be there. -/
def record : Json.Record Issue where
  name := "Issue"
  initial := blank
  fields :=
    [.needed "category" Decoder.string fun n i => { i with category := .ofName n },
     .needed "check" Decoder.string fun s i => { i with check := s },
     .needed "message" Decoder.string fun s i => { i with message := s },
     .of "filename" (.optional .string) fun s i => { i with filename := s },
     .of "line_no" (.optional .integer) fun n i => { i with lineNo := n },
     .of "column" (.optional .integer) fun n i => { i with column := n },
     .of "column_end" (.optional .integer) fun n i => { i with columnEnd := n },
     .of "priority" Decoder.integer fun n i => { i with priority := n },
     .of "trigger" (.optional .json) fun v i => { i with trigger := v },
     .of "scope" (.optional .string) fun s i => { i with scope := s }]

/-- Reads an issue. -/
def decoder : Json.Decoder Issue := record.decoder

/-- An issue with all its fields, in the order of declaration. -/
def members (i : Issue) : List (String × Json) :=
  [("category", .string i.category.name), ("check", .string i.check), ("message", .string i.message),
   ("filename", .ofOptionString i.filename), ("line_no", .ofOptionInt i.lineNo), ("column", .ofOptionInt i.column),
   ("column_end", .ofOptionInt i.columnEnd), ("priority", .int i.priority), ("trigger", i.trigger.getD .null),
   ("scope", .ofOptionString i.scope)]

/-- An issue as a JSON object. -/
def toJson (i : Issue) : Json := .object i.members

end Issue

end ElixirLint
