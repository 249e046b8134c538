import ElixirLint.Issue

/-!
# Reports

What the commands of the linter print as JSON: the issues of a project, the issues that are new, fixed or old
compared with a revision, and what the linter would look at. A findings report is one of the first two, and the
issues worth showing are all of the one and the new ones of the other.
-/

namespace ElixirLint

open Json

/-- The report of all issues. -/
structure SuggestReport where
  /-- The issues found. -/
  issues : List Issue
  deriving Repr

/-- Issues by how they relate to the revision compared with. -/
structure IssueGroups where
  /-- Issues that are not in the revision. -/
  new : List Issue
  /-- Issues that are only in the revision. -/
  fixed : List Issue
  /-- Issues in both. -/
  old : List Issue
  deriving Repr

/-- The report of issues compared with a revision. -/
structure DiffReport where
  /-- The issues by group. -/
  groups : IssueGroups
  deriving Repr

/-- What the linter would look at: its checks and the files, relative to the project folder. -/
structure Coverage where
  /-- The checks with their parameters, as they are. -/
  checks : List Json
  /-- The files, with slashes between folders. -/
  files : List String
  deriving Repr

/-- The versions of the tools involved. -/
structure Versions where
  /-- The version of the linter. -/
  credo : String
  /-- The version of the language. -/
  elixir : String
  /-- The release of the runtime. -/
  erlang : String
  deriving DecidableEq, Repr

/-- What the linter tells about a project. -/
structure ProjectInfo where
  /-- The checks and files. -/
  coverage : Coverage
  /-- The versions. -/
  versions : Versions
  deriving Repr

/-- A report of findings, of either kind. -/
inductive Findings
  | suggest (report : SuggestReport)
  | diff (report : DiffReport)
  deriving Repr

/-- The issues to show: all that are suggested, and only the new ones of a comparison. -/
def Findings.issues : Findings → List Issue
  | .suggest r => r.issues
  | .diff r => r.groups.new

/-- Issues as a JSON array. -/
def issuesJson (issues : List Issue) : Json := .array (issues.map Issue.toJson)

namespace SuggestReport

/-- How the report is read. -/
def record : Json.Record SuggestReport where
  name := "CredoOutput"
  initial := ⟨[]⟩
  fields := [.of "issues" (.list Issue.decoder) fun is r => { r with issues := is }]

/-- Reads the report. -/
def decoder : Json.Decoder SuggestReport := record.decoder

/-- The report as JSON. -/
def toJson (r : SuggestReport) : Json := .object [("issues", issuesJson r.issues)]

end SuggestReport

namespace IssueGroups

/-- How the groups are read. -/
def record : Json.Record IssueGroups where
  name := "DiffIssues"
  initial := ⟨[], [], []⟩
  fields :=
    [.of "new" (.list Issue.decoder) fun is g => { g with new := is },
     .of "fixed" (.list Issue.decoder) fun is g => { g with fixed := is },
     .of "old" (.list Issue.decoder) fun is g => { g with old := is }]

/-- The groups as JSON. -/
def toJson (g : IssueGroups) : Json :=
  .object [("new", issuesJson g.new), ("fixed", issuesJson g.fixed), ("old", issuesJson g.old)]

end IssueGroups

namespace DiffReport

/-- How the report is read; the groups must be there. -/
def record : Json.Record DiffReport where
  name := "CredoDiffOutput"
  initial := ⟨[], [], []⟩
  fields := [.needed "diff" IssueGroups.record.decoder fun g r => { r with groups := g }]

/-- Reads the report. -/
def decoder : Json.Decoder DiffReport := record.decoder

/-- The report as JSON. -/
def toJson (r : DiffReport) : Json := .object [("diff", r.groups.toJson)]

end DiffReport

namespace Coverage

/-- How the checks and files are read. -/
def record : Json.Record Coverage where
  name := "InfoConfig"
  initial := ⟨[], []⟩
  fields :=
    [.of "checks" (.list .json) fun cs c => { c with checks := cs },
     .of "files" (.list .string) fun fs c => { c with files := fs }]

/-- The checks and files as JSON. -/
def toJson (c : Coverage) : Json := .object [("checks", .array c.checks), ("files", .array (c.files.map .string))]

end Coverage

namespace Versions

/-- How the versions are read. -/
def record : Json.Record Versions where
  name := "SystemInfo"
  initial := ⟨"", "", ""⟩
  fields :=
    [.of "credo" Decoder.string fun s v => { v with credo := s },
     .of "elixir" Decoder.string fun s v => { v with elixir := s },
     .of "erlang" Decoder.string fun s v => { v with erlang := s }]

/-- The versions as JSON. -/
def toJson (v : Versions) : Json :=
  .object [("credo", .string v.credo), ("elixir", .string v.elixir), ("erlang", .string v.erlang)]

end Versions

namespace ProjectInfo

/-- How project information is read; the checks and files must be there. -/
def record : Json.Record ProjectInfo where
  name := "CredoInfo"
  initial := ⟨⟨[], []⟩, ⟨"", "", ""⟩⟩
  fields :=
    [.needed "config" Coverage.record.decoder fun c i => { i with coverage := c },
     .of "system" Versions.record.decoder fun v i => { i with versions := v }]

/-- Reads project information. -/
def decoder : Json.Decoder ProjectInfo := record.decoder

/-- Project information as JSON. -/
def toJson (i : ProjectInfo) : Json := .object [("config", i.coverage.toJson), ("system", i.versions.toJson)]

/-- Whether a file, named by its path relative to the project folder, is among those the linter looks at. -/
def includes (i : ProjectInfo) (relative : String) : Bool := i.coverage.files.contains relative

end ProjectInfo

end ElixirLint
