import ElixirLint.Config.Basic
import ElixirLint.FileTree
import ElixirLint.Toml.Text

/-!
# Configuration files

A configuration file lies in the directory where the linter is used or in one above it. `Config.findFile` picks the
nearest, and `Config.load` reads it in the format that the extension of its name tells.
-/

namespace ElixirLint

/-- The formats of configuration files. -/
inductive ConfigFormat
  | toml
  | json
  deriving DecidableEq, Repr

namespace ConfigFormat

/-- The format that the extension of a file name tells. -/
def ofPath? (p : Path) : Option ConfigFormat :=
  match p.extension? with
  | none => none
  | some e =>
    if e = Text.utf8Bytes "toml" then some .toml else if e = Text.utf8Bytes "json" then some .json else none

/-- The tree of a text in a format. -/
def read? : ConfigFormat → String → Option Json.Raw
  | .toml, s => (Toml.ofText? s).map Toml.toRaw
  | .json, s => Json.Raw.ofText? s

/-- The bounds for decoding a tree. Tables come from a text that is bounded itself, and an array of theirs may hold more
than is looked for. -/
def limits : ConfigFormat → Json.Raw → Json.Limits
  | .toml, v => ⟨v.depth, .passed⟩
  | .json, _ => ⟨Json.Raw.maxLevels, .refused⟩

end ConfigFormat

/-- Why a configuration file gives no configuration. -/
inductive ConfigError
  | unreadable (error : ReadError)
  | unsupported (path : Path)
  | undecodable (path : Path) (format : ConfigFormat)
  | faulty (path : Path) (fault : ConfigFault)
  deriving DecidableEq, Repr

namespace ConfigError

/-- What went wrong with a file of no use. -/
def invalidAt (path : Path) (what : String) : String := "Invalid config at " ++ path.display ++ ": " ++ what

/-- The message of the error. What exactly a text lacks is not told. -/
def message : ConfigError → String
  | .unreadable e => "Failed to read config file: " ++ e.message
  | .unsupported path => "Unsupported config file format: " ++ path.display
  | .undecodable path .toml => invalidAt path "TOML parse error"
  | .undecodable path .json => invalidAt path "JSON parse error"
  | .faulty path fault => invalidAt path fault.message

end ConfigError

namespace Config

/-- The names of configuration files, the preferred one first. -/
def fileNames : List String := [".credo-ls.toml", ".credo-ls.json"]

/-- The configuration file in one directory. -/
def fileIn (t : FileTree) (directory : Path) : Option Path :=
  (fileNames.map fun n => directory.join (.ofString n)).find? t.isFile

/-- The configuration file for a directory: in it, or in the nearest directory above that has one. -/
def findFile (t : FileTree) (start : Path) : Option Path := start.ancestors.findSome? (fileIn t)

/-- The configuration in a text; its format and the messages follow the path. -/
def ofText (contents : String) (path : Path) : Except ConfigError Config :=
  match ConfigFormat.ofPath? path with
  | none => .error (.unsupported path)
  | some format =>
    match (format.read? contents).bind fun v => (decoder (format.limits v) v).toOption with
    | none => .error (.undecodable path format)
    | some c =>
      match c.fault? with
      | some f => .error (.faulty path f)
      | none => .ok c

/-- The configuration in a file. -/
def load (t : FileTree) (path : Path) : Except ConfigError Config :=
  match t.readText path with
  | .error e => .error (.unreadable e)
  | .ok contents => ofText contents path

end Config

end ElixirLint
