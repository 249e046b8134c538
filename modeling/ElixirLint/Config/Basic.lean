import ElixirLint.Json.Decode
import ElixirLint.Text.Blank
import ElixirLint.Text.Quoted

/-!
# Configuration

What a user can set. Every setting has a default, so that nothing need be set. A configuration that decodes may still
be of no use, so it is checked. Editors send it as a section of their settings or bare; `Config.ofSettings` takes the
section out, decodes it and checks the result.
-/

namespace ElixirLint

open Json

/-- Whether only issues that are new since a revision are reported. -/
structure DiffMode where
  /-- Whether issues are compared with a revision. -/
  enabled : Bool
  /-- The revision to compare with. -/
  mergeBase : String
  deriving DecidableEq, Repr

/-- The settings of the linter. -/
structure Config where
  /-- The program that builds projects: a name to look for, or a path. -/
  mixCommand : String
  /-- A directory more in which programs are looked for. -/
  mixBinaryPath : Option String
  /-- The configuration file of the linter itself. -/
  configurationFile : String
  /-- The configuration to use out of that file. -/
  credoConfiguration : String
  /-- Whether checks of low priority run too. -/
  strictMode : Bool
  /-- Checks run only if they have one of these tags. -/
  checksWithTag : List String
  /-- Checks with one of these tags do not run. -/
  checksWithoutTag : List String
  /-- Whether warnings of the linter are kept from the user. -/
  ignoreWarningMessages : Bool
  /-- Whether files are linted that the project does not list. -/
  lintEverything : Bool
  /-- Whether the log tells details. -/
  enableDebug : Bool
  /-- Whether and with what issues are compared. -/
  diffMode : DiffMode
  /-- Whether opportunities for refactoring are only hints. -/
  refactorAsHint : Bool
  deriving DecidableEq, Repr

/-- Why a configuration is of no use. -/
inductive ConfigFault
  | emptyMixCommand
  | emptyMergeBase
  | emptyTag (tag : String)
  deriving DecidableEq, Repr

/-- The message for a configuration of no use. -/
def ConfigFault.message : ConfigFault → String
  | .emptyMixCommand => "mixCommand must not be empty"
  | .emptyMergeBase => "diffMode.mergeBase must not be empty when diff mode is enabled"
  | .emptyTag tag => "check tags must not be empty (got " ++ Text.quoted tag ++ ")"

/-- Why the settings of an editor are refused. -/
inductive SettingsError
  /-- They do not decode. -/
  | undecodable (error : DecodeError)
  /-- They are of no use. -/
  | faulty (fault : ConfigFault)
  deriving DecidableEq, Repr

/-- The message for settings that are refused. -/
def SettingsError.message (e : SettingsError) : String :=
  "Invalid editor settings: " ++
    match e with
    | .undecodable error => error.message
    | .faulty fault => fault.message

namespace DiffMode

/-- Comparing is off; the revision would be the last one. -/
def default : DiffMode := ⟨false, "HEAD"⟩

/-- How the mode is read. -/
def record : Json.Record DiffMode where
  name := "DiffMode"
  initial := default
  fields :=
    [.of "enabled" Decoder.boolean fun b d => { d with enabled := b },
     .of "mergeBase" Decoder.string fun s d => { d with mergeBase := s }]

/-- The mode as JSON. -/
def toJson (d : DiffMode) : Json := .object [("enabled", .bool d.enabled), ("mergeBase", .string d.mergeBase)]

end DiffMode

namespace Config

/-- Nothing is set. -/
def default : Config where
  mixCommand := "mix"
  mixBinaryPath := none
  configurationFile := ".credo.exs"
  credoConfiguration := "default"
  strictMode := false
  checksWithTag := []
  checksWithoutTag := []
  ignoreWarningMessages := false
  lintEverything := false
  enableDebug := false
  diffMode := .default
  refactorAsHint := false

/-- The directory setting, which has an older name too. -/
def binaryPathField : Json.RecordField Config :=
  { RecordField.of "mixBinaryPath" (Decoder.optional .path) fun p (c : Config) => { c with mixBinaryPath := p } with
    aliases := ["executePath"] }

/-- How a configuration is read. -/
def record : Json.Record Config where
  name := "CredoConfig"
  initial := default
  fields :=
    [.of "mixCommand" Decoder.string fun s c => { c with mixCommand := s },
     binaryPathField,
     .of "configurationFile" Decoder.string fun s c => { c with configurationFile := s },
     .of "credoConfiguration" Decoder.string fun s c => { c with credoConfiguration := s },
     .of "strictMode" Decoder.boolean fun b c => { c with strictMode := b },
     .of "checksWithTag" (.list .string) fun ts c => { c with checksWithTag := ts },
     .of "checksWithoutTag" (.list .string) fun ts c => { c with checksWithoutTag := ts },
     .of "ignoreWarningMessages" Decoder.boolean fun b c => { c with ignoreWarningMessages := b },
     .of "lintEverything" Decoder.boolean fun b c => { c with lintEverything := b },
     .of "enableDebug" Decoder.boolean fun b c => { c with enableDebug := b },
     .of "diffMode" DiffMode.record.decoder fun d c => { c with diffMode := d },
     .of "refactorAsHint" Decoder.boolean fun b c => { c with refactorAsHint := b }]

/-- Reads a configuration. -/
def decoder : Json.Decoder Config := record.decoder

/-- A configuration as JSON; the directory setting is left out when it is not set. -/
def toJson (c : Config) : Json :=
  .object <|
    [("checksWithTag", .array (c.checksWithTag.map .string)),
     ("checksWithoutTag", .array (c.checksWithoutTag.map .string)),
     ("configurationFile", .string c.configurationFile),
     ("credoConfiguration", .string c.credoConfiguration),
     ("diffMode", c.diffMode.toJson),
     ("enableDebug", .bool c.enableDebug),
     ("ignoreWarningMessages", .bool c.ignoreWarningMessages),
     ("lintEverything", .bool c.lintEverything)] ++
    (c.mixBinaryPath.map fun p => ("mixBinaryPath", Json.string p)).toList ++
    [("mixCommand", .string c.mixCommand),
     ("refactorAsHint", .bool c.refactorAsHint),
     ("strictMode", .bool c.strictMode)]

/-- The first fault of a configuration, if it has one. -/
def fault? (c : Config) : Option ConfigFault :=
  if Text.isBlankText c.mixCommand then some .emptyMixCommand
  else if c.diffMode.enabled && Text.isBlankText c.diffMode.mergeBase then some .emptyMergeBase
  else ((c.checksWithTag ++ c.checksWithoutTag).find? Text.isBlankText).map .emptyTag

/-- The section of some settings that is meant for the linter. -/
def settingsSection (settings : Json) : Json :=
  match (settings.get? "elixir").bind (Json.get? "credo") with
  | some s => s
  | none => (settings.get? "credo").getD settings

/-- The configuration in the settings of an editor. Null settings are the defaults. -/
def ofSettings (settings : Json) : Except SettingsError Config :=
  match settingsSection settings with
  | .null => .ok default
  | v =>
    match Json.decodeValue decoder v with
    | .error e => .error (.undecodable e)
    | .ok c =>
      match c.fault? with
      | some f => .error (.faulty f)
      | none => .ok c

/-- How much the log tells. -/
def logFilter (c : Config) : String := if c.enableDebug then "debug" else "info"

end Config

end ElixirLint
