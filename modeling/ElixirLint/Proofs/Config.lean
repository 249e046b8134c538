import ElixirLint.Config.File
import ElixirLint.Proofs.Json.Printing
import ElixirLint.Proofs.Json.Records

/-!
# Configurations are read back

A configuration that has been accepted, in whatever form and under whatever names its settings were written, has no
fault; and its object is accepted again as the same configuration wherever a configuration is read: as the settings of
an editor, bare or in a section, and as a configuration file. The members of the object may stand in any order.

Main results: `Config.decoder_of_perm`, `Config.accepted_again`.
-/

namespace ElixirLint

open Json

namespace DiffMode

/-- The mode for differences is decoded again from its own JSON. -/
theorem decoder_toJson {l : Limits} (levels : l.levels ≠ 0) (d : DiffMode) :
    record.decoder l (Raw.ofJson d.toJson) = .ok d := by
  have enabled := record.sets_of (l := l.deeper) (k := "enabled") rfl rfl rfl (Decoder.boolean_ofJson d.enabled)
  have mergeBase := record.sets_of (l := l.deeper) (k := "mergeBase") rfl rfl rfl (Decoder.string_ofJson d.mergeBase)
  have members : record.SetsAll l.deeper _ record.initial d := .cons enabled (.cons mergeBase .nil)
  exact members.decoder levels (by simp) (by simp [record, RecordField.of])

end DiffMode

namespace Config

variable {l : Limits}

/-- The members of a configuration as JSON. -/
def members (c : Config) : List (String × Json) :=
  match c.toJson with
  | .object ms => ms
  | _ => []

theorem toJson_eq (c : Config) : c.toJson = .object c.members := rfl

/-- The members of a configuration with what each of them sets. -/
def settings (c : Config) : List ((String × Json) × (Config → Config)) :=
  [(("checksWithTag", .array (c.checksWithTag.map .string)), fun b => { b with checksWithTag := c.checksWithTag }),
   (("checksWithoutTag", .array (c.checksWithoutTag.map .string)),
     fun b => { b with checksWithoutTag := c.checksWithoutTag }),
   (("configurationFile", .string c.configurationFile), fun b => { b with configurationFile := c.configurationFile }),
   (("credoConfiguration", .string c.credoConfiguration), fun b => { b with credoConfiguration := c.credoConfiguration }),
   (("diffMode", c.diffMode.toJson), fun b => { b with diffMode := c.diffMode }),
   (("enableDebug", .bool c.enableDebug), fun b => { b with enableDebug := c.enableDebug }),
   (("ignoreWarningMessages", .bool c.ignoreWarningMessages),
     fun b => { b with ignoreWarningMessages := c.ignoreWarningMessages }),
   (("lintEverything", .bool c.lintEverything), fun b => { b with lintEverything := c.lintEverything })] ++
  (c.mixBinaryPath.map fun p => (("mixBinaryPath", Json.string p), fun b : Config => { b with mixBinaryPath := some p })).toList ++
  [(("mixCommand", .string c.mixCommand), fun b => { b with mixCommand := c.mixCommand }),
   (("refactorAsHint", .bool c.refactorAsHint), fun b => { b with refactorAsHint := c.refactorAsHint }),
   (("strictMode", .bool c.strictMode), fun b => { b with strictMode := c.strictMode })]

theorem map_settings (c : Config) : c.settings.map Prod.fst = c.members := by
  obtain ⟨_, path, _, _, _, _, _, _, _, _, _, _⟩ := c
  cases path <;> rfl

/-- All settings together make the configuration. -/
theorem foldl_settings (c : Config) : c.settings.foldl (fun s p => p.2 s) default = c := by
  obtain ⟨_, path, _, _, _, _, _, _, _, _, _, _⟩ := c
  cases path <;> rfl

/-- The settings of a configuration can be made in any order. -/
theorem commute_settings (c : Config) : c.settings.Pairwise fun p q => ∀ s, q.2 (p.2 s) = p.2 (q.2 s) := by
  obtain ⟨_, path, _, _, _, _, _, _, _, _, _, _⟩ := c
  cases path <;> simp [settings]

/-- Each member of the JSON makes one setting. -/
theorem sets_settings (levels : l.deeper.levels ≠ 0) (c : Config) : ∀ p ∈ c.settings, record.Sets l.deeper p.1 p.2 := by
  have withTag := record.sets_of (k := "checksWithTag") rfl rfl rfl (Decoder.list_string levels c.checksWithTag)
  have withoutTag := record.sets_of (k := "checksWithoutTag") rfl rfl rfl (Decoder.list_string levels c.checksWithoutTag)
  have file := record.sets_of (l := l.deeper) (k := "configurationFile") rfl rfl rfl
    (Decoder.string_ofJson c.configurationFile)
  have name := record.sets_of (l := l.deeper) (k := "credoConfiguration") rfl rfl rfl
    (Decoder.string_ofJson c.credoConfiguration)
  have mode := record.sets_of (k := "diffMode") rfl rfl rfl (DiffMode.decoder_toJson levels c.diffMode)
  have debug := record.sets_of (l := l.deeper) (k := "enableDebug") rfl rfl rfl (Decoder.boolean_ofJson c.enableDebug)
  have ignore := record.sets_of (l := l.deeper) (k := "ignoreWarningMessages") rfl rfl rfl
    (Decoder.boolean_ofJson c.ignoreWarningMessages)
  have everything := record.sets_of (l := l.deeper) (k := "lintEverything") rfl rfl rfl
    (Decoder.boolean_ofJson c.lintEverything)
  have command := record.sets_of (l := l.deeper) (k := "mixCommand") rfl rfl rfl (Decoder.string_ofJson c.mixCommand)
  have hint := record.sets_of (l := l.deeper) (k := "refactorAsHint") rfl rfl rfl
    (Decoder.boolean_ofJson c.refactorAsHint)
  have strict := record.sets_of (l := l.deeper) (k := "strictMode") rfl rfl rfl (Decoder.boolean_ofJson c.strictMode)
  have path (p : String) := record.sets_of (l := l.deeper) (k := "mixBinaryPath") rfl rfl rfl
    (Decoder.optional_path p)
  have paths : ∀ p ∈ (c.mixBinaryPath.map fun p =>
      (("mixBinaryPath", Json.string p), fun b : Config => { b with mixBinaryPath := some p })).toList,
      record.Sets l.deeper p.1 p.2 := by
    cases c.mixBinaryPath with
    | none => exact nofun
    | some p => exact List.forall_mem_singleton.mpr (path p)
  simp only [settings, List.forall_mem_append, List.forall_mem_cons]
  exact ⟨⟨⟨withTag, withoutTag, file, name, mode, debug, ignore, everything, nofun⟩, paths⟩,
    command, hint, strict, nofun⟩

/-- A configuration is read from the object of its members, in whatever order they stand. -/
theorem decoder_of_perm {c : Config} {ms : List (String × Json)} (perm : ms.Perm c.members) (levels : 2 ≤ l.levels) :
    decoder l (Raw.ofJson (.object ms)) = .ok c := by
  have deep : l.deeper.levels ≠ 0 := by
    simp only [Limits.deeper]
    omega
  have keys : (c.settings.map (·.1.1)).Nodup := by
    obtain ⟨_, path, _, _, _, _, _, _, _, _, _, _⟩ := c
    cases path <;> exact of_decide_eq_true rfl
  have read := record.decoder_of_perm (l := l) (by omega) (map_settings c ▸ perm) (sets_settings deep c)
    (commute_settings c) keys (by simp [record, RecordField.of, binaryPathField])
  exact read.trans (congrArg Except.ok (foldl_settings c))

/-! ## Everywhere a configuration is read -/

/-- The members can be spelled in any order. -/
theorem spellable_of_perm {c : Config} {ms : List (String × Json)} (perm : ms.Perm c.members) :
    Spellable (.object ms) := by
  have mode : Spellable c.diffMode.toJson := by
    refine .object ?_
    simp only [List.forall_mem_cons]
    exact ⟨.bool _, .string _, nofun⟩
  have paths : ∀ m ∈ (c.mixBinaryPath.map fun p => ("mixBinaryPath", Json.string p)).toList, Spellable m.2 := by
    cases c.mixBinaryPath with
    | none => exact nofun
    | some p => exact List.forall_mem_singleton.mpr (.string p)
  have members : ∀ m ∈ c.members, Spellable m.2 := by
    simp only [members, toJson, List.forall_mem_append, List.forall_mem_cons]
    exact ⟨⟨⟨spellable_strings _, spellable_strings _, .string _, .string _, mode, .bool _, .bool _, .bool _, nofun⟩,
      paths⟩, .string _, .bool _, .bool _, nofun⟩
  exact .object fun m hm => members m (perm.subset hm)

/-- An accepted configuration has no fault. -/
theorem fault?_of_ofSettings {settings : Json} {c : Config} (h : ofSettings settings = .ok c) : c.fault? = none := by
  unfold ofSettings at h
  split at h
  · cases h
    decide
  split at h
  · cases h
  split at h
  · cases h
  · cases h
    assumption

/-- A configuration that is read from a text has no fault. -/
theorem fault?_of_ofText {contents : String} {path : Path} {c : Config} (h : ofText contents path = .ok c) :
    c.fault? = none := by
  unfold ofText at h
  split at h
  · cases h
  split at h
  · cases h
  split at h
  · cases h
  · cases h
    assumption

/-- The tree of an object is nested deeper than the tree of any of its members. -/
theorem depth_lt_of_mem {ms : List (String × Json)} {m : String × Json} (h : m ∈ ms) :
    (Raw.ofJson m.2).depth < (Raw.ofJson (.object ms)).depth := by
  have inner : (Raw.ofJson m.2).depth ≤ Raw.depthMembers (Raw.ofMembers ms) := by
    induction ms with
    | nil => cases h
    | cons n ms ih =>
      rcases List.mem_cons.mp h with rfl | h
      · exact Nat.le_max_left _ _
      · exact Nat.le_trans (ih h) (Nat.le_max_right _ _)
  exact Nat.lt_succ_of_le inner

/-- A configuration without a fault is accepted where its object is the section of some settings. -/
theorem ofSettings_of_section {settings : Json} {c : Config} {ms : List (String × Json)} (perm : ms.Perm c.members)
    (sound : c.fault? = none) (h : settingsSection settings = .object ms) : ofSettings settings = .ok c := by
  have levels : 2 ≤ (Raw.ofJson (.object ms)).depth := by
    have tags : ("checksWithTag", Json.array (c.checksWithTag.map .string)) ∈ ms := perm.mem_iff.mpr (.head _)
    have nested : 1 ≤ (Raw.ofJson (.array (c.checksWithTag.map .string))).depth := Nat.succ_le_succ (Nat.zero_le _)
    exact Nat.lt_of_le_of_lt nested (depth_lt_of_mem tags)
  have read : decodeValue decoder (.object ms) = .ok c := decoder_of_perm perm levels
  unfold ofSettings
  simp only [h, read, sound]

/-- No member of a configuration is taken for a section. -/
theorem settingsSection_object {c : Config} {ms : List (String × Json)} (perm : ms.Perm c.members) :
    settingsSection (.object ms) = .object ms := by
  have keys : ∀ m ∈ c.members, m.1 ≠ "elixir" ∧ m.1 ≠ "credo" := by
    obtain ⟨_, path, _, _, _, _, _, _, _, _, _, _⟩ := c
    cases path <;> simp [members, toJson]
  have missing (key : String) (other : ∀ m ∈ c.members, m.1 ≠ key) : ms.lookup key = none := by
    refine List.lookup_eq_none_iff.mpr fun m hm => ?_
    simpa using Ne.symm (other m (perm.subset hm))
  simp [settingsSection, get?, missing "elixir" fun m hm => (keys m hm).1, missing "credo" fun m hm => (keys m hm).2]

/-- A configuration that has been accepted, from the settings of an editor or from the text of a file, has no fault. Its
object, the members in any order, is accepted again as the same configuration: bare, as the section for the linter, as
that section among the settings for the language, and printed in any layout as the text of a file. -/
theorem accepted_again (c : Config)
    (accepted : (∃ settings, ofSettings settings = .ok c) ∨ ∃ contents path, ofText contents path = .ok c) :
    c.fault? = none ∧ ∃ members, c.toJson = .object members ∧ ∀ ms : List (String × Json), ms.Perm members →
      ofSettings (.object ms) = .ok c ∧
      ofSettings (.object [("credo", .object ms)]) = .ok c ∧
      ofSettings (.object [("elixir", .object [("credo", .object ms)])]) = .ok c ∧
      ∀ text ∈ (Json.object ms).layouts, ∀ path, ConfigFormat.ofPath? path = some .json → ofText text path = .ok c := by
  have sound : c.fault? = none := by
    rcases accepted with ⟨settings, h⟩ | ⟨contents, path, h⟩
    · exact fault?_of_ofSettings h
    · exact fault?_of_ofText h
  refine ⟨sound, c.members, c.toJson_eq, fun ms perm => ⟨?_, ?_, ?_, fun text ht path format => ?_⟩⟩
  · exact ofSettings_of_section perm sound (settingsSection_object perm)
  · exact ofSettings_of_section perm sound rfl
  · exact ofSettings_of_section perm sound rfl
  · obtain ⟨cs, rfl, spells⟩ := (spellable_of_perm perm).spells_layout ht
    have read : (ConfigFormat.json.read? (String.ofList cs)).bind
        (fun v => (decoder (ConfigFormat.json.limits v) v).toOption) = some c := by
      rw [ConfigFormat.read?, spells.ofText?]
      exact congrArg Except.toOption (decoder_of_perm perm (Nat.le_of_ble_eq_true rfl))
    unfold ofText
    simp only [format, read, sound]

/-- A configuration in a file of tables, where a table holds one of its settings. -/
def tabled : String := "strictMode=true\nexecutePath='/\\'\n[diffMode]\nmergeBase=\"\\u00e9\""

/-- What that file configures. -/
def strict : Config :=
  { default with strictMode := true, mixBinaryPath := some "/\\", diffMode := ⟨false, "é"⟩ }

/-- The configuration from a file of tables is accepted again in every form, with its members in reverse order. -/
theorem accepted_again_tabled :
    ofText tabled (.ofString "a.toml") = .ok strict ∧ strict.fault? = none ∧
      ofSettings (.object strict.members.reverse) = .ok strict ∧
      ofSettings (.object [("credo", .object strict.members.reverse)]) = .ok strict ∧
      ofSettings (.object [("elixir", .object [("credo", .object strict.members.reverse)])]) = .ok strict ∧
      ofText (Json.object strict.members.reverse).compact (.ofString "a.json") = .ok strict := by
  have accepted : ofText tabled (.ofString "a.toml") = .ok strict := by decide +kernel
  obtain ⟨sound, members, same, again⟩ := accepted_again strict (.inr ⟨_, _, accepted⟩)
  obtain rfl : strict.members = members := Json.object.inj (strict.toJson_eq.symm.trans same)
  obtain ⟨bare, credo, elixir, text⟩ := again _ (List.reverse_perm _)
  exact ⟨accepted, sound, bare, credo, elixir, text _ (.head _) _ (by decide +kernel)⟩

end Config

end ElixirLint
