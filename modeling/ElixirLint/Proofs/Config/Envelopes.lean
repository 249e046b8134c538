import ElixirLint.Config.File
import ElixirLint.Proofs.Json.Numberless

/-!
# Where a section stands does not matter

What settings mean is what the section in them means, and so the same in every envelope: as the section for the linter
among the settings for the language, as that section alone, and bare. The text of a bare object means the same in a
configuration file: no setting is a number, and none is nested more than two levels deep, so it does not matter that
not every number is read back from its text as it was and that texts may not be nested as deep as values.

Main results: `Config.decoder_numberless`, `Config.ofText_layout`, `Config.envelopes_agree`.
-/

namespace ElixirLint

open Json

/-- The mode for differences holds no numbers. -/
theorem DiffMode.decoder_numberless (n : Nat) : DiffMode.record.decoder.Numberless (n + 1) := by
  refine Record.numberless ?_
  simp only [record, List.forall_mem_cons]
  exact ⟨.of (.boolean n), .of (.string n), nofun⟩

namespace Config

variable {v settings : Json} {text : String} {path : Path}

/-- No setting is a number, and none is nested more than two levels deep. -/
theorem decoder_numberless : decoder.Numberless 2 := by
  have boolean {name : String} {store : Bool → Config → Config} :
      (RecordField.of name Decoder.boolean store).Numberless 1 := .of (.boolean 1)
  have string {name : String} {store : String → Config → Config} :
      (RecordField.of name Decoder.string store).Numberless 1 := .of (.string 1)
  have tags {name : String} {store : List String → Config → Config} :
      (RecordField.of name (.list .string) store).Numberless 1 := .of (Decoder.Numberless.string 0).list
  have plain {store : Option String → Config → Config} :
      (RecordField.of "mixBinaryPath" Decoder.path.optional store).Numberless 1 :=
    .of (Decoder.Numberless.path 1).optional
  have path : binaryPathField.Numberless 1 := plain
  have mode {store : DiffMode → Config → Config} :
      (RecordField.of "diffMode" DiffMode.record.decoder store).Numberless 1 :=
    .of (DiffMode.decoder_numberless 0)
  refine Record.numberless ?_
  simp only [record, List.forall_mem_cons]
  exact ⟨string, path, string, string, boolean, tags, tags, boolean, boolean, boolean, mode, boolean, nofun⟩

/-! ## Settings -/

/-- Settings with the same section are the same configuration. -/
theorem ofSettings_congr {settings' : Json} (h : settingsSection settings = settingsSection settings') :
    ofSettings settings = ofSettings settings' := by
  unfold ofSettings
  rw [h]

/-- The section among the settings for the language comes first. -/
theorem settingsSection_of_elixir (h : (settings.get? "elixir").bind (get? "credo") = some v) :
    settingsSection settings = v := by
  unfold settingsSection
  simp only [h]

/-- Without it the section alone counts. -/
theorem settingsSection_of_credo (absent : (settings.get? "elixir").bind (get? "credo") = none)
    (h : settings.get? "credo" = some v) : settingsSection settings = v := by
  unfold settingsSection
  simp only [absent, h, Option.getD_some]

/-- Without both the settings are the section. -/
theorem settingsSection_bare (absent : (settings.get? "elixir").bind (get? "credo") = none)
    (missing : settings.get? "credo" = none) : settingsSection settings = settings := by
  unfold settingsSection
  simp only [absent, missing, Option.getD_none]

/-! ## Files -/

/-- A configuration is accepted from a JSON text if it is read from it and has no fault. -/
theorem ofText_json (format : ConfigFormat.ofPath? path = some .json) (c : Config) :
    ofText text path = .ok c ↔ decodeText? decoder text = some c ∧ c.fault? = none := by
  have read : ((ConfigFormat.json.read? text).bind fun v => (decoder (ConfigFormat.json.limits v) v).toOption) =
      decodeText? decoder text := by
    unfold decodeText?
    rw [ConfigFormat.read?]
    cases Raw.ofText? text <;> rfl
  unfold ofText
  simp only [format, read]
  rcases decodeText? decoder text with _ | b
  · exact ⟨nofun, fun h => nomatch h.1⟩
  · constructor
    · intro h
      dsimp only at h
      split at h
      · cases h
      · cases h
        exact ⟨rfl, ‹_›⟩
    · rintro ⟨⟨⟩, sound⟩
      simp only [sound]

/-- An object that is no envelope is accepted as settings if it is read and has no fault. -/
theorem ofSettings_object {ms : List (String × Json)} (bare : settingsSection (.object ms) = .object ms) (c : Config) :
    ofSettings (.object ms) = .ok c ↔ (decodeValue decoder (.object ms)).toOption = some c ∧ c.fault? = none := by
  unfold ofSettings
  simp only [bare]
  rcases decodeValue decoder (.object ms) with e | b
  · exact ⟨nofun, fun h => nomatch h.1⟩
  · constructor
    · intro h
      dsimp only at h
      split at h
      · cases h
      · cases h
        exact ⟨rfl, ‹_›⟩
    · rintro ⟨⟨⟩, sound⟩
      simp only [sound]

/-- The text of an object that is no envelope is accepted in a file as what the object is accepted as in settings. -/
theorem ofText_layout {ms : List (String × Json)} (bare : settingsSection (.object ms) = .object ms)
    (ht : text ∈ (Json.object ms).layouts) (format : ConfigFormat.ofPath? path = some .json) (c : Config) :
    ofText text path = .ok c ↔ ofSettings (.object ms) = .ok c := by
  rw [ofText_json format, ofSettings_object bare, decoder_numberless.decodeText?_layout (by decide) ht]

/-! ## Envelopes -/

/-- Every value means one result: as the section for the linter among the settings for the language, whatever else
stands there, as that section alone, and bare, if it is no envelope itself. Null means the defaults. What a bare object
is accepted as it is accepted as from its text in a file. -/
theorem envelopes_agree (v : Json) : ∃ result : Except SettingsError Config,
    (∀ settings : Json, (settings.get? "elixir").bind (get? "credo") = some v → ofSettings settings = result) ∧
    (∀ settings : Json, (settings.get? "elixir").bind (get? "credo") = none → settings.get? "credo" = some v →
      ofSettings settings = result) ∧
    ((v.get? "elixir").bind (get? "credo") = none → v.get? "credo" = none → ofSettings v = result) ∧
    (v = .null → result = .ok default) ∧
    ∀ ms, v = .object ms → v.get? "elixir" = none → v.get? "credo" = none → ∀ text ∈ v.layouts,
      ∀ path, ConfigFormat.ofPath? path = some .json → ∀ c, ofText text path = .ok c ↔ ofSettings v = .ok c := by
  have wrapped : settingsSection (.object [("credo", v)]) = v := rfl
  refine ⟨ofSettings (.object [("credo", v)]), fun settings section_ => ?_, fun settings absent section_ => ?_,
    fun absent missing => ?_, ?_, ?_⟩
  · exact ofSettings_congr ((settingsSection_of_elixir section_).trans wrapped.symm)
  · exact ofSettings_congr ((settingsSection_of_credo absent section_).trans wrapped.symm)
  · exact ofSettings_congr ((settingsSection_bare absent missing).trans wrapped.symm)
  · rintro rfl
    rfl
  · rintro ms rfl absent missing text ht path format c
    exact ofText_layout (settingsSection_bare (by rw [absent]; rfl) missing) ht format c

/-- Settings with a member that nothing knows, a double. -/
def halved : Json := .object [("half", .double ⟨false, 1, -1⟩), ("strictMode", .bool true)]

/-- They are accepted as a section beside another, alone, bare and from their text. -/
theorem envelopes_agree_halved :
    ofSettings (.object [("credo", .bool false), ("elixir", .object [("credo", halved)])]) =
      .ok { default with strictMode := true } ∧
    ofSettings (.object [("credo", halved), ("elixir", .null)]) = .ok { default with strictMode := true } ∧
    ofSettings halved = .ok { default with strictMode := true } ∧
    ofText halved.indented (.ofString "a.json") = .ok { default with strictMode := true } := by
  obtain ⟨result, elixir, credo, bare, -, file⟩ := envelopes_agree halved
  have read : ofSettings halved = .ok { default with strictMode := true } := by decide +kernel
  have same : result = .ok { default with strictMode := true } := (bare rfl rfl).symm.trans read
  have text := (file _ rfl rfl rfl halved.indented (.tail _ (.head _)) (.ofString "a.json") (by decide +kernel)
    { default with strictMode := true }).mpr read
  exact ⟨(elixir _ rfl).trans same, (credo _ rfl rfl).trans same, read, text⟩

end Config

end ElixirLint
