import ElixirLint.Proofs.Json.Printing
import ElixirLint.Proofs.Json.Records
import ElixirLint.Proofs.Output
import ElixirLint.Report

/-!
# Reports are read back

A report that has been recovered from the output of a command can be printed and recovered again: it is the report of
its own text, in either layout. Reading accepts more than printing makes, such as arrays in place of objects, members
that are missing, repeated or unknown, and escapes of all kinds; but what it yields is in a form that printing keeps.
Only a double among the parts that are kept as they are need not come back, as its digits are rounded.

Main results: `Issue.isRead_of_decoder`, `Issue.IsRead.decoder_toJson`, `Output.recovered_again`.
-/

namespace ElixirLint

open Json

variable {l : Limits} {v : Raw}

/-! ## Issues -/

/-- Whether a whole number fits into 64 bits with a sign. -/
def IsSigned (n : Int) : Prop := -(Literal.maxSigned + 1 : Nat) ≤ n ∧ n ≤ Literal.maxSigned

/-- A number of 64 bits with a sign is one that a text of numbers can hold. -/
theorem IsSigned.inRange {n : Int} (h : IsSigned n) : InRange n := by
  obtain ⟨low, high⟩ := h
  exact ⟨low, Int.le_trans high (by decide)⟩

theorem isSigned_of_optional {n : Int} {o : Option Int} (h : Decoder.optional .integer l v = .ok o) (hn : n ∈ o) :
    IsSigned n := by
  obtain rfl := Option.mem_def.mp hn
  exact Decoder.bounds_of_between (Decoder.eq_ok_of_optional h).2

/-- A text that may be missing can be spelled. -/
theorem spellable_ofOptionString (s : Option String) : Spellable (.ofOptionString s) := by
  cases s with
  | none => exact .null
  | some s => exact .string s

theorem spellable_ofOptionInt {n : Option Int} (h : ∀ m ∈ n, IsSigned m) : Spellable (.ofOptionInt n) := by
  cases n with
  | none => exact .null
  | some m => exact .int (h m rfl).inRange

namespace Issue

/-- An issue as it is read: its category goes by its name, its numbers fit, and its trigger is a value in normal form
with at most `levels` levels, but not null. -/
structure IsRead (levels : Nat) (i : Issue) : Prop where
  category : Category.ofName i.category.name = i.category
  lineNo : ∀ n ∈ i.lineNo, IsSigned n
  column : ∀ n ∈ i.column, IsSigned n
  columnEnd : ∀ n ∈ i.columnEnd, IsSigned n
  priority : IsSigned i.priority
  trigger : ∀ w ∈ i.trigger, w ≠ .null ∧ Fits levels w

theorem isRead_blank (levels : Nat) : blank.IsRead levels where
  category := rfl
  lineNo := nofun
  column := nofun
  columnEnd := nofun
  priority := ⟨by decide, by decide⟩
  trigger := nofun

/-- Whatever an issue is read from, it is read into this form. -/
theorem isRead_of_decoder {i : Issue} (sound : v.Sound) (h : decoder l v = .ok i) : i.IsRead l.deeper.levels := by
  refine Record.keeps (isRead_blank l.deeper.levels) (fun f hf => ?_) sound h
  simp only [record, List.mem_cons, List.not_mem_nil, or_false] at hf
  rcases hf with rfl | rfl | rfl | rfl | rfl | rfl | rfl | rfl | rfl | rfl
  · exact RecordField.keeps_needed fun _ _ hs => { hs with category := congrArg Category.ofName (Category.name_ofName _) }
  · exact RecordField.keeps_needed fun _ _ hs => { hs with }
  · exact RecordField.keeps_needed fun _ _ hs => { hs with }
  · exact RecordField.keeps_of fun _ _ hs => { hs with }
  · exact RecordField.keeps_of fun _ read hs => { hs with lineNo := fun _ => isSigned_of_optional read }
  · exact RecordField.keeps_of fun _ read hs => { hs with column := fun _ => isSigned_of_optional read }
  · exact RecordField.keeps_of fun _ read hs => { hs with columnEnd := fun _ => isSigned_of_optional read }
  · exact RecordField.keeps_of fun _ read hs => { hs with priority := Decoder.bounds_of_between read }
  · refine RecordField.keeps_of fun sound read hs => { hs with trigger := fun w hw => ?_ }
    exact Decoder.fits_of_optional sound read hw
  · exact RecordField.keeps_of fun _ _ hs => { hs with }

/-- An issue in this form is read back from its object. -/
theorem IsRead.decoder_toJson {i : Issue} (h : i.IsRead l.deeper.levels) (levels : l.levels ≠ 0) :
    decoder l (Raw.ofJson i.toJson) = .ok i := by
  have category := record.sets_of (l := l.deeper) (k := "category") rfl rfl rfl (Decoder.string_ofJson i.category.name)
  have check := record.sets_of (l := l.deeper) (k := "check") rfl rfl rfl (Decoder.string_ofJson i.check)
  have message := record.sets_of (l := l.deeper) (k := "message") rfl rfl rfl (Decoder.string_ofJson i.message)
  have filename := record.sets_of (k := "filename") rfl rfl rfl (Decoder.optional_ofOptionString (l := l.deeper) i.filename)
  have lineNo := record.sets_of (k := "line_no") rfl rfl rfl
    (Decoder.optional_ofOptionInt (l := l.deeper) fun n hn => Decoder.between_ofJson (h.lineNo n hn))
  have column := record.sets_of (k := "column") rfl rfl rfl
    (Decoder.optional_ofOptionInt (l := l.deeper) fun n hn => Decoder.between_ofJson (h.column n hn))
  have columnEnd := record.sets_of (k := "column_end") rfl rfl rfl
    (Decoder.optional_ofOptionInt (l := l.deeper) fun n hn => Decoder.between_ofJson (h.columnEnd n hn))
  have priority := record.sets_of (k := "priority") rfl rfl rfl (Decoder.between_ofJson (l := l.deeper) h.priority)
  have trigger := record.sets_of (k := "trigger") rfl rfl rfl (Decoder.optional_json h.trigger)
  have scope := record.sets_of (k := "scope") rfl rfl rfl (Decoder.optional_ofOptionString (l := l.deeper) i.scope)
  -- The category was made from a name, so its name makes it again.
  rw [h.category] at category
  have members : record.SetsAll l.deeper i.members record.initial i :=
    .cons category (.cons check (.cons message (.cons filename (.cons lineNo (.cons column (.cons columnEnd
      (.cons priority (.cons trigger (.cons scope .nil)))))))))
  have keys : i.members.map Prod.fst =
      ["category", "check", "message", "filename", "line_no", "column", "column_end", "priority", "trigger", "scope"] := rfl
  exact members.decoder levels (keys ▸ by decide) (keys ▸ by decide)

/-- An issue in this form can be spelled if its trigger holds no double. -/
theorem IsRead.spellable {levels : Nat} {i : Issue} (h : i.IsRead levels)
    (whole : ∀ w ∈ i.trigger, w.isWhole = true) : Spellable i.toJson := by
  have trigger : Spellable (i.trigger.getD .null) := by
    cases shown : i.trigger with
    | none => exact .null
    | some w => exact (h.trigger w shown).2.spellable (whole w shown)
  refine .object ?_
  simp only [members, List.forall_mem_cons]
  exact ⟨.string _, .string _, .string _, spellable_ofOptionString _, spellable_ofOptionInt h.lineNo,
    spellable_ofOptionInt h.column, spellable_ofOptionInt h.columnEnd, .int h.priority.inRange, trigger,
    spellable_ofOptionString _, nofun⟩

end Issue

/-- Issues in an array are read into this form. -/
theorem isRead_of_issues {is : List Issue} (sound : v.Sound) (h : Decoder.list Issue.decoder l v = .ok is) :
    ∀ i ∈ is, i.IsRead l.deeper.deeper.levels := by
  intro i hi
  obtain ⟨w, sound, read⟩ := Decoder.mem_list sound h i hi
  exact Issue.isRead_of_decoder sound read

/-- Issues in this form are read back from their array. -/
theorem list_issuesJson {is : List Issue} (h : ∀ i ∈ is, i.IsRead l.deeper.deeper.levels) (levels : l.levels ≠ 0)
    (deeper : l.deeper.levels ≠ 0) : Decoder.list Issue.decoder l (Raw.ofJson (issuesJson is)) = .ok is :=
  Decoder.list_ofJson levels fun i hi => (h i hi).decoder_toJson deeper

/-- Issues that were read can be spelled if their triggers hold no doubles. -/
theorem spellable_issuesJson {levels : Nat} {is : List Issue} (h : ∀ i ∈ is, i.IsRead levels)
    (whole : ∀ i ∈ is, ∀ w ∈ i.trigger, w.isWhole = true) : Spellable (issuesJson is) := by
  refine .array fun w hw => ?_
  obtain ⟨i, hi, rfl⟩ := List.mem_map.mp hw
  exact (h i hi).spellable (whole i hi)

/-! ## Reports -/

/-- The triggers of issues hold no doubles if those of all issues together do not. -/
theorem wholes_of_triggers {is : List Issue} (h : ∀ w ∈ is.filterMap (·.trigger), w.isWhole = true) :
    ∀ i ∈ is, ∀ w ∈ i.trigger, w.isWhole = true :=
  fun i hi w hw => h w (List.mem_filterMap.mpr ⟨i, hi, hw⟩)

namespace SuggestReport

/-- The parts that are kept as they are. -/
def kept (r : SuggestReport) : List Json := r.issues.filterMap (·.trigger)

/-- A report as it is read. -/
structure IsRead (levels : Nat) (r : SuggestReport) : Prop where
  issues : ∀ i ∈ r.issues, i.IsRead levels

/-- What the decoder makes of a sound value is a report that was read. -/
theorem isRead_of_decoder {r : SuggestReport} (sound : v.Sound) (h : decoder l v = .ok r) :
    r.IsRead l.deeper.deeper.deeper.levels := by
  refine record.keeps ⟨List.forall_mem_nil _⟩ (fun f hf => ?_) sound h
  obtain rfl := List.mem_singleton.mp hf
  exact RecordField.keeps_of fun sound read _ => ⟨isRead_of_issues sound read⟩

/-- A report that was read is decoded again from its own JSON. -/
theorem IsRead.decoder_toJson {r : SuggestReport} (h : r.IsRead l.deeper.deeper.deeper.levels)
    (levels : 3 ≤ l.levels) : decoder l (Raw.ofJson r.toJson) = .ok r := by
  have issues := record.sets_of (k := "issues") rfl rfl rfl
    (list_issuesJson h.issues (by simp [Limits.deeper]; omega) (by simp [Limits.deeper]; omega))
  have members : record.SetsAll l.deeper _ record.initial r := .cons issues .nil
  exact members.decoder (by omega) (by simp) (by simp [record, RecordField.of])

/-- A report that was read can be spelled if the values it keeps as they are hold no doubles. -/
theorem IsRead.spellable {levels : Nat} {r : SuggestReport} (h : r.IsRead levels)
    (whole : ∀ w ∈ r.kept, w.isWhole = true) : Spellable r.toJson :=
  .object (List.forall_mem_singleton.mpr (spellable_issuesJson h.issues (wholes_of_triggers whole)))

end SuggestReport

namespace IssueGroups

/-- Groups of issues as they are read. -/
structure IsRead (levels : Nat) (g : IssueGroups) : Prop where
  new : ∀ i ∈ g.new, i.IsRead levels
  fixed : ∀ i ∈ g.fixed, i.IsRead levels
  old : ∀ i ∈ g.old, i.IsRead levels

/-- What the decoder makes of a sound value are groups that were read. -/
theorem isRead_of_decoder {g : IssueGroups} (sound : v.Sound) (h : record.decoder l v = .ok g) :
    g.IsRead l.deeper.deeper.deeper.levels := by
  have initial : record.initial.IsRead l.deeper.deeper.deeper.levels :=
    ⟨List.forall_mem_nil _, List.forall_mem_nil _, List.forall_mem_nil _⟩
  refine record.keeps initial (fun f hf => ?_) sound h
  simp only [record, List.mem_cons, List.not_mem_nil, or_false] at hf
  rcases hf with rfl | rfl | rfl
  · refine RecordField.keeps_of fun sound read hs => ?_
    have issues := isRead_of_issues sound read
    exact ⟨issues, hs.fixed, hs.old⟩
  · refine RecordField.keeps_of fun sound read hs => ?_
    have issues := isRead_of_issues sound read
    exact ⟨hs.new, issues, hs.old⟩
  · refine RecordField.keeps_of fun sound read hs => ?_
    have issues := isRead_of_issues sound read
    exact ⟨hs.new, hs.fixed, issues⟩

/-- Groups that were read are decoded again from their own JSON. -/
theorem IsRead.decoder_toJson {g : IssueGroups} (h : g.IsRead l.deeper.deeper.deeper.levels) (levels : 3 ≤ l.levels) :
    record.decoder l (Raw.ofJson g.toJson) = .ok g := by
  have deep : l.deeper.levels ≠ 0 ∧ l.deeper.deeper.levels ≠ 0 := by
    simp only [Limits.deeper]
    omega
  have new := record.sets_of (k := "new") rfl rfl rfl (list_issuesJson h.new deep.1 deep.2)
  have fixed := record.sets_of (k := "fixed") rfl rfl rfl (list_issuesJson h.fixed deep.1 deep.2)
  have old := record.sets_of (k := "old") rfl rfl rfl (list_issuesJson h.old deep.1 deep.2)
  have members : record.SetsAll l.deeper _ record.initial g := .cons new (.cons fixed (.cons old .nil))
  exact members.decoder (by omega) (by simp) (by simp [record, RecordField.of])

/-- The parts that are kept as they are. -/
def kept (g : IssueGroups) : List Json := (g.new ++ g.fixed ++ g.old).filterMap (·.trigger)

/-- Groups that were read can be spelled if the values they keep as they are hold no doubles. -/
theorem IsRead.spellable {levels : Nat} {g : IssueGroups} (h : g.IsRead levels)
    (whole : ∀ w ∈ g.kept, w.isWhole = true) : Spellable g.toJson := by
  simp only [kept, List.filterMap_append, List.forall_mem_append] at whole
  obtain ⟨⟨new, fixed⟩, old⟩ := whole
  refine .object ?_
  simp only [List.forall_mem_cons]
  exact ⟨spellable_issuesJson h.new (wholes_of_triggers new), spellable_issuesJson h.fixed (wholes_of_triggers fixed),
    spellable_issuesJson h.old (wholes_of_triggers old), nofun⟩

end IssueGroups

namespace DiffReport

/-- What the decoder makes of a sound value is a report whose groups were read. -/
theorem isRead_of_decoder {r : DiffReport} (sound : v.Sound) (h : decoder l v = .ok r) :
    r.groups.IsRead l.deeper.deeper.deeper.deeper.levels := by
  have initial : record.initial.groups.IsRead l.deeper.deeper.deeper.deeper.levels :=
    ⟨List.forall_mem_nil _, List.forall_mem_nil _, List.forall_mem_nil _⟩
  refine record.keeps (P := fun r => r.groups.IsRead _) initial (fun f hf => ?_) sound h
  obtain rfl := List.mem_singleton.mp hf
  refine RecordField.keeps_needed fun sound read _ => ?_
  exact IssueGroups.isRead_of_decoder sound read

/-- A report whose groups were read is decoded again from its own JSON. -/
theorem decoder_toJson {r : DiffReport} (h : r.groups.IsRead l.deeper.deeper.deeper.deeper.levels)
    (levels : 4 ≤ l.levels) : decoder l (Raw.ofJson r.toJson) = .ok r := by
  have groups := record.sets_of (k := "diff") rfl rfl rfl (h.decoder_toJson (by simp only [Limits.deeper]; omega))
  have members : record.SetsAll l.deeper _ record.initial r := .cons groups .nil
  exact members.decoder (by omega) (by simp) (by simp [record, RecordField.needed, RecordField.of])

end DiffReport

/-! ## Project information -/

namespace Coverage

/-- The checks as they are read. -/
structure IsRead (levels : Nat) (c : Coverage) : Prop where
  checks : ∀ w ∈ c.checks, Fits levels w

/-- What the decoder makes of a sound value is a coverage that was read. -/
theorem isRead_of_decoder {c : Coverage} (sound : v.Sound) (h : record.decoder l v = .ok c) :
    c.IsRead l.deeper.deeper.levels := by
  refine record.keeps ⟨List.forall_mem_nil _⟩ (fun f hf => ?_) sound h
  simp only [record, List.mem_cons, List.not_mem_nil, or_false] at hf
  rcases hf with rfl | rfl
  · refine RecordField.keeps_of fun sound read _ => ⟨fun w hw => ?_⟩
    obtain ⟨_, sound, read⟩ := Decoder.mem_list sound read w hw
    exact Decoder.fits_of_json sound read
  · exact RecordField.keeps_of fun _ _ hs => ⟨hs.checks⟩

/-- A coverage that was read is decoded again from its own JSON. -/
theorem IsRead.decoder_toJson {c : Coverage} (h : c.IsRead l.deeper.deeper.levels) (levels : 2 ≤ l.levels) :
    record.decoder l (Raw.ofJson c.toJson) = .ok c := by
  have deep : l.deeper.levels ≠ 0 := by
    simp only [Limits.deeper]
    omega
  have checks := record.sets_of (k := "checks") rfl rfl rfl (Decoder.list_json deep h.checks)
  have files := record.sets_of (k := "files") rfl rfl rfl (Decoder.list_string deep c.files)
  have members : record.SetsAll l.deeper _ record.initial c := .cons checks (.cons files .nil)
  exact members.decoder (by omega) (by simp) (by simp [record, RecordField.of])

/-- A coverage that was read can be spelled if its checks hold no doubles. -/
theorem IsRead.spellable {levels : Nat} {c : Coverage} (h : c.IsRead levels)
    (whole : ∀ w ∈ c.checks, w.isWhole = true) : Spellable c.toJson := by
  refine .object ?_
  simp only [List.forall_mem_cons]
  exact ⟨.array fun w hw => (h.checks w hw).spellable (whole w hw), spellable_strings c.files, nofun⟩

end Coverage

namespace Versions

/-- Versions are decoded again from their own JSON. -/
theorem decoder_toJson (w : Versions) (levels : l.levels ≠ 0) : record.decoder l (Raw.ofJson w.toJson) = .ok w := by
  have credo := record.sets_of (k := "credo") rfl rfl rfl (Decoder.string_ofJson (l := l.deeper) w.credo)
  have elixir := record.sets_of (k := "elixir") rfl rfl rfl (Decoder.string_ofJson (l := l.deeper) w.elixir)
  have erlang := record.sets_of (k := "erlang") rfl rfl rfl (Decoder.string_ofJson (l := l.deeper) w.erlang)
  have members : record.SetsAll l.deeper _ record.initial w := .cons credo (.cons elixir (.cons erlang .nil))
  exact members.decoder levels (by simp) (by simp [record, RecordField.of])

/-- Versions can be spelled: they are texts. -/
theorem spellable (w : Versions) : Spellable w.toJson := by
  refine .object ?_
  simp only [List.forall_mem_cons]
  exact ⟨.string _, .string _, .string _, nofun⟩

end Versions

namespace ProjectInfo

/-- What the decoder makes of a sound value has a coverage that was read. -/
theorem isRead_of_decoder {i : ProjectInfo} (sound : v.Sound) (h : decoder l v = .ok i) :
    i.coverage.IsRead l.deeper.deeper.deeper.levels := by
  refine record.keeps (P := fun i => i.coverage.IsRead _) ⟨List.forall_mem_nil _⟩ (fun f hf => ?_) sound h
  simp only [record, List.mem_cons, List.not_mem_nil, or_false] at hf
  rcases hf with rfl | rfl
  · refine RecordField.keeps_needed fun sound read _ => ?_
    exact Coverage.isRead_of_decoder sound read
  · exact RecordField.keeps_of fun _ _ hs => hs

/-- The information on a project is decoded again from its own JSON if its coverage was read. -/
theorem decoder_toJson {i : ProjectInfo} (h : i.coverage.IsRead l.deeper.deeper.deeper.levels)
    (levels : 3 ≤ l.levels) : decoder l (Raw.ofJson i.toJson) = .ok i := by
  have deep : 2 ≤ l.deeper.levels := by
    simp only [Limits.deeper]
    omega
  have coverage := record.sets_of (k := "config") rfl rfl rfl (h.decoder_toJson deep)
  have versions := record.sets_of (k := "system") rfl rfl rfl (i.versions.decoder_toJson (l := l.deeper) (by omega))
  have members : record.SetsAll l.deeper _ record.initial i := .cons coverage (.cons versions .nil)
  exact members.decoder (by omega) (by simp) (by simp [record, RecordField.needed, RecordField.of])

theorem spellable {levels : Nat} {i : ProjectInfo} (h : i.coverage.IsRead levels)
    (whole : ∀ w ∈ i.coverage.checks, w.isWhole = true) : Spellable i.toJson := by
  refine .object ?_
  simp only [List.forall_mem_cons]
  exact ⟨h.spellable whole, i.versions.spellable, nofun⟩

end ProjectInfo

/-! ## Recovering what was printed -/

namespace Output

variable {α : Type} {d : Decoder α} {a : α}

/-- What is recovered was read from a tree. -/
theorem exists_of_report? {output : String} (h : report? d output = .ok (some a)) :
    ∃ v : Raw, v.Sound ∧ d ⟨Raw.maxLevels, .refused⟩ v = .ok a := by
  unfold report? at h
  split at h
  · cases h
  split at h
  · rename_i read
    cases h
    obtain ⟨text, -, read⟩ := Option.bind_eq_some_iff.mp read
    unfold decodeText? at read
    split at read
    · cases read
    · rename_i v hv
      refine ⟨v, Raw.sound_of_ofText? hv, ?_⟩
      revert read
      cases d ⟨Raw.maxLevels, .refused⟩ v with
      | error e => exact nofun
      | ok b =>
        rintro ⟨⟩
        rfl
  · split at h <;> cases h

/-- An object that can be spelled is recovered from its layouts if it is read back from its tree. -/
theorem report?_layout {v : Json} (isObject : ∃ ms, v = .object ms) (spellable : Spellable v)
    (read : d ⟨Raw.maxLevels, .refused⟩ (Raw.ofJson v) = .ok a) {text : String} (ht : text ∈ v.layouts) :
    report? d text = .ok (some a) := by
  obtain ⟨cs, rfl, spells⟩ := spellable.spells_layout ht
  obtain ⟨ms, rfl⟩ := isObject
  obtain ⟨inner, rfl⟩ : ∃ inner, cs = '\x7b' :: inner ++ ['\x7d'] := Spells.braced spells
  have decoded : decodeText? d (String.ofList ('\x7b' :: inner ++ ['\x7d'])) = some a := by
    unfold decodeText?
    rw [spells.ofText?]
    exact congrArg Except.toOption read
  have full : String.ofList ('\x7b' :: inner ++ ['\x7d']) ≠ "" := by
    intro same
    simpa using congrArg String.toList same
  have bare : Encloses (String.ofList ('\x7b' :: inner ++ ['\x7d'])).toList [] ('\x7b' :: inner ++ ['\x7d']) [] :=
    ⟨by simp, by simp, by simp, inner, rfl⟩
  unfold report?
  rw [if_neg full, payload?_of_encloses bare, Option.bind_some, decoded]

/-- A report that has been recovered from an output is recovered again from what is printed of it, on one line or over
several: (1) a report of all issues, (2) a report of issues compared with a revision, (3) project information. Only the
parts that are kept as they are must hold no double. -/
theorem recovered_again (output : String) :
    (∀ r, report? SuggestReport.decoder output = .ok (some r) → (∀ w ∈ r.kept, w.isWhole = true) →
      ∀ text ∈ r.toJson.layouts, report? SuggestReport.decoder text = .ok (some r)) ∧
    (∀ r, report? DiffReport.decoder output = .ok (some r) → (∀ w ∈ r.groups.kept, w.isWhole = true) →
      ∀ text ∈ r.toJson.layouts, report? DiffReport.decoder text = .ok (some r)) ∧
    (∀ i, report? ProjectInfo.decoder output = .ok (some i) → (∀ w ∈ i.coverage.checks, w.isWhole = true) →
      ∀ text ∈ i.toJson.layouts, report? ProjectInfo.decoder text = .ok (some i)) := by
  refine ⟨fun r h whole text ht => ?_, fun r h whole text ht => ?_, fun i h whole text ht => ?_⟩
  · obtain ⟨v, sound, read⟩ := exists_of_report? h
    have isRead := SuggestReport.isRead_of_decoder sound read
    exact report?_layout ⟨_, rfl⟩ (isRead.spellable whole) (isRead.decoder_toJson (by decide)) ht
  · obtain ⟨v, sound, read⟩ := exists_of_report? h
    have isRead := DiffReport.isRead_of_decoder sound read
    have spellable : Spellable r.toJson := .object (List.forall_mem_singleton.mpr (isRead.spellable whole))
    exact report?_layout ⟨_, rfl⟩ spellable (DiffReport.decoder_toJson isRead (by decide)) ht
  · obtain ⟨v, sound, read⟩ := exists_of_report? h
    have isRead := ProjectInfo.isRead_of_decoder sound read
    exact report?_layout ⟨_, rfl⟩ (ProjectInfo.spellable isRead whole) (ProjectInfo.decoder_toJson isRead (by decide)) ht

/-- An output from which reports of all three kinds can be recovered: behind a word stands an object with an issue, with
groups and with a configuration, each of them as an array. -/
def mixed : String :=
  "W\x7b\"issues\":[[\"\",\"\",\"\\ud83d\\ude00\",null,-9223372036854775808]],\"diff\":[],\"config\":[[18446744073709551615]]\x7d"

/-- A report with a property that can be decided, found by running the reader. -/
theorem exists_recovered (d : Decoder α) (output : String) (p : α → Bool)
    (h : (report? d output).toOption.join.any p = true) :
    ∃ a, report? d output = .ok (some a) ∧ p a = true := by
  obtain ⟨a, found, holds⟩ := (Option.any_eq_true _ _).mp h
  refine ⟨a, ?_, holds⟩
  revert found
  cases report? d output with
  | error e => exact nofun
  | ok o =>
    intro found
    exact congrArg Except.ok (by simpa [Except.toOption] using found)

/-- The three reports in one output are recovered again from what is printed of them. -/
theorem recovered_again_mixed :
    (∃ r, report? SuggestReport.decoder mixed = .ok (some r) ∧ (r.issues.length = 1 ∧ ∀ w ∈ r.kept, w.isWhole = true) ∧
      ∀ text ∈ r.toJson.layouts, report? SuggestReport.decoder text = .ok (some r)) ∧
    (∃ r, report? DiffReport.decoder mixed = .ok (some r) ∧ (∀ w ∈ r.groups.kept, w.isWhole = true) ∧
      ∀ text ∈ r.toJson.layouts, report? DiffReport.decoder text = .ok (some r)) ∧
    (∃ i, report? ProjectInfo.decoder mixed = .ok (some i) ∧
      (i.coverage.checks.length = 1 ∧ ∀ w ∈ i.coverage.checks, w.isWhole = true) ∧
      ∀ text ∈ i.toJson.layouts, report? ProjectInfo.decoder text = .ok (some i)) := by
  obtain ⟨suggest, diff, info⟩ := recovered_again mixed
  obtain ⟨r, hr, single, whole⟩ : ∃ r, report? SuggestReport.decoder mixed = .ok (some r) ∧
      r.issues.length = 1 ∧ ∀ w ∈ r.kept, w.isWhole = true := by
    obtain ⟨r, hr, holds⟩ := exists_recovered SuggestReport.decoder mixed
      (fun r => decide (r.issues.length = 1) && r.kept.all isWhole) (by decide +kernel)
    exact ⟨r, hr, by simpa using holds⟩
  obtain ⟨g, hg, groups⟩ := exists_recovered DiffReport.decoder mixed (fun r => r.groups.kept.all isWhole)
    (by decide +kernel)
  obtain ⟨i, hi, one, checks⟩ : ∃ i, report? ProjectInfo.decoder mixed = .ok (some i) ∧
      i.coverage.checks.length = 1 ∧ ∀ w ∈ i.coverage.checks, w.isWhole = true := by
    obtain ⟨i, hi, holds⟩ := exists_recovered ProjectInfo.decoder mixed
      (fun i => decide (i.coverage.checks.length = 1) && i.coverage.checks.all isWhole) (by decide +kernel)
    exact ⟨i, hi, by simpa using holds⟩
  have groups := List.all_eq_true.mp groups
  exact ⟨⟨r, hr, ⟨single, whole⟩, suggest r hr whole⟩, ⟨g, hg, groups, diff g hg groups⟩,
    ⟨i, hi, ⟨one, checks⟩, info i hi checks⟩⟩

end Output

end ElixirLint
