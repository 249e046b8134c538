import ElixirLint.Proofs.Json.Reading

/-!
# Values that come from texts

A value that has been read is in normal form: its whole numbers fit into 64 bits, the keys of its objects stand in
order, each once, and it is nested no deeper than a text may be. Such a value is the value of its own tree.

Main results: `fits_of_toJson?`, `Fits.toJson?_ofJson`.
-/

namespace ElixirLint.Json

/-- Whether a member comes before another in an object. -/
def Precedes (a b : String × Json) : Prop := a.1 < b.1

/-- A value in normal form with at most `levels` arrays and objects nested in each other. -/
inductive Fits : Nat → Json → Prop
  | null {levels : Nat} : Fits levels .null
  | bool {levels : Nat} (b : Bool) : Fits levels (.bool b)
  | int {levels : Nat} {n : Int} (h : InRange n) : Fits levels (.int n)
  | double {levels : Nat} (x : Binary64) : Fits levels (.double x)
  | string {levels : Nat} (s : String) : Fits levels (.string s)
  | array {levels : Nat} {vs : List Json} (h : ∀ v ∈ vs, Fits levels v) : Fits (levels + 1) (.array vs)
  | object {levels : Nat} {ms : List (String × Json)} (sorted : ms.Pairwise Precedes)
    (h : ∀ m ∈ ms, Fits levels m.2) : Fits (levels + 1) (.object ms)

/-! ## Objects in key order -/

/-- A member after putting one in is that one, or was there before. -/
theorem mem_putMember {key : String} {value : Json} {ms : List (String × Json)} {m : String × Json}
    (h : m ∈ putMember key value ms) : m = (key, value) ∨ m ∈ ms := by
  induction ms with
  | nil => simpa [putMember] using h
  | cons first rest ih =>
    obtain ⟨k, v⟩ := first
    unfold putMember at h
    split at h
    · rcases List.mem_cons.mp h with rfl | h
      · exact .inl rfl
      · exact .inr (.tail _ h)
    split at h
    · rcases List.mem_cons.mp h with rfl | h
      · exact .inl rfl
      · exact .inr h
    · rcases List.mem_cons.mp h with rfl | h
      · exact .inr (.head _)
      · exact (ih h).imp id (.tail _)

/-- A member that is put in keeps the keys in order. -/
theorem pairwise_putMember (key : String) (value : Json) {ms : List (String × Json)} (h : ms.Pairwise Precedes) :
    (putMember key value ms).Pairwise Precedes := by
  induction ms with
  | nil => simp [putMember]
  | cons first rest ih =>
    obtain ⟨k, v⟩ := first
    obtain ⟨before, sorted⟩ := List.pairwise_cons.mp h
    unfold putMember
    split
    · rename_i same
      subst same
      exact List.pairwise_cons.mpr ⟨fun m hm => before m hm, sorted⟩
    split
    · rename_i less
      refine List.pairwise_cons.mpr ⟨fun m hm => ?_, h⟩
      rcases List.mem_cons.mp hm with rfl | hm
      · exact less
      · exact String.lt_trans less (before m hm)
    · rename_i other less
      have greater : k < key := Std.lt_of_le_of_ne (String.not_lt.mp less) (Ne.symm other)
      refine List.pairwise_cons.mpr ⟨fun m hm => ?_, ih sorted⟩
      rcases mem_putMember hm with rfl | hm
      · exact greater
      · exact before m hm

/-- A member behind all others is put at their end. -/
theorem putMember_append {key : String} {value : Json} {ms : List (String × Json)} (h : ∀ m ∈ ms, m.1 < key) :
    putMember key value ms = ms ++ [(key, value)] := by
  induction ms with
  | nil => rfl
  | cons first rest ih =>
    obtain ⟨k, v⟩ := first
    have less : k < key := h (k, v) (.head rest)
    have other : key ≠ k := fun same => String.lt_irrefl k (same ▸ less)
    rw [putMember, if_neg other, if_neg (String.lt_asymm less), ih fun m hm => h m (.tail _ hm)]
    rfl

/-- Members in key order are put in as they stand. -/
theorem foldl_putMember (front : List (String × Json)) {ms : List (String × Json)}
    (h : (front ++ ms).Pairwise Precedes) :
    ms.foldl (fun sorted m => putMember m.1 m.2 sorted) front = front ++ ms := by
  induction ms generalizing front with
  | nil => simp
  | cons m ms ih =>
    have before : ∀ x ∈ front, x.1 < m.1 := fun x hx => (List.pairwise_append.mp h).2.2 x hx m (.head ms)
    rw [List.append_cons] at h ⊢
    rw [List.foldl_cons, putMember_append before, ih _ h]

/-- Members in ascending order are an object as they stand. -/
theorem ofMembers_of_pairwise {ms : List (String × Json)} (h : ms.Pairwise Precedes) : ofMembers ms = .object ms :=
  congrArg Json.object (foldl_putMember [] h)

/-- An object made of members has their keys in order, and holds nothing else. -/
theorem ofMembers_spec (ms : List (String × Json)) :
    ∃ sorted, ofMembers ms = .object sorted ∧ sorted.Pairwise Precedes ∧ ∀ m ∈ sorted, m ∈ ms := by
  have step (front : List (String × Json)) (h : front.Pairwise Precedes) :
      (ms.foldl (fun sorted m => putMember m.1 m.2 sorted) front).Pairwise Precedes ∧
        ∀ m ∈ ms.foldl (fun sorted m => putMember m.1 m.2 sorted) front, m ∈ front ∨ m ∈ ms := by
    induction ms generalizing front with
    | nil => exact ⟨h, fun m hm => .inl hm⟩
    | cons first rest ih =>
      obtain ⟨sorted, from_⟩ := ih (putMember first.1 first.2 front) (pairwise_putMember _ _ h)
      refine ⟨sorted, fun m hm => ?_⟩
      rcases from_ m hm with hm | hm
      · rcases mem_putMember hm with rfl | hm
        · exact .inr (.head rest)
        · exact .inl hm
      · exact .inr (.tail _ hm)
  obtain ⟨sorted, members⟩ := step [] .nil
  exact ⟨_, rfl, sorted, fun m hm => (members m hm).resolve_left (by simp)⟩

/-! ## From texts to values -/

/-- A tree as it is read from a text: its numbers are whole ones of 64 bits or doubles. -/
inductive Raw.Sound : Raw → Prop
  | null : Sound .null
  | bool (b : Bool) : Sound (.bool b)
  | noNumber : Sound (.number none)
  | int {n : Int} (h : InRange n) : Sound (.number (some (.int n)))
  | double (x : Binary64) : Sound (.number (some (.double x)))
  | string (s : Option String) : Sound (.string s)
  | array {vs : List Raw} (h : ∀ v ∈ vs, Sound v) : Sound (.array vs)
  | object {ms : List (Option String × Raw)} (h : ∀ m ∈ ms, Sound m.2) : Sound (.object ms)

/-- A number literal that is written as a whole number stands for one if it fits, and any other for a double. -/
theorem sound_value? (l : Literal) : Raw.Sound (.number l.value?) := by
  have double : Raw.Sound (.number (l.double?.map .double)) := by
    cases l.double? with
    | none => exact .noNumber
    | some x => exact .double x
  unfold Literal.value?
  split
  · dsimp only
    split
    · rename_i fits
      simp only [Bool.and_eq_true, decide_eq_true_eq] at fits
      exact .int ⟨by omega, by omega⟩
    split
    · rename_i fits
      simp only [Bool.and_eq_true, decide_eq_true_eq] at fits
      exact .int ⟨by omega, by omega⟩
    · exact double
  · exact double

section

variable {fuel : Nat} {cs rest : List Char}
  (value : ∀ {cs v rest}, Raw.readValue fuel cs = some (v, rest) → v.Sound)
  (items : ∀ {cs vs rest}, Raw.readItems fuel cs = some (vs, rest) → ∀ v ∈ vs, v.Sound)
  (members : ∀ {cs ms rest}, Raw.readMembers fuel cs = some (ms, rest) → ∀ m ∈ ms, m.2.Sound)

include value items in
/-- What is read as items is sound, if what is read within is. -/
theorem sound_readItems_succ {vs : List Raw} (h : Raw.readItems (fuel + 1) cs = some (vs, rest)) :
    ∀ v ∈ vs, v.Sound := by
  unfold Raw.readItems at h
  split at h
  · cases h
  rename_i first
  split at h
  · obtain ⟨_, others, same⟩ := Option.map_eq_some_iff.mp h
    cases same
    exact List.forall_mem_cons.mpr ⟨value first, items others⟩
  · cases h
    exact List.forall_mem_singleton.mpr (value first)
  · cases h

include value members in
theorem sound_readMembers_succ {ms : List (Option String × Raw)}
    (h : Raw.readMembers (fuel + 1) cs = some (ms, rest)) : ∀ m ∈ ms, m.2.Sound := by
  unfold Raw.readMembers at h
  split at h
  · split at h
    · cases h
    split at h
    · split at h
      · cases h
      rename_i first
      split at h
      · obtain ⟨_, others, same⟩ := Option.map_eq_some_iff.mp h
        cases same
        exact List.forall_mem_cons.mpr ⟨value first, members others⟩
      · cases h
        exact List.forall_mem_singleton.mpr (value first)
      · cases h
    · cases h
  · cases h

include items members in
/-- What is read as a value is sound, if what is read within is. -/
theorem sound_readValue_succ {v : Raw} (h : Raw.readValue (fuel + 1) cs = some (v, rest)) : v.Sound := by
  unfold Raw.readValue at h
  split at h
  · cases h
  split at h
  · obtain ⟨_, _, same⟩ := Option.map_eq_some_iff.mp h
    cases same
    exact .null
  split at h
  · obtain ⟨_, _, same⟩ := Option.map_eq_some_iff.mp h
    cases same
    exact .bool true
  split at h
  · obtain ⟨_, _, same⟩ := Option.map_eq_some_iff.mp h
    cases same
    exact .bool false
  split at h
  · obtain ⟨_, _, same⟩ := Option.map_eq_some_iff.mp h
    cases same
    exact .string _
  split at h
  · split at h
    · cases h
      exact .array (List.forall_mem_nil _)
    · obtain ⟨_, read, same⟩ := Option.map_eq_some_iff.mp h
      cases same
      exact .array (items read)
  split at h
  · split at h
    · cases h
      exact .object (List.forall_mem_nil _)
    · obtain ⟨_, read, same⟩ := Option.map_eq_some_iff.mp h
      cases same
      exact .object (members read)
  · obtain ⟨_, _, same⟩ := Option.map_eq_some_iff.mp h
    cases same
    exact sound_value? _

end

/-- What is read from a text is sound. The induction is on the fuel of the reader. -/
theorem sound_reads (fuel : Nat) :
    (∀ {cs v rest}, Raw.readValue fuel cs = some (v, rest) → v.Sound) ∧
    (∀ {cs vs rest}, Raw.readItems fuel cs = some (vs, rest) → ∀ v ∈ vs, v.Sound) ∧
    (∀ {cs ms rest}, Raw.readMembers fuel cs = some (ms, rest) → ∀ m ∈ ms, m.2.Sound) := by
  induction fuel with
  | zero => exact ⟨nofun, nofun, nofun⟩
  | succ fuel ih =>
    obtain ⟨value, items, members⟩ := ih
    exact ⟨sound_readValue_succ items members, sound_readItems_succ value items, sound_readMembers_succ value members⟩

/-- Whatever is read from a text is sound. -/
theorem Raw.sound_of_ofText? {s : String} {v : Raw} (h : Raw.ofText? s = some v) : v.Sound := by
  unfold Raw.ofText? at h
  split at h
  · rename_i read
    split at h
    · cases h
      exact (sound_reads _).1 read
    · cases h
  · cases h

/-- A value among items that are kept is one of those items. -/
theorem mem_itemsToJson? {levels : Nat} {vs : List Raw} {js : List Json} (h : Raw.itemsToJson? levels vs = some js) :
    ∀ j ∈ js, ∃ v ∈ vs, v.toJson? levels = some j := by
  induction vs generalizing js with
  | nil =>
    cases h
    exact nofun
  | cons v vs ih =>
    unfold Raw.itemsToJson? at h
    split at h
    · rename_i first others
      cases h
      refine List.forall_mem_cons.mpr ⟨⟨v, .head vs, first⟩, fun j hj => ?_⟩
      obtain ⟨w, hw, same⟩ := ih others j hj
      exact ⟨w, .tail v hw, same⟩
    · cases h

/-- A value among members that are kept is that of one of those members. -/
theorem mem_membersToJson? {levels : Nat} {ms : List (Option String × Raw)} {js : List (String × Json)}
    (h : Raw.membersToJson? levels ms = some js) : ∀ j ∈ js, ∃ m ∈ ms, m.2.toJson? levels = some j.2 := by
  induction ms generalizing js with
  | nil =>
    cases h
    exact nofun
  | cons m ms ih =>
    unfold Raw.membersToJson? at h
    split at h
    · rename_i first others
      cases h
      refine List.forall_mem_cons.mpr ⟨⟨m, .head ms, first⟩, fun j hj => ?_⟩
      obtain ⟨w, hw, same⟩ := ih others j hj
      exact ⟨w, .tail m hw, same⟩
    · cases h

/-- The value of a sound tree is in normal form. -/
theorem fits_of_toJson? {levels : Nat} {v : Raw} {j : Json} (sound : v.Sound) (h : v.toJson? levels = some j) :
    Fits levels j := by
  induction sound generalizing levels j with
  | null =>
    cases h
    exact .null
  | bool b =>
    cases h
    exact .bool b
  | noNumber => cases h
  | int range =>
    cases h
    exact .int range
  | double x =>
    cases h
    exact .double x
  | string s =>
    obtain ⟨s, -, rfl⟩ := Option.map_eq_some_iff.mp h
    exact .string s
  | @array vs _ ih =>
    cases levels with
    | zero => cases h
    | succ levels =>
      obtain ⟨js, items, rfl⟩ := Option.map_eq_some_iff.mp h
      refine .array fun j hj => ?_
      obtain ⟨v, hv, same⟩ := mem_itemsToJson? items j hj
      exact ih v hv same
  | @object ms _ ih =>
    cases levels with
    | zero => cases h
    | succ levels =>
      obtain ⟨js, members, rfl⟩ := Option.map_eq_some_iff.mp h
      obtain ⟨sorted, same, order, from_⟩ := ofMembers_spec js
      rw [same]
      refine .object order fun j hj => ?_
      obtain ⟨m, hm, value⟩ := mem_membersToJson? members j (from_ j hj)
      exact ih m hm value

/-- Only null is read as null. -/
theorem eq_null_of_toJson? {levels : Nat} {v : Raw} (sound : v.Sound) (h : v.toJson? levels = some .null) :
    v = .null := by
  cases sound with
  | null => rfl
  | array =>
    cases levels with
    | zero => cases h
    | succ levels =>
      obtain ⟨_, _, same⟩ := Option.map_eq_some_iff.mp h
      cases same
  | object =>
    cases levels with
    | zero => cases h
    | succ levels =>
      obtain ⟨_, _, same⟩ := Option.map_eq_some_iff.mp h
      cases same
  | string s =>
    obtain ⟨_, _, same⟩ := Option.map_eq_some_iff.mp h
    cases same
  | _ => cases h

/-! ## From values to trees -/

/-- Items are kept as they are if each of them is. -/
theorem itemsToJson?_ofItems {levels : Nat} {vs : List Json}
    (h : ∀ v ∈ vs, Raw.toJson? levels (Raw.ofJson v) = some v) :
    Raw.itemsToJson? levels (Raw.ofItems vs) = some vs := by
  induction vs with
  | nil => rfl
  | cons v vs ih =>
    obtain ⟨first, others⟩ := List.forall_mem_cons.mp h
    simp [Raw.ofItems, Raw.itemsToJson?, first, ih others]

theorem membersToJson?_ofMembers {levels : Nat} {ms : List (String × Json)}
    (h : ∀ m ∈ ms, Raw.toJson? levels (Raw.ofJson m.2) = some m.2) :
    Raw.membersToJson? levels (Raw.ofMembers ms) = some ms := by
  induction ms with
  | nil => rfl
  | cons m ms ih =>
    obtain ⟨first, others⟩ := List.forall_mem_cons.mp h
    simp [Raw.ofMembers, Raw.membersToJson?, first, ih others]

/-- A value in normal form is the value of its tree. -/
theorem Fits.toJson?_ofJson {levels : Nat} {v : Json} (h : Fits levels v) :
    Raw.toJson? levels (Raw.ofJson v) = some v := by
  induction h with
  | array _ ih => simp [Raw.ofJson, Raw.toJson?, itemsToJson?_ofItems ih]
  | object sorted _ ih =>
    simp [Raw.ofJson, Raw.toJson?, membersToJson?_ofMembers ih, ofMembers_of_pairwise sorted]
  | _ => simp [Raw.ofJson, Raw.toJson?]

end ElixirLint.Json
