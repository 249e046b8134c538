import ElixirLint.Json.Decode
import ElixirLint.Proofs.Json.Values
import Mathlib.Data.List.Pairwise

/-!
# Records that are read

A record keeps what every one of its fields keeps, whether it is read from an object or from an array. And a record is
read back from the object that holds a member for each of its fields: every member sets its own field, so that the
members may stand in any order.

Main results: `Record.keeps`, `Record.SetsAll.decoder`, `Record.decoder_of_perm`.
-/

namespace ElixirLint.Json

variable {σ α : Type} {l : Limits}

/-! ## What decoders yield -/

namespace Decoder

/-- An optional value that is not null is decoded as the value. -/
theorem optional_of_ne {d : Decoder α} {v : Raw} (h : v ≠ .null) : Decoder.optional d l v = (d l v).map some := by
  cases v with
  | null => exact absurd rfl h
  | _ => rfl

/-- What is read optionally is read, and not from null. -/
theorem eq_ok_of_optional {d : Decoder α} {v : Raw} {a : α} (h : Decoder.optional d l v = .ok (some a)) :
    v ≠ .null ∧ d l v = .ok a := by
  have notNull : v ≠ .null := by
    rintro rfl
    cases h
  rw [optional_of_ne notNull] at h
  cases read : d l v with
  | error e =>
    rw [read] at h
    cases h
  | ok b =>
    rw [read] at h
    cases h
    exact ⟨notNull, rfl⟩

/-- A whole number that is read lies within the bounds. -/
theorem bounds_of_between {low high n : Int} {expected : Expected} {v : Raw}
    (h : between low high expected l v = .ok n) : low ≤ n ∧ n ≤ high := by
  unfold between at h
  split at h
  · split at h
    · rename_i within
      cases h
      exact within
    · cases h
  · unfold mismatch at h
    split at h <;> cases h

/-- Every item of an array that is read comes from an item of the array. -/
theorem mem_items {d : Decoder α} {vs : List Raw} {as : List α} (h : items d l vs = .ok as) :
    ∀ a ∈ as, ∃ v ∈ vs, d l v = .ok a := by
  induction vs generalizing as with
  | nil =>
    cases h
    exact nofun
  | cons v vs ih =>
    unfold items at h
    split at h
    · cases h
    · rename_i first
      revert h
      cases others : items d l vs with
      | error e => exact nofun
      | ok rest =>
        intro h
        cases h
        refine List.forall_mem_cons.mpr ⟨⟨v, .head vs, first⟩, fun a ha => ?_⟩
        obtain ⟨w, hw, same⟩ := ih others a ha
        exact ⟨w, .tail v hw, same⟩

/-- The elements of a decoded list are decoded from sound values. -/
theorem mem_list {d : Decoder α} {v : Raw} {as : List α} (sound : v.Sound) (h : list d l v = .ok as) :
    ∀ a ∈ as, ∃ w : Raw, w.Sound ∧ d l.deeper w = .ok a := by
  unfold list at h
  split at h
  · split at h
    · cases h
    · intro a ha
      obtain ⟨w, hw, same⟩ := mem_items h a ha
      cases sound with
      | array sounds => exact ⟨w, sounds w hw, same⟩
  · unfold mismatch at h
    split at h <;> cases h

/-- A raw value that is kept fits into the levels. -/
theorem toJson?_of_json {v : Raw} {j : Json} (h : Decoder.json l v = .ok j) : v.toJson? l.levels = some j := by
  unfold Decoder.json at h
  split at h
  · cases h
    assumption
  · cases h

/-- A value that is read as it is is in normal form. -/
theorem fits_of_json {v : Raw} {j : Json} (sound : v.Sound) (h : Decoder.json l v = .ok j) : Fits l.levels j :=
  fits_of_toJson? sound (toJson?_of_json h)

/-- A value that is read as it is where it may be missing is not null. -/
theorem fits_of_optional {v : Raw} {o : Option Json} {j : Json} (sound : v.Sound)
    (h : Decoder.optional .json l v = .ok o) (hj : j ∈ o) : j ≠ .null ∧ Fits l.levels j := by
  obtain rfl := Option.mem_def.mp hj
  obtain ⟨notNull, read⟩ := eq_ok_of_optional h
  refine ⟨?_, fits_of_json sound read⟩
  rintro rfl
  exact notNull (eq_null_of_toJson? sound (toJson?_of_json read))

/-! ## What decoders read back -/

theorem string_ofJson (s : String) : Decoder.string l (Raw.ofJson (.string s)) = .ok s := rfl

theorem boolean_ofJson (b : Bool) : Decoder.boolean l (Raw.ofJson (.bool b)) = .ok b := rfl

theorem between_ofJson {low high n : Int} {expected : Expected} (h : low ≤ n ∧ n ≤ high) :
    between low high expected l (Raw.ofJson (.int n)) = .ok n := if_pos h

/-- A value that fits into the levels is kept as it is. -/
theorem json_ofJson {v : Json} (h : Fits l.levels v) : Decoder.json l (Raw.ofJson v) = .ok v := by
  simp [Decoder.json, h.toJson?_ofJson]

theorem optional_ofOptionString (s : Option String) :
    Decoder.optional .string l (Raw.ofJson (.ofOptionString s)) = .ok s := by
  cases s <;> rfl

theorem optional_ofOptionInt {d : Decoder Int} {n : Option Int}
    (h : ∀ m ∈ n, d l (Raw.ofJson (.int m)) = .ok m) : Decoder.optional d l (Raw.ofJson (.ofOptionInt n)) = .ok n := by
  cases n with
  | none => rfl
  | some m => exact congrArg (Except.map some) (h m rfl)

theorem optional_path (p : String) : Decoder.optional .path l (Raw.ofJson (.string p)) = .ok (some p) := rfl

/-- A value that is not null is read back, and none at all from null. -/
theorem optional_json {v : Option Json} (h : ∀ w ∈ v, w ≠ .null ∧ Fits l.levels w) :
    Decoder.optional .json l (Raw.ofJson (v.getD .null)) = .ok v := by
  cases v with
  | none => rfl
  | some w =>
    obtain ⟨notNull, fits⟩ := h w rfl
    have some_ : Decoder.optional .json l (Raw.ofJson w) = (Decoder.json l (Raw.ofJson w)).map some := by
      cases w with
      | null => exact absurd rfl notNull
      | _ => rfl
    rw [Option.getD_some, some_, json_ofJson fits]
    rfl

/-- An array of like items is read back if every item is. -/
theorem list_ofJson {d : Decoder α} {f : α → Json} {as : List α} (levels : l.levels ≠ 0)
    (h : ∀ a ∈ as, d l.deeper (Raw.ofJson (f a)) = .ok a) :
    Decoder.list d l (Raw.ofJson (.array (as.map f))) = .ok as := by
  have read : items d l.deeper (Raw.ofItems (as.map f)) = .ok as := by
    induction as with
    | nil => rfl
    | cons a as ih =>
      obtain ⟨first, others⟩ := List.forall_mem_cons.mp h
      simp [Raw.ofItems, items, first, ih others, Except.map]
  simp [Raw.ofJson, Decoder.list, levels, read]

theorem list_string (levels : l.levels ≠ 0) (ss : List String) :
    Decoder.list .string l (Raw.ofJson (.array (ss.map .string))) = .ok ss :=
  list_ofJson levels fun s _ => string_ofJson s

/-- Values that fit into the levels are kept as they are in a list. -/
theorem list_json (levels : l.levels ≠ 0) {vs : List Json} (h : ∀ v ∈ vs, Fits l.deeper.levels v) :
    Decoder.list .json l (Raw.ofJson (.array vs)) = .ok vs := by
  have read := list_ofJson (f := id) levels fun v hv => json_ofJson (h v hv)
  rwa [List.map_id] at read

end Decoder

/-! ## Fields -/

namespace RecordField

variable {P : σ → Prop} {name : String} {d : Decoder α} {store : α → σ → σ}

/-- Reading a field keeps a property of the record. -/
def Keeps (f : RecordField σ) (l : Limits) (P : σ → Prop) : Prop :=
  ∀ (v : Raw) (s s' : σ), v.Sound → P s → f.read l v s = .ok s' → P s'

/-- A field that is read by a decoder and stored keeps what storing keeps. -/
theorem keeps_of (h : ∀ {v a s}, v.Sound → d l v = .ok a → P s → P (store a s)) : (of name d store).Keeps l P := by
  intro v s s' sound hs read
  cases decoded : d l v with
  | error e =>
    simp [of, decoded, Except.map] at read
  | ok a =>
    simp only [of, decoded, Except.map, Except.ok.injEq] at read
    exact read ▸ h sound decoded hs

/-- A field that is needed keeps a property that storing its value keeps. -/
theorem keeps_needed (h : ∀ {v a s}, v.Sound → d l v = .ok a → P s → P (store a s)) :
    (needed name d store).Keeps l P := @keeps_of _ _ _ _ name _ _ h

end RecordField

/-! ## Records -/

namespace Record

variable {r : Record σ}

/-- A field that is found is one of the record. -/
theorem mem_of_field? {k : String} {f : RecordField σ} (h : r.field? k = some f) : f ∈ r.fields :=
  List.mem_of_find?_eq_some h

/-- What the fields of a record keep is kept by reading the members of an object. -/
theorem readMembers_keeps {P : σ → Prop} (fields : ∀ f ∈ r.fields, f.Keeps l P) {ms : List (Option String × Raw)}
    (sound : ∀ m ∈ ms, m.2.Sound) {seen : List String} {s : σ} (hs : P s)
    {result : List String × σ} (h : r.readMembers l ms seen s = .ok result) : P result.2 := by
  induction ms generalizing seen s with
  | nil =>
    cases h
    exact hs
  | cons m ms ih =>
    obtain ⟨first, others⟩ := List.forall_mem_cons.mp sound
    obtain ⟨key, v⟩ := m
    cases key with
    | none => cases h
    | some key =>
      unfold readMembers at h
      split at h
      · exact ih others hs h
      · rename_i f hf
        split at h
        · cases h
        split at h
        · cases h
        · rename_i read
          exact ih others (fields f (mem_of_field? hf) _ _ _ first hs read) h

/-- What the fields of a record keep is kept by reading the items of an array. -/
theorem readItems_keeps {P : σ → Prop} {fs : List (RecordField σ)}
    (fields : ∀ f ∈ fs, f.Keeps l P) {vs : List Raw} (sound : ∀ v ∈ vs, v.Sound) {count : Nat} {s : σ} (hs : P s)
    {result : List Raw × σ} (h : r.readItems l fs vs count s = .ok result) : P result.2 := by
  induction fs generalizing vs count s with
  | nil =>
    cases h
    exact hs
  | cons f fs ih =>
    obtain ⟨field, fields⟩ := List.forall_mem_cons.mp fields
    cases vs with
    | nil =>
      unfold readItems at h
      split at h
      · cases h
      · exact ih fields (fun _ hv => absurd hv List.not_mem_nil) hs h
    | cons v vs =>
      obtain ⟨first, others⟩ := List.forall_mem_cons.mp sound
      unfold readItems at h
      split at h
      · cases h
      · rename_i read
        exact ih fields others (field _ _ _ first hs read) h

/-- What holds before any field is read and is kept by every field holds of the record that is read. -/
theorem keeps {P : σ → Prop} (initial : P r.initial)
    (fields : ∀ f ∈ r.fields, f.Keeps l.deeper P) {v : Raw} (sound : v.Sound) {s : σ} (h : r.decoder l v = .ok s) : P s := by
  unfold decoder at h
  split at h
  · split at h
    · cases h
    split at h
    · cases h
    · rename_i read
      split at h
      · cases h
      · cases h
        cases sound with
        | object sounds => exact readMembers_keeps fields sounds initial read
  · split at h
    · cases h
    split at h
    · cases h
    · rename_i read
      have kept (sounds : ∀ v ∈ _, Raw.Sound v) := readItems_keeps fields sounds initial read
      cases sound with
      | array sounds =>
        split at h
        · cases h
          exact kept sounds
        split at h
        · cases h
          exact kept sounds
        · cases h
        · cases h
  · unfold Decoder.mismatch at h
    split at h <;> cases h

/-! ### Reading back -/

/-- A member sets its field in one way, whatever else the record holds. -/
def Sets (r : Record σ) (l : Limits) (m : String × Json) (g : σ → σ) : Prop :=
  ∃ f, r.field? m.1 = some f ∧ f.name = m.1 ∧ ∀ s, f.read l (Raw.ofJson m.2) s = .ok (g s)

/-- What a member does to a record that is being read; a member that cannot be read does nothing. -/
def take (r : Record σ) (l : Limits) (s : σ) (m : String × Json) : σ :=
  match r.field? m.1 with
  | none => s
  | some f => ((f.read l (Raw.ofJson m.2) s).toOption).getD s

/-- A member that sets a field changes the record that way. -/
theorem Sets.take {m : String × Json} {g : σ → σ} (h : r.Sets l m g) (s : σ) : r.take l s m = g s := by
  obtain ⟨f, found, -, read⟩ := h
  simp [Record.take, found, read, Except.toOption]

/-- A member sets a field that is read by a decoder and stored. -/
theorem sets_of {k : String} {f : RecordField σ} {d : Decoder α} {store : α → σ → σ} {v : Json} {a : α}
    (found : r.field? k = some f) (name : f.name = k) (kind : f.read = (RecordField.of k d store).read)
    (h : d l (Raw.ofJson v) = .ok a) : r.Sets l (k, v) (store a) := by
  refine ⟨f, found, name, fun s => ?_⟩
  rw [kind]
  exact congrArg (Except.map (store · s)) h

/-- Members with different keys that each set a field are all read. -/
theorem readMembers_ofMembers {ms : List (String × Json)} (sets : ∀ m ∈ ms, ∃ g, r.Sets l m g)
    (nodup : (ms.map Prod.fst).Nodup) {seen : List String} (new : ∀ m ∈ ms, m.1 ∉ seen) (s : σ) :
    r.readMembers l (Raw.ofMembers ms) seen s = .ok ((ms.map Prod.fst).reverse ++ seen, ms.foldl (r.take l) s) := by
  induction ms generalizing seen s with
  | nil => rfl
  | cons m ms ih =>
    obtain ⟨⟨g, hg⟩, others⟩ := List.forall_mem_cons.mp sets
    obtain ⟨fresh, news⟩ := List.forall_mem_cons.mp new
    obtain ⟨unlike, nodup⟩ := List.nodup_cons.mp nodup
    have taken := hg.take s
    obtain ⟨f, found, name, read⟩ := hg
    have later : ∀ n ∈ ms, n.1 ∉ m.1 :: seen := by
      intro n hn
      rw [List.mem_cons, not_or]
      exact ⟨fun same => unlike (List.mem_map.mpr ⟨n, hn, same⟩), news n hn⟩
    have rest := ih others nodup later (g s)
    simp only [Raw.ofMembers, readMembers, found, name, List.contains_iff_mem, fresh, if_false, read, rest,
      List.foldl_cons, taken, List.map_cons, List.reverse_cons, List.append_assoc, List.singleton_append]

/-- An object whose members have different keys, each set a field and miss no required one is read. -/
theorem decoder_object (ms : List (String × Json)) (levels : l.levels ≠ 0)
    (sets : ∀ m ∈ ms, ∃ g, r.Sets l.deeper m g) (nodup : (ms.map Prod.fst).Nodup)
    (complete : ∀ f ∈ r.fields, f.required = true → f.name ∈ ms.map Prod.fst) :
    r.decoder l (Raw.ofJson (.object ms)) = .ok (ms.foldl (r.take l.deeper) r.initial) := by
  have read := readMembers_ofMembers sets nodup (fun _ _ => List.not_mem_nil) r.initial
  have found : (r.fields.find? fun f => f.required && !((ms.map Prod.fst).reverse ++ []).contains f.name) = none := by
    rw [List.find?_eq_none]
    intro f hf
    simp only [List.append_nil, Bool.and_eq_true, Bool.not_eq_true', not_and, Bool.not_eq_false,
      List.contains_iff_mem, List.mem_reverse]
    exact complete f hf
  simp only [Raw.ofJson, decoder, levels, if_false, read, found]

/-- Members each set a field, one after another, and lead from one record to another. -/
inductive SetsAll (r : Record σ) (l : Limits) : List (String × Json) → σ → σ → Prop
  | nil {s : σ} : SetsAll r l [] s s
  | cons {m : String × Json} {g : σ → σ} {ms : List (String × Json)} {s t : σ} (first : r.Sets l m g)
      (others : SetsAll r l ms (g s) t) : SetsAll r l (m :: ms) s t

/-- Members that set fields one after the other each set one, and together make the record. -/
theorem SetsAll.sets {ms : List (String × Json)} {s t : σ} (h : r.SetsAll l ms s t) :
    (∀ m ∈ ms, ∃ g, r.Sets l m g) ∧ ms.foldl (r.take l) s = t := by
  induction h with
  | nil => exact ⟨nofun, rfl⟩
  | cons first _ ih => exact ⟨List.forall_mem_cons.mpr ⟨⟨_, first⟩, ih.1⟩, by rw [List.foldl_cons, first.take, ih.2]⟩

/-- An object is read as the record that its members lead to, if their keys are different and no required one is missed. -/
theorem SetsAll.decoder {ms : List (String × Json)} {s : σ} (h : r.SetsAll l.deeper ms r.initial s)
    (levels : l.levels ≠ 0) (nodup : (ms.map Prod.fst).Nodup)
    (complete : ∀ f ∈ r.fields, f.required = true → f.name ∈ ms.map Prod.fst) :
    r.decoder l (Raw.ofJson (.object ms)) = .ok s :=
  (decoder_object ms levels h.sets.1 nodup complete).trans (congrArg Except.ok h.sets.2)

/-- It makes no difference which of two members is read first. -/
def Independent (r : Record σ) (l : Limits) (m n : String × Json) : Prop :=
  ∀ s, r.take l (r.take l s m) n = r.take l (r.take l s n) m

instance : Std.Symm (Independent r l) := ⟨fun _ _ h s => (h s).symm⟩

/-- Where members set their fields independently of each other, an object is read whose members are these in any order. -/
theorem decoder_of_perm {ps : List ((String × Json) × (σ → σ))} {ms : List (String × Json)} (levels : l.levels ≠ 0)
    (perm : ms.Perm (ps.map Prod.fst)) (sets : ∀ p ∈ ps, r.Sets l.deeper p.1 p.2)
    (commute : ps.Pairwise fun p q => ∀ s, q.2 (p.2 s) = p.2 (q.2 s)) (nodup : (ps.map (·.1.1)).Nodup)
    (complete : ∀ f ∈ r.fields, f.required = true → f.name ∈ ps.map (·.1.1)) :
    r.decoder l (Raw.ofJson (.object ms)) = .ok (ps.foldl (fun s p => p.2 s) r.initial) := by
  have keys : ps.map (·.1.1) = (ps.map Prod.fst).map Prod.fst := by simp
  rw [keys] at nodup complete
  have setsAll : ∀ m ∈ ps.map Prod.fst, ∃ g, r.Sets l.deeper m g := by
    intro m hm
    obtain ⟨p, hp, rfl⟩ := List.mem_map.mp hm
    exact ⟨p.2, sets p hp⟩
  have read := decoder_object ms levels (fun m hm => setsAll m (perm.subset hm))
    ((perm.map Prod.fst).nodup_iff.mpr nodup) fun f hf required => (perm.map Prod.fst).mem_iff.mpr (complete f hf required)
  have independent : (ps.map Prod.fst).Pairwise (r.Independent l.deeper) := by
    refine List.pairwise_map.mpr (commute.imp_of_mem fun {p q} hp hq swap s => ?_)
    rw [(sets p hp).take, (sets q hq).take, (sets q hq).take, (sets p hp).take]
    exact swap s
  -- Members that commute may be read in the order in which they are listed.
  have order : ms.foldl (r.take l.deeper) r.initial = (ps.map Prod.fst).foldl (r.take l.deeper) r.initial := by
    refine perm.foldl_eq' (fun m hm n hn s => ?_) r.initial
    exact independent.forall_of_forall (fun _ _ _ => rfl) (perm.subset hm) (perm.subset hn) s
  have stored (s : σ) : (ps.map Prod.fst).foldl (r.take l.deeper) s = ps.foldl (fun s p => p.2 s) s := by
    rw [List.foldl_map]
    exact List.foldl_ext _ _ s fun s p hp => (sets p hp).take s
  rw [read, order, stored]

end Record

end ElixirLint.Json
