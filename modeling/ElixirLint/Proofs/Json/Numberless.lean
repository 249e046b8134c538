import ElixirLint.Proofs.Json.Printing
import ElixirLint.Proofs.Json.Records

/-!
# Decoders that look at no number

Most decoders succeed or fail, and read what they read, whatever the numbers in a tree denote; and they look only so
deep that a bound on the nesting beyond that makes no difference. Such a decoder reads from the printed text of a value
what it reads from the value itself, although the text may be nested deeper than is allowed and a double need not be
read as itself.

Main results: `Record.numberless`, `Decoder.Numberless.decodeText?_layout`.
-/

namespace ElixirLint.Json

variable {σ α : Type} {n : Nat} {l : Limits}

/-! ## Trees without numbers -/

namespace Raw

mutual

/-- A tree without what its numbers denote. -/
def unnumbered : Raw → Raw
  | .null => .null
  | .bool b => .bool b
  | .number _ => .number none
  | .string s => .string s
  | .array items => .array (unnumberedItems items)
  | .object members => .object (unnumberedMembers members)

/-- Trees without what their numbers denote. -/
def unnumberedItems : List Raw → List Raw
  | [] => []
  | v :: vs => unnumbered v :: unnumberedItems vs

/-- Members without what the numbers in their trees denote. -/
def unnumberedMembers : List (Option String × Raw) → List (Option String × Raw)
  | [] => []
  | (k, v) :: ms => (k, unnumbered v) :: unnumberedMembers ms

end

/-- Without their numbers, items are the same whatever is made of numbers. -/
theorem unnumbered_ofItemsWith {number : Json → Option Json} {vs : List Json}
    (h : ∀ v ∈ vs, (ofJsonWith number v).unnumbered = (ofJson v).unnumbered) :
    unnumberedItems (ofItemsWith number vs) = unnumberedItems (ofItems vs) := by
  induction vs with
  | nil => rfl
  | cons v vs ih =>
    obtain ⟨first, others⟩ := List.forall_mem_cons.mp h
    simp only [ofItemsWith, ofItems, unnumberedItems, first, ih others]

theorem unnumbered_ofMembersWith {number : Json → Option Json} {ms : List (String × Json)}
    (h : ∀ m ∈ ms, (ofJsonWith number m.2).unnumbered = (ofJson m.2).unnumbered) :
    unnumberedMembers (ofMembersWith number ms) = unnumberedMembers (ofMembers ms) := by
  induction ms with
  | nil => rfl
  | cons m ms ih =>
    obtain ⟨first, others⟩ := List.forall_mem_cons.mp h
    simp only [ofMembersWith, ofMembers, unnumberedMembers, first, ih others]

/-- Trees of one value differ in numbers only. -/
theorem unnumbered_ofJsonWith (number : Json → Option Json) (v : Json) :
    (ofJsonWith number v).unnumbered = (ofJson v).unnumbered := by
  induction v using Json.induction with
  | array vs ih => exact congrArg Raw.array (unnumbered_ofItemsWith ih)
  | object ms ih => exact congrArg Raw.object (unnumbered_ofMembersWith ih)
  | _ => rfl

/-- An item is no deeper than all of them. -/
theorem depth_le_of_mem_items {v : Raw} {vs : List Raw} (h : v ∈ vs) : v.depth ≤ depthItems vs := by
  induction vs with
  | nil => cases h
  | cons w vs ih =>
    rcases List.mem_cons.mp h with rfl | h
    · exact Nat.le_max_left _ _
    · exact Nat.le_trans (ih h) (Nat.le_max_right _ _)

theorem depth_le_of_mem_members {m : Option String × Raw} {ms : List (Option String × Raw)} (h : m ∈ ms) :
    m.2.depth ≤ depthMembers ms := by
  induction ms with
  | nil => cases h
  | cons w ms ih =>
    rcases List.mem_cons.mp h with rfl | h
    · exact Nat.le_max_left _ _
    · exact Nat.le_trans (ih h) (Nat.le_max_right _ _)

end Raw

/-! ## Decoders -/

/-- The bounds allow as many levels as a tree has, or as are looked at. -/
def Limits.Reach (l : Limits) (n : Nat) (v : Raw) : Prop := min n v.depth ≤ l.levels

/-- The bounds for just the levels that are looked at. -/
def Limits.upTo (l : Limits) (n : Nat) : Limits := { l with levels := n }

/-- An array or object within reach may be entered. -/
theorem Limits.Reach.levels_ne_zero {v : Raw} (h : l.Reach (n + 1) v) (nested : 0 < v.depth) : l.levels ≠ 0 := by
  simp only [Limits.Reach] at h
  omega

/-- Everything inside it is within reach. -/
theorem Limits.Reach.deeper {v w : Raw} (h : l.Reach (n + 1) v) (inner : w.depth < v.depth) : l.deeper.Reach n w := by
  simp only [Limits.Reach, Limits.deeper] at h ⊢
  omega

/-- A decoder reads the same, or nothing, whatever numbers denote, and looks at no more than `n` levels. -/
def Decoder.Numberless (n : Nat) (d : Decoder α) : Prop :=
  ∀ (l : Limits) (v : Raw), l.Reach n v → (d l v).toOption = (d (l.upTo n) v.unnumbered).toOption

namespace Decoder

/-- A value of a kind that is not expected is not decoded. -/
theorem toOption_mismatch (expected : Expected) (v : Raw) :
    (mismatch expected v : Except DecodeError α).toOption = none := by
  unfold mismatch
  split <;> rfl

/-- A decoder of texts looks at no numbers. -/
theorem Numberless.string (n : Nat) : Decoder.string.Numberless n := by
  intro l v _
  cases v <;> simp [Decoder.string, Raw.unnumbered, toOption_mismatch]

theorem Numberless.path (n : Nat) : Decoder.path.Numberless n := by
  intro l v _
  cases v <;> simp [Decoder.path, Raw.unnumbered, toOption_mismatch]

theorem Numberless.boolean (n : Nat) : Decoder.boolean.Numberless n := by
  intro l v _
  cases v <;> simp [Decoder.boolean, Raw.unnumbered, toOption_mismatch]

/-- What is made of a decoded value is there if the value is. -/
theorem toOption_map {β : Type} (f : α → β) (r : Except DecodeError α) : (r.map f).toOption = r.toOption.map f := by
  cases r <;> rfl

/-- An optional value is looked at as the value is. -/
theorem Numberless.optional {d : Decoder α} (h : d.Numberless n) : (Decoder.optional d).Numberless n := by
  intro l v reach
  have read := h l v reach
  cases v with
  | null => rfl
  | _ => exact (toOption_map some _).trans ((congrArg (Option.map some) read).trans (toOption_map some _).symm)

/-- Items are decoded one by one. -/
theorem toOption_items (d : Decoder α) (v : Raw) (vs : List Raw) :
    (items d l (v :: vs)).toOption = (d l v).toOption.bind fun a => (items d l vs).toOption.map (a :: ·) := by
  rw [items]
  cases d l v with
  | error e => rfl
  | ok a => exact toOption_map _ _

/-- Items are decoded without a look at numbers if each of them is. -/
theorem Numberless.items {d : Decoder α} (h : d.Numberless n) {vs : List Raw} (reach : ∀ v ∈ vs, l.Reach n v) :
    (items d l vs).toOption = (items d (l.upTo n) (Raw.unnumberedItems vs)).toOption := by
  induction vs with
  | nil => rfl
  | cons v vs ih =>
    obtain ⟨first, others⟩ := List.forall_mem_cons.mp reach
    rw [Raw.unnumberedItems, toOption_items, toOption_items, h l v first, ih others]

/-- A decoder of lists looks at no numbers if that of the elements does not. -/
theorem Numberless.list {d : Decoder α} (h : d.Numberless n) : (Decoder.list d).Numberless (n + 1) := by
  intro l v reach
  cases v with
  | array vs =>
    have inside : ∀ v ∈ vs, l.deeper.Reach n v := fun v hv =>
      reach.deeper (Nat.lt_succ_of_le (Raw.depth_le_of_mem_items hv))
    have levels : l.levels ≠ 0 := reach.levels_ne_zero (Nat.succ_pos _)
    simp only [Decoder.list, Raw.unnumbered, if_neg levels, Limits.upTo]
    exact h.items inside
  | _ => simp only [Decoder.list, Raw.unnumbered, toOption_mismatch]

end Decoder

/-! ## Records -/

/-- Reading a field is the same, or fails, whatever numbers denote, and looks at no more than `n` levels. -/
def RecordField.Numberless (n : Nat) (f : RecordField σ) : Prop :=
  ∀ (l : Limits) (v : Raw) (s : σ), l.Reach n v →
    (f.read l v s).toOption = (f.read (l.upTo n) v.unnumbered s).toOption

/-- A field looks at no numbers if its decoder does not. -/
theorem RecordField.Numberless.of {name : String} {d : Decoder α} {store : α → σ → σ} (h : d.Numberless n) :
    (RecordField.of name d store).Numberless n := by
  intro l v s reach
  exact (Decoder.toOption_map _ _).trans
    ((congrArg (Option.map _) (h l v reach)).trans (Decoder.toOption_map _ _).symm)

namespace Record

variable {r : Record σ}

/-- The members of a record are read without a look at numbers if its fields are. -/
theorem numberless_readMembers (fields : ∀ f ∈ r.fields, f.Numberless n) {ms : List (Option String × Raw)}
    (reach : ∀ m ∈ ms, l.Reach n m.2) (seen : List String) (s : σ) :
    (r.readMembers l ms seen s).toOption = (r.readMembers (l.upTo n) (Raw.unnumberedMembers ms) seen s).toOption := by
  induction ms generalizing seen s with
  | nil => rfl
  | cons m ms ih =>
    obtain ⟨key, v⟩ := m
    obtain ⟨first, others⟩ := List.forall_mem_cons.mp reach
    cases key with
    | none => rfl
    | some key =>
      simp only [Raw.unnumberedMembers, readMembers]
      cases found : r.field? key with
      | none => exact ih others seen s
      | some f =>
        have field := fields f (mem_of_field? found) l v s first
        dsimp only
        split
        · rfl
        · cases hr : f.read l v s <;> cases hr' : f.read (l.upTo n) v.unnumbered s <;> rw [hr, hr'] at field
          · rfl
          · cases field
          · cases field
          · cases field
            exact ih others _ _

/-- A record that is written as a list is read without a look at numbers if its fields are. -/
theorem numberless_readItems {fs : List (RecordField σ)} (fields : ∀ f ∈ fs, f.Numberless n) {vs : List Raw}
    (reach : ∀ v ∈ vs, l.Reach n v) (count : Nat) (s : σ) :
    (r.readItems l fs vs count s).toOption.map (fun read => (Raw.unnumberedItems read.1, read.2)) =
      (r.readItems (l.upTo n) fs (Raw.unnumberedItems vs) count s).toOption := by
  induction fs generalizing vs count s with
  | nil => rfl
  | cons f fs ih =>
    obtain ⟨field, fields⟩ := List.forall_mem_cons.mp fields
    cases vs with
    | nil =>
      simp only [Raw.unnumberedItems, readItems]
      split
      · rfl
      · exact ih fields (fun _ hv => absurd hv List.not_mem_nil) _ _
    | cons v vs =>
      obtain ⟨first, others⟩ := List.forall_mem_cons.mp reach
      have read := field l v s first
      simp only [Raw.unnumberedItems, readItems]
      cases hr : f.read l v s <;> cases hr' : f.read (l.upTo n) v.unnumbered s <;> rw [hr, hr'] at read
      · rfl
      · cases read
      · cases read
      · cases read
        exact ih fields others _ _

/-- Items are none without their numbers exactly if they are none. -/
theorem isEmpty_unnumberedItems (vs : List Raw) : (Raw.unnumberedItems vs).isEmpty = vs.isEmpty := by
  cases vs <;> rfl

/-- What is read from an object: the record, unless a required field is missing. -/
theorem toOption_object {ms : List (Option String × Raw)} (levels : l.levels ≠ 0) :
    (r.decoder l (.object ms)).toOption = (r.readMembers l.deeper ms [] r.initial).toOption.bind fun read =>
      if (r.fields.find? fun f => f.required && !read.1.contains f.name).isSome then none else some read.2 := by
  rw [decoder, if_neg levels]
  cases r.readMembers l.deeper ms [] r.initial with
  | error e => rfl
  | ok read =>
    dsimp only [Except.toOption, Option.bind_some]
    cases r.fields.find? fun f => f.required && !read.1.contains f.name <;> rfl

/-- What is read from an array: the record, unless items are left over that may not be. -/
theorem toOption_array {vs : List Raw} (levels : l.levels ≠ 0) :
    (r.decoder l (.array vs)).toOption = (r.readItems l.deeper r.fields vs 0 r.initial).toOption.bind fun read =>
      if read.1.isEmpty || l.leftover == .passed then some read.2 else none := by
  rw [decoder, if_neg levels]
  cases r.readItems l.deeper r.fields vs 0 r.initial with
  | error e => rfl
  | ok read =>
    dsimp only [Except.toOption, Option.bind_some]
    cases read.1.isEmpty <;> cases l.leftover <;> rfl

/-- A record whose fields look at no number and `n` levels deep is read by looking at no number and one level more. -/
theorem numberless (fields : ∀ f ∈ r.fields, f.Numberless n) : r.decoder.Numberless (n + 1) := by
  intro l v reach
  cases v with
  | object ms =>
    have inside : ∀ m ∈ ms, l.deeper.Reach n m.2 := fun m hm =>
      reach.deeper (Nat.lt_succ_of_le (Raw.depth_le_of_mem_members hm))
    rw [Raw.unnumbered, toOption_object (reach.levels_ne_zero (Nat.succ_pos _)), toOption_object (Nat.succ_ne_zero n),
      numberless_readMembers fields inside]
    rfl
  | array vs =>
    have inside : ∀ v ∈ vs, l.deeper.Reach n v := fun v hv =>
      reach.deeper (Nat.lt_succ_of_le (Raw.depth_le_of_mem_items hv))
    have read : (r.readItems (l.upTo (n + 1)).deeper r.fields (Raw.unnumberedItems vs) 0 r.initial).toOption = _ :=
      (numberless_readItems fields inside 0 r.initial).symm
    rw [Raw.unnumbered, toOption_array (reach.levels_ne_zero (Nat.succ_pos _)), toOption_array (Nat.succ_ne_zero n),
      read, Option.bind_map]
    simp only [Function.comp_def, isEmpty_unnumberedItems, Limits.upTo]
  | _ => simp only [decoder, Raw.unnumbered, Decoder.toOption_mismatch]

end Record

/-! ## Texts and values -/

/-- A decoder that looks at no number reads from a printed text what it reads from the value, or nothing from both. -/
theorem Decoder.Numberless.decodeText?_layout {d : Decoder α} (h : d.Numberless n) (levels : n ≤ Raw.maxLevels)
    {v : Json} {text : String} (ht : text ∈ v.layouts) : decodeText? d text = (decodeValue d v).toOption := by
  have shallow : Limits.Reach ⟨Raw.maxLevels, .refused⟩ n v.printedTree := Nat.le_trans (Nat.min_le_left _ _) levels
  have whole : Limits.Reach ⟨(Raw.ofJson v).depth, .refused⟩ n (Raw.ofJson v) := Nat.min_le_right _ _
  unfold decodeText? decodeValue
  rw [ofText?_layout ht]
  exact (h _ _ shallow).trans ((congrArg (fun t => (d _ t).toOption) (Raw.unnumbered_ofJsonWith reread v)).trans
    (h _ _ whole).symm)

end ElixirLint.Json
