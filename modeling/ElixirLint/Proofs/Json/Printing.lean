import ElixirLint.Proofs.Json.Values

/-!
# Values that are printed

Both layouts of the printer spell the same tree, in whatever order the members of objects stand: that of the value,
except that a number denotes what its digits are read as. So what holds no double and only whole numbers that fit into
64 bits is read as it is.

Main results: `spells_layout`, `ofText?_layout`, `Spellable.spells_layout`.
-/

namespace ElixirLint.Json

/-! ## The trees of printed texts -/

/-- What holds of a value as soon as it holds of the items or members in it holds of every value. -/
theorem induction {P : Json → Prop} (null : P .null) (bool : ∀ b, P (.bool b)) (int : ∀ n, P (.int n))
    (double : ∀ x, P (.double x)) (string : ∀ s, P (.string s)) (array : ∀ vs, (∀ v ∈ vs, P v) → P (.array vs))
    (object : ∀ ms, (∀ m ∈ ms, P m.2) → P (.object ms)) (v : Json) : P v :=
  v.rec (motive_2 := fun vs => ∀ v ∈ vs, P v) (motive_3 := fun ms => ∀ m ∈ ms, P m.2) (motive_4 := fun m => P m.2)
    null bool int double string array object nofun (fun _ _ first others => List.forall_mem_cons.mpr ⟨first, others⟩)
    nofun (fun _ _ first others => List.forall_mem_cons.mpr ⟨first, others⟩) fun _ _ value => value

mutual

/-- The tree of a value in which numbers denote something else. -/
def Raw.ofJsonWith (number : Json → Option Json) : Json → Raw
  | .null => .null
  | .bool b => .bool b
  | .int n => .number (number (.int n))
  | .double x => .number (number (.double x))
  | .string s => .string (some s)
  | .array items => .array (ofItemsWith number items)
  | .object members => .object (ofMembersWith number members)

/-- The trees of some values in which numbers denote something else. -/
def Raw.ofItemsWith (number : Json → Option Json) : List Json → List Raw
  | [] => []
  | v :: vs => ofJsonWith number v :: ofItemsWith number vs

/-- The trees of some members in which numbers denote something else. -/
def Raw.ofMembersWith (number : Json → Option Json) : List (String × Json) → List (Option String × Raw)
  | [] => []
  | (k, v) :: ms => (some k, ofJsonWith number v) :: ofMembersWith number ms

end

variable {number : Json → Option Json}

/-- Trees of items agree if those of every item do. -/
theorem ofItemsWith_eq {vs : List Json} (h : ∀ v ∈ vs, Raw.ofJsonWith number v = Raw.ofJson v) :
    Raw.ofItemsWith number vs = Raw.ofItems vs := by
  induction vs with
  | nil => rfl
  | cons v vs ih =>
    obtain ⟨first, others⟩ := List.forall_mem_cons.mp h
    rw [Raw.ofItemsWith, Raw.ofItems, first, ih others]

/-- Members are read back alike if each of them is. -/
theorem ofMembersWith_eq {ms : List (String × Json)} (h : ∀ m ∈ ms, Raw.ofJsonWith number m.2 = Raw.ofJson m.2) :
    Raw.ofMembersWith number ms = Raw.ofMembers ms := by
  induction ms with
  | nil => rfl
  | cons m ms ih =>
    obtain ⟨first, others⟩ := List.forall_mem_cons.mp h
    rw [Raw.ofMembersWith, Raw.ofMembers, first, ih others]

/-- What the text of a number is read as. -/
def reread (number : Json) : Option Json := (Raw.readLiteral (compactText number)).bind fun read => read.1.value?

/-- The tree that is read from the printed text of a value. -/
def printedTree (v : Json) : Raw := Raw.ofJsonWith reread v

/-- A text of a number spells what it is read as. -/
theorem spells_of_chars {v : Json} {t : NumberText} (proper : t.IsProper) (chars : t.chars = compactText v) :
    Spells (.number (reread v)) (compactText v) := by
  have read : Raw.readLiteral (t.chars ++ []) = some (t.literal, []) := proper.readLiteral nofun
  rw [List.append_nil] at read
  rw [reread, ← chars, read]
  exact .number proper

/-- The digits of a whole number spell it. -/
theorem spells_int (n : Int) : Spells (.number (reread (.int n))) (toString n).toList :=
  spells_of_chars (isProper_intText n) (chars_intText n)

/-- The shortest decimal number spells a double. -/
theorem spells_double (x : Binary64) : Spells (.number (reread (.double x))) (doubleText x) := by
  obtain ⟨t, proper, chars⟩ := exists_doubleText x
  exact spells_of_chars proper chars

/-- A whole number of 64 bits is read as itself. -/
theorem reread_int {n : Int} (h : InRange n) : reread (.int n) = some (.int n) := by
  have read : Raw.readLiteral ((intText n).chars ++ []) = some ((intText n).literal, []) :=
    (isProper_intText n).readLiteral nofun
  rw [List.append_nil, chars_intText] at read
  rw [reread, compactText, read]
  exact value?_intText h

/-- Items are spelled with commas between them. -/
theorem spellsItems_compact {vs : List Json} (some_ : vs ≠ [])
    (h : ∀ v ∈ vs, Spells (Raw.ofJsonWith number v) (compactText v)) :
    SpellsItems (Raw.ofItemsWith number vs) (compactItems vs) := by
  induction vs with
  | nil => exact absurd rfl some_
  | cons v vs ih =>
    obtain ⟨first, others⟩ := List.forall_mem_cons.mp h
    cases vs with
    | nil => simpa [compactItems, Raw.ofItemsWith] using SpellsItems.last isBlank_nil first isBlank_nil
    | cons w vs => exact .more isBlank_nil first (ih (by simp) others)

/-- Members are spelled with commas between them, each behind its key. -/
theorem spellsMembers_compact {ms : List (String × Json)} (some_ : ms ≠ [])
    (h : ∀ m ∈ ms, Spells (Raw.ofJsonWith number m.2) (compactText m.2)) :
    SpellsMembers (Raw.ofMembersWith number ms) (compactMembers ms) := by
  induction ms with
  | nil => exact absurd rfl some_
  | cons m ms ih =>
    obtain ⟨first, others⟩ := List.forall_mem_cons.mp h
    cases ms with
    | nil =>
      simpa [compactMembers, Raw.ofMembersWith] using
        SpellsMembers.last (k := m.1) isBlank_nil isBlank_nil first isBlank_nil
    | cons n ms =>
      simpa [compactMembers, Raw.ofMembersWith] using
        SpellsMembers.more (k := m.1) isBlank_nil isBlank_nil first (ih (by simp) others)

/-- The compact layout spells the tree that is read from it. -/
theorem spells_compactText (v : Json) : Spells v.printedTree (compactText v) := by
  induction v using Json.induction with
  | null => exact .null
  | bool b => cases b <;> exact .bool _
  | int n => exact spells_int n
  | double x => exact spells_double x
  | string s => exact .string s
  | array vs ih =>
    cases vs with
    | nil => exact .noItems
    | cons v vs => exact .items (spellsItems_compact (by simp) ih)
  | object ms ih =>
    cases ms with
    | nil => exact .noMembers
    | cons m ms => exact .members (spellsMembers_compact (by simp) ih)

/-- A new line with its indentation is blank. -/
theorem isBlank_newLine (level : Nat) : IsBlank (newLine level) := by
  intro c hc
  rcases List.mem_cons.mp hc with rfl | hc
  · rfl
  · rw [List.eq_of_mem_replicate hc]
    rfl

/-- Items on lines of their own are spelled, with blank space around them. -/
theorem spellsItems_indented {level : Nat} {vs : List Json} {b : List Char} (hb : IsBlank b) (some_ : vs ≠ [])
    (h : ∀ v ∈ vs, Spells (Raw.ofJsonWith number v) (indentedText level v)) :
    SpellsItems (Raw.ofItemsWith number vs) (indentedItems level vs ++ b) := by
  induction vs with
  | nil => exact absurd rfl some_
  | cons v vs ih =>
    obtain ⟨first, others⟩ := List.forall_mem_cons.mp h
    cases vs with
    | nil => simpa [indentedItems, Raw.ofItemsWith] using SpellsItems.last (isBlank_newLine level) first hb
    | cons w vs =>
      simpa [indentedItems, Raw.ofItemsWith] using
        SpellsItems.more (isBlank_newLine level) first (ih (by simp) others)

theorem spellsMembers_indented {level : Nat} {ms : List (String × Json)} {b : List Char} (hb : IsBlank b)
    (some_ : ms ≠ []) (h : ∀ m ∈ ms, Spells (Raw.ofJsonWith number m.2) (indentedText level m.2)) :
    SpellsMembers (Raw.ofMembersWith number ms) (indentedMembers level ms ++ b) := by
  have blank : IsBlank [' '] := List.forall_mem_singleton.mpr rfl
  induction ms with
  | nil => exact absurd rfl some_
  | cons m ms ih =>
    obtain ⟨first, others⟩ := List.forall_mem_cons.mp h
    cases ms with
    | nil =>
      simpa [indentedMembers, Raw.ofMembersWith] using
        SpellsMembers.last (k := m.1) (isBlank_newLine level) blank first hb
    | cons n ms =>
      simpa [indentedMembers, Raw.ofMembersWith] using
        SpellsMembers.more (k := m.1) (isBlank_newLine level) blank first (ih (by simp) others)

/-- The layout over several lines spells the same tree. -/
theorem spells_indentedText (v : Json) (level : Nat) : Spells v.printedTree (indentedText level v) := by
  induction v using Json.induction generalizing level with
  | null => exact .null
  | bool b => cases b <;> exact .bool _
  | int n => exact spells_int n
  | double x => exact spells_double x
  | string s => exact .string s
  | array vs ih =>
    cases vs with
    | nil => exact .noItems
    | cons v vs => exact .items (spellsItems_indented (isBlank_newLine level) (by simp) fun w hw => ih w hw _)
  | object ms ih =>
    cases ms with
    | nil => exact .noMembers
    | cons m ms => exact .members (spellsMembers_indented (isBlank_newLine level) (by simp) fun n hn => ih n hn _)

/-- The texts that the printer makes of a value: on one line, and over several. -/
def layouts (v : Json) : List String := [v.compact, v.indented]

/-- Every layout of the printer spells that tree. -/
theorem spells_layout {v : Json} {text : String} (ht : text ∈ v.layouts) :
    ∃ cs, text = String.ofList cs ∧ Spells v.printedTree cs := by
  simp only [layouts, List.mem_cons, List.not_mem_nil, or_false] at ht
  rcases ht with rfl | rfl
  · exact ⟨_, rfl, spells_compactText v⟩
  · exact ⟨_, rfl, spells_indentedText v 0⟩

/-- So it is read from every layout. -/
theorem ofText?_layout {v : Json} {text : String} (ht : text ∈ v.layouts) : Raw.ofText? text = some v.printedTree := by
  obtain ⟨cs, rfl, spells⟩ := spells_layout ht
  exact spells.ofText?

/-! ## Values that are read as they are -/

/-- A value without doubles whose whole numbers fit into 64 bits. -/
inductive Spellable : Json → Prop
  | null : Spellable .null
  | bool (b : Bool) : Spellable (.bool b)
  | int {n : Int} (h : InRange n) : Spellable (.int n)
  | string (s : String) : Spellable (.string s)
  | array {vs : List Json} (h : ∀ v ∈ vs, Spellable v) : Spellable (.array vs)
  | object {ms : List (String × Json)} (h : ∀ m ∈ ms, Spellable m.2) : Spellable (.object ms)

theorem spellable_strings (ss : List String) : Spellable (.array (ss.map .string)) := by
  refine .array fun w hw => ?_
  obtain ⟨s, -, rfl⟩ := List.mem_map.mp hw
  exact .string s

mutual

/-- Whether a value holds no double. -/
def isWhole : Json → Bool
  | .double _ => false
  | .array items => areWhole items
  | .object members => haveWhole members
  | _ => true

/-- Whether some values hold no double. -/
def areWhole : List Json → Bool
  | [] => true
  | v :: vs => isWhole v && areWhole vs

/-- Whether some members hold no double. -/
def haveWhole : List (String × Json) → Bool
  | [] => true
  | (_, v) :: ms => isWhole v && haveWhole ms

end

theorem areWhole_iff {vs : List Json} : areWhole vs = true ↔ ∀ v ∈ vs, v.isWhole = true := by
  induction vs with
  | nil => simp [areWhole]
  | cons v vs ih => simp [areWhole, ih]

theorem haveWhole_iff {ms : List (String × Json)} : haveWhole ms = true ↔ ∀ m ∈ ms, m.2.isWhole = true := by
  induction ms with
  | nil => simp [haveWhole]
  | cons m ms ih => simp [haveWhole, ih]

/-- A value in normal form without doubles can be spelled. -/
theorem Fits.spellable {levels : Nat} {v : Json} (h : Fits levels v) (whole : v.isWhole = true) : Spellable v := by
  induction h with
  | null => exact .null
  | bool b => exact .bool b
  | int range => exact .int range
  | double x => cases whole
  | string s => exact .string s
  | array _ ih => exact .array fun v hv => ih v hv (areWhole_iff.mp whole v hv)
  | object _ _ ih => exact .object fun m hm => ih m hm (haveWhole_iff.mp whole m hm)

/-- What holds no double and only whole numbers that fit is read as it is. -/
theorem Spellable.printedTree_eq {v : Json} (h : Spellable v) : v.printedTree = Raw.ofJson v := by
  induction h with
  | int range => exact congrArg Raw.number (reread_int range)
  | array _ ih => exact congrArg Raw.array (ofItemsWith_eq ih)
  | object _ ih => exact congrArg Raw.object (ofMembersWith_eq ih)
  | _ => rfl

/-- Every layout of the printer spells the tree of such a value. -/
theorem Spellable.spells_layout {v : Json} (h : Spellable v) {text : String} (ht : text ∈ v.layouts) :
    ∃ cs, text = String.ofList cs ∧ Spells (Raw.ofJson v) cs := by
  rw [← h.printedTree_eq]
  exact Json.spells_layout ht

end ElixirLint.Json
