import ElixirLint.Proofs.Json.Numbers

/-!
# What is printed is read

A tree has many spellings: between its tokens white space may stand. `Spells` relates a tree to those spellings that
write a number by proper parts and a string by its shortest escapes. Both layouts of the printer are among them, and the
reader takes every one of them back to the tree.

Main results: `reads_spellings`, `Spells.ofText?`.
-/

namespace ElixirLint.Json

open Raw

variable {v : Raw} {cs rest : List Char} {fuel : Nat}

/-! ## Strings -/

/-- A hexadecimal digit stands for the number it is made of. -/
theorem hexDigit?_hexDigit : ∀ n < 16, hexDigit? (Text.hexDigit n) = some n := by decide

/-- The spelling of a character is read as that character. -/
theorem readPieces_stringChar (c : Char) (fuel : Nat) (cs : List Char) :
    readPieces (fuel + 1) (stringChar c ++ cs) =
      (readPieces fuel cs).map fun (ps, after) => (.char c :: ps, after) := by
  unfold stringChar
  split
  · subst_vars; rfl
  split
  · subst_vars; rfl
  split
  · subst_vars; rfl
  split
  · subst_vars; rfl
  split
  · subst_vars; rfl
  split
  · subst_vars; rfl
  split
  · subst_vars; rfl
  split
  · rename_i control
    have high := hexDigit?_hexDigit (c.toNat / 16) (by omega)
    have low := hexDigit?_hexDigit (c.toNat % 16) (by omega)
    have number : c.toNat / 16 * 16 + c.toNat % 16 = c.toNat := by omega
    have zero : hexDigit? '0' = some 0 := rfl
    have whole : ¬(0xD800 ≤ c.toNat ∧ c.toNat ≤ 0xDFFF) := by omega
    simp [readPieces, readHex4, zero, high, low, number, whole, Char.ofNat_toNat]
  · rename_i quote backslash _ _ _ _ _ control
    simp [readPieces, quote, backslash, control]

/-- The spelling of some characters is read up to the quote behind them. -/
theorem readPieces_stringChars (s : List Char) (rest : List Char) (h : s.length < fuel) :
    readPieces fuel (s.flatMap stringChar ++ '"' :: rest) = some (s.map .char, rest) := by
  induction s generalizing fuel with
  | nil =>
    obtain ⟨fuel, rfl⟩ := Nat.exists_eq_succ_of_ne_zero (Nat.ne_of_gt h)
    rfl
  | cons c s ih =>
    obtain ⟨fuel, rfl⟩ := Nat.exists_eq_succ_of_ne_zero (Nat.ne_of_gt (Nat.zero_lt_of_lt h))
    rw [List.flatMap_cons, List.append_assoc, Nat.succ_eq_add_one, readPieces_stringChar,
      ih (Nat.lt_of_succ_lt_succ h)]
    rfl

/-- Pieces that are characters join to the text. -/
theorem joinPieces_map_char (s : List Char) : joinPieces (s.map .char) = some s := by
  induction s with
  | nil => rfl
  | cons c s ih => simp [joinPieces, ih]

theorem length_stringChar_pos (c : Char) : 0 < (stringChar c).length := by
  unfold stringChar
  repeat (split; · simp)
  simp

/-- A text is no longer than what it is written as. -/
theorem length_le_stringChars (s : List Char) : s.length ≤ (s.flatMap stringChar).length := by
  induction s with
  | nil => simp
  | cons c s ih =>
    have first := length_stringChar_pos c
    simp only [List.length_cons, List.flatMap_cons, List.length_append]
    omega

/-- The spelling of a string is read as that string. -/
theorem readString_stringText (s : String) (rest : List Char) :
    readString ((stringText s).tail ++ rest) = some (some s, rest) := by
  have shape : (stringText s).tail ++ rest = s.toList.flatMap stringChar ++ '"' :: rest := by
    simp [stringText]
  have enough : s.toList.length < (s.toList.flatMap stringChar ++ '"' :: rest).length + 1 := by
    have := length_le_stringChars s.toList
    rw [List.length_append]
    omega
  unfold readString
  rw [shape, readPieces_stringChars _ _ enough]
  simp [joinPieces_map_char]

/-! ## Spellings -/

/-- White space between tokens. -/
def IsBlank (cs : List Char) : Prop := ∀ c ∈ cs, isSpace c = true

mutual

/-- A text that spells a tree, without white space around it. -/
inductive Spells : Raw → List Char → Prop
  | null : Spells .null ['n', 'u', 'l', 'l']
  | bool (b : Bool) : Spells (.bool b) (toString b).toList
  | number {t : NumberText} (h : t.IsProper) : Spells (.number t.literal.value?) t.chars
  | string (s : String) : Spells (.string (some s)) (stringText s)
  | noItems : Spells (.array []) ['[', ']']
  | items {vs : List Raw} {cs : List Char} (h : SpellsItems vs cs) : Spells (.array vs) ('[' :: cs ++ [']'])
  | noMembers : Spells (.object []) ['\x7b', '\x7d']
  | members {ms : List (Option String × Raw)} {cs : List Char} (h : SpellsMembers ms cs) :
    Spells (.object ms) ('\x7b' :: cs ++ ['\x7d'])

/-- A text that spells the items of an array, of which there is one at least. -/
inductive SpellsItems : List Raw → List Char → Prop
  | last {a b cs : List Char} {v : Raw} (ha : IsBlank a) (hv : Spells v cs) (hb : IsBlank b) :
    SpellsItems [v] (a ++ (cs ++ b))
  | more {a cs ds : List Char} {v : Raw} {vs : List Raw} (ha : IsBlank a) (hv : Spells v cs)
    (hvs : SpellsItems vs ds) : SpellsItems (v :: vs) (a ++ (cs ++ ',' :: ds))

/-- A text that spells the members of an object, of which there is one at least. -/
inductive SpellsMembers : List (Option String × Raw) → List Char → Prop
  | last {a b c cs : List Char} {k : String} {v : Raw} (ha : IsBlank a) (hb : IsBlank b) (hv : Spells v cs)
    (hc : IsBlank c) : SpellsMembers [(some k, v)] (a ++ (stringText k ++ ':' :: (b ++ (cs ++ c))))
  | more {a b cs ds : List Char} {k : String} {v : Raw} {ms : List (Option String × Raw)} (ha : IsBlank a)
    (hb : IsBlank b) (hv : Spells v cs) (hms : SpellsMembers ms ds) :
    SpellsMembers ((some k, v) :: ms) (a ++ (stringText k ++ ':' :: (b ++ (cs ++ ',' :: ds))))

end

theorem isBlank_nil : IsBlank [] := nofun

/-- Blank space in front is skipped. -/
theorem skipSpace_append {a : List Char} (h : IsBlank a) (cs : List Char) : skipSpace (a ++ cs) = skipSpace cs :=
  List.dropWhile_append_of_pos h

/-- What does not begin with white space is not skipped. -/
theorem skipSpace_cons {c : Char} (h : isSpace c = false) (cs : List Char) : skipSpace (c :: cs) = c :: cs := by
  simp [skipSpace, h]

/-- White space in front of a value does not count. -/
theorem readValue_append {a : List Char} (h : IsBlank a) (cs : List Char) :
    readValue fuel (a ++ cs) = readValue fuel cs := by
  cases fuel with
  | zero => rfl
  | succ fuel => simp only [Raw.readValue, skipSpace_append h]

/-- A character that begins a number begins no other value. -/
theorem begins_number {c : Char} (h : c = '-' ∨ c.isDigit = true) :
    isSpace c = false ∧ c ≠ 'n' ∧ c ≠ 't' ∧ c ≠ 'f' ∧ c ≠ '"' ∧ c ≠ '[' ∧ c ≠ '\x7b' ∧ c ≠ ']' := by
  rcases h with rfl | h
  · decide
  · refine ⟨?_, ?_, ?_, ?_, ?_, ?_, ?_, ?_⟩
    · cases space : isSpace c with
      | false => rfl
      | true =>
        simp only [isSpace, Bool.or_eq_true, beq_iff_eq] at space
        rcases space with ((rfl | rfl) | rfl) | rfl <;> exact absurd h (by decide)
    all_goals
      rintro rfl
      exact absurd h (by decide)

/-- A spelling begins with a token that does not close an array. -/
theorem Spells.head (h : Spells v cs) : ∃ c r, cs = c :: r ∧ isSpace c = false ∧ c ≠ ']' := by
  cases h with
  | number proper =>
    obtain ⟨c, r, hr, hc⟩ := proper.head
    have token := begins_number hc
    exact ⟨c, r, hr, token.1, token.2.2.2.2.2.2.2⟩
  | string => exact ⟨_, _, rfl, by decide, by decide⟩
  | bool b => cases b <;> exact ⟨_, _, rfl, by decide, by decide⟩
  | _ => exact ⟨_, _, rfl, by decide, by decide⟩

/-- A spelling of an object stands in braces. -/
theorem Spells.braced {ms : List (Option String × Raw)} (h : Spells (.object ms) cs) :
    ∃ inner, cs = '\x7b' :: inner ++ ['\x7d'] := by
  cases h with
  | noMembers => exact ⟨[], rfl⟩
  | members h => exact ⟨_, rfl⟩

/-- The items of an array do not begin with its end. -/
theorem SpellsItems.head {vs : List Raw} (h : SpellsItems vs cs) (rest : List Char) :
    ∃ c r, skipSpace (cs ++ rest) = c :: r ∧ c ≠ ']' := by
  cases h with
  | last ha hv _ =>
    obtain ⟨c, r, rfl, space, close⟩ := hv.head
    exact ⟨c, _, by rw [List.append_assoc, skipSpace_append ha]; exact skipSpace_cons space _, close⟩
  | more ha hv _ =>
    obtain ⟨c, r, rfl, space, close⟩ := hv.head
    exact ⟨c, _, by rw [List.append_assoc, skipSpace_append ha]; exact skipSpace_cons space _, close⟩

/-- The members of an object begin with a quote. -/
theorem SpellsMembers.head {ms : List (Option String × Raw)} (h : SpellsMembers ms cs) (rest : List Char) :
    ∃ r, skipSpace (cs ++ rest) = '"' :: r := by
  cases h with
  | last ha _ _ _ => exact ⟨_, by rw [List.append_assoc, skipSpace_append ha]; rfl⟩
  | more ha _ _ _ => exact ⟨_, by rw [List.append_assoc, skipSpace_append ha]; rfl⟩

/-- Blank space ends a number if what is behind it does. -/
theorem EndsNumber.of_blank {a : List Char} (ha : IsBlank a) (h : EndsNumber rest) : EndsNumber (a ++ rest) := by
  cases a with
  | nil => exact h
  | cons c a =>
    rintro c' hc
    obtain rfl := Option.some.inj hc
    have space := ha c List.mem_cons_self
    simp only [isSpace, Bool.or_eq_true, beq_iff_eq] at space
    rcases space with ((rfl | rfl) | rfl) | rfl <;> decide

/-- A number ends in front of a character that cannot go on with it. -/
theorem endsNumber_cons {c : Char} (h : digit? c = none ∧ c ≠ '.' ∧ c ≠ 'e' ∧ c ≠ 'E') : EndsNumber (c :: rest) := by
  intro c' hc
  exact Option.some.inj hc ▸ h

/-! ## Reading a spelling -/

/-- What is read for the items of an array that begin a text. -/
theorem readValue_items {vs : List Raw} (h : SpellsItems vs cs) :
    readValue (fuel + 1) ('[' :: (cs ++ rest)) =
      (readItems fuel (cs ++ rest)).map fun (items, after) => (.array items, after) := by
  obtain ⟨c, r, hr, close⟩ := h.head rest
  simp [Raw.readValue, skipSpace_cons (c := '[') rfl, hr, close]

/-- What is read for the members of an object that begin a text. -/
theorem readValue_members {ms : List (Option String × Raw)} (h : SpellsMembers ms cs) :
    readValue (fuel + 1) ('\x7b' :: (cs ++ rest)) =
      (readMembers fuel (cs ++ rest)).map fun (members, after) => (.object members, after) := by
  obtain ⟨r, hr⟩ := h.head rest
  simp [Raw.readValue, skipSpace_cons (c := '\x7b') rfl, hr]

/-- The text of a number is read as what its literal stands for. -/
theorem readValue_number {t : NumberText} (proper : t.IsProper) (h : EndsNumber rest) :
    readValue (fuel + 1) (t.chars ++ rest) = some (.number t.literal.value?, rest) := by
  have read := proper.readLiteral h
  obtain ⟨c, cs, hc, first⟩ := proper.head
  obtain ⟨space, n, t, f, quote, bracket, brace, -⟩ := begins_number first
  rw [hc, List.cons_append] at read ⊢
  simp [Raw.readValue, skipSpace_cons space, n, t, f, quote, bracket, brace, read]

/-- A string is read as such. -/
theorem readValue_string (s : String) (rest : List Char) :
    readValue (fuel + 1) (stringText s ++ rest) = some (.string (some s), rest) := by
  have read := readString_stringText s rest
  have first : stringText s = '"' :: (stringText s).tail := rfl
  rw [first, List.cons_append]
  simp [Raw.readValue, skipSpace_cons (c := '"') rfl, read]

/-- The last member of an object is read. -/
theorem readMembers_last {a r after : List Char} {raw : Raw} (ha : IsBlank a) (k : String)
    (value : readValue fuel rest = some (raw, r)) (close : skipSpace r = '\x7d' :: after) :
    readMembers (fuel + 1) (a ++ (stringText k ++ ':' :: rest)) = some ([(some k, raw)], after) := by
  have read := readString_stringText k (':' :: rest)
  have first : stringText k = '"' :: (stringText k).tail := rfl
  rw [first, List.cons_append]
  simp [Raw.readMembers, skipSpace_append ha, skipSpace_cons (c := '"') rfl, read, skipSpace_cons (c := ':') rfl, value,
    close]

/-- A member of an object is read, and then those behind the comma. -/
theorem readMembers_more {a r after : List Char} {raw : Raw} (ha : IsBlank a) (k : String)
    (value : readValue fuel rest = some (raw, r)) (comma : skipSpace r = ',' :: after) :
    readMembers (fuel + 1) (a ++ (stringText k ++ ':' :: rest)) =
      (readMembers fuel after).map fun (ms, after) => ((some k, raw) :: ms, after) := by
  have read := readString_stringText k (':' :: rest)
  have first : stringText k = '"' :: (stringText k).tail := rfl
  rw [first, List.cons_append]
  simp [Raw.readMembers, skipSpace_append ha, skipSpace_cons (c := '"') rfl, read, skipSpace_cons (c := ':') rfl, value,
    comma]

/-- A spelling is not empty. -/
theorem Spells.length_pos (h : Spells v cs) : 0 < cs.length := by
  obtain ⟨c, r, rfl, -⟩ := h.head
  exact Nat.zero_lt_succ _

/-- Items take some place. -/
theorem SpellsItems.length_pos {vs : List Raw} (h : SpellsItems vs cs) : 0 < cs.length := by
  obtain ⟨c, r, hr, -⟩ := h.head []
  rw [List.length_pos_iff]
  rintro rfl
  cases hr

theorem SpellsMembers.length_pos {ms : List (Option String × Raw)} (h : SpellsMembers ms cs) : 0 < cs.length := by
  obtain ⟨r, hr⟩ := h.head []
  rw [List.length_pos_iff]
  rintro rfl
  cases hr

/-- The reader takes a spelling back to the tree that it spells. The induction is on the fuel: a value needs less than
twice as much as it has characters, because there is a bracket or a comma for each further call. -/
theorem reads_spellings (fuel : Nat) :
    (∀ {v cs}, Spells v cs → 2 * cs.length ≤ fuel + 1 → ∀ rest, EndsNumber rest →
      readValue fuel (cs ++ rest) = some (v, rest)) ∧
    (∀ {vs cs}, SpellsItems vs cs → 2 * cs.length ≤ fuel → ∀ rest,
      readItems fuel (cs ++ ']' :: rest) = some (vs, rest)) ∧
    (∀ {ms cs}, SpellsMembers ms cs → 2 * cs.length ≤ fuel → ∀ rest,
      readMembers fuel (cs ++ '\x7d' :: rest) = some (ms, rest)) := by
  induction fuel with
  | zero =>
    refine ⟨fun h len => ?_, fun h len => ?_, fun h len => ?_⟩
    all_goals
      have pos := h.length_pos
      omega
  | succ fuel ih =>
    obtain ⟨value, items, members⟩ := ih
    refine ⟨fun h len rest ends => ?_, fun h len rest => ?_, fun h len rest => ?_⟩
    · cases h with
      | null => rfl
      | bool b => cases b <;> rfl
      | number proper => exact readValue_number proper ends
      | string s => exact readValue_string s _
      | noItems => rfl
      | noMembers => rfl
      | items hvs =>
        have inner := items hvs (by simp at len; omega) rest
        rw [List.cons_append, List.cons_append, List.append_assoc, readValue_items hvs, List.singleton_append, inner]
        rfl
      | members hms =>
        have inner := members hms (by simp at len; omega) rest
        rw [List.cons_append, List.cons_append, List.append_assoc, readValue_members hms, List.singleton_append, inner]
        rfl
    · cases h with
      | last ha hv hb =>
        -- A number before the bracket ends there, or at the blanks in between.
        have ends : EndsNumber (_ ++ ']' :: rest) := .of_blank hb (endsNumber_cons (by decide))
        have first := value hv (by simp at len; omega) _ ends
        simp only [List.append_assoc]
        rw [Raw.readItems, readValue_append ha, first]
        simp only [skipSpace_append hb, skipSpace_cons (c := ']') rfl]
      | more ha hv hvs =>
        have others := items hvs (by simp at len; omega) rest
        have first (r : List Char) := value hv (by simp at len; omega) (',' :: r) (endsNumber_cons (by decide))
        simp only [List.append_assoc, List.cons_append]
        rw [Raw.readItems, readValue_append ha, first]
        simp only [skipSpace_cons (c := ',') rfl, others]
        rfl
    · cases h with
      | last ha hb hv hc =>
        have ends : EndsNumber (_ ++ '\x7d' :: rest) := .of_blank hc (endsNumber_cons (by decide))
        have first := value hv (by simp at len; omega) _ ends
        simp only [List.append_assoc, List.cons_append]
        exact readMembers_last ha _ ((readValue_append hb _).trans first) (skipSpace_append hc _)
      | more ha hb hv hms =>
        have others := members hms (by simp at len; omega) rest
        have first (r : List Char) := value hv (by simp at len; omega) (',' :: r) (endsNumber_cons (by decide))
        simp only [List.append_assoc, List.cons_append]
        rw [readMembers_more ha _ ((readValue_append hb _).trans (first _)) rfl, others]
        rfl

/-- A text that spells a tree is read as it. -/
theorem Spells.ofText? (h : Spells v cs) : Raw.ofText? (String.ofList cs) = some v := by
  have ends : EndsNumber [] := nofun
  have read := (reads_spellings (2 * cs.length + 2)).1 h (by omega) [] ends
  rw [List.append_nil] at read
  simp [Raw.ofText?, read, skipSpace]

end ElixirLint.Json
