import ElixirLint.Highlight
import ElixirLint.Proofs.Text.Search
import ElixirLint.Proofs.Text.Units

/-!
# Issues are marked where they stand

An issue is marked by its columns, or by the first place on its line where its trigger stands, or by the whole line. The
trigger is searched for by characters and marked by UTF-16 units, which comes to the same (`triggerRange?_marks`).

Main result: `range_ladder`.
-/

namespace ElixirLint.Highlight

open Text

variable {issue : Issue} {text : String} {l s t front ds : List Char} {a b : Nat}

/-! ## Specification -/

/-- The place that a count from one stands for, counted from zero: a missing count is one, one too small is one, and a
place beyond 32 bits is the last one. -/
def place (n : Option Int) : Nat := min (max (n.getD 1) 1 - 1).toNat (UInt32.size - 1)

/-- `t` is `s` without the slash and the decimal digits at its very end, or `s` itself if it does not end so. -/
def Stripped (s t : List Char) : Prop :=
  (∃ ds, ds ≠ [] ∧ (∀ d ∈ ds, isDecimalDigit d = true) ∧ s = t ++ '/' :: ds) ∨
    t = s ∧ ∀ front ds, ds ≠ [] → (∀ d ∈ ds, isDecimalDigit d = true) → s ≠ front ++ '/' :: ds

/-- The trigger of an issue is a text, which is `t` without its arity. -/
def Names (issue : Issue) (t : List Char) : Prop := ∃ s, issue.trigger = some (.string s) ∧ Stripped s.toList t

/-- The UTF-16 units of a line from `a` up to `b` are those of a text, which does not stand at an earlier unit. -/
structure Marks (l t : List Char) (a b : Nat) : Prop where
  long : b = a + unitCount t
  within : b ≤ unitCount l
  shown : ((units l).drop a).take (b - a) = units t
  first : ∀ i, units t <+: (units l).drop i → a ≤ i

/-! ## Places and arities -/

/-- A place counted from one is counted from zero, between the bounds. -/
theorem toNat_zeroBased (n : Option Int) : (zeroBased n).toNat = place n := by
  cases n with
  | none => rfl
  | some n =>
    simp only [zeroBased, place, Option.getD_some]
    split
    · simp only [clampWord, maxWord, UInt32.toNat_ofNat', UInt32.size, Nat.reducePow]
      omega
    · simp only [UInt32.toNat_zero]
      omega

theorem toNat_max (a b : UInt32) : (max a b).toNat = max a.toNat b.toNat := by
  simp only [max, UInt32.le_iff_toNat_le]
  split <;> rfl

/-- The digits at the end of a text that are preceded by no digit. -/
theorem splitDigits_append {c : Char} (hc : isDecimalDigit c = false) (hd : ∀ d ∈ ds, isDecimalDigit d = true) :
    splitDigits (front ++ c :: ds) = (front ++ [c], ds) := by
  have digits : ∀ d ∈ ds.reverse, isDecimalDigit d = true := fun d h => hd d (List.mem_reverse.mp h)
  have reversed : (front ++ c :: ds).reverse = ds.reverse ++ c :: front.reverse := by simp
  simp only [splitDigits, reversed, List.takeWhile_append_of_pos digits, List.dropWhile_append_of_pos digits]
  simp [hc]

/-- A text is split in front of the digits at its end. -/
theorem splitDigits_spec (s : List Char) :
    s = (splitDigits s).1 ++ (splitDigits s).2 ∧ ∀ d ∈ (splitDigits s).2, isDecimalDigit d = true := by
  constructor
  · rw [splitDigits, ← List.reverse_append, List.takeWhile_append_dropWhile, List.reverse_reverse]
  · intro d hd
    exact List.all_eq_true.mp List.all_takeWhile d (List.mem_reverse.mp hd)

/-- What is left of a text without an arity is determined. -/
theorem stripped_iff : Stripped s t ↔ stripArityChars s = t := by
  have slash : isDecimalDigit '/' = false := by decide
  obtain ⟨whole, digits⟩ := splitDigits_spec s
  constructor
  · rintro (⟨ds, some, hd, rfl⟩ | ⟨rfl, other⟩)
    · simp [stripArityChars, splitDigits_append slash hd, some]
    · unfold stripArityChars
      by_cases none : (splitDigits t).2 = []
      · simp [none]
      by_cases closed : (splitDigits t).1.getLast? = some '/'
      · obtain ⟨front, hf⟩ := List.getLast?_eq_some_iff.mp closed
        rw [hf, List.append_assoc] at whole
        exact absurd whole (other front _ none digits)
      · simp [none, closed]
  · rintro rfl
    unfold stripArityChars
    by_cases none : (splitDigits s).2 = []
    · refine Or.inr ⟨by simp [none], fun front ds some hd h => some ?_⟩
      rwa [h, splitDigits_append slash hd] at none
    by_cases closed : (splitDigits s).1.getLast? = some '/'
    · obtain ⟨front, hf⟩ := List.getLast?_eq_some_iff.mp closed
      refine Or.inl ⟨(splitDigits s).2, none, digits, ?_⟩
      simp only [hf, List.append_assoc, List.singleton_append] at whole
      simpa [none, hf] using whole
    · refine Or.inr ⟨by simp [none, closed], fun front ds some hd h => closed ?_⟩
      simp [h, splitDigits_append slash hd]

/-- An issue names one text at most. -/
theorem Names.unique {t' : List Char} (h : Names issue t) (h' : Names issue t') : t' = t := by
  obtain ⟨s, hs, ht⟩ := h
  obtain ⟨s', hs', ht'⟩ := h'
  cases hs.symm.trans hs'
  exact (stripped_iff.mp ht').symm.trans (stripped_iff.mp ht)

/-- The name in a trigger is the trigger without its arity. -/
theorem names_iff : Names issue t ↔ ∃ s, issue.triggerText = some s ∧ stripArityChars s.toList = t := by
  have string (v : Json) (s : String) : v.string? = some s ↔ v = .string s := by
    cases v <;> simp [Json.string?]
  simp only [Names, Issue.triggerText, Option.bind_eq_some_iff, string, exists_eq_right, stripped_iff]

/-! ## Triggers -/

/-- A trigger that stands on the line is marked where it stands first. -/
theorem triggerRange?_marks (line : UInt32) (short : unitCount l < UInt32.size) (ht : t ≠ []) (h : t <:+: l) :
    ∃ first last, triggerRange? line l t = some (.onLine line first last) ∧ Marks l t first.toNat last.toNat := by
  obtain ⟨n, found⟩ := exists_find?_of_infix h
  obtain ⟨rest, whole⟩ := find?_split found
  have long : unitCount l = unitCount (l.take n) + unitCount t + unitCount rest := by
    rw [← unitCount_append, ← unitCount_append, ← whole]
  have before : (clampWord (unitCount (l.take n))).toNat = unitCount (l.take n) :=
    toNat_clampWord_of_lt (by omega)
  have size : (clampWord (unitCount t)).toNat = unitCount t := toNat_clampWord_of_lt (by omega)
  have behind : (clampWord (unitCount (l.take n)) + clampWord (unitCount t)).toNat =
      unitCount (l.take n) + unitCount t := by
    rw [UInt32.toNat_add, before, size, Nat.mod_eq_of_lt]
    exact Nat.lt_of_le_of_lt (by omega) short
  refine ⟨_, _, by simp [triggerRange?, ht, found]; rfl, ?_⟩
  rw [behind, before]
  refine ⟨rfl, by omega, ?_, ?_⟩
  · have split : units l = units (l.take n) ++ (units t ++ units rest) := by
      rw [← units_append, ← units_append, ← List.append_assoc, ← whole]
    rw [split, Nat.add_sub_cancel_left, ← length_units t, ← length_units (l.take n), List.drop_left, List.take_left]
  · intro i hi
    obtain ⟨front, after, rfl, rfl⟩ := split_of_units ht hi
    have least : n ≤ front.length := find?_le found (by simp)
    rw [List.append_assoc, List.take_append_of_le_length least]
    exact unitCount_take_le n front

/-- A trigger that does not stand on the line is not marked. -/
theorem triggerRange?_eq_none (line : UInt32) (h : t ≠ [] → ¬t <:+: l) : triggerRange? line l t = none := by
  unfold triggerRange?
  split
  · rfl
  · rename_i some
    rw [Option.map_eq_none_iff]
    cases found : find? t l with
    | none => rfl
    | some n =>
      obtain ⟨rest, whole⟩ := find?_split found
      exact absurd ⟨_, _, whole.symm⟩ (h (by simpa using some))

/-! ## Ranges -/

/-- A range that marks a text is not empty unless the text is. -/
theorem Marks.lt (h : Marks l t a b) (ht : t ≠ []) : a < b := by
  have long := h.long
  have some : 0 < unitCount t := by
    rw [← length_units]
    exact List.length_pos_iff.mpr (units_ne_nil ht)
  omega

/-- The range of an issue with columns. -/
theorem range_of_columns (h : issue.column ≠ none ∨ issue.columnEnd ≠ none) :
    range issue text = .onLine (zeroBased issue.lineNo) (zeroBased issue.column)
      (max (zeroBased issue.column) (zeroBased issue.columnEnd)) := by
  have there : issue.lacksColumns = false := by
    simpa only [Issue.lacksColumns, Bool.and_eq_false_iff, Option.isNone_eq_false_iff, Option.isSome_iff_ne_none] using h
  simp [range, there]

/-- The range of an issue without columns whose line is there. -/
theorem range_of_line (hc : issue.column = none) (he : issue.columnEnd = none)
    (hl : IsLine text (place issue.lineNo) l) :
    range issue text = ((issue.triggerText.bind fun t =>
      triggerRange? (zeroBased issue.lineNo) l (stripArityChars t.toList)).getD (wholeLine (zeroBased issue.lineNo) l)) := by
  rw [isLine_iff, ← toNat_zeroBased] at hl
  simp [range, Issue.lacksColumns, hc, he, hl]

/-- The range of an issue without columns whose line is not there. -/
theorem range_of_no_line (hc : issue.column = none) (he : issue.columnEnd = none)
    (hl : ∀ l, ¬IsLine text (place issue.lineNo) l) : range issue text = .onLine (zeroBased issue.lineNo) 0 1 := by
  have none : line? text (zeroBased issue.lineNo).toNat = none := by
    rw [toNat_zeroBased]
    exact Option.eq_none_iff_forall_ne_some.mpr fun l h => hl l (isLine_iff.mpr h)
  simp [range, Issue.lacksColumns, hc, he, none]

/-- The trigger is marked if it stands on the line. -/
theorem range_of_trigger (hc : issue.column = none) (he : issue.columnEnd = none)
    (hl : IsLine text (place issue.lineNo) l) (short : unitCount l < UInt32.size) (named : Names issue t) (ht : t ≠ [])
    (on : t <:+: l) :
    ∃ first last, range issue text = .onLine (zeroBased issue.lineNo) first last ∧ Marks l t first.toNat last.toNat := by
  obtain ⟨s, hs, rfl⟩ := names_iff.mp named
  obtain ⟨first, last, found, marks⟩ := triggerRange?_marks (zeroBased issue.lineNo) short ht on
  exact ⟨first, last, by simp [range_of_line hc he hl, hs, found], marks⟩

/-- The whole line is marked if no trigger stands on it. -/
theorem range_of_no_trigger (hc : issue.column = none) (he : issue.columnEnd = none)
    (hl : IsLine text (place issue.lineNo) l) (off : ∀ t, Names issue t → t ≠ [] → ¬t <:+: l) :
    range issue text = wholeLine (zeroBased issue.lineNo) l := by
  rw [range_of_line hc he hl]
  cases hs : issue.triggerText with
  | none => rfl
  | some s =>
    have hidden := triggerRange?_eq_none (zeroBased issue.lineNo)
      (off (stripArityChars s.toList) (names_iff.mpr ⟨s, hs, rfl⟩))
    simp [hidden]

/-- The range of a whole line ends with the line, but holds one unit at least. -/
theorem toNat_wholeLine_stop (line : UInt32) (short : unitCount l < UInt32.size) :
    (wholeLine line l).stop.character.toNat = max 1 (unitCount l) := by
  simp [wholeLine, Range.onLine, toNat_max, toNat_clampWord_of_lt short]

/-- The range of every issue on every text whose lines are shorter than `UInt32.size` UTF-16 units.

1. It lies on the line of the issue, and does not end before it starts.
2. The columns of the issue, if there is one, make it, whatever the text is.
3. Without columns it is what the line offers: the first place where the trigger stands, or else the whole line. It is
   not empty, and does not leave the line unless that is empty.
4. Without columns and without the line it is the first column. -/
theorem range_ladder (issue : Issue) (text : String) (short : ∀ n l, IsLine text n l → unitCount l < UInt32.size) :
    let first := (range issue text).start
    let last := (range issue text).stop
    (first.line.toNat = place issue.lineNo ∧ last.line = first.line ∧ first.character ≤ last.character) ∧
    (issue.column ≠ none ∨ issue.columnEnd ≠ none →
      first.character.toNat = place issue.column ∧
        last.character.toNat = max (place issue.column) (place issue.columnEnd)) ∧
    (issue.column = none → issue.columnEnd = none → first.character < last.character ∧
      (∀ l, IsLine text (place issue.lineNo) l →
        (∀ t, Names issue t → t ≠ [] → t <:+: l → Marks l t first.character.toNat last.character.toNat) ∧
        ((∀ t, Names issue t → t ≠ [] → ¬t <:+: l) →
          first.character.toNat = 0 ∧ last.character.toNat = max 1 (unitCount l)) ∧
        last.character.toNat ≤ max 1 (unitCount l)) ∧
      ((∀ l, ¬IsLine text (place issue.lineNo) l) → first.character.toNat = 0 ∧ last.character.toNat = 1)) := by
  by_cases columns : issue.column ≠ none ∨ issue.columnEnd ≠ none
  · rw [range_of_columns columns]
    simp only [Range.onLine, UInt32.le_iff_toNat_le, toNat_max, toNat_zeroBased]
    exact ⟨⟨trivial, trivial, Nat.le_max_left _ _⟩, fun _ => ⟨trivial, trivial⟩,
      fun hc he => absurd columns (by simp [hc, he])⟩
  obtain ⟨hc, he⟩ : issue.column = none ∧ issue.columnEnd = none := by simpa using columns
  -- Without columns it is enough that the range is on the line, is not empty, and is what the line offers.
  suffices h : ∃ first last, range issue text = .onLine (zeroBased issue.lineNo) first last ∧
      first.toNat < last.toNat ∧
      (∀ l, IsLine text (place issue.lineNo) l →
        (∀ t, Names issue t → t ≠ [] → t <:+: l → Marks l t first.toNat last.toNat) ∧
        ((∀ t, Names issue t → t ≠ [] → ¬t <:+: l) → first.toNat = 0 ∧ last.toNat = max 1 (unitCount l)) ∧
        last.toNat ≤ max 1 (unitCount l)) ∧
      ((∀ l, ¬IsLine text (place issue.lineNo) l) → first.toNat = 0 ∧ last.toNat = 1) by
    obtain ⟨first, last, hr, lt, there, away⟩ := h
    rw [hr]
    exact ⟨⟨toNat_zeroBased _, rfl, UInt32.le_iff_toNat_le.mpr (Nat.le_of_lt lt)⟩, fun h => absurd h columns,
      fun _ _ => ⟨UInt32.lt_iff_toNat_lt.mpr lt, there, away⟩⟩
  by_cases covered : ∃ l, IsLine text (place issue.lineNo) l
  · obtain ⟨l, hl⟩ := covered
    have size := short _ l hl
    by_cases trigger : ∃ t, Names issue t ∧ t ≠ [] ∧ t <:+: l
    · obtain ⟨t, named, ht, on⟩ := trigger
      obtain ⟨first, last, hr, marks⟩ := range_of_trigger hc he hl size named ht on
      refine ⟨first, last, hr, marks.lt ht, fun l' hl' => ?_, fun away => absurd hl (away l)⟩
      obtain rfl := hl.unique hl'
      refine ⟨fun t' named' _ _ => ?_, fun off => absurd on (off t named ht),
        Nat.le_trans marks.within (Nat.le_max_right _ _)⟩
      rwa [named.unique named']
    · have off : ∀ t, Names issue t → t ≠ [] → ¬t <:+: l := fun t named ht on => trigger ⟨t, named, ht, on⟩
      have stop := toNat_wholeLine_stop (zeroBased issue.lineNo) size
      refine ⟨_, _, range_of_no_trigger hc he hl off, ?_, fun l' hl' => ?_, fun away => absurd hl (away l)⟩
      · have some : 0 < max 1 (unitCount l) := by omega
        exact Nat.lt_of_lt_of_eq some stop.symm
      · obtain rfl := hl.unique hl'
        exact ⟨fun t named ht on => absurd on (off t named ht), fun _ => ⟨rfl, stop⟩, Nat.le_of_eq stop⟩
  · have away : ∀ l, ¬IsLine text (place issue.lineNo) l := fun l hl => covered ⟨l, hl⟩
    exact ⟨0, 1, range_of_no_line hc he away, by decide, fun l hl => absurd hl (away l), fun _ => ⟨rfl, rfl⟩⟩

/-- An issue that names a function on the second line. -/
def unused : Issue := { Issue.blank with lineNo := some 2, trigger := some (.string "𝒜f/2") }

/-- A text whose second line holds the function behind another one, with characters of two units. -/
def astral : String := "x\r\n𝒜g 𝒜f(1) 𝒜f(2)\r\n"

/-- The function is marked where it stands first, in units and without its arity. -/
theorem range_ladder_astral :
    (∀ n l, IsLine astral n l → unitCount l < UInt32.size) ∧ range unused astral = .onLine 1 4 7 ∧
      Marks "𝒜g 𝒜f(1) 𝒜f(2)".toList "𝒜f".toList 4 7 := by
  have short : ∀ n l, IsLine astral n l → unitCount l < UInt32.size := by
    intro n l hl
    have all : unitCount astral.toList < UInt32.size := by decide +kernel
    exact Nat.lt_of_le_of_lt hl.unitCount_le all
  have line : IsLine astral (place unused.lineNo) "𝒜g 𝒜f(1) 𝒜f(2)".toList := isLine_iff.mpr (by decide +kernel)
  have named : Names unused "𝒜f".toList := ⟨"𝒜f/2", rfl, stripped_iff.mpr (by decide +kernel)⟩
  have shown : range unused astral = .onLine 1 4 7 := by decide +kernel
  have marks := ((range_ladder unused astral short).2.2 rfl rfl).2.1 _ line |>.1 _ named (by decide +kernel)
    ⟨"𝒜g ".toList, "(1) 𝒜f(2)".toList, by decide +kernel⟩
  rw [shown] at marks
  exact ⟨short, shown, marks⟩

end ElixirLint.Highlight
