import ElixirLint.Proofs.Highlight

/-!
# Columns and triggers mark the same place

The linter counts columns in characters, and a range counts them in UTF-16 units. The columns of an issue are taken as
they are, while the place of a trigger is counted in units. So the two ways of marking a trigger come to the same exactly
if every character up to the end of the trigger takes one unit (`columns_agree_iff`).
-/

namespace ElixirLint.Highlight

open Text

variable {issue : Issue} {text s : String} {l t : List Char} {n a b : Nat}

/-- The leftmost occurrence of a text on a line is behind `n` characters. -/
structure StandsFirst (l t : List Char) (n : Nat) : Prop where
  here : t <+: l.drop n
  first : ∀ m, t <+: l.drop m → n ≤ m

/-- An issue with these columns, if any, in place of its own. -/
def withColumns (issue : Issue) (column columnEnd : Option Int) : Issue :=
  { issue with column := column, columnEnd := columnEnd }

/-- What is marked begins behind the units of the characters before it. -/
theorem Marks.start_eq (h : Marks l t a b) (ht : t ≠ []) (stands : StandsFirst l t n) :
    a = unitCount (l.take n) := by
  apply Nat.le_antisymm
  · apply h.first
    have behind : (units l).drop (unitCount (l.take n)) = units (l.drop n) := by
      rw [← length_units, ← List.take_append_drop n l, units_append, List.take_append_drop, List.drop_left]
    rw [behind]
    exact units_prefix stands.here
  · have shown : units t <+: (units l).drop a := h.shown ▸ List.take_prefix _ _
    obtain ⟨before, after, rfl, rfl⟩ := split_of_units ht shown
    have least : n ≤ before.length := stands.first _ (by simp)
    rw [List.append_assoc, List.take_append_of_le_length least]
    exact unitCount_take_le n before

/-- A trigger stands within its line. -/
theorem StandsFirst.take_eq (h : StandsFirst l t n) (ht : t ≠ []) :
    l.take (n + t.length) = l.take n ++ t ∧ n ≤ l.length := by
  have le : n ≤ l.length := by
    apply Nat.le_of_not_lt
    intro beyond
    apply ht
    have here := h.here
    rwa [List.drop_eq_nil_of_le (Nat.le_of_lt beyond), List.prefix_nil] at here
  refine ⟨?_, le⟩
  rw [List.take_add, ← List.prefix_iff_eq_take.mp h.here]

/-- Columns within 32 bits are taken as they are. -/
theorem range_withColumns {k : Nat} (issue : Issue) (text : String) (fits : n + k < UInt32.size) :
    ∃ first last, range (withColumns issue (some (n + 1)) (some (n + 1 + k))) text =
      .onLine (zeroBased issue.lineNo) first last ∧ first.toNat = n ∧ last.toNat = n + k := by
  have columns : (withColumns issue (some (n + 1)) (some (n + 1 + k))).column ≠ none ∨
      (withColumns issue (some (n + 1)) (some (n + 1 + k))).columnEnd ≠ none := Or.inl nofun
  refine ⟨_, _, range_of_columns columns, ?_, ?_⟩
  · simp only [withColumns, toNat_zeroBased, place, Option.getD_some, UInt32.size] at *
    omega
  · simp only [withColumns, toNat_max, toNat_zeroBased, place, Option.getD_some, UInt32.size] at *
    omega

/-- Ranges on one line are equal if they begin and end alike. -/
theorem onLine_inj {line first last first' last' : UInt32} :
    Range.onLine line first last = .onLine line first' last' ↔
      first.toNat = first'.toNat ∧ last.toNat = last'.toNat := by
  simp [Range.onLine, UInt32.toNat_inj]

/-- For every issue on a line that is shorter than `UInt32.size` UTF-16 units, and every trigger without an arity that
stands on it: the columns of the leftmost occurrence of the trigger, counted in characters from one, make the range that
the trigger alone makes if and only if no character up to the end of that occurrence is beyond the basic plane. -/
theorem columns_agree_iff (line : IsLine text (place issue.lineNo) l) (short : unitCount l < UInt32.size)
    (trigger : issue.trigger = some (.string s)) (nonempty : s ≠ "") (bare : stripArity s = s)
    (stands : StandsFirst l s.toList n) :
    range (withColumns issue (some (n + 1)) (some (n + 1 + s.length))) text =
        range (withColumns issue none none) text ↔
      ∀ c ∈ l.take (n + s.length), c.toNat ≤ 0xFFFF := by
  have ht : s.toList ≠ [] := by simpa using nonempty
  have named : Names (withColumns issue none none) s.toList := by
    refine ⟨s, trigger, stripped_iff.mpr ?_⟩
    simpa [stripArity] using congrArg String.toList bare
  have on : s.toList <:+: l := stands.here.isInfix.trans (List.drop_suffix n l).isInfix
  obtain ⟨front, le⟩ := stands.take_eq ht
  rw [String.length_toList] at front
  -- The trigger is within the line also when it is counted in characters.
  have fits : n + s.length < UInt32.size := by
    have inside := length_le_unitCount (l.take (n + s.length))
    have whole := unitCount_take_le (n + s.length) l
    rw [front, List.length_append, List.length_take, Nat.min_eq_left le, String.length_toList, ← front] at inside
    omega
  obtain ⟨first, last, columns, hfirst, hlast⟩ := range_withColumns issue text fits
  have none : (withColumns issue none none).column = none := rfl
  obtain ⟨first', last', found, marks⟩ := range_of_trigger none rfl line short named ht on
  have start := marks.start_eq ht stands
  have stop := marks.long
  have before := length_le_unitCount (l.take n)
  have inside := length_le_unitCount s.toList
  rw [List.length_take, Nat.min_eq_left le] at before
  rw [columns, found]
  refine onLine_inj.trans ?_
  rw [hfirst, hlast, stop, start, ← unitCount_eq_length_iff, front, unitCount_append, List.length_append,
    List.length_take, Nat.min_eq_left le, String.length_toList]
  rw [String.length_toList] at inside
  omega

/-- A text with a function between characters of two units, first behind one, then in front of one. -/
def scripted : String := "𝒜 f\r\né=f(f)𝒜\n"

/-- An issue that names the function on a line. -/
def calling (line : Int) : Issue := { Issue.blank with lineNo := some line, trigger := some (.string "f") }

/-- Where a text is found first it stands first. -/
theorem standsFirst_of_find? (h : find? t l = some n) : StandsFirst l t n :=
  ⟨prefix_drop_of_find? h, fun _ => find?_le h⟩

/-- On the first line the columns mark another place than the trigger, on the second one they mark the same. -/
theorem columns_agree_iff_scripted :
    (StandsFirst "𝒜 f".toList "f".toList 2 ∧
      range (withColumns (calling 1) (some 3) (some 4)) scripted ≠ range (withColumns (calling 1) none none) scripted) ∧
    (StandsFirst "é=f(f)𝒜".toList "f".toList 2 ∧
      range (withColumns (calling 2) (some 3) (some 4)) scripted = range (withColumns (calling 2) none none) scripted) := by
  have first : StandsFirst "𝒜 f".toList "f".toList 2 := standsFirst_of_find? (by decide +kernel)
  have second : StandsFirst "é=f(f)𝒜".toList "f".toList 2 := standsFirst_of_find? (by decide +kernel)
  refine ⟨⟨first, ?_⟩, second, ?_⟩
  · intro same
    have basic := (columns_agree_iff (isLine_iff.mpr (by decide +kernel)) (by decide +kernel) rfl (by decide)
      (by decide +kernel) first).mp same '𝒜' (by decide +kernel)
    exact absurd basic (by decide)
  · have basic : ("é=f(f)𝒜".toList.take (2 + "f".length)).all (fun c => decide (c.toNat ≤ 0xFFFF)) = true := by
      decide +kernel
    exact (columns_agree_iff (isLine_iff.mpr (by decide +kernel)) (by decide +kernel) rfl (by decide)
      (by decide +kernel) second).mpr fun c hc => of_decide_eq_true (List.all_eq_true.mp basic c hc)

end ElixirLint.Highlight
