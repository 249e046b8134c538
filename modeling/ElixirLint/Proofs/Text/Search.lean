import ElixirLint.Text.Search
import ElixirLint.Text.Utf16

/-!
# What is found in a text

`find?` finds the leftmost occurrence, and none only if there is none. `pieces` is `List.splitOn`, so the lines of a text
are what stands between its line feeds.

Main results: `find?_le`, `exists_find?_of_infix`, `isLine_iff`.
-/

namespace ElixirLint.Text

variable {pattern cs line l : List Char} {n m : Nat}

/-- Nothing further to the left is an occurrence. -/
theorem find?_le (h : find? pattern cs = some n) (hm : pattern <+: cs.drop m) : n ≤ m := by
  induction cs generalizing n m with
  | nil =>
    unfold find? at h
    split at h <;> cases h
    exact Nat.zero_le m
  | cons c cs ih =>
    unfold find? at h
    split at h
    · cases h
      exact Nat.zero_le m
    · rename_i here
      obtain ⟨k, hk, rfl⟩ := Option.map_eq_some_iff.mp h
      cases m with
      | zero => exact absurd (List.isPrefixOf_iff_prefix.mpr hm) here
      | succ m => exact Nat.succ_le_succ (ih hk hm)

/-- What is found stands where it is found. -/
theorem prefix_drop_of_find? (h : find? pattern cs = some n) : pattern <+: cs.drop n := by
  induction cs generalizing n with
  | nil =>
    unfold find? at h
    split at h
    · rename_i none
      rw [List.isEmpty_iff.mp none]
      exact List.nil_prefix
    · cases h
  | cons c cs ih =>
    unfold find? at h
    split at h
    · rename_i here
      cases h
      exact List.isPrefixOf_iff_prefix.mp here
    · obtain ⟨k, hk, rfl⟩ := Option.map_eq_some_iff.mp h
      exact ih hk

/-- What occurs in a text is found. -/
theorem exists_find?_of_infix (h : pattern <:+: cs) : ∃ n, find? pattern cs = some n := by
  induction cs with
  | nil => exact ⟨0, by simp [find?, List.infix_nil.mp h]⟩
  | cons c cs ih =>
    unfold find?
    split
    · exact ⟨0, rfl⟩
    · rename_i here
      rcases List.infix_cons_iff.mp h with front | later
      · exact absurd (List.isPrefixOf_iff_prefix.mpr front) here
      · obtain ⟨n, hn⟩ := ih later
        exact ⟨n + 1, by simp [hn]⟩

/-- The pieces between separators. -/
theorem pieces_eq_splitOn (sep : Char) (cs : List Char) : pieces sep cs = cs.splitOn sep := by
  induction cs with
  | nil => rfl
  | cons c cs ih =>
    simp only [List.splitOn] at ih
    unfold pieces
    rw [List.splitOn, List.splitOnP_cons_eq_if_modifyHead, ← ih]
    by_cases same : c = sep
    · simp [same]
    · obtain ⟨p, ps, hp⟩ := List.exists_cons_of_ne_nil (pieces_ne_nil sep cs)
      simp [same, hp]

/-- Line `n` of a text, counted from zero: what stands between line feeds, without a carriage return that closes it. -/
def IsLine (s : String) (n : Nat) (l : List Char) : Prop :=
  ∃ piece, (s.toList.splitOn '\n')[n]? = some piece ∧
    (piece = l ++ ['\r'] ∨ piece = l ∧ ∀ rest, piece ≠ rest ++ ['\r'])

/-- A carriage return at the end of a line is dropped, once. -/
theorem dropReturn_eq_iff :
    dropReturn line = l ↔ line = l ++ ['\r'] ∨ line = l ∧ ∀ rest, line ≠ rest ++ ['\r'] := by
  unfold dropReturn
  by_cases closed : line.getLast? = some '\r'
  · obtain ⟨rest, rfl⟩ := List.getLast?_eq_some_iff.mp closed
    simp
  · have other : ∀ rest, line ≠ rest ++ ['\r'] := fun rest h => closed (by simp [h])
    simp [closed, other]

/-- The lines of a text by their numbers are those that are looked up. -/
theorem isLine_iff {s : String} : IsLine s n l ↔ line? s n = some l := by
  simp only [IsLine, line?, Option.map_eq_some_iff, pieces_eq_splitOn, dropReturn_eq_iff]

/-- There is one line of each number at most. -/
theorem IsLine.unique {s : String} {l' : List Char} (h : IsLine s n l) (h' : IsLine s n l') : l' = l :=
  Option.some.inj ((isLine_iff.mp h').symm.trans (isLine_iff.mp h))

/-- A piece of a text has no more units than the text. -/
theorem unitCount_le_of_mem_pieces {sep : Char} (h : l ∈ pieces sep cs) : unitCount l ≤ unitCount cs := by
  induction cs generalizing l with
  | nil =>
    obtain rfl := List.mem_singleton.mp h
    exact Nat.le_refl 0
  | cons c cs ih =>
    obtain ⟨p, ps, hp⟩ := List.exists_cons_of_ne_nil (pieces_ne_nil sep cs)
    have first := ih (l := p) (by simp [hp])
    have later : ∀ q ∈ ps, unitCount q ≤ unitCount cs := fun q hq => ih (by simp [hp, hq])
    unfold pieces at h
    rw [unitCount_cons]
    split at h
    · rcases List.mem_cons.mp h with rfl | h
      · exact Nat.zero_le _
      · exact Nat.le_add_left_of_le (ih h)
    · simp only [hp, List.mem_cons] at h
      rcases h with rfl | h
      · exact Nat.add_le_add_left first _
      · exact Nat.le_add_left_of_le (later l h)

/-- No line is longer than its text. -/
theorem IsLine.unitCount_le {s : String} (h : IsLine s n l) : unitCount l ≤ unitCount s.toList := by
  obtain ⟨piece, hp, closed⟩ := h
  rw [← pieces_eq_splitOn] at hp
  have le := unitCount_le_of_mem_pieces (List.mem_of_getElem? hp)
  rcases closed with rfl | ⟨rfl, -⟩
  · rw [unitCount_append] at le
    omega
  · exact le

end ElixirLint.Text
