/-!
# Pieces between separators

What `List.splitOnP` makes of a list are the stretches between its separators: no piece holds one, and everything else is
in some piece. What `List.takeWhile` and `List.dropWhile` make of a list is known by its edge (`IsCut`).
-/

namespace ElixirLint.Text

variable {α : Type} {p : α → Bool} {xs piece front rest : List α} {x : α}

/-- No piece holds a separator. -/
theorem not_sep_of_mem_splitOnP (h : piece ∈ xs.splitOnP p) (hx : x ∈ piece) : p x = false := by
  induction xs generalizing piece with
  | nil =>
    rw [List.splitOnP_nil, List.mem_singleton] at h
    subst h
    cases hx
  | cons y xs ih =>
    rw [List.splitOnP_cons_eq_if_modifyHead] at h
    split at h
    · rcases List.mem_cons.mp h with rfl | h
      · cases hx
      · exact ih h hx
    · rename_i plain
      obtain ⟨first, rest, parts⟩ := List.exists_cons_of_ne_nil (List.splitOnP_ne_nil p xs)
      rw [parts] at ih h
      rcases List.mem_cons.mp h with rfl | h
      · rcases List.mem_cons.mp hx with rfl | hx
        · exact Bool.eq_false_iff.mpr plain
        · exact ih (.head rest) hx
      · exact ih (.tail first h) hx

/-- What is no separator is in some piece. -/
theorem mem_iff_mem_splitOnP (plain : p x = false) : x ∈ xs ↔ ∃ piece ∈ xs.splitOnP p, x ∈ piece := by
  induction xs with
  | nil => simp
  | cons y xs ih =>
    rw [List.splitOnP_cons_eq_if_modifyHead, List.mem_cons, ih]
    split
    · rename_i sep
      have other : x ≠ y := by
        rintro rfl
        rw [sep] at plain
        cases plain
      simp [other]
    · obtain ⟨first, rest, parts⟩ := List.exists_cons_of_ne_nil (List.splitOnP_ne_nil p xs)
      simp [parts, or_assoc]

/-- A list is cut in front of the first element that fails a test. -/
structure IsCut (p : α → Bool) (front rest : List α) : Prop where
  inside : ∀ y ∈ front, p y = true
  edge : ∀ y ∈ rest.head?, p y = false

/-- Whether a text is cut at a place can be decided. -/
theorem isCut_iff : IsCut p front rest ↔ (front.all p && rest.head?.all fun y => !p y) = true := by
  rw [Bool.and_eq_true, List.all_eq_true, Option.all_eq_true]
  constructor
  · intro h
    exact ⟨h.inside, fun y hy => by rw [h.edge y hy]; rfl⟩
  · rintro ⟨inside, edge⟩
    exact ⟨inside, fun y hy => by simpa using edge y hy⟩

instance : Decidable (IsCut p front rest) := decidable_of_iff _ isCut_iff.symm

/-- What is in front of a cut are the characters of the kind. -/
theorem IsCut.takeWhile_eq (h : IsCut p front rest) : (front ++ rest).takeWhile p = front := by
  rw [List.takeWhile_append_of_pos h.inside]
  cases rest with
  | nil => simp
  | cons y rest => simp [h.edge y rfl]

/-- What is behind a cut is what is left of the text. -/
theorem IsCut.dropWhile_eq (h : IsCut p front rest) : (front ++ rest).dropWhile p = rest := by
  rw [List.dropWhile_append_of_pos h.inside]
  cases rest with
  | nil => rfl
  | cons y rest => simp [h.edge y rfl]

/-- A list is cut in front of the first of certain elements. -/
theorem isCut_of_not_mem [DecidableEq α] (h : x ∉ front) (edge : ∀ y ∈ rest.head?, y = x) :
    IsCut (fun y => decide (y ≠ x)) front rest := by
  constructor
  · intro y hy
    refine decide_eq_true ?_
    rintro rfl
    exact h hy
  · intro y hy
    exact decide_eq_false (not_not_intro (edge y hy))

/-- What occurs in a list occurs a last time. -/
theorem exists_last_of_mem (h : x ∈ xs) : ∃ front behind, xs = front ++ x :: behind ∧ x ∉ behind := by
  obtain ⟨behind, front, reversed, none⟩ := List.eq_append_cons_of_mem (List.mem_reverse.mpr h)
  refine ⟨front.reverse, behind.reverse, ?_, mt List.mem_reverse.mp none⟩
  rw [← List.reverse_reverse xs, reversed]
  simp

/-- Every list can be cut. -/
theorem exists_isCut (p : α → Bool) (xs : List α) : ∃ front rest, xs = front ++ rest ∧ IsCut p front rest := by
  refine ⟨xs.takeWhile p, xs.dropWhile p, List.takeWhile_append_dropWhile.symm, ?_, ?_⟩
  · exact List.all_eq_true.mp List.all_takeWhile
  · intro y hy
    have edge := List.head?_dropWhile_not p xs
    rw [Option.mem_def.mp hy] at edge
    simpa using edge

end ElixirLint.Text
