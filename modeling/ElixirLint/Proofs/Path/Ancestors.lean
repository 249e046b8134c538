import ElixirLint.Proofs.Path

/-!
# The paths above a path

The nearest path above one is its parent, which has its components but the last. Above that are the paths above the
parent, so whatever holds of a path and those above it is known by induction along its parents (`Path.upward`).

Main results: `Path.ancestors_of_parent`, `Path.ancestors_pairwise`, `Path.map_components_ancestors`,
`Path.components_parent`.
-/

namespace ElixirLint

namespace Path

variable {a : Bool} {c : Component} {p q base : Path} {first piece : List UInt8} {ps qs : List (List UInt8)}

/-! ## The first piece -/

/-- A path is empty, or the first of its pieces stands for a component. -/
theorem front_cases (p : Path) :
    p = ⟨[]⟩ ∨ ∃ (first : List UInt8) (c : Component) (ps : List (List UInt8)), IsFront p.isAbsolute first c ∧
      (∀ piece ∈ ps, slash ∉ piece) ∧ p.pieces = first :: ps.reverse := by
  obtain ⟨bytes⟩ := p
  rcases bytes with _ | ⟨b, bs⟩
  · exact .inl rfl
  right
  obtain ⟨first, rest, hp⟩ := List.exists_cons_of_ne_nil (splitOn_ne_nil slash (b :: bs))
  have plain : ∀ piece ∈ first :: rest, slash ∉ piece := by
    intro piece hm
    exact not_mem_of_mem_splitOn (hp ▸ hm)
  have others : ∀ piece ∈ rest.reverse, slash ∉ piece := by
    intro piece hm
    exact plain piece (.tail _ (List.mem_reverse.mp hm))
  have pieces : (Path.mk (b :: bs)).pieces = first :: rest.reverse.reverse := by
    rw [List.reverse_reverse]
    exact hp
  rcases ha : (Path.mk (b :: bs)).isAbsolute
  · have nonempty : first ≠ [] := by
      rintro rfl
      have other : b ≠ slash := by
        intro same
        rw [same] at ha
        cases ha
      unfold splitOn at hp
      rw [if_neg other] at hp
      split at hp <;> cases hp
    obtain ⟨c, front⟩ := isFront_of_relative (plain first (.head _)) nonempty
    exact ⟨first, c, rest.reverse, front, others, pieces⟩
  · rw [pieces_of_isAbsolute ha] at pieces
    obtain ⟨rfl, -⟩ := List.cons.inj pieces
    exact ⟨[], .root, rest.reverse, isFront_root, others, (pieces_of_isAbsolute ha).trans pieces⟩

/-! ## The nearest path above -/

/-- The paths above one, by its last piece. -/
theorem above_cons (a : Bool) (piece first : List UInt8) (ps : List (List UInt8)) :
    above a (piece :: ps ++ [first]) =
      if isIdle piece then above a (ps ++ [first])
      else spell a (ps.dropWhile isIdle ++ [first]) :: above a (ps ++ [first]) := by
  have step : above a (piece :: (ps ++ [first])) =
      if isIdle piece then above a (ps ++ [first])
      else spell a (trimLast (ps ++ [first])) :: above a (ps ++ [first]) := by
    cases ps <;> rfl
  rw [List.cons_append, step, trimLast_append]

/-- Pieces at the end that make no difference can be left out. -/
theorem above_dropWhile (a : Bool) (first : List UInt8) (ps : List (List UInt8)) :
    above a (ps.dropWhile isIdle ++ [first]) = above a (ps ++ [first]) := by
  induction ps with
  | nil => rfl
  | cons piece ps ih =>
    rw [List.dropWhile_cons]
    split
    · rename_i idle
      rw [ih, above_cons, if_pos idle]
    · rfl

/-- Above a path that is spelled from some pieces is what is above the pieces. -/
theorem above_spell (front : IsFront a first c) (plain : ∀ piece ∈ qs, slash ∉ piece) :
    above (spell a (qs ++ [first])).isAbsolute (spell a (qs ++ [first])).pieces.reverse = above a (qs ++ [first]) := by
  obtain ⟨kept, ps, pieces, same⟩ := pieces_spell front plain
  rw [kept, pieces, List.reverse_cons, ← above_dropWhile, same, above_dropWhile]

/-- What is known of the first of the paths above some pieces: it lacks the last component, it is absolute if they are,
and the others are above it. -/
structure IsNext (a : Bool) (cs : List Component) (q : Path) (others : List Path) : Prop where
  shorter : ∃ last, cs = q.components ++ [last]
  absolute : a = true → q.isAbsolute = true
  onward : above q.isAbsolute q.pieces.reverse = others

/-- The first of the paths above some pieces is what is known of it. -/
theorem isNext_of_above {others : List Path} (front : IsFront a first c) (plain : ∀ piece ∈ ps, slash ∉ piece)
    (h : above a (ps ++ [first]) = q :: others) : IsNext a (c :: later ps.reverse) q others := by
  induction ps with
  | nil =>
    have base : above a [first] = if a || first.isEmpty then [] else [⟨[]⟩] := rfl
    rw [List.nil_append, base] at h
    split at h
    · cases h
    · rename_i relative
      obtain ⟨rfl, rfl⟩ := List.cons.inj h
      refine ⟨⟨c, rfl⟩, ?_, rfl⟩
      intro absolute
      rw [absolute] at relative
      exact absurd rfl relative
  | cons piece ps ih =>
    have rest : ∀ piece ∈ ps, slash ∉ piece := fun piece hm => plain piece (.tail _ hm)
    have kept : ∀ piece ∈ ps.dropWhile isIdle, slash ∉ piece := fun piece hm =>
      rest piece ((List.dropWhile_sublist isIdle).subset hm)
    rw [above_cons] at h
    by_cases idle : isIdle piece = true
    · rw [if_pos idle] at h
      have same : later (piece :: ps).reverse = later ps.reverse := by
        rw [later_reverse, later_cons_idle idle, later_reverse]
      rw [same]
      exact ih rest h
    · rw [if_neg idle] at h
      obtain ⟨rfl, rfl⟩ := List.cons.inj h
      obtain ⟨last, hl⟩ := Option.isSome_iff_exists.mp (laterComponent?_isSome idle)
      have more : later (piece :: ps).reverse = later ps.reverse ++ [last] := by
        rw [later_reverse, later, List.filterMap_cons_some hl, List.reverse_cons, ← later, later_reverse]
      refine ⟨⟨last, ?_⟩, ?_, ?_⟩
      · rw [components_spell front kept, later_reverse_dropWhile, more, List.cons_append]
      · rintro rfl
        exact (pieces_spell front kept).1
      · rw [above_spell front kept, above_dropWhile]

/-- The parent of a path is the first of the paths above it. -/
theorem isNext_of_parent (h : p.parent? = some q) :
    ∃ others, p.ancestors = p :: q :: others ∧ IsNext p.isAbsolute p.components q others := by
  obtain ⟨others, ho⟩ := List.head?_eq_some_iff.mp h
  refine ⟨others, congrArg (p :: ·) ho, ?_⟩
  rcases front_cases p with rfl | ⟨first, c, ps, front, plain, pieces⟩
  · cases h
  · have reversed : p.pieces.reverse = ps ++ [first] := by rw [pieces, List.reverse_cons, List.reverse_reverse]
    rw [components_of_front front pieces]
    exact isNext_of_above front plain (reversed ▸ ho)

/-! ## Along the parents -/

/-- A path without a parent has nothing above it. -/
theorem ancestors_of_top (h : p.parent? = none) : p.ancestors = [p] :=
  congrArg (p :: ·) (List.head?_eq_none_iff.mp h)

/-- Above a path is its parent with what is above that. -/
theorem ancestors_of_parent (h : p.parent? = some q) : p.ancestors = p :: q.ancestors := by
  obtain ⟨others, chain, next⟩ := isNext_of_parent h
  rw [chain, ancestors, next.onward]

/-- A path has one component more than its parent. -/
theorem components_of_parent (h : p.parent? = some q) : ∃ last, p.components = q.components ++ [last] := by
  obtain ⟨_, _, next⟩ := isNext_of_parent h
  exact next.shorter

/-- A path has one component more than its parent. -/
theorem length_components_of_parent (h : p.parent? = some q) : p.components.length = q.components.length + 1 := by
  obtain ⟨last, hl⟩ := components_of_parent h
  rw [hl, List.length_append, List.length_singleton]

/-- The parent of an absolute path is absolute. -/
theorem isAbsolute_of_parent (h : p.parent? = some q) (absolute : p.isAbsolute = true) : q.isAbsolute = true := by
  obtain ⟨_, _, next⟩ := isNext_of_parent h
  exact next.absolute absolute

/-- An absolute path without a parent is the root. -/
theorem components_of_top (absolute : p.isAbsolute = true) (h : p.parent? = none) : p.components = [.root] := by
  have top : above p.isAbsolute p.pieces.reverse = [] := List.head?_eq_none_iff.mp h
  rw [pieces_of_isAbsolute absolute, List.reverse_cons] at top
  rw [components_of_isAbsolute absolute, ← List.reverse_reverse (splitOn slash p.bytes.tail)]
  generalize (splitOn slash p.bytes.tail).reverse = ps at top
  induction ps with
  | nil => rfl
  | cons piece ps ih =>
    rw [above_cons] at top
    split at top
    · rename_i idle
      rw [later_reverse, later_cons_idle idle, ← later_reverse]
      exact ih top
    · cases top

/-- What holds of the paths without a parent, and of a path if it holds of its parent, holds of all paths. -/
theorem upward {motive : Path → Prop} (top : ∀ p, p.parent? = none → motive p)
    (step : ∀ p q, p.parent? = some q → motive q → motive p) (p : Path) : motive p := by
  induction hn : p.components.length using Nat.strong_induction_on generalizing p with
  | _ n ih =>
    rcases hp : p.parent? with _ | q
    · exact top p hp
    · have longer := length_components_of_parent hp
      exact step p q hp (ih q.components.length (by omega) q rfl)

/-- The components of a path at or above another are a prefix. -/
theorem startsWith_of_mem_ancestors (hq : q ∈ p.ancestors) : p.startsWith q = true := by
  refine startsWith_iff.mpr ?_
  induction p using upward with
  | top p h =>
    rw [ancestors_of_top h, List.mem_singleton] at hq
    rw [hq]
  | step p parent h ih =>
    rw [ancestors_of_parent h] at hq
    rcases List.mem_cons.mp hq with rfl | hq
    · exact List.prefix_refl _
    · obtain ⟨last, hl⟩ := components_of_parent h
      rw [hl]
      exact (ih hq).trans (List.prefix_append _ _)

/-- Of a path and the paths above it, every next one has fewer components. -/
theorem ancestors_pairwise (p : Path) :
    p.ancestors.Pairwise fun q q' => q'.components.length < q.components.length := by
  induction p using upward with
  | top p h =>
    rw [ancestors_of_top h]
    exact List.pairwise_singleton _ _
  | step p parent h ih =>
    rw [ancestors_of_parent h]
    refine List.pairwise_cons.mpr ⟨?_, ih⟩
    intro q hq
    have most := length_components_le (startsWith_of_mem_ancestors hq)
    have longer := length_components_of_parent h
    omega

/-- Two levels up from a path is the path above it with two components fewer. -/
theorem parent_parent_eq_some_iff :
    p.parent?.bind parent? = some q ↔ q ∈ p.ancestors ∧ p.components.length = q.components.length + 2 := by
  have least {p q : Path} (hq : q ∈ p.ancestors) : q.components.length ≤ p.components.length :=
    length_components_le (startsWith_of_mem_ancestors hq)
  rcases hp : p.parent? with _ | up
  · rw [ancestors_of_top hp, Option.bind_none, List.mem_singleton]
    refine ⟨nofun, ?_⟩
    rintro ⟨rfl, levels⟩
    omega
  have first := length_components_of_parent hp
  rw [ancestors_of_parent hp, Option.bind_some, List.mem_cons]
  rcases hu : up.parent? with _ | root
  · rw [ancestors_of_top hu, List.mem_singleton]
    refine ⟨nofun, ?_⟩
    rintro ⟨rfl | rfl, levels⟩ <;> omega
  have second := length_components_of_parent hu
  rw [ancestors_of_parent hu, List.mem_cons]
  constructor
  · intro same
    obtain rfl := Option.some.inj same
    exact ⟨.inr (.inr (List.mem_cons_self ..)), by omega⟩
  · rintro ⟨rfl | rfl | hq, levels⟩
    · omega
    · omega
    · -- Further up there are fewer components.
      rcases List.mem_cons.mp hq with rfl | further
      · rfl
      · have fewer := (List.pairwise_cons.mp (ancestors_pairwise root)).1 q further
        omega

/-- A path at or above an absolute path is absolute. -/
theorem isAbsolute_of_mem_ancestors (h : p.isAbsolute = true) (hq : q ∈ p.ancestors) : q.isAbsolute = true := by
  induction p using upward with
  | top p top =>
    rw [ancestors_of_top top, List.mem_singleton] at hq
    rwa [hq]
  | step p parent up ih =>
    rw [ancestors_of_parent up] at hq
    rcases List.mem_cons.mp hq with rfl | hq
    · exact h
    · exact ih (isAbsolute_of_parent up h) hq

/-- The beginnings of a list but the empty one, longest first, are the list itself and those of the list without its
end. -/
theorem reverse_tail_inits {α : Type} (xs : List α) (x : α) :
    (xs ++ [x]).inits.tail.reverse = (xs ++ [x]) :: xs.inits.tail.reverse := by
  have nonempty : xs.inits ≠ [] := List.ne_nil_of_length_pos (by rw [List.length_inits]; exact Nat.succ_pos _)
  rw [List.inits_append, List.tail_append_of_ne_nil nonempty, List.reverse_append]
  rfl

/-- The components of an absolute path and of the paths above it are all its prefixes but the empty one, the longest
first. -/
theorem map_components_ancestors (h : p.isAbsolute = true) :
    p.ancestors.map components = p.components.inits.tail.reverse := by
  induction p using upward with
  | top p top =>
    rw [ancestors_of_top top, List.map_singleton, components_of_top h top]
    rfl
  | step p parent up ih =>
    obtain ⟨last, hl⟩ := components_of_parent up
    rw [ancestors_of_parent up, List.map_cons, ih (isAbsolute_of_parent up h), hl, reverse_tail_inits]

/-- Every prefix but the empty one is met on the way up. -/
theorem exists_mem_ancestors (h : p.isAbsolute = true) (below : p.startsWith q = true) (nonempty : q.components ≠ []) :
    ∃ e ∈ p.ancestors, e.same q = true := by
  have listed : q.components ∈ p.ancestors.map components := by
    rw [map_components_ancestors h, List.mem_reverse]
    have all := (List.mem_inits _ _).mpr (startsWith_iff.mp below)
    obtain ⟨c, cs, hc⟩ := List.exists_cons_of_ne_nil
      (show p.components ≠ [] by rw [components_of_isAbsolute h]; exact List.cons_ne_nil _ _)
    rw [hc, List.inits_cons] at all ⊢
    exact (List.mem_cons.mp all).resolve_left nonempty
  obtain ⟨e, he, same⟩ := List.mem_map.mp listed
  exact ⟨e, he, same_iff.mpr same⟩

/-- The directory of a path is at or above it. -/
theorem parent_mem_ancestors (h : p.parent? = some q) : q ∈ p.ancestors := .tail _ (List.mem_of_mem_head? h)

/-- The directory of a path has its components but the last. -/
theorem components_parent (hq : p.parent? = some q) : q.components = p.components.dropLast := by
  obtain ⟨last, hl⟩ := components_of_parent hq
  rw [hl, List.dropLast_concat]

/-- What is properly above a path is at or above its directory. -/
theorem startsWith_parent (hq : p.parent? = some q) (above : p.startsWith base = true)
    (proper : base.same p = false) : q.startsWith base = true := by
  have front := startsWith_iff.mp above
  have other : base.components ≠ p.components := by simpa [same] using proper
  obtain ⟨last, hl⟩ := components_of_parent hq
  rw [hl] at front other
  exact startsWith_iff.mpr ((List.prefix_concat_iff.mp front).resolve_left other)

end Path

end ElixirLint
