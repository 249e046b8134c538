import ElixirLint.Path
import ElixirLint.Proofs.Text.Pieces
import Mathlib.Data.List.Infix

/-!
# Paths by their components

An absolute path is the root with pieces behind it, of which each that makes a difference is a component. Putting a
relative path below another adds the components, and what is left of a path behind another is the path that has to be
put there.

Main results: `Path.components_join`, `Path.components_spell`, `Path.stripBase?_join`.
-/

namespace ElixirLint

namespace Path

variable {a : Bool} {c : Component} {p q base rest : Path} {first piece : List UInt8} {ps qs : List (List UInt8)}
  {sep : UInt8} {bs : List UInt8}

/-! ## Pieces -/

theorem splitOn_ne_nil (sep : UInt8) (bs : List UInt8) : splitOn sep bs ≠ [] := by
  unfold splitOn
  split
  · simp
  · split
    · simp
    · split <;> simp

/-- The pieces are those of the list library. -/
theorem splitOn_eq (sep : UInt8) (bs : List UInt8) : splitOn sep bs = bs.splitOn sep := by
  induction bs with
  | nil => rfl
  | cons b bs ih =>
    simp only [List.splitOn] at ih
    unfold splitOn
    rw [List.splitOn, List.splitOnP_cons_eq_if_modifyHead, ← ih]
    by_cases same : b = sep
    · simp [same]
    · obtain ⟨p, ps, hp⟩ := List.exists_cons_of_ne_nil (splitOn_ne_nil sep bs)
      simp [same, hp]

/-- A separator ends a piece wherever it stands. -/
theorem splitOn_append (sep : UInt8) (bs bs' : List UInt8) :
    splitOn sep (bs ++ sep :: bs') = splitOn sep bs ++ splitOn sep bs' := by
  simp only [splitOn_eq]
  exact List.splitOnP_append_cons bs bs' (beq_self_eq_true sep)

/-- No piece holds the separator. -/
theorem not_mem_of_mem_splitOn (h : piece ∈ splitOn sep bs) : sep ∉ piece := by
  intro hs
  rw [splitOn_eq] at h
  simpa using Text.not_sep_of_mem_splitOnP h hs

/-- Every other byte is in some piece. -/
theorem mem_iff_mem_splitOn {b : UInt8} (h : b ≠ sep) : b ∈ bs ↔ ∃ piece ∈ splitOn sep bs, b ∈ piece := by
  rw [splitOn_eq]
  exact Text.mem_iff_mem_splitOnP (by simpa using h)

/-- The pieces of pieces with separators between them are those pieces. -/
theorem splitOn_joinWith (h : ∀ piece ∈ ps, sep ∉ piece) (nonempty : ps ≠ []) :
    splitOn sep (joinWith sep ps) = ps := by
  rw [splitOn_eq]
  exact List.splitOn_intercalate sep h nonempty

/-- Bytes without the separator are a single piece. -/
theorem splitOn_of_not_mem (h : sep ∉ bs) : splitOn sep bs = [bs] := by
  have again := splitOn_joinWith (List.forall_mem_singleton.mpr h) (List.cons_ne_nil bs [])
  rwa [joinWith, List.intercalate_singleton] at again

/-- The pieces of some bytes with separators between them are those bytes. -/
theorem joinWith_splitOn (sep : UInt8) (bs : List UInt8) : joinWith sep (splitOn sep bs) = bs := by
  rw [splitOn_eq]
  exact List.intercalate_splitOn sep

/-- A piece that makes no difference stands for no component. -/
theorem laterComponent?_eq_none (h : isIdle piece = true) : laterComponent? piece = none := if_pos h

/-- Any other piece stands for one. -/
theorem laterComponent?_isSome (h : ¬isIdle piece = true) : (laterComponent? piece).isSome = true := by
  have shown : laterComponent? piece = if piece == [dot, dot] then some .parent else some (.name piece) := if_neg h
  rw [shown]
  split <;> rfl

/-- The components of pieces behind the first. -/
def later (ps : List (List UInt8)) : List Component := ps.filterMap laterComponent?

@[simp] theorem later_nil : later [] = [] := rfl

/-- A piece that makes no difference adds no component. -/
theorem later_cons_idle (h : isIdle piece = true) : later (piece :: ps) = later ps :=
  List.filterMap_cons_none (laterComponent?_eq_none h)

theorem later_append (ps ps' : List (List UInt8)) : later (ps ++ ps') = later ps ++ later ps' :=
  List.filterMap_append

/-- Pieces at the front that make no difference can be left out. -/
theorem later_dropWhile (ps : List (List UInt8)) : later (ps.dropWhile isIdle) = later ps := by
  induction ps with
  | nil => rfl
  | cons piece ps ih =>
    rw [List.dropWhile_cons]
    split
    · rename_i idle
      rw [ih, later_cons_idle idle]
    · rfl

theorem later_reverse (ps : List (List UInt8)) : later ps.reverse = (later ps).reverse := List.filterMap_reverse

/-- So can pieces at the end. -/
theorem later_reverse_dropWhile (ps : List (List UInt8)) : later (ps.dropWhile isIdle).reverse = later ps.reverse := by
  rw [later_reverse, later_reverse, later_dropWhile]

/-- Behind the pieces that make up some components are the others. -/
theorem later_dropComponents (n : Nat) (ps : List (List UInt8)) : later (dropComponents n ps) = (later ps).drop n := by
  induction ps generalizing n with
  | nil => cases n <;> rfl
  | cons piece ps ih =>
    cases n with
    | zero => rfl
    | succ n =>
      unfold dropComponents
      split
      · rename_i idle
        rw [ih, later_cons_idle idle]
      · rename_i busy
        obtain ⟨c, hc⟩ := Option.isSome_iff_exists.mp (laterComponent?_isSome busy)
        rw [ih, later, later, List.filterMap_cons_some hc, List.drop_succ_cons]

/-- What is left of some pieces is among them. -/
theorem mem_of_mem_dropComponents {n : Nat} (h : piece ∈ dropComponents n ps) : piece ∈ ps := by
  induction ps generalizing n with
  | nil => cases n <;> exact h
  | cons first ps ih =>
    cases n with
    | zero => exact h
    | succ n =>
      unfold dropComponents at h
      split at h <;> exact .tail _ (ih h)

/-! ## Absolute paths -/

/-- The path from the root through some pieces. -/
def fromRoot (ps : List (List UInt8)) : Path := ⟨slash :: joinWith slash ps⟩

/-- The bytes of an absolute path behind the separator at its front. -/
theorem bytes_of_isAbsolute (h : p.isAbsolute = true) : p.bytes = slash :: p.bytes.tail := by
  obtain ⟨bytes⟩ := p
  cases bytes with
  | nil => cases h
  | cons b bs =>
    have first : b = slash := by simpa [isAbsolute] using h
    rw [first]
    rfl

/-- The first piece of an absolute path is the empty one before the root. -/
theorem pieces_of_isAbsolute (h : p.isAbsolute = true) : p.pieces = [] :: splitOn slash p.bytes.tail := by
  have split := splitOn_append slash [] p.bytes.tail
  rw [List.nil_append, ← bytes_of_isAbsolute h] at split
  exact split

/-- The components of an absolute path are the root and those behind the first separator. -/
theorem components_of_isAbsolute (h : p.isAbsolute = true) :
    p.components = .root :: later (splitOn slash p.bytes.tail) := by
  unfold components
  rw [pieces_of_isAbsolute h, h]
  rfl

theorem isAbsolute_fromRoot (ps : List (List UInt8)) : (fromRoot ps).isAbsolute = true := rfl

/-- The path from the root through some pieces has their components behind the root. -/
theorem components_fromRoot (h : ∀ piece ∈ ps, slash ∉ piece) : (fromRoot ps).components = .root :: later ps := by
  rw [components_of_isAbsolute (isAbsolute_fromRoot ps)]
  change _ :: later (splitOn slash (joinWith slash ps)) = _
  by_cases empty : ps = []
  · rw [empty]
    rfl
  · rw [splitOn_joinWith h empty]

/-! ## Spelled paths -/

/-- What makes no difference at the end is trimmed, but never the first piece. -/
theorem trimLast_append (ps : List (List UInt8)) (first : List UInt8) :
    trimLast (ps ++ [first]) = ps.dropWhile isIdle ++ [first] := by
  induction ps with
  | nil => rfl
  | cons piece ps ih =>
    have step : trimLast (piece :: (ps ++ [first])) =
        if isIdle piece then trimLast (ps ++ [first]) else piece :: (ps ++ [first]) := by
      cases ps <;> rfl
    rw [List.cons_append, step, List.dropWhile_cons, ih]
    split <;> rfl

/-- Only a single empty piece is not spelled by putting separators between the pieces. -/
theorem spell_eq (absolute : Bool) (h : ps ≠ [[]]) : spell absolute ps = ⟨joinWith slash ps.reverse⟩ := by
  unfold spell
  split
  · exact absurd rfl h
  · rfl

/-- Pieces behind an empty one are spelled as a path from the root. -/
theorem spell_append (ps : List (List UInt8)) : spell true (ps ++ [[]]) = fromRoot ps.reverse := by
  rcases ps with _ | ⟨piece, ps⟩
  · rfl
  · obtain ⟨first, rest, hr⟩ := List.exists_cons_of_ne_nil (l := (piece :: ps).reverse) (by simp)
    rw [spell_eq true (by simp), List.reverse_append, fromRoot, hr]
    simp [joinWith, List.intercalate_cons_cons]

/-- The first piece of a path that is not empty, with the component that it stands for. It is empty only before the
root. -/
structure IsFront (a : Bool) (first : List UInt8) (c : Component) : Prop where
  plain : slash ∉ first
  stands : firstComponent? a first = some c
  empty : first = [] ↔ a = true

theorem isFront_root : IsFront true [] .root := ⟨List.not_mem_nil, rfl, iff_of_true rfl rfl⟩

/-- A relative path that is not empty begins with a piece that stands for a component. -/
theorem isFront_of_relative (plain : slash ∉ first) (nonempty : first ≠ []) : ∃ c, IsFront false first c := by
  have stands : (firstComponent? false first).isSome = true := by
    rw [firstComponent?, if_neg Bool.false_ne_true]
    split
    · rfl
    · rename_i other
      refine laterComponent?_isSome ?_
      intro idle
      rcases (Bool.or_eq_true _ _).mp idle with empty | here
      · exact nonempty (List.isEmpty_iff.mp empty)
      · exact other here
  obtain ⟨c, hc⟩ := Option.isSome_iff_exists.mp stands
  exact ⟨c, plain, hc, iff_of_false nonempty Bool.false_ne_true⟩

/-- The components of a path are that of its first piece and those of the others. -/
theorem components_of_front (front : IsFront p.isAbsolute first c) (h : p.pieces = first :: ps) :
    p.components = c :: later ps := by
  unfold components
  rw [h]
  simp only [front.stands]
  rfl

/-- A path that is spelled from its pieces has these pieces again, up to those at its end that make no difference. -/
theorem pieces_spell (front : IsFront a first c) (plain : ∀ piece ∈ qs, slash ∉ piece) :
    (spell a (qs ++ [first])).isAbsolute = a ∧
      ∃ ps, (spell a (qs ++ [first])).pieces = first :: ps ∧ ps.reverse.dropWhile isIdle = qs.dropWhile isIdle := by
  have all : ∀ piece ∈ first :: qs.reverse, slash ∉ piece := by
    rintro piece (_ | ⟨_, hm⟩)
    · exact front.plain
    · exact plain piece (List.mem_reverse.mp hm)
  have again : qs.reverse.reverse.dropWhile isIdle = qs.dropWhile isIdle := by rw [List.reverse_reverse]
  rcases a
  · have nonempty : first ≠ [] := fun empty => Bool.false_ne_true (front.empty.mp empty)
    have several : qs ++ [first] ≠ [[]] := by
      intro single
      exact nonempty (List.mem_singleton.mp (single ▸ List.mem_append_right _ (List.mem_singleton_self first)))
    have pieces : (spell false (qs ++ [first])).pieces = first :: qs.reverse := by
      rw [spell_eq false several, List.reverse_append]
      exact splitOn_joinWith all (List.cons_ne_nil _ _)
    refine ⟨?_, qs.reverse, pieces, again⟩
    by_contra absolute
    have root := pieces_of_isAbsolute (Bool.not_eq_false _ ▸ absolute)
    rw [pieces] at root
    exact nonempty (List.cons.inj root).1
  · obtain rfl := front.empty.mpr rfl
    rw [spell_append]
    refine ⟨isAbsolute_fromRoot _, ?_⟩
    by_cases none : qs = []
    · -- Behind the root alone there is an empty piece.
      rw [none]
      exact ⟨[[]], rfl, rfl⟩
    · refine ⟨qs.reverse, ?_, again⟩
      rw [pieces_of_isAbsolute (isAbsolute_fromRoot _)]
      exact congrArg ([] :: ·) (splitOn_joinWith (List.forall_mem_cons.mp all).2 (by simpa using none))

/-- What is spelled from pieces has their components. -/
theorem components_spell (front : IsFront a first c) (plain : ∀ piece ∈ qs, slash ∉ piece) :
    (spell a (qs ++ [first])).components = c :: later qs.reverse := by
  obtain ⟨kept, ps, pieces, same⟩ := pieces_spell front plain
  rw [components_of_front (kept.symm ▸ front) pieces, ← List.reverse_reverse ps, ← later_reverse_dropWhile, same,
    later_reverse_dropWhile]

/-! ## Below a path -/

theorem same_iff : p.same q = true ↔ p.components = q.components := beq_iff_eq

/-- Every path is the same as itself. -/
theorem same_refl (p : Path) : p.same p = true := same_iff.mpr rfl

/-- Paths that are the same as one path are the same. -/
theorem same_trans {r : Path} (h : p.same q = true) (h' : q.same r = true) : p.same r = true :=
  same_iff.mpr ((same_iff.mp h).trans (same_iff.mp h'))

theorem startsWith_iff : p.startsWith base = true ↔ base.components <+: p.components := List.isPrefixOf_iff_prefix

/-- What begins with a path begins with all that this path begins with. -/
theorem startsWith_trans (h : q.startsWith base = true) (hq : p.startsWith q = true) : p.startsWith base = true :=
  startsWith_iff.mpr ((startsWith_iff.mp h).trans (startsWith_iff.mp hq))

/-- A path has at least the components of one that it begins with. -/
theorem length_components_le (h : p.startsWith base = true) : base.components.length ≤ p.components.length :=
  (startsWith_iff.mp h).length_le

/-- The components of a path are those up to some separator and those behind it. -/
theorem components_append (bs bs' : List UInt8) :
    (Path.mk (bs ++ slash :: bs')).components =
      (Path.mk (bs ++ [slash])).components ++ later (splitOn slash bs') := by
  have absolute : (Path.mk (bs ++ slash :: bs')).isAbsolute = (Path.mk (bs ++ [slash])).isAbsolute := by
    cases bs <;> rfl
  obtain ⟨first, ps, hp⟩ := List.exists_cons_of_ne_nil (splitOn_ne_nil slash bs)
  have pieces (bs' : List UInt8) : (Path.mk (bs ++ slash :: bs')).pieces = first :: (ps ++ splitOn slash bs') := by
    rw [pieces, splitOn_append, hp, List.cons_append]
  unfold components
  rw [pieces bs', pieces [], absolute]
  change _ ++ later (ps ++ splitOn slash bs') = _ ++ later (ps ++ [[]]) ++ _
  rw [later_append, later_append, List.append_assoc, List.append_assoc]
  rfl

/-- A separator at the end of a path makes no difference. -/
theorem components_concat_slash (h : bs ≠ []) : (Path.mk (bs ++ [slash])).components = (Path.mk bs).components := by
  obtain ⟨b, bs, rfl⟩ := List.exists_cons_of_ne_nil h
  obtain ⟨first, ps, hp⟩ := List.exists_cons_of_ne_nil (splitOn_ne_nil slash (b :: bs))
  unfold components
  rw [pieces, splitOn_append, pieces, hp]
  change _ ++ later (ps ++ [[]]) = _ ++ later ps
  rw [later_append]
  exact congrArg (_ ++ ·) (List.append_nil _)

/-- A relative path adds its pieces to the components of the path that it is put below. -/
theorem components_join (hb : base.bytes ≠ []) (hr : rest.isAbsolute = false) :
    (base.join rest).components = base.components ++ later rest.pieces := by
  unfold join
  rw [if_neg (by simp [hr])]
  split
  · rename_i closed
    obtain ⟨bs, ended⟩ : ∃ bs, base.bytes = bs ++ [slash] := by
      rcases (Bool.or_eq_true _ _).mp closed with empty | ended
      · exact absurd (List.isEmpty_iff.mp empty) hb
      · exact List.getLast?_eq_some_iff.mp (beq_iff_eq.mp ended)
    rw [ended, List.append_assoc, List.singleton_append, components_append, ← ended]
    rfl
  · rw [components_append, components_concat_slash hb]
    rfl

/-- An entry adds one component to any path. -/
theorem components_join_entry (base : Path) {n : List UInt8} (plain : slash ∉ n) (h : laterComponent? n = some c) :
    (base.join ⟨n⟩).components = base.components ++ [c] := by
  have alone : (Path.mk n).pieces = [n] := splitOn_of_not_mem plain
  have relative : (Path.mk n).isAbsolute = false := by
    rw [← Bool.not_eq_true]
    intro absolute
    have root := pieces_of_isAbsolute absolute
    rw [alone] at root
    obtain ⟨rfl, -⟩ := List.cons.inj root
    cases h
  by_cases empty : base.bytes = []
  · have other : n ≠ [dot] := by
      rintro rfl
      cases h
    obtain rfl : base = ⟨[]⟩ := congrArg Path.mk empty
    have joined : (Path.mk []).join ⟨n⟩ = ⟨n⟩ := by
      unfold join
      rw [if_neg (by simp [relative])]
      rfl
    have none : (Path.mk []).components = [] := rfl
    rw [joined, none]
    unfold components
    rw [alone, relative]
    simp [firstComponent?, other, h]
  · rw [components_join empty relative, alone]
    exact congrArg (_ ++ ·) (List.filterMap_cons_some h)

theorem bytes_ne_nil (h : p.isAbsolute = true) : p.bytes ≠ [] := by
  rw [bytes_of_isAbsolute h]
  exact List.cons_ne_nil _ _

/-- What is put below an absolute path is absolute. -/
theorem isAbsolute_join (h : base.isAbsolute = true) (p : Path) : (base.join p).isAbsolute = true := by
  unfold join
  split
  · assumption
  · rw [bytes_of_isAbsolute h]
    split <;> rfl

/-- What pieces spell without those at either end that make no difference is relative and adds the same components. -/
theorem spell_relative (h : ∀ piece ∈ ps, slash ∉ piece) :
    (spell false (trimLast (ps.dropWhile isIdle).reverse)).isAbsolute = false ∧
      later (spell false (trimLast (ps.dropWhile isIdle).reverse)).pieces = later ps := by
  rcases hd : ps.dropWhile isIdle with _ | ⟨piece, ps'⟩
  · rw [← later_dropWhile ps, hd]
    exact ⟨rfl, rfl⟩
  · have busy : isIdle piece = false := by
      have first := List.head?_dropWhile_not isIdle ps
      rw [hd] at first
      simpa using first
    have nonempty : piece ≠ [] := by
      rintro rfl
      cases busy
    have plain : ∀ q ∈ piece :: ps', slash ∉ q := by
      intro q hq
      exact h q ((List.dropWhile_sublist isIdle).subset (hd ▸ hq))
    obtain ⟨c, front⟩ := isFront_of_relative (plain piece (.head _)) nonempty
    have kept : ∀ q ∈ ps'.reverse.dropWhile isIdle, slash ∉ q := by
      intro q hq
      exact plain q (.tail _ (List.mem_reverse.mp ((List.dropWhile_sublist isIdle).subset hq)))
    obtain ⟨relative, qs, pieces, same⟩ := pieces_spell front kept
    rw [List.reverse_cons, trimLast_append]
    refine ⟨relative, ?_⟩
    have others : later qs = later ps' := by
      rw [← List.reverse_reverse qs, ← later_reverse_dropWhile, same, later_reverse_dropWhile,
        later_reverse_dropWhile, List.reverse_reverse]
    rw [pieces, ← List.singleton_append, later_append, others, ← later_append, List.singleton_append, ← hd,
      later_dropWhile]

/-- What is left of an absolute path behind another are the pieces behind those that make up its components. -/
theorem stripBase?_eq (hp : p.isAbsolute = true) (hb : base.isAbsolute = true) (below : p.startsWith base = true) :
    p.stripBase? base = some (spell false (trimLast
      ((dropComponents (later (splitOn slash base.bytes.tail)).length (splitOn slash p.bytes.tail)).dropWhile
        isIdle).reverse)) := by
  have depth : base.components.length = (later (splitOn slash base.bytes.tail)).length + 1 := by
    rw [components_of_isAbsolute hb, List.length_cons]
  unfold stripBase?
  rw [below, depth, pieces_of_isAbsolute hp, hp]
  rfl

/-- No piece that is left holds the separator. -/
theorem plain_dropComponents (n : Nat) (bs : List UInt8) :
    ∀ piece ∈ dropComponents n (splitOn slash bs), slash ∉ piece := by
  intro piece hm
  exact not_mem_of_mem_splitOn (mem_of_mem_dropComponents hm)

/-- Nothing is left of a path behind one that its components do not begin with. -/
theorem stripBase?_eq_none (h : ¬p.startsWith base = true) : p.stripBase? base = none := by
  unfold stripBase?
  rw [if_pos (by simpa using h)]

/-- What is left of a path behind another is relative. -/
theorem isAbsolute_of_stripBase? (hp : p.isAbsolute = true) (hb : base.isAbsolute = true)
    (h : p.stripBase? base = some rest) : rest.isAbsolute = false := by
  by_cases below : p.startsWith base = true
  · rw [stripBase?_eq hp hb below] at h
    obtain rfl := Option.some.inj h
    exact (spell_relative (plain_dropComponents _ _)).1
  · rw [stripBase?_eq_none below] at h
    cases h

/-- What is left of a path behind another, put below that, leads where the path leads. -/
theorem stripBase?_join (hp : p.isAbsolute = true) (hb : base.isAbsolute = true) (below : p.startsWith base = true) :
    ∃ rest, p.stripBase? base = some rest ∧ (base.join rest).same p = true := by
  obtain ⟨relative, same⟩ :=
    spell_relative (plain_dropComponents (later (splitOn slash base.bytes.tail)).length p.bytes.tail)
  refine ⟨_, stripBase?_eq hp hb below, same_iff.mpr ?_⟩
  obtain ⟨behind, hc⟩ := startsWith_iff.mp below
  rw [components_of_isAbsolute hb, components_of_isAbsolute hp, List.cons_append] at hc
  have whole := (List.cons.inj hc).2
  rw [components_join (bytes_ne_nil hb) relative, same, later_dropComponents, components_of_isAbsolute hb,
    components_of_isAbsolute hp, ← whole, List.drop_left, List.cons_append]

end Path

end ElixirLint
