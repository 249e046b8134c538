import ElixirLint.Proofs.Highlight

/-!
# Function references and their arities

A function reference may close with its arity, a slash and decimal digits. What `stripArity` makes of a text is what stands
in front of the arity at its very end, and there is one arity at most to be found there: digits are no slashes. So it makes
no difference whether the arity is looked for from the end or, as a regular expression, from the front; the first match of
the expression is the only one (`IsFirstMatch.strips`).

Main result: `strips_one_arity`.
-/

namespace ElixirLint.Highlight

open Text

variable {p : Char → Bool} {s cs front rest ds : List Char}

/-! ## Specification -/

/-- A text of decimal digits, at least one. -/
structure IsArity (d : String) : Prop where
  some : d ≠ ""
  digits : ∀ c ∈ d.toList, isDecimalDigit c = true

/-- A regular expression. -/
inductive Expression
  | one (p : Char → Bool)
  | both (first second : Expression)
  /-- Once or more often. -/
  | several (body : Expression)
  /-- Nothing, at the end of the text. -/
  | atEnd

/-- An expression takes characters off the front of a text, and what is behind them is left. -/
inductive Takes : Expression → List Char → List Char → Prop
  | one {p c cs} : p c = true → Takes (.one p) (c :: cs) cs
  | both {first second cs mid rest} : Takes first cs mid → Takes second mid rest → Takes (.both first second) cs rest
  | last {body cs rest} : Takes body cs rest → Takes (.several body) cs rest
  | more {body cs mid rest} : Takes body cs mid → Takes (.several body) mid rest → Takes (.several body) cs rest
  | atEnd : Takes .atEnd [] []

/-- Of the matches of an expression in a text the leftmost, and of those the longest, lies between two parts of the text. -/
structure IsFirstMatch (e : Expression) (s front rest : List Char) : Prop where
  here : ∃ cs, s = front ++ cs ∧ Takes e cs rest
  leftmost : ∀ front' cs rest', s = front' ++ cs → Takes e cs rest' → front.length ≤ front'.length
  longest : ∀ cs rest', s = front ++ cs → Takes e cs rest' → rest.length ≤ rest'.length

/-- The expression for an arity at the end of a text: a slash, decimal digits, and the end. -/
def aritySuffix : Expression := .both (.one (· == '/')) (.both (.several (.one isDecimalDigit)) .atEnd)

/-! ## One arity at most -/

/-- There is one way at most to take a text for a reference with an arity. -/
theorem arity_unique {front' ds' : List Char} (hd : ∀ d ∈ ds, isDecimalDigit d = true)
    (hd' : ∀ d ∈ ds', isDecimalDigit d = true) (h : front ++ '/' :: ds = front' ++ '/' :: ds') :
    front' = front ∧ ds' = ds := by
  have parts : splitDigits (front ++ '/' :: ds) = (front ++ ['/'], ds) := splitDigits_append isDecimalDigit_slash hd
  rw [h, splitDigits_append isDecimalDigit_slash hd'] at parts
  obtain ⟨fronts, digits⟩ := Prod.mk.inj parts
  exact ⟨List.append_cancel_right fronts, digits⟩

/-- A name with an arity is the name, a slash and the digits. -/
theorem toList_of_arity {s n d : String} (h : s = n ++ "/" ++ d) : s.toList = n.toList ++ '/' :: d.toList := by
  rw [h, String.toList_append, String.toList_append, List.append_assoc]
  rfl

theorem toList_ne_nil {d : String} (h : d ≠ "") : d.toList ≠ [] := by
  intro none
  exact h (String.toList_inj.mp none)

/-- A name is what is left of it with its arity. -/
theorem stripArity_of_arity {s n d : String} (arity : IsArity d) (h : s = n ++ "/" ++ d) : stripArity s = n := by
  have stripped : Stripped s.toList n.toList :=
    .inl ⟨d.toList, toList_ne_nil arity.some, arity.digits, toList_of_arity h⟩
  rw [stripArity, stripped_iff.mp stripped, String.ofList_toList]

/-- A text that does not end with an arity is left as it is. -/
theorem stripArity_of_none {s : String} (h : ∀ n d, IsArity d → s ≠ n ++ "/" ++ d) : stripArity s = s := by
  have stripped : Stripped s.toList s.toList := by
    refine .inr ⟨rfl, ?_⟩
    intro front ds some hd split
    refine h (String.ofList front) (String.ofList ds) ⟨?_, ?_⟩ (String.toList_inj.mp ?_)
    · intro none
      exact some (by rw [← String.toList_ofList (l := ds), none]; rfl)
    · rwa [String.toList_ofList]
    · rw [split, toList_of_arity rfl, String.toList_ofList, String.toList_ofList]
  rw [stripArity, stripped_iff.mp stripped, String.ofList_toList]

/-- Nothing but the end of a text is left out. -/
theorem stripped_prefix {t : List Char} (h : Stripped s t) : t <+: s := by
  rcases h with ⟨ds, -, -, rfl⟩ | ⟨rfl, -⟩
  · exact List.prefix_append _ _
  · exact List.prefix_refl _

/-- A text with a character behind the digits is no reference with an arity. -/
theorem stripArity_push {s : String} {c : Char} (h : isDecimalDigit c = false) :
    stripArity (s.push c) = s.push c := by
  refine stripArity_of_none ?_
  intro n d arity split
  have whole := toList_of_arity split
  have some := toList_ne_nil arity.some
  rw [String.toList_push, ← List.dropLast_concat_getLast some, ← List.cons_append, ← List.append_assoc] at whole
  have same : c = d.toList.getLast some := List.singleton_inj.mp (List.append_inj_right' whole rfl)
  have digit := arity.digits _ (List.getLast_mem some)
  rw [← same, h] at digit
  cases digit

/-! ## The first match -/

/-- Characters of one kind, once or more often, are any of them but none. -/
theorem takes_several : Takes (.several (.one p)) cs rest ↔ ∃ ds, ds ≠ [] ∧ (∀ d ∈ ds, p d = true) ∧ cs = ds ++ rest := by
  constructor
  · intro h
    generalize he : Expression.several (.one p) = e at h
    induction h with
    | one => cases he
    | both => cases he
    | atEnd => cases he
    | last body =>
      cases he
      cases body with
      | one hp => exact ⟨[_], List.cons_ne_nil _ _, List.forall_mem_singleton.mpr hp, rfl⟩
    | more body _ _ ih =>
      cases he
      obtain ⟨ds, -, hd, rfl⟩ := ih rfl
      cases body with
      | one hp => exact ⟨_ :: ds, List.cons_ne_nil _ _, List.forall_mem_cons.mpr ⟨hp, hd⟩, rfl⟩
  · rintro ⟨ds, some, hd, rfl⟩
    induction ds with
    | nil => exact absurd rfl some
    | cons d ds ih =>
      obtain ⟨hp, hd⟩ := List.forall_mem_cons.mp hd
      cases ds with
      | nil => exact .last (.one hp)
      | cons d' ds => exact .more (.one hp) (ih (List.cons_ne_nil _ _) hd)

/-- The expression for an arity takes a slash with digits, and nothing may be left. -/
theorem takes_aritySuffix :
    Takes aritySuffix cs rest ↔
      ∃ ds, ds ≠ [] ∧ (∀ d ∈ ds, isDecimalDigit d = true) ∧ cs = '/' :: ds ∧ rest = [] := by
  constructor
  · rintro (_ | ⟨slash, others⟩)
    cases slash with
    | one hc =>
      cases others with
      | both digits stop =>
        cases stop
        obtain ⟨ds, some, hd, rfl⟩ := takes_several.mp digits
        rw [List.append_nil, beq_iff_eq.mp hc]
        exact ⟨ds, some, hd, rfl, rfl⟩
  · rintro ⟨ds, some, hd, rfl, rfl⟩
    exact .both (.one rfl) (.both (takes_several.mpr ⟨ds, some, hd, (List.append_nil _).symm⟩) .atEnd)

/-- What stands around the first match is what is left without the arity. -/
theorem IsFirstMatch.strips (h : IsFirstMatch aritySuffix s front rest) : stripArityChars s = front ++ rest := by
  obtain ⟨cs, split, takes⟩ := h.here
  obtain ⟨ds, some, hd, rfl, rfl⟩ := takes_aritySuffix.mp takes
  rw [List.append_nil]
  exact stripped_iff.mp (.inl ⟨ds, some, hd, split⟩)

/-- Where there is an arity there is a first match, as there is no other. -/
theorem isFirstMatch_of_arity (some : ds ≠ []) (hd : ∀ d ∈ ds, isDecimalDigit d = true) :
    IsFirstMatch aritySuffix (front ++ '/' :: ds) front [] := by
  refine ⟨⟨_, rfl, takes_aritySuffix.mpr ⟨ds, some, hd, rfl, rfl⟩⟩, ?_, ?_⟩
  · intro front' cs rest' split takes
    obtain ⟨ds', -, hd', rfl, -⟩ := takes_aritySuffix.mp takes
    have same := (arity_unique hd hd' split).1
    exact Nat.le_of_eq (congrArg List.length same.symm)
  · intro cs rest' _ _
    exact Nat.zero_le _

/-- Exactly one arity is left out of a text that ends in one.

1. A text that is a reference with an arity is so in one way only, and what is left of it is the reference, whatever that
   is.
2. Any other text is left as it is.
3. What is left is a prefix.
4. An arity with a character behind it that is no digit stays.
5. The same comes out where the first match of the regular expression for an arity is left out, if there is a match. -/
theorem strips_one_arity (s : String) :
    (∀ n d, IsArity d → s = n ++ "/" ++ d →
      stripArity s = n ∧ ∀ n' d', IsArity d' → s = n' ++ "/" ++ d' → n' = n ∧ d' = d) ∧
    ((∀ n d, IsArity d → s ≠ n ++ "/" ++ d) → stripArity s = s) ∧
    (stripArity s).toList <+: s.toList ∧
    (∀ c, isDecimalDigit c = false → stripArity (s.push c) = s.push c) ∧
    (∀ front rest, IsFirstMatch aritySuffix s.toList front rest → (stripArity s).toList = front ++ rest) ∧
    ((∀ front rest, ¬IsFirstMatch aritySuffix s.toList front rest) → stripArity s = s) := by
  refine ⟨?_, stripArity_of_none, ?_, fun c => stripArity_push, ?_, ?_⟩
  · intro n d arity split
    refine ⟨stripArity_of_arity arity split, ?_⟩
    intro n' d' arity' split'
    have whole := (toList_of_arity split).symm.trans (toList_of_arity split')
    obtain ⟨names, digits⟩ := arity_unique arity.digits arity'.digits whole
    exact ⟨String.toList_inj.mp names, String.toList_inj.mp digits⟩
  · rw [stripArity, String.toList_ofList]
    exact stripped_prefix (stripped_iff.mpr rfl)
  · intro front rest first
    rw [stripArity, String.toList_ofList, first.strips]
  · intro none
    refine stripArity_of_none ?_
    intro n d arity split
    refine none n.toList [] ?_
    rw [toList_of_arity split]
    exact isFirstMatch_of_arity (toList_ne_nil arity.some) arity.digits

/-- Of two arities, the second in digits of another script, the first stays; and both stay in front of a line feed. -/
theorem strips_one_arity_twice :
    IsArity "٣" ∧ stripArity "/é\n//1/٣" = "/é\n//1" ∧ stripArity ("/é\n//1/٣".push '\n') = "/é\n//1/٣\n" := by
  have alone : "٣".toList = ['٣'] := by decide
  have digits : ∀ c ∈ "٣".toList, isDecimalDigit c = true := by
    rw [alone]
    exact List.forall_mem_singleton.mpr (by decide)
  have arity : IsArity "٣" := ⟨by decide, digits⟩
  obtain ⟨strips, -, -, stays, -⟩ := strips_one_arity "/é\n//1/٣"
  exact ⟨arity, (strips "/é\n//1" "٣" arity (by decide)).1, stays '\n' (by decide)⟩

end ElixirLint.Highlight
