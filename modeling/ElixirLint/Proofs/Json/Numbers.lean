import ElixirLint.Json.Printer
import ElixirLint.Json.Raw
import Mathlib.Data.List.Basic

/-!
# Numbers that are printed are read

The text of a number is made of a sign, digits, a fraction and an exponent (`NumberText`), and where each part has
digits and no needless zero stands in front it is read as the literal of these parts. The texts of whole numbers and of
doubles are such texts. A whole number of 64 bits is read as itself; what a double is read as is left to the literal.

Main results: `NumberText.IsProper.readLiteral`, `value?_intText`, `exists_doubleText`.
-/

namespace ElixirLint.Json

open Raw

variable {ds rest : List Char}

/-! ## Digits -/

/-- Text behind digits cannot be taken for more of them. -/
def EndsDigits (rest : List Char) : Prop := ∀ c ∈ rest.head?, digit? c = none

/-- Text behind a number cannot be taken for more of it. -/
def EndsNumber (rest : List Char) : Prop := ∀ c ∈ rest.head?, digit? c = none ∧ c ≠ '.' ∧ c ≠ 'e' ∧ c ≠ 'E'

/-- What ends a number ends its digits. -/
theorem EndsNumber.endsDigits (h : EndsNumber rest) : EndsDigits rest := fun c hc => (h c hc).1

/-- In front of what ends digits there are none to take. -/
theorem EndsDigits.takeDigits (h : EndsDigits rest) : takeDigits rest = ([], rest) := by
  cases rest with
  | nil => rfl
  | cons c cs => rw [Raw.takeDigits, h c rfl]

/-- A digit has its value. -/
theorem digit?_of_isDigit {c : Char} (h : c.isDigit = true) : digit? c = some (c.toNat - 48) := by
  have bounds : '0' ≤ c ∧ c ≤ '9' := by simpa [Char.isDigit, Char.le_def] using h
  simp [digit?, bounds]

/-- What digits stand for, one by one. -/
def digitValues (ds : List Char) : List Nat := ds.map fun c => c.toNat - 48

/-- Characters that are digits, one at least. -/
structure IsDigits (ds : List Char) : Prop where
  nonempty : ds ≠ []
  digits : ∀ c ∈ ds, c.isDigit = true

/-- Digits are taken up to where they end. -/
theorem IsDigits.takeDigits (h : IsDigits ds) (hr : EndsDigits rest) :
    takeDigits (ds ++ rest) = (digitValues ds, rest) := by
  obtain ⟨-, hd⟩ := h
  induction ds with
  | nil => exact hr.takeDigits
  | cons c ds ih =>
    have others := ih fun d hd' => hd d (.tail c hd')
    rw [List.cons_append, Raw.takeDigits, digit?_of_isDigit (hd c (.head ds)), others]
    rfl

/-- Digits have values. -/
theorem IsDigits.isEmpty_values (h : IsDigits ds) : (digitValues ds).isEmpty = false := by
  rw [digitValues, List.isEmpty_map]
  exact List.isEmpty_eq_false_iff.mpr h.nonempty

/-- A number is written in digits. -/
theorem isDigits_toDigits (n : Nat) : IsDigits (Nat.toDigits 10 n) :=
  ⟨List.ne_nil_of_length_pos Nat.length_toDigits_pos,
    fun _ hc => Nat.isDigit_of_mem_toDigits (by decide) (by decide) hc⟩

/-- The last digit of a number stands behind those of its tenth part. -/
theorem toDigits_of_le {n : Nat} (h : 10 ≤ n) :
    Nat.toDigits 10 n = Nat.toDigits 10 (n / 10) ++ [Nat.digitChar (n % 10)] :=
  Nat.toDigits_of_base_le (by decide) h

/-- The digits of a number have its value. -/
theorem digitsValue_toDigits (n : Nat) : Literal.digitsValue (digitValues (Nat.toDigits 10 n)) = n := by
  have digit : ∀ m < 10, (Nat.digitChar m).toNat - 48 = m := by decide
  induction n using Nat.strongRecOn with
  | ind n ih =>
    rcases Nat.lt_or_ge n 10 with small | large
    · simp [Nat.toDigits_of_lt_base small, digitValues, digit n small, Literal.digitsValue]
    · have front := ih (n / 10) (by omega)
      unfold Literal.digitsValue digitValues at front ⊢
      rw [toDigits_of_le large, List.map_append, List.foldl_append, front]
      simp only [List.map_cons, List.map_nil, List.foldl_cons, List.foldl_nil,
        digit (n % 10) (Nat.mod_lt n (by decide))]
      omega

/-- A number is written without a zero in front. -/
theorem head_toDigits {n : Nat} (h : 0 < n) : (Nat.toDigits 10 n).head? ≠ some '0' := by
  have digit : ∀ m < 10, 0 < m → Nat.digitChar m ≠ '0' := by decide
  induction n using Nat.strongRecOn with
  | ind n ih =>
    rcases Nat.lt_or_ge n 10 with small | large
    · simpa [Nat.toDigits_of_lt_base small] using digit n small h
    · obtain ⟨c, cs, hc⟩ := List.exists_cons_of_ne_nil (isDigits_toDigits (n / 10)).nonempty
      have front := ih (n / 10) (by omega) (by omega)
      rw [toDigits_of_le large]
      rw [hc] at front ⊢
      exact front

/-! ## Numbers -/

/-- The parts of the text of a number: the digits of its whole part, of its fraction and of its exponent. -/
structure NumberText where
  negative : Bool
  whole : List Char
  fraction : Option (List Char)
  exponent : Option (Bool × List Char)

namespace NumberText

variable {t : NumberText}

/-- A point and the digits behind it. -/
def fractionChars : Option (List Char) → List Char
  | none => []
  | some ds => '.' :: ds

/-- An exponent with its sign. -/
def exponentChars : Option (Bool × List Char) → List Char
  | none => []
  | some (negative, ds) => 'e' :: (if negative then '-' else '+') :: ds

/-- The text. -/
def chars (t : NumberText) : List Char :=
  (if t.negative then ['-'] else []) ++ (t.whole ++ (fractionChars t.fraction ++ exponentChars t.exponent))

/-- The literal that it is. -/
def literal (t : NumberText) : Literal :=
  ⟨t.negative, digitValues t.whole, t.fraction.map digitValues, t.exponent.map fun e => (e.1, digitValues e.2)⟩

/-- Every part has digits, and a zero in front stands alone. -/
structure IsProper (t : NumberText) : Prop where
  whole : IsDigits t.whole
  alone : t.whole.head? = some '0' → t.whole.length = 1
  fraction : ∀ ds ∈ t.fraction, IsDigits ds
  exponent : ∀ e ∈ t.exponent, IsDigits e.2

/-- The text begins with a sign or a digit. -/
theorem IsProper.head (h : t.IsProper) : ∃ c cs, t.chars = c :: cs ∧ (c = '-' ∨ c.isDigit = true) := by
  obtain ⟨negative, whole, fraction, exponent⟩ := t
  cases negative with
  | true => exact ⟨'-', _, rfl, .inl rfl⟩
  | false =>
    obtain ⟨c, cs, hc⟩ := List.exists_cons_of_ne_nil h.whole.nonempty
    have first : c ∈ whole := by
      rw [show whole = c :: cs from hc]
      exact .head cs
    exact ⟨c, cs ++ _, by rw [chars, show whole = c :: cs from hc]; rfl, .inr (h.whole.digits c first)⟩

/-- An exponent is read back from its characters. -/
theorem readExponent_chars {e : Option (Bool × List Char)} (h : ∀ p ∈ e, IsDigits p.2) (ends : EndsNumber rest) :
    readExponent (exponentChars e ++ rest) = some (e.map fun p => (p.1, digitValues p.2), rest) := by
  rcases e with _ | ⟨negative, ds⟩
  · cases rest with
    | nil => rfl
    | cons c cs => simp [exponentChars, readExponent, (ends c rfl).2.2]
  · have digits := h (negative, ds) rfl
    have taken := digits.takeDigits ends.endsDigits
    cases negative <;> simp [exponentChars, readExponent, taken, digits.isEmpty_values]

/-- An exponent, or the end of the number, ends the digits before it. -/
theorem endsDigits_exponentChars (e : Option (Bool × List Char)) (ends : EndsNumber rest) :
    EndsDigits (exponentChars e ++ rest) := by
  rcases e with _ | ⟨negative, ds⟩
  · exact ends.endsDigits
  · intro c hc
    obtain rfl := Option.some.inj hc
    decide

/-- A fraction is read back from its characters. -/
theorem readFraction_chars {f : Option (List Char)} {e : Option (Bool × List Char)} (h : ∀ ds ∈ f, IsDigits ds)
    (ends : EndsNumber rest) :
    readFraction (fractionChars f ++ (exponentChars e ++ rest)) =
      some (f.map digitValues, exponentChars e ++ rest) := by
  rcases f with _ | ds
  · unfold readFraction
    split
    · rename_i point
      rcases e with _ | ⟨negative, ds⟩
      · exact absurd rfl (ends '.' (by rw [show rest = _ from point]; rfl)).2.1
      · cases point
    · rfl
  · have digits := h ds rfl
    have taken := digits.takeDigits (endsDigits_exponentChars e ends)
    simp [fractionChars, readFraction, taken, digits.isEmpty_values]

/-- A fraction, or what is behind it, ends the digits before it. -/
theorem endsDigits_fractionChars (f : Option (List Char)) (e : Option (Bool × List Char)) (ends : EndsNumber rest) :
    EndsDigits (fractionChars f ++ (exponentChars e ++ rest)) := by
  rcases f with _ | ds
  · exact endsDigits_exponentChars e ends
  · intro c hc
    obtain rfl := Option.some.inj hc
    decide

/-- A zero in front stands alone as a value, too. -/
theorem IsProper.alone_values (h : t.IsProper) :
    (1 < (digitValues t.whole).length && (digitValues t.whole).head? == some 0) = false := by
  have zero (c : Char) (digit : c.isDigit = true) (value : c.toNat - 48 = 0) : c = '0' := by
    have bounds : '0' ≤ c ∧ c ≤ '9' := by simpa [Char.isDigit, Char.le_def] using digit
    have low : 48 ≤ c.toNat := bounds.1
    exact Char.toNat_inj.mp (show c.toNat = 48 by omega)
  obtain ⟨c, cs, hc⟩ := List.exists_cons_of_ne_nil h.whole.nonempty
  have digit := h.whole.digits c (by rw [hc]; exact .head cs)
  by_contra both
  simp only [Bool.not_eq_false, Bool.and_eq_true, decide_eq_true_eq, digitValues, List.length_map, List.head?_map, hc,
    List.head?_cons, Option.map_some, beq_iff_eq, Option.some.injEq] at both
  have single := h.alone (by rw [hc, List.head?_cons, zero c digit both.2])
  rw [hc] at single
  omega

/-- The text of a number is read as its literal. -/
theorem IsProper.readLiteral (h : t.IsProper) (ends : EndsNumber rest) :
    readLiteral (t.chars ++ rest) = some (t.literal, rest) := by
  have fraction := readFraction_chars (e := t.exponent) h.fraction ends
  have exponent := readExponent_chars h.exponent ends
  have digits := h.whole.takeDigits (endsDigits_fractionChars t.fraction t.exponent ends)
  have zero : ¬((digitValues t.whole).isEmpty ||
      (1 < (digitValues t.whole).length && (digitValues t.whole).head? == some 0)) = true := by
    rw [h.whole.isEmpty_values, h.alone_values]
    decide
  have shape : t.chars ++ rest = (if t.negative then ['-'] else []) ++
      (t.whole ++ (fractionChars t.fraction ++ (exponentChars t.exponent ++ rest))) := by
    simp only [chars, List.append_assoc]
  rw [shape]
  unfold literal
  cases t.negative with
  | true =>
    rw [if_pos rfl, List.singleton_append]
    simp only [Raw.readLiteral, digits, fraction, exponent, if_neg zero]
  | false =>
    have front : ∀ r, t.whole ++ (fractionChars t.fraction ++ (exponentChars t.exponent ++ rest)) ≠ '-' :: r := by
      intro r same
      obtain ⟨c, cs, hc⟩ := List.exists_cons_of_ne_nil h.whole.nonempty
      have digit := h.whole.digits c (by rw [hc]; exact .head cs)
      rw [hc, List.cons_append] at same
      rw [(List.cons.inj same).1] at digit
      exact absurd digit (by decide)
    rw [if_neg Bool.false_ne_true, List.nil_append]
    unfold Raw.readLiteral
    split
    rename_i sign cs hs
    split at hs
    · exact absurd (by assumption) (front _)
    · obtain ⟨rfl, rfl⟩ := Prod.mk.injEq .. ▸ hs
      simp only [digits, fraction, exponent, if_neg zero]

end NumberText

/-! ### Whole numbers -/

/-- Whether a whole number fits into 64 bits, signed or unsigned. -/
def InRange (n : Int) : Prop := -(Literal.maxSigned + 1 : Nat) ≤ n ∧ n ≤ Literal.maxUnsigned

/-- The text of a whole number. -/
def intText (n : Int) : NumberText := ⟨n < 0, Nat.toDigits 10 n.natAbs, none, none⟩

/-- A whole number is spelled as usual. -/
theorem chars_intText (n : Int) : (intText n).chars = (toString n).toList := by
  rcases n with m | m
  · simp [intText, NumberText.chars, NumberText.fractionChars, NumberText.exponentChars, Int.toString_eq_repr, Int.repr]
  · simp [intText, NumberText.chars, NumberText.fractionChars, NumberText.exponentChars, Int.toString_eq_repr, Int.repr]

/-- Digits of a number have no zero in front, unless the number is zero. -/
theorem alone_toDigits {n : Nat} (h : (Nat.toDigits 10 n).head? = some '0') : (Nat.toDigits 10 n).length = 1 := by
  rcases Nat.eq_zero_or_pos n with rfl | pos
  · rfl
  · exact absurd h (head_toDigits pos)

/-- That spelling is a proper one. -/
theorem isProper_intText (n : Int) : (intText n).IsProper :=
  ⟨isDigits_toDigits _, alone_toDigits, nofun, nofun⟩

/-- A whole number of 64 bits is what its text stands for. -/
theorem value?_intText {n : Int} (hn : InRange n) : (intText n).literal.value? = some (.int n) := by
  obtain ⟨low, high⟩ := hn
  rcases n with m | m
  · have fits : m ≤ Literal.maxUnsigned := by simpa using high
    simp [intText, NumberText.literal, Literal.value?, digitsValue_toDigits, fits]
  · have fits : m + 1 ≤ Literal.maxSigned + 1 := by
      rw [Int.negSucc_eq] at low
      omega
    have value : -((m + 1 : Nat) : Int) = Int.negSucc m := by omega
    have sign : decide (Int.negSucc m < 0) = true := decide_eq_true (Int.negSucc_lt_zero m)
    simp only [intText, NumberText.literal, Literal.value?, Int.natAbs_negSucc, sign, digitsValue_toDigits,
      Option.map_none, Option.isNone_none, Bool.and_self, if_true, Bool.not_true, Bool.false_and, Bool.false_eq_true,
      if_false, Nat.zero_lt_succ, decide_true, fits, value, Nat.succ_eq_add_one]

/-! ### Doubles -/

open Binary64 in
/-- A point of a grid in an interval is not zero. -/
theorem digits_pos_of_onGrid {i : Interval} {k : Int} {d : Decimal} (h : i.onGrid k = some d) : 0 < d.digits := by
  unfold Interval.onGrid at h
  generalize (if 0 ≤ k then Nat.pow 10 k.toNat else 1) = up at h
  generalize (if 0 ≤ k then 1 else Nat.pow 10 (-k).toNat) = den at h
  dsimp only at h
  generalize i.value * den / (i.den * up) = below at h
  split at h
  · rename_i both
    simp only [Bool.and_eq_true, decide_eq_true_eq] at both
    obtain rfl := Option.some.inj h
    dsimp only
    split
    · exact both.1.1
    · exact Nat.succ_pos below
  split at h
  · rename_i low
    simp only [Bool.and_eq_true, decide_eq_true_eq] at low
    obtain rfl := Option.some.inj h
    exact low.1
  split at h
  · obtain rfl := Option.some.inj h
    exact Nat.succ_pos below
  · cases h

open Binary64 in
/-- The decimal number that is found in an interval is not zero. -/
theorem digits_pos_of_search {i : Interval} {n : Nat} {k : Int} {d : Decimal} (h : i.search n k = some d) :
    0 < d.digits := by
  induction n generalizing k with
  | zero => exact digits_pos_of_onGrid h
  | succ n ih =>
    rcases Option.or_eq_some_iff.mp h with found | ⟨-, further⟩
    · exact digits_pos_of_onGrid found
    · exact ih further

/-- The shortest decimal of a double has no zero in front, unless it is the single digit zero. -/
theorem shortest_cases (x : Binary64) : x.shortest = ⟨0, 0⟩ ∨ 0 < x.shortest.digits := by
  unfold Binary64.shortest
  split
  · exact .inl rfl
  · rcases found : x.interval.search 22 x.topExponent with _ | d
    · exact .inl rfl
    · exact .inr (digits_pos_of_search found)

/-- The digits of a decimal number are those of its significand. -/
theorem digitChars_eq (d : Decimal) : d.digitChars = Nat.toDigits 10 d.digits := by
  simp [Decimal.digitChars, Nat.repr]

theorem isDigits_digitChars (d : Decimal) : IsDigits d.digitChars := by
  rw [digitChars_eq]
  exact isDigits_toDigits d.digits

/-- Digits in front of digits are digits. -/
theorem IsDigits.append {es : List Char} (h : IsDigits ds) (he : ∀ c ∈ es, c.isDigit = true) : IsDigits (ds ++ es) :=
  ⟨List.append_ne_nil_of_left_ne_nil h.nonempty es, List.forall_mem_append.mpr ⟨h.digits, he⟩⟩

/-- Some of the digits are digits if there is one. -/
theorem IsDigits.sublist {es : List Char} (h : IsDigits ds) (part : es.Sublist ds) (pos : 0 < es.length) :
    IsDigits es :=
  ⟨List.ne_nil_of_length_pos pos, fun c hc => h.digits c (part.subset hc)⟩

theorem isDigits_zero : IsDigits ['0'] := ⟨List.cons_ne_nil _ _, List.forall_mem_singleton.mpr rfl⟩

theorem isDigit_of_mem_zeros {n : Nat} : ∀ c ∈ List.replicate n '0', c.isDigit = true := by
  intro c hc
  rw [List.eq_of_mem_replicate hc]
  rfl

/-- A decimal without an exponent has a zero in front only if nothing else stands before the point. -/
theorem exists_positional {d : Decimal} (h : d = ⟨0, 0⟩ ∨ 0 < d.digits) :
    ∃ t : NumberText, t.negative = false ∧ t.IsProper ∧ t.chars = d.positional := by
  have digits := isDigits_digitChars d
  have several : 0 < d.digitChars.length := List.length_pos_iff.mpr digits.nonempty
  have head (pos : 0 < d.digits) : d.digitChars.head? ≠ some '0' := by
    rw [digitChars_eq]
    exact head_toDigits pos
  unfold Decimal.positional
  dsimp only
  split
  · rename_i whole
    refine ⟨⟨false, d.digitChars ++ List.replicate d.exponent.toNat '0', some ['0'], none⟩, rfl,
      ⟨?_, ?_, ?_, nofun⟩, ?_⟩
    · exact digits.append isDigit_of_mem_zeros
    · intro zero
      rcases h with rfl | pos
      · rfl
      · rw [List.head?_append_of_ne_nil _ digits.nonempty] at zero
        exact absurd zero (head pos)
    · rintro ds ⟨⟩
      exact isDigits_zero
    · simp [NumberText.chars, NumberText.fractionChars, NumberText.exponentChars]
  · rename_i broken
    have pos : 0 < d.digits := by
      rcases h with rfl | pos
      · exact absurd (Int.le_refl 0) broken
      · exact pos
    split
    · rename_i within
      have inside : d.pointAt.toNat < d.digitChars.length := by
        unfold Decimal.pointAt at within ⊢
        omega
      refine ⟨⟨false, d.digitChars.take d.pointAt.toNat, some (d.digitChars.drop d.pointAt.toNat), none⟩, rfl,
        ⟨?_, ?_, ?_, nofun⟩, ?_⟩
      · exact digits.sublist (List.take_sublist _ _) (by rw [List.length_take]; omega)
      · intro zero
        rw [List.head?_take, if_neg (by omega)] at zero
        exact absurd zero (head pos)
      · rintro ds ⟨⟩
        exact digits.sublist (List.drop_sublist _ _) (by rw [List.length_drop]; omega)
      · simp [NumberText.chars, NumberText.fractionChars, NumberText.exponentChars]
    · refine ⟨⟨false, ['0'], some (List.replicate (-d.pointAt).toNat '0' ++ d.digitChars), none⟩, rfl,
        ⟨isDigits_zero, fun _ => rfl, ?_, nofun⟩, ?_⟩
      · rintro ds ⟨⟩
        exact ⟨List.append_ne_nil_of_right_ne_nil _ digits.nonempty,
          List.forall_mem_append.mpr ⟨isDigit_of_mem_zeros, digits.digits⟩⟩
      · simp [NumberText.chars, NumberText.fractionChars, NumberText.exponentChars]

/-- A decimal with an exponent has one digit before the point. -/
theorem exists_scientific (d : Decimal) :
    ∃ t : NumberText, t.negative = false ∧ t.IsProper ∧ t.chars = d.scientific := by
  have digits := isDigits_digitChars d
  have several : 0 < d.digitChars.length := List.length_pos_iff.mpr digits.nonempty
  have single : (d.digitChars.take 1).length = 1 := by
    rw [List.length_take]
    omega
  have power : (if 0 ≤ d.pointAt - 1 then ['+'] else []) ++ (toString (d.pointAt - 1)).toList =
      (if d.pointAt - 1 < 0 then '-' else '+') :: Nat.toDigits 10 (d.pointAt - 1).natAbs := by
    rw [← chars_intText]
    by_cases negative : d.pointAt - 1 < 0
    · rw [if_neg (by omega), if_pos negative]
      simp [intText, NumberText.chars, NumberText.fractionChars, NumberText.exponentChars, negative]
    · rw [if_pos (by omega), if_neg negative]
      simp [intText, NumberText.chars, NumberText.fractionChars, NumberText.exponentChars, negative]
  refine ⟨⟨false, d.digitChars.take 1, if d.digitChars.length ≤ 1 then none else some (d.digitChars.drop 1),
    some (decide (d.pointAt - 1 < 0), Nat.toDigits 10 (d.pointAt - 1).natAbs)⟩, rfl, ⟨?_, fun _ => single, ?_, ?_⟩, ?_⟩
  · exact digits.sublist (List.take_sublist 1 _) (by rw [single]; exact Nat.one_pos)
  · intro ds hd
    split at hd
    · cases hd
    · cases hd
      exact digits.sublist (List.drop_sublist 1 _) (by rw [List.length_drop]; omega)
  · rintro e ⟨⟩
    exact isDigits_toDigits _
  · unfold Decimal.scientific
    simp only [List.cons_append, List.append_assoc, power]
    unfold NumberText.chars NumberText.exponentChars
    split <;> simp [NumberText.fractionChars]

/-- The text of a double is the text of a number. -/
theorem exists_doubleText (x : Binary64) : ∃ t : NumberText, t.IsProper ∧ t.chars = doubleText x := by
  obtain ⟨t, plain, proper, chars⟩ : ∃ t : NumberText, t.negative = false ∧ t.IsProper ∧
      t.chars =
        if (0 ≤ x.shortest.exponent ∧ x.shortest.pointAt ≤ 16) ∨
          (-5 < x.shortest.pointAt ∧ x.shortest.pointAt ≤ 16)
        then x.shortest.positional else x.shortest.scientific := by
    split
    · exact exists_positional (shortest_cases x)
    · exact exists_scientific _
  refine ⟨{ t with negative := x.negative }, ⟨proper.whole, proper.alone, proper.fraction, proper.exponent⟩, ?_⟩
  unfold doubleText
  simp only [← chars, NumberText.chars, plain]
  cases x.negative <;> rfl

end ElixirLint.Json
