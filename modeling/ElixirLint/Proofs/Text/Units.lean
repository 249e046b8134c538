import ElixirLint.Text.Utf16

/-!
# Texts and their UTF-16 units

The units of a text determine it, and a text that is not empty stands among the units of another only where it stands in
that text: no unit that begins a character is the second one of a surrogate pair. So places counted in units and places
counted in characters are the same places.

Main results: `unitCount_eq_length_iff`, `prefix_of_units`, `split_of_units`.
-/

namespace ElixirLint.Text

variable {a b c : Char} {l t : List Char}

@[simp] theorem units_nil : units [] = [] := rfl

@[simp] theorem units_cons (c : Char) (cs : List Char) : units (c :: cs) = charUnits c ++ units cs := rfl

@[simp] theorem units_append (as bs : List Char) : units (as ++ bs) = units as ++ units bs := List.flatMap_append

/-- A number below the limit is kept. -/
theorem toNat_clampWord_of_lt {n : Nat} (h : n < UInt32.size) : (clampWord n).toNat = n :=
  toNat_clampWord_of_le (Nat.le_of_lt_succ h)

/-- A part of a text has no more units than the text. -/
theorem unitCount_take_le (n : Nat) (cs : List Char) : unitCount (cs.take n) ≤ unitCount cs :=
  calc unitCount (cs.take n) ≤ unitCount (cs.take n) + unitCount (cs.drop n) := Nat.le_add_right _ _
    _ = unitCount cs := by rw [← unitCount_append, List.take_append_drop]

/-! ## Characters and units -/

/-- Every character has a unit of its own. -/
theorem length_le_unitCount (cs : List Char) : cs.length ≤ unitCount cs := by
  induction cs with
  | nil => exact Nat.le_refl 0
  | cons c cs ih =>
    have pos := unitWidth_pos c
    simp only [List.length_cons, unitCount_cons]
    omega

/-- The characters of one unit are those up to the sixteenth bit. -/
theorem unitWidth_eq_one_iff : unitWidth c = 1 ↔ c.toNat ≤ 0xFFFF := by
  unfold unitWidth
  split <;> omega

/-- A text has as many units as characters only if it keeps to the basic plane. -/
theorem unitCount_eq_length_iff (cs : List Char) : unitCount cs = cs.length ↔ ∀ c ∈ cs, c.toNat ≤ 0xFFFF := by
  induction cs with
  | nil => simp
  | cons c cs ih =>
    have pos := unitWidth_pos c
    have le := length_le_unitCount cs
    rw [List.forall_mem_cons, ← ih, ← unitWidth_eq_one_iff, unitCount_cons, List.length_cons]
    omega

/-! ## Characters from their units -/

/-- No character has the number of a surrogate. -/
theorem not_surrogate (c : Char) : c.toNat < 0xD800 ∨ 0xDFFF < c.toNat ∧ c.toNat < 0x110000 := c.valid

/-- A character of sixteen bits is its own unit. -/
theorem charUnits_of_lt (h : c.toNat < 0x10000) : charUnits c = [c.toNat] := if_pos h

/-- Any other character is a pair of surrogates. -/
theorem charUnits_of_le (h : 0x10000 ≤ c.toNat) :
    charUnits c = [0xD800 + (c.toNat - 0x10000) / 0x400, 0xDC00 + (c.toNat - 0x10000) % 0x400] :=
  if_neg (Nat.not_lt.mpr h)

theorem charUnits_ne_nil (c : Char) : charUnits c ≠ [] := by
  intro h
  have pos := unitWidth_pos c
  simp [← length_charUnits, h] at pos

/-- Only the empty text is without units. -/
theorem units_ne_nil (h : t ≠ []) : units t ≠ [] := by
  cases t with
  | nil => exact absurd rfl h
  | cons c cs => simp [charUnits_ne_nil]

/-- The first unit of a character is no low surrogate. -/
theorem head_charUnits {x : Nat} (h : (charUnits c).head? = some x) : x < 0xDC00 ∨ 0xDFFF < x := by
  have valid := not_surrogate c
  rcases Nat.lt_or_ge c.toNat 0x10000 with basic | astral
  · simp only [charUnits_of_lt basic, List.head?_cons, Option.some.injEq] at h
    omega
  · simp only [charUnits_of_le astral, List.head?_cons, Option.some.injEq] at h
    omega

/-- A character is determined by its units, wherever they end. -/
theorem charUnits_inj {us vs : List Nat} (h : charUnits a ++ us = charUnits b ++ vs) : a = b ∧ us = vs := by
  have va := not_surrogate a
  have vb := not_surrogate b
  have same : a.toNat = b.toNat ∧ us = vs := by
    rcases Nat.lt_or_ge a.toNat 0x10000 with ha | ha <;> rcases Nat.lt_or_ge b.toNat 0x10000 with hb | hb
    · simpa [charUnits_of_lt ha, charUnits_of_lt hb] using h
    -- A basic character is no high surrogate.
    · simp only [charUnits_of_lt ha, charUnits_of_le hb, List.cons_append, List.cons.injEq] at h
      omega
    · simp only [charUnits_of_le ha, charUnits_of_lt hb, List.cons_append, List.cons.injEq] at h
      omega
    · simp only [charUnits_of_le ha, charUnits_of_le hb, List.cons_append, List.cons.injEq, List.nil_append] at h
      obtain ⟨high, low, rest⟩ := h
      exact ⟨by omega, rest⟩
  exact ⟨Char.toNat_inj.mp same.1, same.2⟩

/-! ## Texts among the units of others -/

/-- The units of a beginning of a text are a beginning of its units. -/
theorem units_prefix (h : t <+: l) : units t <+: units l := by
  obtain ⟨rest, rfl⟩ := h
  rw [units_append]
  exact List.prefix_append _ _

/-- A text begins another if its units begin those of the other. -/
theorem prefix_of_units (h : units t <+: units l) : t <+: l := by
  induction t generalizing l with
  | nil => exact List.nil_prefix
  | cons a as ih =>
    cases l with
    | nil => exact absurd (List.prefix_nil.mp h) (units_ne_nil (List.cons_ne_nil a as))
    | cons b bs =>
      obtain ⟨rest, h⟩ := h
      simp only [units_cons, List.append_assoc] at h
      obtain ⟨rfl, same⟩ := charUnits_inj h
      exact List.cons_prefix_cons.mpr ⟨rfl, ih ⟨rest, same⟩⟩

/-- A text that is not empty stands among the units of another only where it stands in that text. -/
theorem split_of_units {i : Nat} (ht : t ≠ []) (h : units t <+: (units l).drop i) :
    ∃ before after, l = before ++ t ++ after ∧ unitCount before = i := by
  induction l generalizing i with
  | nil =>
    rw [units_nil, List.drop_nil] at h
    exact absurd (List.prefix_nil.mp h) (units_ne_nil ht)
  | cons c cs ih =>
    rcases Nat.eq_zero_or_pos i with rfl | pos
    · obtain ⟨after, same⟩ := prefix_of_units (t := t) (l := c :: cs) h
      exact ⟨[], after, same.symm, rfl⟩
    rcases Nat.lt_or_ge i (unitWidth c) with inside | behind
    -- Within a surrogate pair is a low surrogate only, with which no text begins.
    · exfalso
      have astral : 0x10000 ≤ c.toNat := by
        unfold unitWidth at inside
        split at inside <;> omega
      obtain rfl : i = 1 := by
        unfold unitWidth at inside
        split at inside <;> omega
      obtain ⟨a, as, rfl⟩ := List.exists_cons_of_ne_nil ht
      obtain ⟨x, xs, hx⟩ := List.exists_cons_of_ne_nil (charUnits_ne_nil a)
      have first := head_charUnits (c := a) (x := x) (by simp [hx])
      simp only [units_cons, hx, charUnits_of_le astral, List.cons_append, List.nil_append, List.drop_succ_cons,
        List.drop_zero, List.cons_prefix_cons] at h
      omega
    · have rest : units t <+: (units cs).drop (i - unitWidth c) := by
        rwa [units_cons, List.drop_append, length_charUnits, List.drop_of_length_le (by rw [length_charUnits]; exact behind),
          List.nil_append] at h
      obtain ⟨before, after, rfl, hb⟩ := ih rest
      exact ⟨c :: before, after, by simp, by simp [hb]; omega⟩

end ElixirLint.Text
