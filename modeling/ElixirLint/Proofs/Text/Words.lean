import ElixirLint.Proofs.Text.Pieces
import ElixirLint.Text.Blank

/-!
# Words and the white space between them

The words of a text are what stands between its characters of white space, except where nothing does. Collapsing a text
keeps its words, and leaves one space between neighbours and nothing around them (`collapsed_collapse`).
-/

namespace ElixirLint.Text

variable {cs w : List Char} {ws : List (List Char)}

/-! ## Specification -/

/-- The characters with the Unicode property White_Space. -/
def whiteSpace : List Nat :=
  [0x09, 0x0A, 0x0B, 0x0C, 0x0D, 0x20, 0x85, 0xA0, 0x1680, 0x2000, 0x2001, 0x2002, 0x2003, 0x2004, 0x2005, 0x2006, 0x2007,
   0x2008, 0x2009, 0x200A, 0x2028, 0x2029, 0x202F, 0x205F, 0x3000]

/-- The words of a text, in order: what stands between characters of white space, except where nothing does. -/
def wordList (cs : List Char) : List (List Char) :=
  (cs.splitOnP fun c => whiteSpace.contains c.toNat).filter fun w => !w.isEmpty

/-- A text has the words of another one, with one space between neighbours and nothing around them. -/
structure Collapsed (cs text : List Char) : Prop where
  words : wordList text = wordList cs
  spaced : text = [' '].intercalate (wordList cs)

/-! ## Words -/

/-- The blank characters are those with the property of white space. -/
theorem isBlank_eq (c : Char) : isBlank c = whiteSpace.contains c.toNat := by
  rw [Bool.eq_iff_iff]
  simp only [isBlank, whiteSpace, List.contains_iff_mem, List.mem_cons, List.not_mem_nil, Bool.or_eq_true,
    Bool.and_eq_true, beq_iff_eq, decide_eq_true_eq, or_false]
  omega

/-- The words are what is left between blank characters. -/
theorem wordList_eq (cs : List Char) : wordList cs = (cs.splitOnP isBlank).filter fun w => !w.isEmpty := by
  rw [wordList, ← funext isBlank_eq]

/-- A word already begun is the front of the first piece. -/
theorem wordsFrom_eq (word cs : List Char) :
    wordsFrom word cs = (List.splitOnPPrepend isBlank cs word).filter fun w => !w.isEmpty := by
  induction cs generalizing word with
  | nil => cases word <;> simp [wordsFrom]
  | cons c cs ih =>
    rw [wordsFrom, List.splitOnPPrepend_cons_eq_if, ih, ih]
    by_cases blank : isBlank c = true
    · cases word <;> simp [blank]
    · simp [blank]

/-- The words of a text are those of its characters. -/
theorem words_eq (s : String) : words s = (wordList s.toList).map String.ofList := by
  rw [words, wordsFrom_eq, List.splitOnPPrepend_nil_right, wordList_eq]

/-- A word is not empty and holds no white space. -/
def IsWord (w : List Char) : Prop := w ≠ [] ∧ ∀ c ∈ w, isBlank c = false

/-- What is listed as a word is one. -/
theorem isWord_of_mem_wordList (h : w ∈ wordList cs) : IsWord w := by
  rw [wordList_eq, List.mem_filter] at h
  exact ⟨by simpa using h.2, fun c => not_sep_of_mem_splitOnP h.1⟩

/-- Words with single spaces between them are the words of what they make. -/
theorem wordList_intercalate (h : ∀ w ∈ ws, IsWord w) : wordList ([' '].intercalate ws) = ws := by
  rw [wordList_eq]
  induction ws with
  | nil => rfl
  | cons w ws ih =>
    obtain ⟨⟨nonempty, plain⟩, others⟩ := List.forall_mem_cons.mp h
    cases ws with
    | nil => simp [List.splitOnP_eq_singleton plain, nonempty]
    | cons v ws =>
      have space : isBlank ' ' = true := by decide
      rw [List.intercalate_cons_cons, List.append_assoc, List.singleton_append,
        List.splitOnP_append_cons_of_forall_mem plain ' ' space, List.filter_cons_of_pos (by simpa using nonempty),
        ih others]

/-! ## Collapsing -/

/-- A collapsed text is its words with a space between them. -/
theorem toList_collapse (s : String) : (collapse s).toList = [' '].intercalate (wordList s.toList) := by
  rw [collapse, String.toList_intercalate, words_eq, List.map_map]
  have same : String.toList ∘ String.ofList = id := funext fun _ => String.toList_ofList
  rw [same, List.map_id]
  rfl

/-- Collapsing a text gives the collapsed text. -/
theorem collapsed_collapse (s : String) : Collapsed s.toList (collapse s).toList := by
  have spaced := toList_collapse s
  refine ⟨?_, spaced⟩
  rw [spaced]
  exact wordList_intercalate fun w hw => isWord_of_mem_wordList hw

end ElixirLint.Text
