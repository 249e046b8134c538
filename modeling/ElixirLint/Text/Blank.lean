/-!
# White space

The characters with the Unicode property White_Space, and the two operations built on it: trimming a text at both
ends, and cutting it into words. The set differs from the ASCII one in two ways that matter for messages: the
no-break space and the ideographic space are blank, the zero-width space is not.
-/

namespace ElixirLint.Text

/-- Whether a character has the Unicode property White_Space. -/
def isBlank (c : Char) : Bool :=
  (0x09 ≤ c.toNat && c.toNat ≤ 0x0D) || c.toNat == 0x20 || c.toNat == 0x85 || c.toNat == 0xA0 ||
  c.toNat == 0x1680 || (0x2000 ≤ c.toNat && c.toNat ≤ 0x200A) || c.toNat == 0x2028 || c.toNat == 0x2029 ||
  c.toNat == 0x202F || c.toNat == 0x205F || c.toNat == 0x3000

/-- A text without its leading white space. -/
def trimStart (cs : List Char) : List Char := cs.dropWhile isBlank

/-- A text without its trailing white space. -/
def trimEnd (cs : List Char) : List Char := (cs.reverse.dropWhile isBlank).reverse

/-- A text without white space at either end. -/
def trim (s : String) : String := String.ofList (trimEnd (trimStart s.toList))

/-- Whether a text holds nothing but white space. -/
def isBlankText (s : String) : Bool := s.toList.all isBlank

/-- The words of a text with a word already begun: maximal runs of characters that are not blank. -/
def wordsFrom : List Char → List Char → List (List Char)
  | word, [] => if word.isEmpty then [] else [word.reverse]
  | word, c :: cs =>
    if isBlank c then
      if word.isEmpty then wordsFrom [] cs else word.reverse :: wordsFrom [] cs
    else wordsFrom (c :: word) cs

/-- The words of a text, in order. -/
def words (s : String) : List String := (wordsFrom [] s.toList).map String.ofList

/-- The words of a text with one space between neighbours and none at the ends. -/
def collapse (s : String) : String := " ".intercalate (words s)

/-- A text is blank exactly when nothing of it is left without its leading white space. -/
theorem trimStart_eq_nil_iff (cs : List Char) : trimStart cs = [] ↔ cs.all isBlank = true := by
  induction cs with
  | nil => simp [trimStart]
  | cons c cs ih => cases h : isBlank c <;> simp_all [trimStart]

/-- Trimming leaves nothing of a text exactly when it is blank. -/
theorem trim_eq_empty_iff (s : String) : trim s = "" ↔ isBlankText s = true := by
  have back (cs : List Char) : trimEnd cs = [] ↔ cs.all isBlank = true := by
    have last : trimEnd cs = (trimStart cs.reverse).reverse := rfl
    rw [last, List.reverse_eq_nil_iff, trimStart_eq_nil_iff, List.all_reverse]
  have front (cs : List Char) : (trimStart cs).all isBlank = true ↔ cs.all isBlank = true := by
    conv => rhs; rw [← List.takeWhile_append_dropWhile (p := isBlank) (l := cs), List.all_append]
    rw [List.all_takeWhile, Bool.true_and, trimStart]
  rw [trim, isBlankText, ← front, ← back, String.ofList_eq_empty_iff]

end ElixirLint.Text
