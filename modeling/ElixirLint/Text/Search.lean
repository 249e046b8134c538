/-!
# Searching in a text

The leftmost occurrence of one list of characters in another, and cutting a text into lines. Offsets count
characters.
-/

namespace ElixirLint.Text

/-- The offset of the leftmost occurrence of `pattern`, if there is one. The empty pattern occurs at once. -/
def find? (pattern : List Char) : List Char → Option Nat
  | [] => if pattern.isEmpty then some 0 else none
  | c :: cs => if pattern.isPrefixOf (c :: cs) then some 0 else (find? pattern cs).map (· + 1)

/-- Whether `pattern` occurs in the text. -/
def occursIn (pattern cs : List Char) : Bool := (find? pattern cs).isSome

/-- The pieces of a text between occurrences of a separator character; there is one more than separators. -/
def pieces (sep : Char) : List Char → List (List Char)
  | [] => [[]]
  | c :: cs =>
    if c = sep then [] :: pieces sep cs
    else
      match pieces sep cs with
      | [] => [[c]]
      | p :: ps => (c :: p) :: ps

/-- A line without the carriage return that may close it. -/
def dropReturn (line : List Char) : List Char :=
  if line.getLast? = some '\r' then line.dropLast else line

/-- Line `n` of a text, counted from zero, without its line ending. -/
def line? (s : String) (n : Nat) : Option (List Char) := ((pieces '\n' s.toList)[n]?).map dropReturn

/-- There is always a first piece. -/
theorem pieces_ne_nil (sep : Char) (cs : List Char) : pieces sep cs ≠ [] := by
  cases cs with
  | nil => simp [pieces]
  | cons c cs =>
    unfold pieces
    split
    · simp
    · split <;> simp

/-- What is found is an occurrence: the text splits into what comes before it, the pattern, and the rest. -/
theorem find?_split {pattern cs : List Char} {n : Nat} (h : find? pattern cs = some n) :
    ∃ rest, cs = cs.take n ++ pattern ++ rest := by
  induction cs generalizing n with
  | nil =>
    simp only [find?] at h
    split at h
    · next he => simp_all
    · simp at h
  | cons c cs ih =>
    simp only [find?] at h
    split at h
    · next hp =>
      obtain ⟨rest, hr⟩ := List.isPrefixOf_iff_prefix.1 hp
      exact ⟨rest, by simp at h; subst h; simpa using hr.symm⟩
    · obtain ⟨m, hm, rfl⟩ := Option.map_eq_some_iff.1 h
      obtain ⟨rest, hr⟩ := ih hm
      exact ⟨rest, by simpa using hr⟩

end ElixirLint.Text
