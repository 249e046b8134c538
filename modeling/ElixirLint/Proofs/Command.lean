import ElixirLint.Launch
import ElixirLint.Linter
import ElixirLint.Proofs.Path

/-!
# The search path of a command

A directory more stands at the end of a search path where the directories of that, in order and one by one, are followed
by it. That works for every directory without the separator, whatever the search path is; with the separator the
directory would come to be several, and then the search path is left alone.

Main result: `Mix.extends_search_path`.
-/

namespace ElixirLint

namespace Text

/-- A byte of a character is an ASCII byte only if the character is that ASCII character. -/
theorem mem_utf8EncodeChar {b : UInt8} {c : Char} (ascii : b.toNat < 0x80) :
    b ∈ String.utf8EncodeChar c ↔ c.toNat = b.toNat := by
  have byte : ∀ n, b = UInt8.ofNat n ↔ b.toNat = n % 256 := by
    intro n
    rw [← UInt8.toNat_inj, UInt8.toNat_ofNat']
  have value : c.val.toNat = c.toNat := rfl
  unfold String.utf8EncodeChar
  rw [value]
  by_cases one : c.toNat ≤ 0x7F
  · simp only [one, if_true, List.mem_singleton, byte]
    omega
  · simp only [one, if_false]
    split
    · simp only [List.mem_cons, List.not_mem_nil, or_false, byte]
      omega
    · split
      · simp only [List.mem_cons, List.not_mem_nil, or_false, byte]
        omega
      · simp only [List.mem_cons, List.not_mem_nil, or_false, byte]
        omega

/-- An ASCII byte is in a text's bytes exactly if its character is in the text. -/
theorem mem_utf8Bytes {b : UInt8} {s : String} (ascii : b.toNat < 0x80) :
    b ∈ utf8Bytes s ↔ ∃ c ∈ s.toList, c.toNat = b.toNat := by
  unfold utf8Bytes encodeUtf8
  rw [List.mem_flatMap]
  exact exists_congr fun c => and_congr_right' (mem_utf8EncodeChar ascii)

end Text

namespace Mix

open ElixirLint.Path

variable {c : Config} {search : Option (List UInt8)} {d : String}

/-! ## The search path with a directory more -/

/-- The bytes of a directory hold a colon exactly if its text does. -/
theorem colon_mem_iff : colon ∈ Text.utf8Bytes d ↔ ':' ∈ d.toList := by
  rw [Text.mem_utf8Bytes (by decide)]
  constructor
  · rintro ⟨c, hc, same⟩
    have separator : c = ':' := Char.toNat_inj.mp same
    rwa [← separator]
  · intro hc
    exact ⟨':', hc, rfl⟩

/-- A search path with a directory more at its end. -/
def extended (search : Option (List UInt8)) (d : List UInt8) : List UInt8 :=
  match search with
  | none => d
  | some dirs => dirs ++ colon :: d

/-- The directories of a search path hold no separator. -/
theorem not_mem_of_mem_searchDirs {dir : Path} (h : dir ∈ searchDirs search) : colon ∉ dir.bytes := by
  rcases search with _ | dirs
  · cases h
  · obtain ⟨piece, hm, rfl⟩ := List.mem_map.mp h
    exact not_mem_of_mem_splitOn hm

/-- The directories of the longer search path are those of the search path and the one that is more. -/
theorem splitSearch_extended {d : List UInt8} (plain : colon ∉ d) :
    splitSearch (extended search d) = searchDirs search ++ [Path.mk d] := by
  have single : splitOn colon d = [d] := splitOn_of_not_mem plain
  rcases search with _ | dirs
  · rw [extended, splitSearch, single]
    rfl
  · rw [extended, splitSearch, splitOn_append, single, List.map_append]
    rfl

/-- Directories are joined unless one of them holds the separator. -/
theorem joinSearch?_of_plain {dirs : List Path} (h : ∀ dir ∈ dirs, colon ∉ dir.bytes) :
    joinSearch? dirs = some (joinWith colon (dirs.map (·.bytes))) := by
  have plain : ¬(dirs.any fun dir => dir.bytes.contains colon) = true := by
    rw [List.any_eq_true]
    rintro ⟨dir, hm, holds⟩
    exact h dir hm (List.contains_iff_mem.mp holds)
  unfold joinSearch?
  rw [if_neg plain]

/-- Directories cannot be joined if one of them holds a colon. -/
theorem joinSearch?_eq_none {dirs : List Path} {dir : Path} (hm : dir ∈ dirs) (h : colon ∈ dir.bytes) :
    joinSearch? dirs = none := by
  have holds : (dirs.any fun dir => dir.bytes.contains colon) = true :=
    List.any_eq_true.mpr ⟨dir, hm, List.contains_iff_mem.mpr h⟩
  unfold joinSearch?
  rw [if_pos holds]

/-- The directories of a search path and one more, joined, are the search path with that directory at its end. -/
theorem joinSearch?_concat {d : List UInt8} (plain : colon ∉ d) :
    joinSearch? (searchDirs search ++ [Path.mk d]) = some (extended search d) := by
  have whole : ∀ dir ∈ searchDirs search ++ [Path.mk d], colon ∉ dir.bytes := by
    intro dir hm
    rcases List.mem_append.mp hm with hm | hm
    · exact not_mem_of_mem_searchDirs hm
    · rwa [List.mem_singleton.mp hm]
  have spelled : (splitSearch (extended search d)).map (·.bytes) = splitOn colon (extended search d) := by
    rw [splitSearch, List.map_map]
    exact List.map_id _
  rw [joinSearch?_of_plain whole, ← splitSearch_extended plain, spelled, joinWith_splitOn]

/-! ## The variables of commands -/

theorem env_of_none (h : c.mixBinaryPath = none) : env c search = [] := by
  unfold env
  rw [h]

/-- A configured directory without a colon is put at the end of the search path. -/
theorem env_of_plain (h : c.mixBinaryPath = some d) (plain : ':' ∉ d.toList) :
    env c search = [(searchVariable, extended search (Text.utf8Bytes d))] := by
  have joined : joinSearch? (searchDirs search ++ [.ofString d]) = some (extended search (Text.utf8Bytes d)) :=
    joinSearch?_concat (mt colon_mem_iff.mp plain)
  unfold env
  simp only [h, joined]

/-- A configured directory with a colon is left out, and the search path stays as it is. -/
theorem env_of_separator (h : c.mixBinaryPath = some d) (separator : ':' ∈ d.toList) : env c search = [] := by
  have broken : joinSearch? (searchDirs search ++ [.ofString d]) = none :=
    joinSearch?_eq_none (List.mem_append_right _ (List.mem_singleton_self _)) (colon_mem_iff.mpr separator)
  unfold env
  simp only [h, broken]

theorem searchPath_of_nil {command : Command} (h : command.env = []) : command.searchPath search = search := by
  unfold Command.searchPath
  rw [h]
  rfl

/-- A command that is given a search path uses that one. -/
theorem searchPath_of_singleton {command : Command} {joined : List UInt8}
    (h : command.env = [(searchVariable, joined)]) : command.searchPath search = some joined := by
  unfold Command.searchPath
  rw [h]
  rfl

/-- Every command of the linter gets the same variables. -/
theorem env_command (t : FileTree) (c : Config) (search : Option (List UInt8)) (target : LintTarget) (stage : Stage) :
    ((Linter.ofConfig t c search).command t target stage).env = env c search := by
  cases stage with
  | coverage => rfl
  | issues warnings =>
    simp only [Linter.command]
    split <;> rfl

/-- The configured directory is added to the search path without a loss, for every configuration and every search path or
none.

1. Without a directory no variable is set.
2. A directory without the separator leads to one variable, whose directories are those of the search path, each as it was
   and in its place, and that directory behind them.
3. A directory with the separator leads to no variable.
4. So the search path that a command of the linter gets is extended in the second case, and else it is that of the program
   that starts it, unchanged. -/
theorem extends_search_path (c : Config) (search : Option (List UInt8)) :
    (c.mixBinaryPath = none → env c search = []) ∧
    (∀ d, c.mixBinaryPath = some d → ':' ∉ d.toList → ∃ joined,
      env c search = [("PATH", joined)] ∧ splitSearch joined = searchDirs search ++ [.ofString d]) ∧
    (∀ d, c.mixBinaryPath = some d → ':' ∈ d.toList → env c search = []) ∧
    ∀ t target stage, let given := ((Linter.ofConfig t c search).command t target stage).searchPath search
      (∀ d, c.mixBinaryPath = some d → ':' ∉ d.toList →
        ∃ joined, given = some joined ∧ splitSearch joined = searchDirs search ++ [.ofString d]) ∧
      ((∀ d, c.mixBinaryPath = some d → ':' ∈ d.toList) → given = search) := by
  refine ⟨env_of_none, ?_, fun d => env_of_separator, ?_⟩
  · intro d h plain
    exact ⟨_, env_of_plain h plain, splitSearch_extended (mt colon_mem_iff.mp plain)⟩
  · intro t target stage
    have own := env_command t c search target stage
    refine ⟨?_, ?_⟩
    · intro d h plain
      rw [env_of_plain h plain] at own
      exact ⟨_, searchPath_of_singleton own, splitSearch_extended (mt colon_mem_iff.mp plain)⟩
    · intro broken
      refine searchPath_of_nil (own.trans ?_)
      rcases h : c.mixBinaryPath with _ | d
      · exact env_of_none h
      · exact env_of_separator h (broken d h)

/-- A configuration with a directory more for programs. -/
def configured (d : String) : Config := { Config.default with mixBinaryPath := some d }

/-- A search path with empty, repeated and relative directories stays as it is in front of the new one, and an empty one is
not taken for none; with two directories in one nothing is set. -/
theorem extends_search_path_gaps :
    (∃ joined, env (configured "é") (some (Text.utf8Bytes ":b::/b:b:")) = [("PATH", joined)] ∧
      splitSearch joined = [⟨[]⟩, .ofString "b", ⟨[]⟩, .ofString "/b", .ofString "b", ⟨[]⟩, .ofString "é"]) ∧
    (∃ joined, env (configured "") (some []) = [("PATH", joined)] ∧ splitSearch joined = [⟨[]⟩, ⟨[]⟩]) ∧
    (∃ joined, env (configured "") none = [("PATH", joined)] ∧ splitSearch joined = [⟨[]⟩]) ∧
    env (configured "/a:/b") (some (Text.utf8Bytes "/c")) = [] := by
  refine ⟨?_, ?_, ?_, ?_⟩
  · exact (extends_search_path (configured "é") (some (Text.utf8Bytes ":b::/b:b:"))).2.1 "é" rfl (by decide)
  · exact (extends_search_path (configured "") (some [])).2.1 "" rfl (by decide)
  · exact (extends_search_path (configured "") none).2.1 "" rfl (by decide)
  · exact (extends_search_path (configured "/a:/b") _).2.2.1 "/a:/b" rfl (by decide)

end Mix

end ElixirLint
