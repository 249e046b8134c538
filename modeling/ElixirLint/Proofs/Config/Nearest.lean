import ElixirLint.Config.Choice
import ElixirLint.Proofs.Path.Ancestors

/-!
# The nearest configuration file

The search for a configuration file goes up from a directory to its parent, and each directory is looked through before
the next one. So the directory counts first and the name second, and what is found lies in the deepest directory that has
a configuration file (`Config.findFile_eq_some_iff`). A command takes what is found as it is: a file that cannot be loaded
is a failure, and no reason to look further.

Main results: `Config.findFile_eq_some_iff`, `Config.nearest_file_counts`.
-/

namespace ElixirLint

namespace Config

variable {t : FileTree} {start dir d f : Path} {dirs : List Path} {name : String}

/-! ## Specification -/

/-- A directory has a file, not a directory, of a name. -/
def Has (t : FileTree) (dir : Path) (name : String) : Prop := t.isFile (dir.join (.ofString name)) = true

/-- A directory has a configuration file. -/
def Equipped (t : FileTree) (dir : Path) : Prop := Has t dir ".credo-ls.toml" ∨ Has t dir ".credo-ls.json"

/-- Of some directories the deepest that has a configuration file. -/
structure IsNearest (t : FileTree) (dirs : List Path) (dir : Path) : Prop where
  mem : dir ∈ dirs
  equipped : Equipped t dir
  deepest : ∀ e ∈ dirs, Equipped t e → e.components.length ≤ dir.components.length

/-- The configuration file of a directory. Of two the one in TOML counts. -/
inductive IsPreferred (t : FileTree) (dir : Path) : Path → Prop
  | toml : Has t dir ".credo-ls.toml" → IsPreferred t dir (dir.join (.ofString ".credo-ls.toml"))
  | json : ¬Has t dir ".credo-ls.toml" → Has t dir ".credo-ls.json" →
      IsPreferred t dir (dir.join (.ofString ".credo-ls.json"))

/-! ## One directory -/

/-- What is found in a directory, by the files that it has. -/
theorem fileIn_cases (t : FileTree) (dir : Path) :
    (¬Equipped t dir ∧ fileIn t dir = none) ∨ ∃ f, IsPreferred t dir f ∧ fileIn t dir = some f := by
  have names : fileIn t dir =
      [dir.join (.ofString ".credo-ls.toml"), dir.join (.ofString ".credo-ls.json")].find? t.isFile := rfl
  rw [names]
  by_cases toml : Has t dir ".credo-ls.toml"
  · exact .inr ⟨_, .toml toml, List.find?_cons_of_pos toml⟩
  rw [List.find?_cons_of_neg toml]
  by_cases json : Has t dir ".credo-ls.json"
  · exact .inr ⟨_, .json toml json, List.find?_cons_of_pos json⟩
  · refine .inl ⟨not_or.mpr ⟨toml, json⟩, ?_⟩
    rw [List.find?_cons_of_neg json]
    rfl

/-- A directory with a preferred file is equipped. -/
theorem IsPreferred.equipped (h : IsPreferred t dir f) : Equipped t dir := by
  cases h with
  | toml toml => exact .inl toml
  | json _ json => exact .inr json

/-- A preferred file is a file. -/
theorem IsPreferred.isFile (h : IsPreferred t dir f) : t.isFile f = true := by
  cases h with
  | toml toml => exact toml
  | json _ json => exact json

/-- A directory has one preferred file at most. -/
theorem IsPreferred.unique {g : Path} (h : IsPreferred t dir f) (h' : IsPreferred t dir g) : g = f := by
  cases h with
  | toml toml =>
    cases h' with
    | toml => rfl
    | json absent => exact absurd toml absent
  | json absent =>
    cases h' with
    | toml toml => exact absurd toml absent
    | json => rfl

/-- The files of a directory lie directly in it. -/
theorem components_join_name (dir : Path) (h : name ∈ [".credo-ls.toml", ".credo-ls.json"]) :
    (dir.join (.ofString name)).components = dir.components ++ [.name (Text.utf8Bytes name)] := by
  have entry : Path.slash ∉ Text.utf8Bytes name ∧
      Path.laterComponent? (Text.utf8Bytes name) = some (.name (Text.utf8Bytes name)) := by
    rcases List.mem_pair.mp h with rfl | rfl <;> decide
  exact Path.components_join_entry dir entry.1 entry.2

/-- A configuration file lies directly in its directory. -/
theorem IsPreferred.length_components (h : IsPreferred t dir f) : f.components.length = dir.components.length + 1 := by
  cases h with
  | toml => rw [components_join_name dir (by simp), List.length_append, List.length_singleton]
  | json => rw [components_join_name dir (by simp), List.length_append, List.length_singleton]

/-! ## One directory after the other -/

/-- The first of directories that are ever less deep is the nearest if it has a configuration file. -/
theorem isNearest_of_equipped (deeper : ∀ e ∈ dirs, e.components.length < dir.components.length)
    (here : Equipped t dir) : IsNearest t (dir :: dirs) d ↔ d = dir := by
  constructor
  · intro near
    rcases List.mem_cons.mp near.mem with same | behind
    · exact same
    · have less := deeper d behind
      have most := near.deepest dir (.head _) here
      omega
  · rintro rfl
    refine ⟨.head _, here, ?_⟩
    rintro e (_ | ⟨_, he⟩) _
    · exact Nat.le_refl _
    · exact Nat.le_of_lt (deeper e he)

/-- Otherwise the nearest is that of the others. -/
theorem isNearest_of_not_equipped (absent : ¬Equipped t dir) : IsNearest t (dir :: dirs) d ↔ IsNearest t dirs d := by
  constructor
  · intro near
    refine ⟨?_, near.equipped, fun e he => near.deepest e (.tail _ he)⟩
    rcases List.mem_cons.mp near.mem with rfl | behind
    · exact absurd near.equipped absent
    · exact behind
  · intro near
    refine ⟨.tail _ near.mem, near.equipped, ?_⟩
    rintro e (_ | ⟨_, he⟩) holds
    · exact absurd holds absent
    · exact near.deepest e he holds

/-- Among directories that are ordered by depth, deepest first, the file that is found is the preferred one of the
nearest. -/
theorem findSome?_fileIn (sorted : dirs.Pairwise fun q q' => q'.components.length < q.components.length) :
    dirs.findSome? (fileIn t) = some f ↔ ∃ dir, IsNearest t dirs dir ∧ IsPreferred t dir f := by
  induction dirs with
  | nil => exact ⟨nofun, fun ⟨_, near, _⟩ => nomatch near.mem⟩
  | cons dir dirs ih =>
    obtain ⟨deeper, sorted⟩ := List.pairwise_cons.mp sorted
    rw [List.findSome?_cons]
    rcases fileIn_cases t dir with ⟨absent, none⟩ | ⟨g, here, some⟩
    · rw [none]
      simp only [isNearest_of_not_equipped absent]
      exact ih sorted
    · rw [some]
      simp only [isNearest_of_equipped deeper here.equipped, exists_eq_left, Option.some.injEq]
      constructor
      · rintro rfl
        exact here
      · exact fun preferred => preferred.unique here

/-- What is found is the preferred file of the deepest directory that has one. -/
theorem findFile_eq_some_iff :
    findFile t start = some f ↔ ∃ dir, IsNearest t start.ancestors dir ∧ IsPreferred t dir f :=
  findSome?_fileIn (Path.ancestors_pairwise start)

/-- Nothing is found where no directory has a configuration file. -/
theorem findFile_eq_none_iff : findFile t start = none ↔ ∀ dir ∈ start.ancestors, ¬Equipped t dir := by
  unfold findFile
  rw [List.findSome?_eq_none_iff]
  refine forall_congr' fun dir => imp_congr_right fun _ => ?_
  rcases fileIn_cases t dir with ⟨absent, none⟩ | ⟨f, here, some⟩
  · exact iff_of_true none absent
  · rw [some]
    exact iff_of_false nofun (not_not_intro here.equipped)

/-- The search looks through a directory and goes on with its parent. -/
theorem findFile_eq (t : FileTree) (start : Path) :
    findFile t start = (fileIn t start).or (start.parent?.bind (findFile t)) := by
  unfold findFile
  rcases hp : start.parent? with _ | up
  · rw [Path.ancestors_of_top hp, List.findSome?_singleton, Option.bind_none, Option.or_none]
  · rw [Path.ancestors_of_parent hp, List.findSome?_cons, Option.bind_some]
    cases fileIn t start <;> rfl

/-- Nothing above a directory with a configuration file is found. -/
theorem findFile_ne_above {low high : Path} (mem : low ∈ start.ancestors) (equipped : Equipped t low)
    (above : high.components.length < low.components.length) (h : name ∈ [".credo-ls.toml", ".credo-ls.json"]) :
    findFile t start ≠ some (high.join (.ofString name)) := by
  intro found
  obtain ⟨dir, near, preferred⟩ := findFile_eq_some_iff.mp found
  have deep := near.deepest low mem equipped
  have depth := preferred.length_components
  rw [components_join_name high h, List.length_append, List.length_singleton] at depth
  omega

/-! ## What a command makes of it -/

/-- Without a file the configuration is the default one. -/
theorem choose_of_none (h : findFile t start = none) : choose t none start = .ok .default := by
  have chosen : chosenFile t none start = none := h
  unfold choose
  rw [chosen]

/-- A file that can be loaded is the configuration. -/
theorem choose_of_loaded {c : Config} (h : findFile t start = some f) (loaded : load t f = .ok c) :
    choose t none start = .ok c := by
  have chosen : chosenFile t none start = some f := h
  unfold choose
  simp only [chosen, loaded]

/-- A file that cannot be loaded is an error, which names the file. -/
theorem choose_of_failed {e : ConfigError} (h : findFile t start = some f) (failed : load t f = .error e) :
    choose t none start = .error ⟨f, e⟩ := by
  have chosen : chosenFile t none start = some f := h
  unfold choose
  simp only [chosen, failed]

/-- A command fails where the file that is found does. -/
theorem choose_eq_error_iff {e : ConfigFailure} :
    choose t none start = .error e ↔ findFile t start = some e.path ∧ load t e.path = .error e.error := by
  constructor
  · intro h
    rcases hf : findFile t start with _ | f
    · cases h.symm.trans (choose_of_none hf)
    rcases hl : load t f with error | c
    · cases h.symm.trans (choose_of_failed hf hl)
      exact ⟨rfl, hl⟩
    · cases h.symm.trans (choose_of_loaded hf hl)
  · rintro ⟨found, failed⟩
    exact choose_of_failed found failed

/-- It has the settings by default where nothing is found, and else those of the file that is found. -/
theorem choose_eq_ok_iff {c : Config} :
    choose t none start = .ok c ↔
      findFile t start = none ∧ c = .default ∨ ∃ f, findFile t start = some f ∧ load t f = .ok c := by
  constructor
  · intro h
    rcases hf : findFile t start with _ | f
    · cases h.symm.trans (choose_of_none hf)
      exact .inl ⟨rfl, rfl⟩
    rcases hl : load t f with error | read
    · cases h.symm.trans (choose_of_failed hf hl)
    · cases h.symm.trans (choose_of_loaded hf hl)
      exact .inr ⟨f, rfl, hl⟩
  · rintro (⟨missing, rfl⟩ | ⟨f, found, loaded⟩)
    · exact choose_of_none missing
    · exact choose_of_loaded found loaded

/-- The nearest configuration file counts, for every file tree and every path to start from, be it absolute, relative or
with dots in it.

1. The search looks through the directory where it starts and goes on with its parent, which has fewer components; so it
   comes to an end.
2. It finds the preferred file of the deepest directory that has one, among the directory where it starts and those above.
3. So no file of a directory above another that has one is found, whatever their names, and no directory is.
4. It finds nothing where no directory has a configuration file.
5. A command without a file of its own fails where the file that is found cannot be loaded, and only there.
6. It runs with the settings by default where nothing is found, and else with those of the file that is found. -/
theorem nearest_file_counts (t : FileTree) (start : Path) :
    (findFile t start = (fileIn t start).or (start.parent?.bind (findFile t)) ∧
      ∀ up, start.parent? = some up → up.components.length < start.components.length) ∧
    (∀ f, findFile t start = some f ↔ ∃ dir, IsNearest t start.ancestors dir ∧ IsPreferred t dir f) ∧
    ((∀ low ∈ start.ancestors, Equipped t low → ∀ high : Path, high.components.length < low.components.length →
        ∀ name ∈ [".credo-ls.toml", ".credo-ls.json"],
          findFile t start ≠ some (high.join (.ofString name))) ∧
      ∀ f, t.isDirectory f = true → findFile t start ≠ some f) ∧
    (findFile t start = none ↔ ∀ dir ∈ start.ancestors, ¬Equipped t dir) ∧
    (∀ e, choose t none start = .error e ↔ findFile t start = some e.path ∧ load t e.path = .error e.error) ∧
    (∀ c, choose t none start = .ok c ↔
      findFile t start = none ∧ c = .default ∨ ∃ f, findFile t start = some f ∧ load t f = .ok c) := by
  refine ⟨⟨findFile_eq t start, ?_⟩, fun f => findFile_eq_some_iff, ⟨?_, ?_⟩, findFile_eq_none_iff,
    fun e => choose_eq_error_iff, fun c => choose_eq_ok_iff⟩
  · intro up h
    have longer := Path.length_components_of_parent h
    omega
  · intro low mem equipped high above name h
    exact findFile_ne_above mem equipped above h
  · intro f directory found
    obtain ⟨dir, near, preferred⟩ := findFile_eq_some_iff.mp found
    have file := preferred.isFile
    unfold FileTree.isDirectory at directory
    unfold FileTree.isFile at file
    split at directory
    · rename_i entry
      rw [entry] at file
      cases file
    · cases directory

/-- A tree with a good configuration file, below that a bad one, and below that a directory with the name of one. -/
def layered : FileTree :=
  let names (ns : List String) : Names := ns.map Text.utf8Bytes
  ⟨[(names ["a", ".credo-ls.toml"], .file [] false),
    (names ["a", "b", ".credo-ls.json"], .file (Text.utf8Bytes "[") false),
    (names ["a", "b", "c", ".credo-ls.toml"], .directory)], names ["a"]⟩

/-- The directory is passed over, the bad file found, and the good one of no use. -/
theorem nearest_file_counts_layered :
    findFile layered (.ofString "./b/c//.") = some (.ofString "./b/.credo-ls.json") ∧
      choose layered none (.ofString "./b/c//.") =
        .error ⟨.ofString "./b/.credo-ls.json", .undecodable (.ofString "./b/.credo-ls.json") .json⟩ ∧
      findFile layered (.ofString "./b/c//.") ≠ some (.ofString "./.credo-ls.toml") := by
  obtain ⟨-, -, ⟨above, -⟩, -, fails, -⟩ := nearest_file_counts layered (.ofString "./b/c//.")
  have found : findFile layered (.ofString "./b/c//.") = some (.ofString "./b/.credo-ls.json") := by decide +kernel
  have bad : load layered (.ofString "./b/.credo-ls.json") =
      .error (.undecodable (.ofString "./b/.credo-ls.json") .json) := by decide +kernel
  have passed : findFile layered (.ofString "./b/c//.") ≠ some ((Path.ofString ".").join (.ofString ".credo-ls.toml")) :=
    above (.ofString "./b") (by decide +kernel) (.inr (by unfold Has; decide +kernel)) _ (by decide +kernel) _ (by simp)
  exact ⟨found, (fails ⟨_, _⟩).mpr ⟨found, bad⟩, passed⟩

end Config

end ElixirLint
