import ElixirLint.Project
import ElixirLint.Proofs.Path.Ancestors

/-!
# Where a document belongs

The directories above a file are met the deepest first, so the search upwards finds the deepest that has the entry,
unless it passes its end before. A search that ends at a workspace folder goes no other way than the search up to the
root: what that finds is found, too, if it lies in the folder. The workspace folder is one of the deepest that contain
the file. Those have the same components, whatever the order in which they are listed.

Main results: `Project.findUp_eq_some_iff`, `Project.isDeepest_of_workspaceFor`, `ProjectLayout.discover_fits`,
`ProjectLayout.discover_in_folders`.
-/

namespace ElixirLint

namespace Project

variable {t : FileTree} {name start folder root file d : Path} {dirs folders folders' : List Path}
  {stop stop' : Option Path}

/-! ## The search upwards -/

/-- Of some directories the deepest with an entry of a name, where no deeper one is the end of the search. -/
structure IsNearest (t : FileTree) (name : Path) (stop : Option Path) (dirs : List Path) (d : Path) : Prop where
  mem : d ∈ dirs
  found : t.exists? (d.join name) = true
  deepest : ∀ e ∈ dirs, t.exists? (e.join name) = true → e.components.length ≤ d.components.length
  inside : ∀ e ∈ dirs, d.components.length < e.components.length → stop.any e.same = false

/-- The first of directories that are ever less deep is the nearest if it has the entry. -/
theorem isNearest_cons_of_found {dir : Path} (deeper : ∀ e ∈ dirs, e.components.length < dir.components.length)
    (here : t.exists? (dir.join name) = true) : IsNearest t name stop (dir :: dirs) d ↔ dir = d := by
  constructor
  · intro near
    rcases List.mem_cons.mp near.mem with same | behind
    · exact same.symm
    · exact absurd (near.deepest dir (.head _) here) (Nat.not_le.mpr (deeper d behind))
  · rintro rfl
    have most : ∀ e ∈ dir :: dirs, e.components.length ≤ dir.components.length := by
      rintro e (_ | ⟨_, he⟩)
      · exact Nat.le_refl _
      · exact Nat.le_of_lt (deeper e he)
    exact ⟨.head _, here, fun e he _ => most e he, fun e he less => absurd less (Nat.not_lt.mpr (most e he))⟩

/-- Otherwise there is none if it is the end of the search, and else the nearest is that of the others. -/
theorem isNearest_cons_of_absent {dir : Path} (deeper : ∀ e ∈ dirs, e.components.length < dir.components.length)
    (absent : ¬t.exists? (dir.join name) = true) :
    IsNearest t name stop (dir :: dirs) d ↔ stop.any dir.same = false ∧ IsNearest t name stop dirs d := by
  constructor
  · intro near
    have behind : d ∈ dirs := by
      rcases List.mem_cons.mp near.mem with same | behind
      · exact absurd (same ▸ near.found) absent
      · exact behind
    exact ⟨near.inside dir (.head _) (deeper d behind), behind, near.found, fun e he => near.deepest e (.tail _ he),
      fun e he => near.inside e (.tail _ he)⟩
  · rintro ⟨passed, near⟩
    refine ⟨.tail _ near.mem, near.found, ?_, ?_⟩
    · rintro e (_ | ⟨_, he⟩) holds
      · exact absurd holds absent
      · exact near.deepest e he holds
    · rintro e (_ | ⟨_, he⟩) less
      · exact passed
      · exact near.inside e he less

/-- Among directories that are ordered by depth, deepest first, the first one with the file is the nearest. -/
theorem firstWith_eq_some_iff (sorted : dirs.Pairwise fun q q' => q'.components.length < q.components.length) :
    firstWith t name stop dirs = some d ↔ IsNearest t name stop dirs d := by
  induction dirs with
  | nil => exact ⟨nofun, fun near => nomatch near.mem⟩
  | cons dir dirs ih =>
    obtain ⟨deeper, sorted⟩ := List.pairwise_cons.mp sorted
    unfold firstWith
    split
    · rename_i here
      rw [isNearest_cons_of_found deeper here, Option.some.injEq]
    · rename_i absent
      rw [isNearest_cons_of_absent deeper absent, ← ih sorted]
      split
      · rename_i ended
        simp [ended]
      · rename_i passed
        simp [Bool.eq_false_iff.mpr passed]

/-- The search finds the nearest directory with the entry. -/
theorem findUp_eq_some_iff : findUp t name start stop = some d ↔ IsNearest t name stop start.ancestors d :=
  firstWith_eq_some_iff (Path.ancestors_pairwise start)

/-- The nearest directory is not above the end of the search, if the search starts at or below that. -/
theorem IsNearest.startsWith (absolute : start.isAbsolute = true)
    (near : IsNearest t name (some folder) start.ancestors d) (above : start.startsWith folder = true) :
    d.startsWith folder = true := by
  have front := Path.startsWith_iff.mp above
  have front' := Path.startsWith_iff.mp (Path.startsWith_of_mem_ancestors near.mem)
  refine Path.startsWith_iff.mpr (List.prefix_of_prefix_length_le front front' ?_)
  by_contra deeper
  have nonempty : folder.components ≠ [] := List.ne_nil_of_length_pos (by omega)
  -- The end of the search is met on the way up, and below the directory.
  obtain ⟨e, he, same⟩ := Path.exists_mem_ancestors absolute above nonempty
  have equal : e.components = folder.components := Path.same_iff.mp same
  have passed := near.inside e he (by rw [equal]; omega)
  rw [Option.any_some, same] at passed
  cases passed

/-- What the search up to the root finds is found by a search that ends at a folder, if it lies in the folder: a
directory before it is deeper, so it is not that folder. -/
theorem findUp_eq_some (found : findUp t name start none = some root) (inside : root.startsWith folder = true) :
    findUp t name start (some folder) = some root := by
  rw [findUp_eq_some_iff] at found ⊢
  refine ⟨found.mem, found.found, found.deepest, fun e _ deeper => ?_⟩
  rw [Option.any_some, Bool.eq_false_iff]
  intro same
  have equal : e.components = folder.components := Path.same_iff.mp same
  have less := Path.length_components_le inside
  rw [equal] at deeper
  omega

/-- Only the components of its end matter to a search. -/
theorem findUp_congr (h : stop'.map Path.components = stop.map Path.components) :
    findUp t name start stop' = findUp t name start stop := by
  have ends (s : Option Path) (dir : Path) : s.any dir.same = (s.map Path.components).any (dir.components == ·) := by
    cases s <;> rfl
  unfold findUp
  induction start.ancestors with
  | nil => rfl
  | cons dir dirs ih => rw [firstWith, firstWith, ih, ends stop', ends stop, h]

/-! ## The workspace folder -/

/-- Of some folders one that contains a file, where none that contains it is deeper. -/
structure IsDeepest (file : Path) (folders : List Path) (folder : Path) : Prop where
  mem : folder ∈ folders
  contains : file.startsWith folder = true
  deepest : ∀ f ∈ folders, file.startsWith f = true → f.components.length ≤ folder.components.length

/-- What is chosen among some folders and the best before is one of them, and none of them is deeper. -/
theorem foldl_deeper (best : Path) (folders : List Path) :
    ∃ f ∈ best :: folders, folders.foldl deeper (some best) = some f ∧
      ∀ g ∈ best :: folders, g.components.length ≤ f.components.length := by
  induction folders generalizing best with
  | nil => exact ⟨best, .head _, rfl, fun g hg => by rw [List.mem_singleton.mp hg]⟩
  | cons folder folders ih =>
    obtain ⟨next, hn, listed, least⟩ : ∃ next, deeper (some best) folder = some next ∧ next ∈ [best, folder] ∧
        ∀ g ∈ [best, folder], g.components.length ≤ next.components.length := by
      simp only [deeper]
      split
      · rename_i less
        exact ⟨best, rfl, by simp, by simp [Nat.le_of_lt less]⟩
      · rename_i more
        exact ⟨folder, rfl, by simp, by simp [Nat.not_lt.mp more]⟩
    obtain ⟨f, hf, chosen, most⟩ := ih next
    refine ⟨f, ?_, by rw [List.foldl_cons, hn, chosen], fun g hg => ?_⟩
    · rcases List.mem_cons.mp hf with rfl | hf
      · exact List.mem_append_left folders listed
      · exact .tail _ (.tail _ hf)
    · rcases List.mem_append.mp (show g ∈ [best, folder] ++ folders from hg) with hg | hg
      · exact Nat.le_trans (least g hg) (most next (.head _))
      · exact most g (.tail _ hg)

/-- There is no workspace folder only if none contains the file. -/
theorem workspaceFor_cases (file : Path) (folders : List Path) :
    (workspaceFor file folders = none ∧ ∀ f ∈ folders, ¬file.startsWith f = true) ∨
      ∃ f, workspaceFor file folders = some f ∧ IsDeepest file folders f := by
  unfold workspaceFor
  rcases hc : folders.filter fun f => file.startsWith f with _ | ⟨best, others⟩
  · exact .inl ⟨rfl, List.filter_eq_nil_iff.mp hc⟩
  · obtain ⟨f, hf, chosen, most⟩ := foldl_deeper best others
    rw [← hc] at hf most
    obtain ⟨mem, contains⟩ := List.mem_filter.mp hf
    exact .inr ⟨f, chosen, mem, contains, fun g hg inside => most g (List.mem_filter.mpr ⟨hg, inside⟩)⟩

/-- There is a workspace for a file if it lies in one of the folders. -/
theorem isSome_workspaceFor : (workspaceFor file folders).isSome = true ↔ ∃ f ∈ folders, file.startsWith f = true := by
  rcases workspaceFor_cases file folders with ⟨absent, outside⟩ | ⟨f, chosen, deepest⟩
  · rw [absent]
    exact ⟨nofun, fun ⟨f, hf, inside⟩ => absurd inside (outside f hf)⟩
  · rw [chosen]
    exact ⟨fun _ => ⟨f, deepest.mem, deepest.contains⟩, fun _ => rfl⟩

/-- The workspace of a file is the deepest folder that it lies in. -/
theorem isDeepest_of_workspaceFor (h : workspaceFor file folders = some folder) : IsDeepest file folders folder := by
  rcases workspaceFor_cases file folders with ⟨absent, -⟩ | ⟨f, chosen, deepest⟩
  · rw [absent] at h
    cases h
  · rw [chosen] at h
    cases h
    exact deepest

/-- The deepest folders that contain a file have the same components. -/
theorem IsDeepest.components_eq {f f' : Path} (h : IsDeepest file folders f) (h' : IsDeepest file folders f') :
    f'.components = f.components := by
  have depth := Nat.le_antisymm (h.deepest f' h'.mem h'.contains) (h'.deepest f h.mem h.contains)
  have front := Path.startsWith_iff.mp h.contains
  have front' := Path.startsWith_iff.mp h'.contains
  rw [List.prefix_iff_eq_take] at front front'
  rw [front', front, depth]

/-- Only which folders there are matters to the components of the workspace folder. -/
theorem components_workspaceFor (members : ∀ f, f ∈ folders' ↔ f ∈ folders) :
    (workspaceFor file folders').map Path.components = (workspaceFor file folders).map Path.components := by
  have known : (workspaceFor file folders').isSome = (workspaceFor file folders).isSome := by
    rw [Bool.eq_iff_iff, isSome_workspaceFor, isSome_workspaceFor]
    exact exists_congr fun f => and_congr_left' (members f)
  rcases hw : workspaceFor file folders with _ | f
  · rw [hw] at known
    rw [Option.not_isSome_iff_eq_none.mp (Bool.eq_false_iff.mp known)]
  · rw [hw] at known
    obtain ⟨f', hw'⟩ := Option.isSome_iff_exists.mp known
    have chosen' := isDeepest_of_workspaceFor hw'
    have deepest' : IsDeepest file folders f' :=
      ⟨(members f').mp chosen'.mem, chosen'.contains, fun g hg => chosen'.deepest g ((members g).mpr hg)⟩
    rw [hw', Option.map_some, Option.map_some, (isDeepest_of_workspaceFor hw).components_eq deepest']

end Project

namespace ProjectLayout

open Project

variable {t : FileTree} {file dir root folder d : Path} {workspace : Option Path} {folders : List Path}

/-- The nearest folder with a project file is the project. -/
theorem discover_of_some (h : findUp t projectFile (file.parent?.getD file) workspace = some root) :
    discover t file workspace = ⟨root, true⟩ := by
  unfold discover
  simp only [h]

/-- Without a project file the workspace takes its place, or else the directory of the file. -/
theorem discover_of_none (h : findUp t projectFile (file.parent?.getD file) workspace = none) :
    discover t file workspace = ⟨workspace.getD (file.parent?.getD file), false⟩ := by
  unfold discover
  simp only [h]

/-- A file whose project lies in its workspace folder belongs there, whether or not the folder is known. -/
theorem discover_eq (found : findUp t projectFile (file.parent?.getD file) none = some root)
    (inside : ∀ folder, workspace = some folder → root.startsWith folder = true) :
    discover t file workspace = ⟨root, true⟩ := by
  rcases workspace with _ | folder
  · exact discover_of_some found
  · exact discover_of_some (findUp_eq_some found (inside folder rfl))

/-- What is known of the layout around a file in a directory. -/
structure Fits (t : FileTree) (file dir : Path) (workspace : Option Path) (l : ProjectLayout) : Prop where
  /-- The project is the nearest above the file. -/
  nearest : ∀ d, (l.isMixProject = true ∧ l.folder = d) ↔ IsNearest t projectFile workspace dir.ancestors d
  /-- The file lies in it. -/
  contains : l.isMixProject = true → file.startsWith l.folder = true
  /-- The file has a path relative to it, which leads from there to the file. -/
  relative : l.isMixProject = true → ∃ rest, l.relativePath file = some rest ∧ (l.folder.join rest).same file = true
  /-- It lies in the workspace folder if that is above the file. -/
  within : l.isMixProject = true → ∀ folder, workspace = some folder → file.startsWith folder = true →
    folder.same file = false → l.folder.startsWith folder = true
  /-- Without a project the folder is that of the workspace, and else the directory of the file. -/
  otherwise : l.isMixProject = false → l.folder = workspace.getD dir

/-- What discovery makes of a file fits it. -/
theorem discover_fits (absolute : file.isAbsolute = true) (parent : file.parent? = some dir) :
    Fits t file dir workspace (discover t file workspace) := by
  have start : dir.isAbsolute = true := Path.isAbsolute_of_mem_ancestors absolute (Path.parent_mem_ancestors parent)
  have below : file.startsWith dir = true :=
    Path.startsWith_of_mem_ancestors (Path.parent_mem_ancestors parent)
  have directory : file.parent?.getD file = dir := by rw [parent, Option.getD_some]
  rcases hf : findUp t projectFile dir workspace with _ | root
  · rw [discover_of_none (by rw [directory, hf]), directory]
    refine ⟨fun d => ⟨nofun, fun near => ?_⟩, nofun, nofun, nofun, fun _ => rfl⟩
    rw [← findUp_eq_some_iff, hf] at near
    cases near
  · have near := findUp_eq_some_iff.mp hf
    have contains : file.startsWith root = true :=
      Path.startsWith_trans (Path.startsWith_of_mem_ancestors near.mem) below
    rw [discover_of_some (by rw [directory, hf])]
    refine ⟨fun d => ?_, fun _ => contains, fun _ => ?_, ?_, nofun⟩
    · rw [← findUp_eq_some_iff, hf]
      simp
    · exact Path.stripBase?_join absolute (Path.isAbsolute_of_mem_ancestors start near.mem) contains
    · rintro - folder rfl above proper
      exact near.startsWith start (Path.startsWith_parent parent above proper)

/-- Only which folders there are matters to the layout, up to the spelling of its folder. -/
theorem discover_congr {workspace' : Option Path}
    (h : workspace'.map Path.components = workspace.map Path.components) :
    (discover t file workspace').isMixProject = (discover t file workspace).isMixProject ∧
      (discover t file workspace').folder.same (discover t file workspace).folder = true := by
  have same : findUp t projectFile (file.parent?.getD file) workspace' =
      findUp t projectFile (file.parent?.getD file) workspace := findUp_congr h
  rcases hf : findUp t projectFile (file.parent?.getD file) workspace with _ | root
  · rw [discover_of_none hf, discover_of_none (same.trans hf)]
    have spelled (w : Option Path) (p : Path) :
        (w.getD p).components = (w.map Path.components).getD p.components := by
      cases w <;> rfl
    exact ⟨rfl, Path.same_iff.mpr (((spelled workspace' _).trans (by rw [h])).trans (spelled workspace _).symm)⟩
  · rw [discover_of_some hf, discover_of_some (same.trans hf)]
    exact ⟨rfl, Path.same_refl _⟩

/-- A file belongs to the nearest project above it in the deepest workspace folder that contains it, in whatever order
and however often the folders are listed. -/
theorem discover_in_folders (t : FileTree) (folders : List Path) (absolute : file.isAbsolute = true)
    (parent : file.parent? = some dir) :
    ((workspaceFor file folders).isSome = true ↔ ∃ f ∈ folders, file.startsWith f = true) ∧
    (∀ f, workspaceFor file folders = some f → IsDeepest file folders f) ∧
    Fits t file dir (workspaceFor file folders) (discover t file (workspaceFor file folders)) ∧
    ∀ folders', (∀ f, f ∈ folders' ↔ f ∈ folders) →
      (workspaceFor file folders').map Path.components = (workspaceFor file folders).map Path.components ∧
      (discover t file (workspaceFor file folders')).isMixProject =
        (discover t file (workspaceFor file folders)).isMixProject ∧
      (discover t file (workspaceFor file folders')).folder.same
        (discover t file (workspaceFor file folders)).folder = true := by
  refine ⟨isSome_workspaceFor, fun f => isDeepest_of_workspaceFor, discover_fits absolute parent,
    fun folders' members => ?_⟩
  have same : (workspaceFor file folders').map Path.components = (workspaceFor file folders).map Path.components :=
    components_workspaceFor members
  exact ⟨same, discover_congr same⟩

/-- A project with an application that is a project of its own. -/
def umbrella : FileTree :=
  let empty (names : List String) : Names × Entry := (names.map Text.utf8Bytes, .file [] false)
  ⟨[empty ["w", "mix.exs"], empty ["w", "apps", "a", "mix.exs"]], []⟩

/-- A file of the application, its path spelled with a dot and a separator too many. -/
def scattered : Path := .ofString "/w//apps/./a/lib/x.ex"

/-- Folders of which two are one in different spellings. -/
def listed : List Path := [.ofString "/w", .ofString "/o", .ofString "/w/."]

/-- The spelling of the workspace folder depends on the order of the folders, but not where the file belongs. -/
theorem discover_in_folders_umbrella :
    scattered.isAbsolute = true ∧ scattered.parent? = some (.ofString "/w//apps/./a/lib") ∧
    workspaceFor scattered listed = some (.ofString "/w/.") ∧
    discover umbrella scattered (some (.ofString "/w/.")) = ⟨.ofString "/w//apps/./a", true⟩ ∧
    (discover umbrella scattered (workspaceFor scattered (listed.reverse ++ listed.take 1))).folder.same
      (.ofString "/w/apps/a") = true := by
  have absolute : scattered.isAbsolute = true := by decide +kernel
  have parent : scattered.parent? = some (.ofString "/w//apps/./a/lib") := by decide +kernel
  have chosen : workspaceFor scattered listed = some (.ofString "/w/.") := by decide +kernel
  have found : discover umbrella scattered (some (.ofString "/w/.")) = ⟨.ofString "/w//apps/./a", true⟩ := by
    decide +kernel
  obtain ⟨-, -, -, order⟩ := discover_in_folders umbrella listed absolute parent
  obtain ⟨-, -, folder⟩ := order (listed.reverse ++ listed.take 1) fun f => by
    rw [List.mem_append, List.mem_reverse]
    exact or_iff_left_of_imp List.mem_of_mem_take
  rw [chosen, found] at folder
  have spelled : (Path.ofString "/w//apps/./a").same (.ofString "/w/apps/a") = true := by decide +kernel
  exact ⟨absolute, parent, chosen, found, beq_iff_eq.mpr ((beq_iff_eq.mp folder).trans (beq_iff_eq.mp spelled))⟩

end ProjectLayout

end ElixirLint
