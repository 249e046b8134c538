import ElixirLint.Project
import ElixirLint.Proofs.Path.Ancestors

/-!
# The configuration file of a project

An absolute path to the configuration file is its only place. A relative one has places in the project folder and in the
umbrella project, if there is one two levels up. Of the places at which something is the first counts. What is returned
leads from the project folder there: what is left of a place behind the folder, put below the folder, is the place again,
and the path of a place outside the folder is absolute and leads there from anywhere (`ProjectLayout.leadsTo_relativized`).

Main results: `ProjectLayout.umbrellaRoot_eq_some_iff`, `ProjectLayout.configFile_of_relative`,
`ProjectLayout.looks_in_places`.
-/

namespace ElixirLint

namespace ProjectLayout

variable {t : FileTree} {l : ProjectLayout} {folder root p q c : Path} {places others : List Path} {configured : String}

/-! ## Specification -/

/-- The umbrella project of a folder is the directory two levels up, if that has a directory for applications and a
project file. -/
structure IsUmbrella (t : FileTree) (folder root : Path) : Prop where
  above : root ∈ folder.ancestors
  levels : folder.components.length = root.components.length + 2
  apps : t.isDirectory (root.join (.ofString "apps")) = true
  project : t.isFile (root.join (.ofString "mix.exs")) = true

/-- The places at which the configuration file of a project may be, the preferred one first. -/
inductive Places (t : FileTree) (folder c : Path) : List Path → Prop
  | itself : c.isAbsolute = true → Places t folder c [c]
  | alone : c.isAbsolute = false → (∀ root, ¬IsUmbrella t folder root) →
      Places t folder c [folder.join c, (folder.join (.ofString "config")).join c]
  | application {root : Path} : c.isAbsolute = false → IsUmbrella t folder root →
      Places t folder c [folder.join c, (folder.join (.ofString "config")).join c,
        root.join c, (root.join (.ofString "config")).join c]

/-- A path leads from a folder to a place, and if it may be relative it is so where the place lies in the folder. -/
structure LeadsTo (folder : Path) (mayBeRelative : Bool) (place path : Path) : Prop where
  same : (folder.join path).same place = true
  inside : mayBeRelative = true → (path.isAbsolute = false ↔ place.startsWith folder = true)

/-- The outcome of a lookup follows from what there is at some places. -/
structure Answers (t : FileTree) (folder : Path) (configured : String) (places : List Path) (r : ConfigFileLookup) :
    Prop where
  /-- There is a path if there is something at one of the places. -/
  found : r.path.isSome = true ↔ ∃ p ∈ places, t.exists? p = true
  /-- The path leads to the first of these places. -/
  first : ∀ path, r.path = some path →
    ∃ p, places.find? t.exists? = some p ∧ LeadsTo folder (!(Path.ofString configured).isAbsolute) p path
  /-- There is a warning unless there is something at exactly one of them. -/
  warns : r.warning.isSome = true ↔ (places.filter t.exists?).length ≠ 1
  /-- It says that there is nothing. -/
  missing : (∀ p ∈ places, t.exists? p = false) →
    r.warning = some (configured ++ " file does not exist. Ignoring...")
  /-- Or it lists the places at which something is, in order, and names the first. -/
  several : ∀ p q rest, places.filter t.exists? = p :: q :: rest →
    r.warning = some ("Found multiple files (" ++ ", ".intercalate ((p :: q :: rest).map Path.display) ++
      "). I will use " ++ p.display)

/-! ## The places -/

/-- The umbrella project is found two levels up. -/
theorem umbrellaRoot_eq_some_iff : l.umbrellaRoot t = some root ↔ IsUmbrella t l.folder root := by
  have levels := Path.parent_parent_eq_some_iff (p := l.folder) (q := root)
  unfold umbrellaRoot
  constructor
  · intro h
    split at h
    · cases h
    · rename_i up hup
      split at h
      · rename_i holds
        obtain rfl := Option.some.inj h
        obtain ⟨apps, project⟩ := (Bool.and_eq_true _ _).mp holds
        obtain ⟨above, depth⟩ := levels.mp hup
        exact ⟨above, depth, apps, project⟩
      · cases h
  · intro h
    rw [levels.mpr ⟨h.above, h.levels⟩]
    have holds : (t.isDirectory (root.join (.ofString "apps")) && t.isFile (root.join Project.projectFile)) = true :=
      (Bool.and_eq_true _ _).mpr ⟨h.apps, h.project⟩
    exact if_pos holds

/-- A folder has one umbrella project at most. -/
theorem IsUmbrella.unique {root' : Path} (h : IsUmbrella t folder root) (h' : IsUmbrella t folder root') :
    root' = root := by
  have up := Path.parent_parent_eq_some_iff.mpr ⟨h.above, h.levels⟩
  have up' := Path.parent_parent_eq_some_iff.mpr ⟨h'.above, h'.levels⟩
  exact Option.some.inj (up'.symm.trans up)

/-- There always are places to look in. -/
theorem exists_places (t : FileTree) (folder c : Path) : ∃ places, Places t folder c places := by
  rcases hc : c.isAbsolute
  · by_cases umbrella : ∃ root, IsUmbrella t folder root
    · obtain ⟨root, h⟩ := umbrella
      exact ⟨_, .application hc h⟩
    · exact ⟨_, .alone hc (not_exists.mp umbrella)⟩
  · exact ⟨_, .itself hc⟩

/-- The places to look in are determined. -/
theorem Places.unique (h : Places t folder c places) (h' : Places t folder c others) : others = places := by
  cases h with
  | itself absolute =>
    cases h' with
    | itself => rfl
    | alone relative => simp [absolute] at relative
    | application relative => simp [absolute] at relative
  | alone relative none =>
    cases h' with
    | itself absolute => simp [relative] at absolute
    | alone => rfl
    | application _ umbrella => exact absurd umbrella (none _)
  | application relative umbrella =>
    cases h' with
    | itself absolute => simp [relative] at absolute
    | alone _ none => exact absurd umbrella (none _)
    | application _ umbrella' => rw [umbrella.unique umbrella']

/-- Every place is absolute. -/
theorem Places.isAbsolute (h : Places t folder c places) (absolute : folder.isAbsolute = true) (hp : p ∈ places) :
    p.isAbsolute = true := by
  have within (base : Path) (hb : base.isAbsolute = true) : ∀ p ∈ [base.join c, (base.join (.ofString "config")).join c],
      p.isAbsolute = true := by
    intro p hp
    rcases List.mem_pair.mp hp with rfl | rfl
    · exact Path.isAbsolute_join hb c
    · exact Path.isAbsolute_join (Path.isAbsolute_join hb _) c
  cases h with
  | itself itself =>
    rw [List.mem_singleton.mp hp]
    exact itself
  | alone => exact within folder absolute p hp
  | application _ umbrella =>
    have top := Path.isAbsolute_of_mem_ancestors absolute umbrella.above
    rcases List.mem_append.mp (show p ∈ [_, _] ++ [_, _] from hp) with hp | hp
    · exact within folder absolute p hp
    · exact within _ top p hp

/-- The places of a relative path are looked through. -/
theorem Places.eq_candidates (h : Places t l.folder c places) (relative : c.isAbsolute = false) :
    l.candidates t c = places := by
  unfold candidates
  cases h with
  | itself absolute => simp [relative] at absolute
  | alone _ none =>
    have missing : l.umbrellaRoot t = Option.none := by
      refine Option.eq_none_iff_forall_ne_some.mpr ?_
      intro root hr
      exact none root (umbrellaRoot_eq_some_iff.mp hr)
    rw [missing]
    rfl
  | application _ umbrella =>
    rw [umbrellaRoot_eq_some_iff.mpr umbrella]
    rfl

/-- An absolute path is looked for wherever a relative one would be. -/
theorem eq_of_mem_candidates (absolute : c.isAbsolute = true) (h : p ∈ l.candidates t c) : p = c := by
  have within (base : Path) : [base.join c, (base.join (.ofString "config")).join c] = [c, c] := by
    unfold Path.join
    simp only [absolute, if_true]
  unfold candidates at h
  rcases hu : l.umbrellaRoot t with _ | root
  · simpa [hu, within] using h
  · simpa [hu, within] using h

/-! ## The path that is returned -/

/-- A place by the path that is returned for it: what is left of it behind the folder, or its own. -/
def relativized (folder place : Path) : Path := (place.stripBase? folder).getD place

/-- Spelled relative to its folder or not, an absolute path leads where it led. -/
theorem leadsTo_relativized (absolute : folder.isAbsolute = true) (hp : p.isAbsolute = true) (b : Bool) :
    LeadsTo folder b p (relativized folder p) := by
  unfold relativized
  by_cases inside : p.startsWith folder = true
  · obtain ⟨rest, left, same⟩ := Path.stripBase?_join hp absolute inside
    have relative := Path.isAbsolute_of_stripBase? hp absolute left
    rw [left]
    exact ⟨same, fun _ => iff_of_true relative inside⟩
  · rw [Path.stripBase?_eq_none inside]
    refine ⟨?_, fun _ => iff_of_false ?_ inside⟩
    · have joined : folder.join p = p := if_pos hp
      rw [Option.getD_none, joined]
      exact Path.same_refl p
    · simp [hp]

/-- An absolute path leads where it leads from any folder. -/
theorem leadsTo_self (folder : Path) (hp : p.isAbsolute = true) : LeadsTo folder false p p := by
  have joined : folder.join p = p := if_pos hp
  refine ⟨?_, nofun⟩
  rw [joined]
  exact Path.same_refl p

/-! ## The lookup -/

/-- The outcome of a lookup that found something at some places. -/
def ofFound (folder : Path) (configured : String) : List Path → ConfigFileLookup
  | [] => ⟨none, some (configured ++ " file does not exist. Ignoring...")⟩
  | [p] => ⟨some (relativized folder p), none⟩
  | p :: q :: rest =>
    ⟨some (relativized folder p), some ("Found multiple files (" ++ ", ".intercalate ((p :: q :: rest).map Path.display) ++
      "). I will use " ++ p.display)⟩

/-- An absolute path to something is taken as it is. -/
theorem configFile_of_absolute (absolute : (Path.ofString configured).isAbsolute = true)
    (h : t.exists? (.ofString configured) = true) : l.configFile t configured = ⟨some (.ofString configured), none⟩ := by
  have taken : ((Path.ofString configured).isAbsolute && t.exists? (.ofString configured)) = true :=
    (Bool.and_eq_true _ _).mpr ⟨absolute, h⟩
  unfold configFile
  rw [if_pos taken]

/-- Otherwise what was found among the candidates counts. -/
theorem configFile_of_candidates
    (h : ¬((Path.ofString configured).isAbsolute = true ∧ t.exists? (.ofString configured) = true)) :
    l.configFile t configured = ofFound l.folder configured ((l.candidates t (.ofString configured)).filter t.exists?) := by
  have sought : ¬((Path.ofString configured).isAbsolute && t.exists? (.ofString configured)) = true := by
    rwa [Bool.and_eq_true]
  unfold configFile
  rw [if_neg sought]
  rcases (l.candidates t (.ofString configured)).filter t.exists? with _ | ⟨p, _ | ⟨q, rest⟩⟩ <;> rfl

/-- For a relative name, those of the places are found that exist. -/
theorem configFile_of_relative (h : Places t l.folder (.ofString configured) places)
    (relative : (Path.ofString configured).isAbsolute = false) :
    l.configFile t configured = ofFound l.folder configured (places.filter t.exists?) := by
  rw [configFile_of_candidates (by simp [relative]), h.eq_candidates relative]

/-- At an absolute path to nothing, nothing is found. -/
theorem configFile_of_missing (absolute : (Path.ofString configured).isAbsolute = true)
    (h : t.exists? (.ofString configured) = false) :
    l.configFile t configured = ofFound l.folder configured ([Path.ofString configured].filter t.exists?) := by
  have found : (l.candidates t (.ofString configured)).filter t.exists? = [] := by
    refine List.filter_eq_nil_iff.mpr ?_
    intro p hp
    rw [eq_of_mem_candidates absolute hp, h]
    exact Bool.false_ne_true
  have nothing : [Path.ofString configured].filter t.exists? = [] := by simp [h]
  rw [configFile_of_candidates (by simp [h]), found, nothing]

/-- The outcome fits the places if what was found are those at which something is. -/
theorem answers_ofFound (absolute : folder.isAbsolute = true) (hp : ∀ p ∈ places, p.isAbsolute = true) :
    Answers t folder configured places (ofFound folder configured (places.filter t.exists?)) := by
  rcases hf : places.filter t.exists? with _ | ⟨p, rest⟩
  · have nothing := List.filter_eq_nil_iff.mp hf
    refine ⟨iff_of_false nofun ?_, nofun, iff_of_true rfl (by rw [hf]; exact Nat.zero_ne_one), fun _ => rfl, ?_⟩
    · rintro ⟨p, hm, there⟩
      exact nothing p hm there
    · intro p q rest several
      cases hf.symm.trans several
  · have first : places.find? t.exists? = some p := by
      rw [← List.head?_filter, hf]
      rfl
    have member : p ∈ places := List.mem_of_find?_eq_some first
    have there : t.exists? p = true := List.find?_some first
    have path : (ofFound folder configured (p :: rest)).path = some (relativized folder p) := by
      cases rest <;> rfl
    refine ⟨iff_of_true (by rw [path]; rfl) ⟨p, member, there⟩, ?_, ?_, ?_, ?_⟩
    · intro found hr
      obtain rfl := Option.some.inj (path.symm.trans hr)
      exact ⟨p, first, leadsTo_relativized absolute (hp p member) _⟩
    · rw [hf]
      cases rest with
      | nil => exact iff_of_false nofun (not_not_intro rfl)
      | cons q rest => exact iff_of_true rfl (by simp)
    · intro missing
      rw [missing p member] at there
      cases there
    · intro p' q rest' several
      cases hf.symm.trans several
      rfl

/-- An absolute path to something fits as it is. -/
theorem answers_itself (absolute : (Path.ofString configured).isAbsolute = true)
    (there : t.exists? (.ofString configured) = true) :
    Answers t folder configured [.ofString configured] ⟨some (.ofString configured), none⟩ := by
  have one : [Path.ofString configured].filter t.exists? = [.ofString configured] := by simp [there]
  refine ⟨iff_of_true rfl ⟨_, List.mem_singleton_self _, there⟩, ?_, ?_, ?_, ?_⟩
  · rintro path ⟨⟩
    refine ⟨_, List.find?_cons_of_pos there, ?_⟩
    rw [absolute]
    exact leadsTo_self folder absolute
  · rw [one]
    exact iff_of_false nofun (not_not_intro rfl)
  · intro missing
    rw [missing _ (List.mem_singleton_self _)] at there
    cases there
  · intro p q rest several
    cases one.symm.trans several

/-- The configuration file of a project is looked for in its places, for every file tree, every absolute project folder and
every text that is configured: there is one list of places, and the outcome follows from what there is at them. -/
theorem looks_in_places (t : FileTree) (l : ProjectLayout) (configured : String) (absolute : l.folder.isAbsolute = true) :
    ∃ places, Places t l.folder (.ofString configured) places ∧
      (∀ others, Places t l.folder (.ofString configured) others → others = places) ∧
      Answers t l.folder configured places (l.configFile t configured) := by
  obtain ⟨places, h⟩ := exists_places t l.folder (.ofString configured)
  refine ⟨places, h, fun others => h.unique, ?_⟩
  rcases hc : (Path.ofString configured).isAbsolute
  · rw [configFile_of_relative h hc]
    exact answers_ofFound absolute fun p => h.isAbsolute absolute
  · obtain rfl := h.unique (.itself hc)
    rcases he : t.exists? (.ofString configured)
    · rw [configFile_of_missing hc he]
      exact answers_ofFound absolute fun p => h.isAbsolute absolute
    · rw [configFile_of_absolute hc he]
      exact answers_itself hc he

/-- An umbrella project with a configuration of its own and an application with another. -/
def shared : FileTree :=
  let empty (names : List String) : Names × Entry := (names.map Text.utf8Bytes, .file [] false)
  ⟨[empty ["w", "mix.exs"], empty ["w", ".credo.exs"], empty ["w", "apps", "a", "config", ".credo.exs"]], []⟩

/-- The application, its path spelled with a dot and a separator too many. -/
def application : ProjectLayout := ⟨.ofString "/w//apps/./a", true⟩

/-- The configuration of the application counts, by its path in the application. That of the umbrella project is only named
in the warning. -/
theorem looks_in_places_umbrella :
    application.folder.isAbsolute = true ∧
    (application.configFile shared "./.credo.exs").warning = some ("Found multiple files " ++
      "(/w//apps/./a/config/./.credo.exs, /w/./.credo.exs). I will use /w//apps/./a/config/./.credo.exs") ∧
    ∃ path, (application.configFile shared "./.credo.exs").path = some path ∧ path.isAbsolute = false ∧
      (application.folder.join path).same (.ofString "/w/apps/a/config/.credo.exs") = true := by
  have absolute : application.folder.isAbsolute = true := by decide +kernel
  obtain ⟨places, -, only, answers⟩ := looks_in_places shared application "./.credo.exs" absolute
  have root : IsUmbrella shared application.folder (.ofString "/w") :=
    ⟨by decide +kernel, by decide +kernel, by decide +kernel, by decide +kernel⟩
  obtain rfl := only _ (.application (by decide +kernel) root)
  have there : shared.exists? (.ofString "/w/./.credo.exs") = true := by decide +kernel
  obtain ⟨path, returned⟩ := Option.isSome_iff_exists.mp (answers.found.mpr ⟨_, by decide +kernel, there⟩)
  obtain ⟨p, first, leads⟩ := answers.first path returned
  have nearest : some p = some (.ofString "/w//apps/./a/config/./.credo.exs") := first.symm.trans (by decide +kernel)
  obtain rfl := Option.some.inj nearest
  refine ⟨absolute, ?_, path, returned, (leads.inside (by decide +kernel)).mpr (by decide +kernel), ?_⟩
  · refine (answers.several (.ofString "/w//apps/./a/config/./.credo.exs") (.ofString "/w/./.credo.exs") []
      (by decide +kernel)).trans ?_
    decide +kernel
  · have spelled : (Path.ofString "/w//apps/./a/config/./.credo.exs").same (.ofString "/w/apps/a/config/.credo.exs") =
        true := by decide +kernel
    exact Path.same_trans leads.same spelled

end ProjectLayout

end ElixirLint
