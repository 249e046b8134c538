import ElixirLint.Proofs.Service.Standing

/-!
# Histories of the service

A history is all that has happened to the service and all that it has done since it started, the last first: the calls
from the outside, the commands that have come to something, and the jobs, each with what was told meanwhile. Calls and
jobs come in any order, every one of them in its own surroundings, and any job that could be done may be the next. A
call that clears all documents with other things between is the calls that clear each.

`Does.moves` says once what an event can do to the service. From a history can be read what the commands of a run came
to (`results`), how often it has published (`publications`) and which configuration is current (`currentConfig`); the
state of the service agrees with that (`History.stands`, `History.config_eq`).

Main definitions: `Deed`, `Does`, `History`.
-/

namespace ElixirLint.Service

/-- What happens to the service, or what it does. -/
inductive Deed
  /-- A document is handed in. -/
  | handed (d : Document) (outcome : ExecuteOutcome)
  /-- A document is cleared. -/
  | cleared (uri : DocumentUri)
  /-- All documents that are tracked are cleared. -/
  | clearedAll
  /-- The configuration changes. -/
  | configured (c : Config)
  /-- The workspace folders change. -/
  | moved (folders : List Path)
  /-- The service is shut down. -/
  | shutDown
  /-- Whoever was given a run cancels it. -/
  | canceled (run : Nat)
  /-- A command that hangs is let go. -/
  | released (hang : Nat)
  /-- The outside has taken in what a run has told it. -/
  | accepted (run : Nat)
  /-- A job is done; the results are those that its run gets from commands. -/
  | worked (j : ServiceJob) (heard : List CommandResult)

/-- A deed, with what is told to the outside meanwhile, the last first. -/
structure Event where
  /-- The deed. -/
  deed : Deed
  /-- What is told. -/
  told : List Notice

/-- The service when a job has been taken out to be done. -/
def without (j : ServiceJob) (s : Service) : Service := { s with jobs := s.jobs.erase j }

/-- What a deed makes of the service. Documents are cleared in any order, and any job may be the next. -/
inductive Does : Service → Deed → Service → Prop
  | execute (env : Surroundings) (d : Document) (s : Service) :
      Does s (.handed d (s.execute env d).2) (s.execute env d).1
  | executeOutside (env : Surroundings) (d : Document) (s : Service) :
      Does s (.handed d (s.executeOutside env d).2) (s.executeOutside env d).1
  | clear (uri : DocumentUri) (s : Service) : Does s (.cleared uri) (s.clear uri)
  | clearAll {us : List DocumentUri} {s : Service} (h : us.Perm s.tracked) :
      Does s .clearedAll (us.foldl (fun s u => s.clear u) s)
  | configure (c : Config) (s : Service) : Does s (.configured c) (s.configure c)
  | setFolders (folders : List Path) (s : Service) : Does s (.moved folders) (s.setFolders folders)
  | shutdown (s : Service) : Does s .shutDown s.shutdown
  | cancel (i : Nat) (s : Service) : Does s (.canceled i) (s.cancelRun i)
  | release (n : Nat) (s : Service) : Does s (.released n) (s.release n).1
  | accept (i : Nat) (s : Service) : Does s (.accepted i) (s.accept i)
  | work (env : Surroundings) {j : ServiceJob} {s : Service} (h : j ∈ s.jobs) :
      Does s (.worked j (heard env j s)) ((s.without j).runJob env j)

/-- What can happen from a state of the service on, the last first, and the service as it is after that. -/
inductive Follows (s₀ : Service) : List Event → Service → Prop
  | start : Follows s₀ [] s₀
  | next {es : List Event} {s s' : Service} {e : Event} (h : Follows s₀ es s) (hd : Does s e.deed s')
      (ht : s'.notices = e.told ++ s.notices) : Follows s₀ (e :: es) s'

/-- What can have happened since the service started, and the service as it is after that. -/
abbrev History (c : Config) (script : List Reply) (delays : List Bool) : List Event → Service → Prop :=
  Follows (Service.start c script delays)

theorem Follows.trans {s₀ s s' : Service} {es es' : List Event} (h : Follows s₀ es s) (h' : Follows s es' s') :
    Follows s₀ (es' ++ es) s' := by
  induction h' with
  | start => exact h
  | next _ hd ht ih => exact .next ih hd ht

/-! ## What can be read from a history -/

/-- The configuration after a deed. -/
def Deed.config (c : Config) : Deed → Config
  | .configured c => c
  | _ => c

/-- The configuration that is current after a history that started with `c`. -/
def currentConfig (c : Config) : List Event → Config
  | [] => c
  | e :: es => e.deed.config (currentConfig c es)

/-- The results that a run gets by a deed. -/
def Deed.heardBy (k : Nat) : Deed → List CommandResult
  | .worked (.lint i) heard => if i = k then heard else []
  | _ => []

/-- How often a run publishes in an event. -/
def Event.publishedBy (k : Nat) (e : Event) : Nat :=
  match e.deed with
  | .worked (.lint i) _ => if i = k then e.told.countP Notice.isPublish else 0
  | _ => 0

/-- What the commands of a run have come to. -/
def results (k : Nat) : List Event → List CommandResult
  | [] => []
  | e :: es => results k es ++ e.deed.heardBy k

/-- How often a run has published. -/
def publications (k : Nat) : List Event → Nat
  | [] => 0
  | e :: es => publications k es + e.publishedBy k

/-- Whether a deed makes the runs before it for a document obsolete. -/
def Deed.Supersedes (uri : DocumentUri) : Deed → Prop
  | .handed d (.queued _) => d.uri = uri
  | .cleared u => u = uri
  | .clearedAll => True
  | .shutDown => True
  | _ => False

/-! ## What a deed does -/

variable {s s' : Service} {d : Deed} {env : Surroundings} {k : Nat} {r : Run} {a : Assignment}
  {rs : List CommandResult} {p : Nat} {told : List Notice}

/-- What a deed does to the service, by kind: a call changes the settings, or cancels runs and clears documents; a new
run is queued; or the loop or a run goes on. -/
inductive Moves (s : Service) : Deed → Service → Prop
  | call {d : Deed} {is : List Nat} {us tracked : List DocumentUri} {folders : List Path} {s' : Service}
      (drops : Drops is us { s with config := d.config s.config, folders := folders, tracked := tracked } s')
      (ht : tracked = s.tracked ∨ ∃ uri : DocumentUri, uri.isFile = true ∧ tracked = (s.track uri).tracked)
      (hu : ∀ u ∈ us, ∀ k ∈ s.runsFor u, k ∈ is)
      (hr : ∀ uri : DocumentUri, d.Supersedes uri → uri ∈ s.tracked → uri.isFile = true → ∀ k ∈ s.runsFor uri, k ∈ is)
      (quiet : ∀ j rs, d ≠ .worked j rs) (unqueued : ∀ doc k, d ≠ .handed doc (.queued k)) : Moves s d s'
  | queue {doc : Document} {env : Surroundings} {target : LintTarget} (ht : s.target? env doc = some target) :
      Moves s (.handed doc (.queued s.runs.length)) ((s.track doc.uri).enqueue (s.assignment env target))
  | drain (h : .drain ∈ s.jobs) :
      Moves s (.worked .drain []) (s.without .drain).drain
  | turn {i : Nat} (h : .turn i ∈ s.jobs) :
      Moves s (.worked (.turn i) []) ((s.without (.turn i)).takeTurn i)
  | lint {i : Nat} (env : Surroundings) (h : .lint i ∈ s.jobs) :
      Moves s (.worked (.lint i) (heard env (.lint i) s))
        ((s.without (.lint i)).lint env i)

@[simp]
theorem runs_without (j : ServiceJob) (s : Service) : (s.without j).runs = s.runs := rfl

@[simp]
theorem notices_without (j : ServiceJob) (s : Service) : (s.without j).notices = s.notices := rfl

@[simp]
theorem heard_without (env : Surroundings) (j j' : ServiceJob) (s : Service) :
    heard env j (s.without j') = heard env j s := rfl

/-- Taking a job out of the list is no change for the queue. -/
theorem keeps_without (j : ServiceJob) (s : Service) : Keeps s (s.without j) where
  deque := rfl
  busy := rfl
  turn := rfl
  loops _ hj' _ := Or.inl (List.mem_of_mem_erase hj')
  places := Nat.add_le_add_right (List.Sublist.countP_le List.erase_sublist) _
  config := rfl
  folders := rfl
  tracked := rfl

theorem track_eq (uri : DocumentUri) (s : Service) : s.track uri = { s with tracked := (s.track uri).tracked } := by
  unfold track
  split <;> rfl

/-- A document that is to be linted is tracked, and a run for it is queued. -/
theorem execute_eq {doc : Document} {target : LintTarget} (ht : s.target? env doc = some target) :
    s.execute env doc = ((s.track doc.uri).enqueue (s.assignment env target), .queued s.runs.length) := by
  have same : (s.track doc.uri).assignment env target = s.assignment env target := by
    rw [track_eq]
    rfl
  have length : (s.track doc.uri).runs.length = s.runs.length := by rw [track_eq]
  simp only [execute, ht, same, length]

/-- Only files are linted, and the run is for the document that was handed in. -/
theorem target?_spec {doc : Document} {target : LintTarget} (h : s.target? env doc = some target) :
    target.document = doc ∧ doc.uri.isFile = true := by
  unfold target? at h
  split at h
  · cases h
  · rename_i skipped
    have file : doc.uri.isFile = true := by
      simp only [Bool.or_eq_true, Bool.not_eq_true', not_or, Bool.not_eq_false] at skipped
      exact skipped.1.2
    split at h
    · cases h
    · simp only at h
      split at h
      · cases h
        exact ⟨rfl, file⟩
      · cases h

/-- The runs for a document are those in the queue with it as their key. -/
theorem mem_runsFor {uri : DocumentUri} : k ∈ s.runsFor uri ↔
    k ∈ s.deque ∧ ∃ r, s.runs[k]? = some r ∧ r.task.key = uri := by
  simp [runsFor]

/-- Letting a command go leaves the queue, the runs and the notices alone. -/
theorem keeps_release (n : Nat) (s : Service) :
    Keeps s (s.release n).1 ∧ (s.release n).1.runs = s.runs ∧ (s.release n).1.notices = s.notices := by
  unfold release
  split
  · split
    · have scheduled := fun i => keeps_schedule_lint i (s.setHang n .released)
      refine ⟨(Keeps.trans (keeps_with ..) (scheduled _)), ?_, ?_⟩ <;> rw [schedule_eq] <;> rfl
    · exact ⟨.refl s, rfl, rfl⟩
  · exact ⟨.refl s, rfl, rfl⟩

theorem keeps_accept (i : Nat) (s : Service) :
    Keeps s (s.accept i) ∧ (s.accept i).runs = s.runs ∧ (s.accept i).notices = s.notices := by
  unfold accept
  split
  · split
    · exact ⟨keeps_schedule_lint i s, by rw [schedule_eq], by rw [schedule_eq]⟩
    · exact ⟨.refl s, rfl, rfl⟩
  · exact ⟨.refl s, rfl, rfl⟩

/-- Every deed is of one of these kinds. -/
theorem Does.moves (h : Does s d s') : Moves s d s' := by
  cases h with
  | execute env doc =>
    rcases ht : s.target? env doc with _ | target
    · rw [Service.execute, ht]
      exact .call (.refl s) (Or.inl rfl) nofun (fun _ h => h.elim) (by simp) (by simp)
    · rw [execute_eq ht]
      exact .queue ht
  | executeOutside env doc =>
    unfold Service.executeOutside
    rcases ht : s.target? env doc with _ | target
    · exact .call (.refl s) (Or.inl rfl) nofun (fun _ h => h.elim) (by simp) (by simp)
    · simp only
      rw [track_eq]
      exact .call (.refl _) (Or.inr ⟨doc.uri, (target?_spec ht).2, rfl⟩) nofun (fun _ h => h.elim) (by simp) (by simp)
  | clear uri =>
    refine .call (drops_clearEach [uri] s) (Or.inl rfl) (fun u hu k hk => List.mem_flatMap.mpr ⟨u, hu, hk⟩) ?_ (by simp)
      (by simp)
    intro u hu _ hf k hk
    cases hu
    simpa [hf] using hk
  | @clearAll us _ perm =>
    refine .call (drops_clearEach us s) (Or.inl rfl) (fun u hu k hk => List.mem_flatMap.mpr ⟨u, hu, hk⟩) ?_ (by simp)
      (by simp)
    intro u _ hm hf k hk
    rw [List.mem_flatMap]
    exact ⟨u, List.mem_filter.mpr ⟨perm.mem_iff.mpr hm, hf⟩, hk⟩
  | configure c =>
    exact .call (.of_keeps (keeps_with ..) rfl rfl) (Or.inl rfl) nofun (fun _ h => h.elim) (by simp) (by simp)
  | setFolders folders => exact .call (.refl _) (Or.inl rfl) nofun (fun _ h => h.elim) (by simp) (by simp)
  | shutdown =>
    exact .call (drops_cancelEach s.deque s) (Or.inl rfl) nofun (fun _ _ _ _ k hk => (mem_runsFor.mp hk).1) (by simp)
      (by simp)
  | cancel i => exact .call (drops_cancelRun i s) (Or.inl rfl) nofun (fun _ h => h.elim) (by simp) (by simp)
  | release n =>
    obtain ⟨keeps, runs, notices⟩ := keeps_release n s
    exact .call (.of_keeps keeps runs notices) (Or.inl rfl) nofun (fun _ h => h.elim) (by simp) (by simp)
  | accept i =>
    obtain ⟨keeps, runs, notices⟩ := keeps_accept i s
    exact .call (.of_keeps keeps runs notices) (Or.inl rfl) nofun (fun _ h => h.elim) (by simp) (by simp)
  | work env hj =>
    rename_i j
    cases j with
    | drain => exact .drain hj
    | turn i => exact .turn hj
    | lint i => exact .lint env hj

/-! ## What becomes of runs -/

/-- All runs stand somewhere, and those in the queue exist. -/
structure Sound (s : Service) : Prop where
  stands : ∀ (k : Nat) (r : Run), s.runs[k]? = some r → ∃ a rs p, Run.Stands a rs p r
  bound : ∀ k ∈ s.deque, k < s.runs.length

/-- Handing in a document puts a run for it at the end of the queue. -/
theorem Sound.enqueues (hs : Sound s) (a : Assignment) (uri : DocumentUri) :
    Enqueues a (s.track uri) ((s.track uri).enqueue a) := by
  apply enqueues_enqueue
  rw [track_eq]
  exact hs.bound

/-- The loop changes the queue only. -/
theorem fields_drain (s : Service) : s.drain.runs = s.runs ∧ s.drain.notices = s.notices ∧ s.drain.config = s.config ∧
    s.drain.tracked = s.tracked := by
  rcases drain_cases s with ⟨-, h⟩ | ⟨i, is, -, h⟩
  · rw [h]
    exact ⟨rfl, rfl, rfl, rfl⟩
  · rw [h, schedule_eq]
    exact ⟨rfl, rfl, rfl, rfl⟩

/-- A turn changes one run, and where the loop goes on. -/
theorem fields_takeTurn (i : Nat) (s : Service) : (s.takeTurn i).notices = s.notices ∧
    (s.takeTurn i).config = s.config ∧ (s.takeTurn i).tracked = s.tracked ∧ (s.takeTurn i).deque = s.deque := by
  rcases hi : s.runs[i]? with _ | r
  · rw [takeTurn_of_none hi]
    exact ⟨rfl, rfl, rfl, rfl⟩
  · obtain ⟨s₁, alters, h⟩ := takeTurn_spec hi
    rw [h]
    split
    · rw [schedule_eq]
      exact ⟨alters.notices, alters.config, alters.tracked, alters.deque⟩
    · exact ⟨alters.notices, alters.config, alters.tracked, alters.deque⟩

theorem runs_takeTurn {i : Nat} (hi : s.runs[i]? = some r) : (s.takeTurn i).runs = s.runs.set i r.start := by
  obtain ⟨s₁, alters, h⟩ := takeTurn_spec hi
  rw [h]
  split
  · rw [schedule_eq]
    exact alters.runs
  · exact alters.runs

theorem Sound.without (hs : Sound s) (j : ServiceJob) : Sound (s.without j) := ⟨hs.stands, hs.bound⟩

/-- The job of a run leaves the queue and the documents alone. -/
theorem Sound.keeps_lint (hs : Sound s) (env : Surroundings) (i : Nat) :
    Keeps s (s.lint env i) ∧ (s.lint env i).runs.length = s.runs.length := by
  rcases hi : s.runs[i]? with _ | r
  · rw [lint_of_none hi]
    exact ⟨.refl s, rfl⟩
  · obtain ⟨a, rs, p, h⟩ := hs.stands i r hi
    obtain ⟨told, r', alters, -⟩ := lints_lint env hi h
    exact ⟨alters.toKeeps, by rw [alters.runs, List.length_set]⟩

/-- A run that is there stands after a turn of the drain loop, which has started the run if the turn was its own. -/
theorem stands_takeTurn (i : Nat) (hk : s.runs[k]? = some r) (h : r.Stands a rs p) :
    ∃ r', (s.takeTurn i).runs[k]? = some r' ∧ r'.Stands a rs p ∧ (r.isOver = true → r'.isOver = true) := by
  rcases hi : s.runs[i]? with _ | ri
  · rw [takeTurn_of_none hi]
    exact ⟨r, hk, h, id⟩
  rw [runs_takeTurn hi]
  by_cases hik : i = k
  · subst hik
    cases hi.symm.trans hk
    refine ⟨r.start, ?_, h.start, fun ended => h.isOver_start.trans ended⟩
    rw [List.getElem?_set_self (List.getElem?_eq_some_iff.mp hk).1]
  · exact ⟨r, by rw [List.getElem?_set_ne hik, hk], h, id⟩

/-- The job of a run leaves the other runs alone. -/
theorem Sound.getElem?_lint (hs : Sound s) (env : Surroundings) {i : Nat} (hik : i ≠ k) :
    (s.lint env i).runs[k]? = s.runs[k]? := by
  rcases hi : s.runs[i]? with _ | ri
  · rw [lint_of_none hi]
  · obtain ⟨a, rs, p, hri⟩ := hs.stands i ri hi
    obtain ⟨told, r', alters, -⟩ := lints_lint env hi hri
    rw [alters.runs, List.getElem?_set_ne hik]

/-- A run that is there stays and stands, with what its commands have come to and its publications; one that is done
stays done. -/
theorem Moves.runs (hm : Moves s d s') (hs : Sound s) (ht : s'.notices = told ++ s.notices) (hk : s.runs[k]? = some r)
    (h : r.Stands a rs p) :
    ∃ r', s'.runs[k]? = some r' ∧ r'.Stands a (rs ++ d.heardBy k) (p + Event.publishedBy k ⟨d, told⟩) ∧
      (r.isOver = true → r'.isOver = true) := by
  cases hm with
  | @call d is us tracked folders s' drops _ _ _ quiet =>
    have heard : d.heardBy k = [] := by
      cases d <;> simp_all [Deed.heardBy]
    have published : Event.publishedBy k ⟨d, told⟩ = 0 := by
      cases d <;> simp_all [Event.publishedBy]
    rw [heard, published, List.append_nil]
    exact ⟨_, drops.at hk, h.cancel_ite _⟩
  | @queue doc env target ht =>
    have queued := hs.enqueues (s.assignment env target) doc.uri
    have hk' : (s.track doc.uri).runs[k]? = some r := by
      rw [track_eq]
      exact hk
    rw [show Deed.heardBy k (.handed doc (.queued s.runs.length)) = [] from rfl, List.append_nil]
    exact ⟨_, queued.others k r hk', h.cancel_ite _⟩
  | drain hj =>
    refine ⟨r, ?_, by simpa [Deed.heardBy, Event.publishedBy] using h, id⟩
    rw [(fields_drain _).1]
    exact hk
  | @turn i hj =>
    have none : rs ++ Deed.heardBy k (.worked (.turn i) []) = rs := List.append_nil rs
    have same : p + Event.publishedBy k ⟨.worked (.turn i) [], told⟩ = p := rfl
    rw [none, same]
    exact stands_takeTurn (s := s.without (.turn i)) i hk h
  | @lint i env hj =>
    by_cases hik : i = k
    · subst hik
      obtain ⟨told', r', alters, -, stands, -, ends⟩ :=
        lints_lint env (s := s.without (.lint i)) hk h
      have same : told' = told := List.append_cancel_right (alters.notices.symm.trans ht)
      subst same
      refine ⟨r', alters.at hk, ?_, ends⟩
      simpa [Deed.heardBy, Event.publishedBy] using stands
    · refine ⟨r, ?_, by simpa [Deed.heardBy, Event.publishedBy, hik] using h, id⟩
      rw [(hs.without (.lint i)).getElem?_lint env hik]
      exact hk

/-- A run that is not there gets nothing and publishes nothing. -/
theorem Moves.absent (hm : Moves s d s') (ht : s'.notices = told ++ s.notices) (hk : s.runs[k]? = none) :
    d.heardBy k = [] ∧ Event.publishedBy k ⟨d, told⟩ = 0 := by
  cases hm with
  | @call d is us tracked folders s' drops _ _ _ quiet => cases d <;> simp_all [Deed.heardBy, Event.publishedBy]
  | queue | drain | turn => exact ⟨rfl, rfl⟩
  | @lint i env hj =>
    by_cases hik : i = k
    · subst hik
      rw [lint_of_none (s := s.without (.lint i)) hk] at ht
      have silent : told = [] := List.append_cancel_right (ht.symm.trans (List.nil_append _).symm)
      subst silent
      rw [heard_of_none hk]
      exact ⟨by simp [Deed.heardBy], by simp [Event.publishedBy]⟩
    · exact ⟨by simp [Deed.heardBy, hik], by simp [Event.publishedBy, hik]⟩

/-- Runs are added by handing in documents only. -/
theorem Moves.length (hm : Moves s d s') (hs : Sound s) :
    s'.runs.length = s.runs.length ∨ ∃ doc, d = .handed doc (.queued s.runs.length) ∧
      s'.runs.length = s.runs.length + 1 := by
  cases hm with
  | call drops => exact Or.inl drops.length
  | @queue doc env target ht =>
    right
    refine ⟨doc, rfl, (hs.enqueues _ _).length.trans ?_⟩
    rw [track_eq]
  | drain hj => exact Or.inl (congrArg List.length (fields_drain _).1)
  | @turn i hj =>
    left
    rcases hi : s.runs[i]? with _ | r
    · rw [takeTurn_of_none (s := s.without (.turn i)) hi, runs_without]
    · rw [runs_takeTurn (s := s.without (.turn i)) hi, List.length_set, runs_without]
  | @lint i env hj => exact Or.inl ((hs.without _).keeps_lint env i).2

/-- A run that is added is for the document that was handed in, with the configuration of that moment, and waits. -/
theorem Moves.added (hm : Moves s d s') (hs : Sound s) (hk : s'.runs[k]? = some r) (hn : s.runs[k]? = none) :
    k = s.runs.length ∧ ∃ doc env target, d = .handed doc (.queued k) ∧ s.target? env doc = some target ∧
      r.Stands (s.assignment env target) [] 0 := by
  have lt := (List.getElem?_eq_some_iff.mp hk).1
  have le := List.getElem?_eq_none_iff.mp hn
  rcases hm.length hs with same | ⟨doc, rfl, more⟩
  · omega
  have last : k = s.runs.length := by omega
  subst last
  refine ⟨rfl, doc, ?_⟩
  cases hm with
  | call _ _ _ _ _ unqueued => exact absurd rfl (unqueued doc _)
  | @queue _ env target ht =>
    have queued := hs.enqueues (s.assignment env target) doc.uri
    have length : (s.track doc.uri).runs.length = s.runs.length := by rw [track_eq]
    rw [← length, queued.added] at hk
    cases hk
    exact ⟨env, target, rfl, ht, .waits rfl rfl⟩

/-- Whatever is published, is published by the job of a run that nobody has canceled, as the results of that run
permit. -/
theorem Moves.publishes {n : Notice} (hm : Moves s d s') (hs : Sound s) (ht : s'.notices = told ++ s.notices)
    (hn : n ∈ told) (hp : n.isPublish = true) :
    ∃ i heard r, d = .worked (.lint i) heard ∧ s.runs[i]? = some r ∧ r.isOver = false ∧
      ∀ a rs p, Run.Stands a rs p r → a.Permits (rs ++ heard) n := by
  have silent {α : Prop} (h : s'.notices = s.notices) : α := by
    have none : told = [] := List.append_cancel_right (ht.symm.trans h)
    subst none
    cases hn
  cases hm with
  | call drops =>
    have clears := List.append_cancel_right (ht.symm.trans drops.notices)
    rw [clears, List.mem_map] at hn
    obtain ⟨u, -, rfl⟩ := hn
    cases hp
  | @queue doc env target _ =>
    refine silent ((hs.enqueues _ _).notices.trans ?_)
    rw [track_eq]
  | drain hj => exact silent (fields_drain _).2.1
  | turn hj => exact silent (fields_takeTurn ..).1
  | @lint i env hj =>
    rcases hi : s.runs[i]? with _ | r
    · rw [lint_of_none (s := s.without (.lint i)) hi] at silent
      exact silent rfl
    · obtain ⟨a, rs, p, h⟩ := hs.stands i r hi
      have lints {a rs p} (h : Run.Stands a rs p r) : r.isOver = false ∧ a.Permits (rs ++ heard env (.lint i) s) n := by
        obtain ⟨told', r', alters, permits, -, live, -⟩ := lints_lint env (s := s.without (.lint i)) hi h
        have same : told' = told := List.append_cancel_right (alters.notices.symm.trans ht)
        subst same
        exact ⟨live (List.ne_nil_of_mem hn), permits n hn⟩
      exact ⟨i, _, r, rfl, hi, (lints h).1, fun a rs p h => (lints h).2⟩

/-- Only a call changes the configuration. -/
theorem Moves.config (hm : Moves s d s') (hs : Sound s) : s'.config = d.config s.config := by
  cases hm with
  | call drops => exact drops.config
  | queue ht =>
    refine (hs.enqueues _ _).config.trans ?_
    rw [track_eq]
    rfl
  | drain hj => exact (fields_drain _).2.2.1
  | turn hj => exact (fields_takeTurn ..).2.1
  | lint env hj => exact ((hs.without _).keeps_lint ..).1.config

theorem mem_deque_drain (h : k ∈ s.drain.deque) : k ∈ s.deque := by
  have rest : k ∈ s.rest → k ∈ s.deque := by
    unfold Service.rest
    split
    · exact List.mem_of_mem_tail
    · exact id
  rcases drain_cases s with ⟨-, hd⟩ | ⟨i, is, hr, hd⟩
  · rw [hd] at h
    cases h
  · rw [hd, schedule_eq] at h
    exact rest (hr ▸ h)

/-- A run in the queue was there before, or has just been added. -/
theorem Moves.queued (hm : Moves s d s') (hs : Sound s) (hk : k ∈ s'.deque) :
    k ∈ s.deque ∨ k = s.runs.length ∧ s'.runs.length = s.runs.length + 1 := by
  cases hm with
  | call drops =>
    rw [drops.deque] at hk
    exact Or.inl hk
  | @queue doc env target _ =>
    have queued := hs.enqueues (s.assignment env target) doc.uri
    have deque := queued.deque
    have length := queued.length
    rw [track_eq doc.uri s] at deque length
    rw [track_eq doc.uri s, deque, List.mem_append, List.mem_singleton] at hk
    rw [track_eq doc.uri s]
    exact hk.imp_right fun hk => ⟨hk, length⟩
  | drain hj => exact Or.inl (mem_deque_drain (s := s.without .drain) hk)
  | turn hj =>
    rw [(fields_takeTurn ..).2.2.2] at hk
    exact Or.inl hk
  | lint env hj =>
    rw [((hs.without _).keeps_lint ..).1.deque] at hk
    exact Or.inl hk

/-- A deed leaves every run standing somewhere. -/
theorem Moves.sound (hm : Moves s d s') (hs : Sound s) (ht : s'.notices = told ++ s.notices) : Sound s' where
  stands k r hk := by
    rcases hn : s.runs[k]? with _ | r₀
    · obtain ⟨-, doc, env, target, -, -, stands⟩ := hm.added hs hk hn
      exact ⟨_, _, _, stands⟩
    · obtain ⟨a, rs, p, h⟩ := hs.stands k r₀ hn
      obtain ⟨r', hk', stands, -⟩ := hm.runs hs ht hn h
      cases hk.symm.trans hk'
      exact ⟨_, _, _, stands⟩
  bound k hk := by
    have length := hm.length hs
    rcases hm.queued hs hk with hk | ⟨rfl, more⟩
    · have lt := hs.bound k hk
      rcases length with same | ⟨-, -, more⟩ <;> omega
    · omega

variable {c : Config} {script : List Reply} {delays : List Bool} {es : List Event}

/-- Whatever follows leaves every run standing somewhere. -/
theorem Follows.sound (h : Follows s es s') (hs : Sound s) : Sound s' := by
  induction h with
  | start => exact hs
  | next _ hd ht ih => exact hd.moves.sound ih ht

/-- In every history all runs stand somewhere. -/
theorem History.sound (h : History c script delays es s) : Sound s :=
  Follows.sound h ⟨by simp [Service.start], by simp [Service.start]⟩

/-- The configuration of the service is the one that was set last. -/
theorem History.config_eq (h : History c script delays es s) : s.config = currentConfig c es := by
  induction h with
  | start => rfl
  | next h hd _ ih => rw [hd.moves.config (History.sound h), ih, currentConfig]

/-- A run that is not there has no results and has published nothing. -/
theorem History.absent (h : History c script delays es s) (hk : s.runs.length ≤ k) :
    results k es = [] ∧ publications k es = 0 := by
  induction h with
  | start => exact ⟨rfl, rfl⟩
  | @next es s s' e h hd ht ih =>
    have before : s.runs.length ≤ k := by
      rcases hd.moves.length (History.sound h) with same | ⟨-, -, more⟩ <;> omega
    obtain ⟨heard, published⟩ := hd.moves.absent ht (List.getElem?_eq_none_iff.mpr before)
    obtain ⟨none, never⟩ := ih before
    exact ⟨by rw [results, none, heard, List.append_nil], by rw [publications, never, published]⟩

/-! ## Histories go on -/

/-- A deed only adds to what was told. -/
theorem Moves.grows (hm : Moves s d s') (hs : Sound s) : ∃ told, s'.notices = told ++ s.notices := by
  cases hm with
  | call drops => exact ⟨_, drops.notices⟩
  | queue ht =>
    refine ⟨[], (hs.enqueues _ _).notices.trans ?_⟩
    rw [track_eq]
    rfl
  | drain hj => exact ⟨[], (fields_drain _).2.1⟩
  | turn hj => exact ⟨[], (fields_takeTurn ..).1⟩
  | @lint i env hj =>
    rcases hi : s.runs[i]? with _ | r
    · rw [lint_of_none (s := s.without (.lint i)) hi]
      exact ⟨[], rfl⟩
    · obtain ⟨a, rs, p, h⟩ := hs.stands i r hi
      obtain ⟨told, r', alters, -⟩ := lints_lint env (s := s.without (.lint i)) hi h
      exact ⟨told, alters.notices⟩

/-- Whatever can be done, is part of a history. -/
theorem History.extend (h : History c script delays es s) (hd : Does s d s') :
    ∃ told, History c script delays (⟨d, told⟩ :: es) s' := by
  obtain ⟨told, ht⟩ := hd.moves.grows h.sound
  exact ⟨told, Follows.next (e := ⟨d, told⟩) h hd ht⟩

/-- Doing the next job is one way to go on. -/
theorem Does.of_step (h : s.step env = some s') : ∃ d, Does s d s' := by
  unfold Service.step at h
  rcases hj : s.jobs with _ | ⟨j, js⟩
  · simp [hj] at h
  · simp only [hj, Option.some.injEq] at h
    have done := Does.work env (s := s) (j := j) (by simp [hj])
    have same : s.without j = { s with jobs := js } := by simp [without, hj]
    rw [same, h] at done
    exact ⟨_, done⟩

/-- Doing jobs one after another is part of a history. -/
theorem History.settleWith (h : History c script delays es s) (env : Surroundings) (fuel : Nat) :
    ∃ es', History c script delays (es' ++ es) (s.settleWith env fuel) := by
  induction fuel generalizing es s with
  | zero => exact ⟨[], h⟩
  | succ fuel ih =>
    unfold Service.settleWith
    rcases hs : s.step env with _ | s'
    · exact ⟨[], h⟩
    · obtain ⟨d, hd⟩ := Does.of_step hs
      obtain ⟨told, next⟩ := h.extend hd
      obtain ⟨es', later⟩ := ih next
      exact ⟨es' ++ [⟨d, told⟩], by simpa using later⟩

/-- Doing all jobs is part of a history. -/
theorem History.settle (h : History c script delays es s) (env : Surroundings) :
    ∃ es', History c script delays (es' ++ es) (s.settle env) :=
  h.settleWith env s.bound

/-- A document is handed in and queued. -/
theorem Follows.handed {s₀ : Service} (h : Follows s₀ es s) (env : Surroundings) (d : Document) (k : Nat)
    (hk : (s.execute env d).2 = .queued k) (ht : (s.execute env d).1.notices = s.notices) :
    Follows s₀ (⟨.handed d (.queued k), []⟩ :: es) (s.execute env d).1 :=
  .next h (hk ▸ .execute env d s) ht

/-- A job is done. -/
theorem Follows.worked {s₀ : Service} (h : Follows s₀ es s) (env : Surroundings) (j : ServiceJob) (told : List Notice)
    (hj : j ∈ s.jobs) (ht : ((s.without j).runJob env j).notices = told ++ s.notices) :
    Follows s₀ (⟨.worked j (heard env j s), told⟩ :: es) ((s.without j).runJob env j) :=
  .next h (.work env hj) ht

/-! ## A history -/

/-- A project with a configuration file of the linter. -/
def project : Surroundings :=
  .permissive ⟨["mix.exs", ".credo.exs"].map fun n => ([Text.utf8Bytes "p", Text.utf8Bytes n], .file [] false), []⟩ none

/-- A configuration in which all files are linted. -/
def thorough : Config := { Config.default with lintEverything := true }

/-- The same, with opportunities for refactoring as hints only. -/
def hinting : Config := { thorough with refactorAsHint := true }

/-- A document. -/
def draft : Document := ⟨⟨"file:///p/a.ex"⟩, Document.elixir, "x"⟩

/-- The document as it is later. -/
def revision : Document := { draft with text := "x = 1" }

/-- A command that finds an opportunity for refactoring. -/
def finding : Reply :=
  .finished ⟨some 0, "\x7b\"issues\": [\x7b\"category\": \"refactor\", \"check\": \"C\", \"message\": \"m\"\x7d]\x7d",
    ""⟩

/-- What is shown for it. -/
def hint : Diagnostic := ⟨⟨⟨0, 0⟩, ⟨0, 5⟩⟩, .hint, "m (refactor:C)", "C", .refactor⟩

/-- The document is handed in before and after it and the configuration change. -/
def revised : Service :=
  ((((Service.start thorough [finding]).execute project draft).1.configure hinting).execute project revision).1

/-- Some jobs are done. -/
def work (js : List ServiceJob) (s : Service) : Service := js.foldl (fun s j => (s.without j).runJob project j) s

/-- The run for the revision is about to do its job. -/
def ready : Service := work [.drain, .turn 0, .drain, .turn 1] revised

/-- What has happened when the diagnostics of the revision have been published. -/
def revisions : List Event :=
  [⟨.worked (.lint 1) (heard project (.lint 1) ready), [.publish revision.uri [hint]]⟩,
   ⟨.worked (.turn 1) [], []⟩, ⟨.worked .drain [], []⟩, ⟨.worked (.turn 0) [], []⟩, ⟨.worked .drain [], []⟩,
   ⟨.handed revision (.queued 1), []⟩, ⟨.configured hinting, []⟩, ⟨.handed draft (.queued 0), []⟩]

/-- The runs of a document that is edited make a history. -/
theorem history_revisions : History thorough [finding] [] revisions (work [.lint 1] ready) := by
  have begun : History thorough [finding] [] [] (.start thorough [finding] []) := .start
  have drafted := begun.handed project draft 0 (by decide +kernel) (by decide +kernel)
  have configured := Follows.next (e := ⟨.configured hinting, []⟩) drafted (.configure hinting _) rfl
  have handed := configured.handed project revision 1 (by decide +kernel) (by decide +kernel)
  have drained := handed.worked project .drain [] (by decide +kernel) (by decide +kernel)
  have looked := drained.worked project (.turn 0) [] (by decide +kernel) (by decide +kernel)
  have passed := looked.worked project .drain [] (by decide +kernel) (by decide +kernel)
  have started := passed.worked project (.turn 1) [] (by decide +kernel) (by decide +kernel)
  exact started.worked project (.lint 1) [.publish revision.uri [hint]] (by decide +kernel) (by decide +kernel)

end ElixirLint.Service
