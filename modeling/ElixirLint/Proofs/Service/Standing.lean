import ElixirLint.Proofs.Service.Canceling

/-!
# How far runs are

A run waits in the queue, is at work, was canceled with a job that is still to be torn down, or has come to an end.
`Stands` lists these with all that the run holds in each, and with what its commands have come to and how often it has
published so far. Canceling a run, starting it and doing its job lead from one to another. So a run publishes once at
most, what it publishes is the verdict on its own results, and it does so only while nobody has canceled it.

Main results: `Stands.cancel`, `Stands.start`, `alters_lint`.
-/

namespace ElixirLint

namespace Run

variable {a : Assignment} {rs rs' : List CommandResult} {p : Nat} {r r' : Run}

/-- How far a run for `a` is, with the results of its commands so far and the number of its publications. -/
inductive Stands (a : Assignment) (rs : List CommandResult) (p : Nat) : Run → Prop
  /-- It waits in the queue. -/
  | waits (hr : rs = []) (hp : p = 0) :
      Stands a rs p ⟨⟨a.target.document.uri, .pending, some a, none, true, false⟩, .unstarted, false⟩
  /-- Its job is at work. -/
  | works {phase : RunPhase} (h : a.Works rs p phase) :
      Stands a rs p ⟨⟨a.target.document.uri, .running, none, some (), true, false⟩, phase, false⟩
  /-- It was canceled, and its job is to be torn down. -/
  | halts {phase : RunPhase} (h : a.Works rs p phase) :
      Stands a rs p ⟨⟨a.target.document.uri, .canceled, none, none, true, true⟩, phase, true⟩
  /-- Its job has come to its end. -/
  | finished (hp : p ≤ 1) : Stands a rs p ⟨⟨a.target.document.uri, .finished, none, none, true, true⟩, .over, false⟩
  /-- It was canceled, and there is no job any more. -/
  | canceled {phase : RunPhase} {aborted : Bool} (hp : p ≤ 1) (h : phase = .unstarted ∨ phase = .over) :
      Stands a rs p ⟨⟨a.target.document.uri, .canceled, none, none, true, true⟩, phase, aborted⟩

namespace Stands

/-- A run has the document of its assignment as its key. -/
theorem key (h : Stands a rs p r) : r.task.key = a.target.document.uri := by
  cases h <;> rfl

/-- Whoever waits for a run may go on exactly when the run is done. -/
theorem done (h : Stands a rs p r) : r.task.done = r.isOver := by
  cases h <;> rfl

/-- A run publishes once at most. -/
theorem publications_le (h : Stands a rs p r) : p ≤ 1 := by
  cases h with
  | waits _ hp => omega
  | works h | halts h => exact h.publications_le
  | finished hp | canceled hp _ => exact hp

/-- Canceling a run leads from where it stands to where it may stand. -/
theorem cancel (h : Stands a rs p r) : Stands a rs p r.cancel := by
  cases h with
  | waits hr hp => exact .canceled (by omega) (Or.inl rfl)
  | works h => exact .halts h
  | halts h => exact .halts h
  | finished hp => exact .finished hp
  | canceled hp h => exact .canceled hp h

/-- Whether it is canceled or not, a run stands, and one that was done is done. -/
theorem cancel_ite (h : Stands a rs p r) (c : Prop) [Decidable c] :
    Stands a rs p (if c then r.cancel else r) ∧ (r.isOver = true → (if c then r.cancel else r).isOver = true) := by
  split
  · exact ⟨h.cancel, fun _ => r.isOver_cancel⟩
  · exact ⟨h, id⟩

/-- A run that has its turn is at work if it waited, and is left alone otherwise. -/
theorem start (h : Stands a rs p r) : Stands a rs p r.start := by
  cases h with
  | waits hr hp => exact .works (.ready hr hp)
  | works h => exact .works h
  | halts h => exact .halts h
  | finished hp => exact .finished hp
  | canceled hp h => exact .canceled hp h

/-- A turn ends no run. -/
theorem isOver_start (h : Stands a rs p r) : r.start.isOver = r.isOver := by
  cases h <;> rfl

/-- A run at work that is left by its job stands again. -/
theorem of_leaves {phase : RunPhase}
    (h : Run.Leaves a ⟨⟨a.target.document.uri, .running, none, some (), true, false⟩, phase, false⟩ rs p r') :
    Stands a rs p r' := by
  cases h with
  | ended hp => exact .finished hp
  | works h => exact .works h

end Stands

end Run

namespace Service

variable {s : Service} {i : Nat} {r : Run} {a : Assignment} {rs : List CommandResult} {p : Nat} {env : Surroundings}

/-- What a job of a run has done: the run stands with the results that were heard, what it told is permitted after them,
and a run that told anything was not done before. -/
def Lints (env : Surroundings) (i : Nat) (r : Run) (a : Assignment) (rs : List CommandResult) (p : Nat)
    (s s' : Service) : Prop :=
  ∃ told r', Alters i r' told s s' ∧ (∀ n ∈ told, a.Permits (rs ++ heard env (.lint i) s) n) ∧
    Run.Stands a (rs ++ heard env (.lint i) s) (p + told.countP Notice.isPublish) r' ∧
    (told ≠ [] → r.isOver = false) ∧ (r.isOver = true → r'.isOver = true)

/-- A job in which nothing is heard leaves the run as it is. -/
theorem Lints.idle (hi : s.runs[i]? = some r) (h : Run.Stands a rs p r) (hh : heard env (.lint i) s = []) :
    Lints env i r a rs p s s :=
  ⟨[], r, .same (.refl s) hi rfl rfl, by simp, by simpa [hh] using h, by simp, id⟩

/-- A job that is torn down tells nothing. -/
theorem lints_tearDown (hi : s.runs[i]? = some r) (h : Run.Stands a rs p r) (ha : r.aborted = true) :
    Lints env i r a rs p s (s.tearDown i r) := by
  have hh : heard env (.lint i) s = [] := by
    unfold heard
    simp [hi, ha]
  have ended {s₁ : Service} (hs : Alters i r [] s s₁) (hf : Run.Stands a rs p r.finish) :
      Lints env i r a rs p s (s₁.conclude i) :=
    ⟨[], r.finish, hs.trans (alters_conclude (hs.at hi)), by simp, by simpa [hh] using hf, by simp,
      fun _ => r.isOver_finish⟩
  cases h with
  | waits | works | finished => cases ha
  | halts h =>
    have hf : Run.Stands a rs p ⟨⟨a.target.document.uri, .canceled, none, none, true, true⟩, .over, true⟩ :=
      .canceled h.publications_le (Or.inr rfl)
    cases h with
    | ready | telling => exact ended (.same (.refl s) hi rfl rfl) hf
    | calling => exact ended (.same (keeps_with ..) hi rfl rfl) hf
  | canceled hp hphase =>
    rcases hphase with rfl | rfl <;> exact .idle hi (.canceled hp (by simp)) hh

/-- Work on a run that is under way leaves it so, or ends it. -/
theorem Lints.of_leaves {s' : Service} {phase : RunPhase} {told : List Notice} {r' : Run}
    (hr : r = ⟨⟨a.target.document.uri, .running, none, some (), true, false⟩, phase, false⟩)
    (alters : Alters i r' told s s') (permits : ∀ n ∈ told, a.Permits (rs ++ heard env (.lint i) s) n)
    (leaves : r.Leaves a (rs ++ heard env (.lint i) s) (p + told.countP Notice.isPublish) r') :
    Lints env i r a rs p s s' := by
  subst hr
  refine ⟨told, r', alters, permits, .of_leaves leaves, ?_, ?_⟩
  · simp [Run.isOver, TaskState.isTerminal]
  · simp [Run.isOver, TaskState.isTerminal]

/-- The job of a run whose command has come to something goes on from there. -/
theorem Lints.of_receive {s₁ : Service} {phase : RunPhase} {stage : Stage} {reply : Reply}
    (hr : r = ⟨⟨a.target.document.uri, .running, none, some (), true, false⟩, phase, false⟩) (hi : s.runs[i]? = some r)
    (hs : Alters i r [] s s₁) (ha : a.Awaits stage rs)
    (hh : heard env (.lint i) s = heardFrom env a stage reply s₁.script) :
    Lints env i r a rs 0 s (s₁.receive env i a stage reply) := by
  obtain ⟨told, r', alters, permits, leaves⟩ :=
    alters_receive (hs.at hi) (by simp [hr]) ha
  rw [← hh] at permits leaves
  exact .of_leaves hr (by simpa using hs.trans alters) permits (by simpa using leaves)

/-- The job of a run goes on, or is torn down. -/
theorem lints_lint (env : Surroundings) (hi : s.runs[i]? = some r) (h : Run.Stands a rs p r) :
    Lints env i r a rs p s (s.lint env i) := by
  unfold lint
  rw [hi]
  by_cases ha : r.aborted = true
  · simp only [ha, if_true]
    exact lints_tearDown hi h ha
  simp only [ha]
  cases h with
  | waits hr hp => exact .idle hi (.waits hr hp) (by simp [heard, hi])
  | halts => simp at ha
  | finished hp => exact .idle hi (.finished hp) (by simp [heard, hi])
  | canceled hp hphase =>
    rcases hphase with rfl | rfl <;> exact .idle hi (.canceled hp (by simp)) (by simp [heard, hi])
  | works h =>
    cases h with
    | ready hr hp =>
      subst hr hp
      exact .of_receive rfl hi (alters_issue env _ hi) (a.awaits_start _) (by simp [heard, hi]; rfl)
    | calling hr hp =>
      subst hp
      rename_i stage n
      simp only
      rcases hn : s.hangs[n]? with _ | hang
      · exact .idle hi (.works (.calling hr rfl)) (by simp [heard, hi, hn])
      · by_cases hl : hang.phase = .released
        · simp only [hl, if_true]
          exact .of_receive rfl hi (.same (keeps_with ..) hi rfl rfl) hr (by simp [heard, hi, hn, hl]; rfl)
        · simp only [hl, if_false]
          exact .idle hi (.works (.calling hr rfl)) (by simp [heard, hi, hn, hl])
    | telling owes =>
      obtain ⟨told, r', alters, permits, leaves⟩ := alters_tell hi owes
      have hh : heard env (.lint i) s = [] := by simp [heard, hi]
      exact .of_leaves rfl alters (by simpa [hh] using permits) (by simpa [hh] using leaves)

/-! ## The loop -/

/-- The run whose turn it is has its turn, and is then looked at: the loop goes on if the run is done, and waits for it
otherwise. -/
theorem takeTurn_spec (hi : s.runs[i]? = some r) :
    ∃ s₁, Alters i r.start [] s s₁ ∧
      s.takeTurn i = if r.start.task.done then s₁.schedule .drain else { s₁ with listening := true } := by
  unfold takeTurn Run.start
  rcases hb : r.task.start.2 with _ | a
  · exact ⟨s, .same (.refl s) hi rfl rfl, by simp [hi, hb]⟩
  · have alters := alters_modifyRun
      (f := fun r' => { r' with task := (r.task.start.1.adopt ()).1, phase := .ready a }) hi
    have scheduled := alters.trans (alters_schedule_lint (alters.at hi))
    exact ⟨_, scheduled, by simp [hi, hb, scheduled.at hi]⟩

/-- The turn of a run that is not there changes nothing. -/
theorem takeTurn_of_none (hi : s.runs[i]? = none) : s.takeTurn i = s := by
  unfold takeTurn
  rw [hi]

theorem lint_of_none (hi : s.runs[i]? = none) : s.lint env i = s := by
  unfold lint
  rw [hi]

/-- In the job of a run that is not there nothing is heard. -/
theorem heard_of_none (hi : s.runs[i]? = none) : heard env (.lint i) s = [] := by
  simp only [heard, hi]

/-- The queue without the run that has had its turn. -/
def rest (s : Service) : List Nat := if s.turn.isSome then s.deque.tail else s.deque

/-- The loop takes the run out that has had its turn. It ends if the queue is empty then, and gives the next run its
turn otherwise. -/
theorem drain_cases (s : Service) :
    s.rest = [] ∧ s.drain = { s with deque := [], turn := none, busy := false } ∨
      ∃ i is, s.rest = i :: is ∧
        s.drain = ({ s with deque := i :: is, turn := some i, listening := false } : Service).schedule (.turn i) := by
  unfold drain rest
  rcases ht : s.turn with _ | i
  · rcases hd : s.deque with _ | ⟨i, is⟩
    · left
      simp [hd, ht]
    · exact Or.inr ⟨i, is, by simp, by simp [hd]⟩
  · rcases hd : s.deque.tail with _ | ⟨j, is⟩
    · exact Or.inl ⟨by simp, by simp⟩
    · exact Or.inr ⟨j, is, by simp, by simp⟩

end Service

end ElixirLint
