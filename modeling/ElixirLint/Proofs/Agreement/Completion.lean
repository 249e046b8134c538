import ElixirLint.Proofs.Agreement.Unhindered

/-!
# Runs come to their end

A document that is handed in where there is nothing to do is linted to the end, whatever its commands come to and
however long the outside takes: the loop gives the run its turn, every command that hangs can be let go, and after that
it hangs less, and whatever the outside has taken in is told no more.

Main results: `completes_receive`, `completes_execute`.
-/

namespace ElixirLint.Service

variable {s s' s₁ s₀ : Service} {i n : Nat} {r : Run} {a : Assignment} {env : Surroundings} {phase : RunPhase}
  {stage : Stage} {reply : Reply} {left : List Notice}

/-- The run `i` can come to its end while nobody disturbs the service. -/
def Completes (env : Surroundings) (i : Nat) (s : Service) : Prop :=
  ∃ s' r, Unhindered env s s' ∧ s'.runs[i]? = some r ∧ r.isOver = true

theorem Unhindered.trans (h : Unhindered env s₀ s) (h' : Unhindered env s s') : Unhindered env s₀ s' := by
  induction h' with
  | start => exact h
  | work _ hj ih => exact ih.work hj
  | release n _ ih => exact ih.release n
  | accept i _ ih => exact ih.accept i

/-- A run that can complete later can complete. -/
theorem Completes.of_unhindered (h : Unhindered env s s₁) (h' : Completes env i s₁) : Completes env i s := by
  obtain ⟨s', r, hu, hi, done⟩ := h'
  exact ⟨s', r, h.trans hu, hi, done⟩

/-- A run whose job goes on and then can come to its end can come to its end. -/
theorem Completes.of_lint (hj : .lint i ∈ s.jobs) (h : Completes env i ((s.without (.lint i)).lint env i)) :
    Completes env i s :=
  .of_unhindered (.work .start hj) h

/-- A run that is concluded is complete. -/
theorem completes_conclude (hi : s.runs[i]? = some r) : Completes env i (s.conclude i) :=
  ⟨_, r.finish, .start, (alters_conclude hi).at hi, r.isOver_finish⟩

/-! ## The outside -/

/-- A run that waits for the outside can go on. -/
theorem completes_telling (hi : s.runs[i]? = some (.working a (.telling a left)))
    (later : ∀ s' : Service, s'.runs[i]? = some (.working a (.telling a left)) →
      Completes env i (s'.tell i a left)) : Completes env i s := by
  have accepted : s.accept i = s.schedule (.lint i) := by
    unfold accept
    rw [hi]
    rfl
  have goes {s' : Service} (hi' : s'.runs[i]? = some (.working a (.telling a left))) :
      s'.lint env i = s'.tell i a left := by
    unfold lint
    rw [hi']
    rfl
  refine .of_unhindered (.accept i .start) (.of_lint ?_ ?_)
  · rw [accepted]
    exact mem_jobs_schedule.mpr (Or.inr rfl)
  · have same : ((s.accept i).without (.lint i)).runs[i]? = some (.working a (.telling a left)) := by
      rw [runs_without, (keeps_accept i s).2.1]
      exact hi
    rw [goes same]
    exact later _ same

/-- A run that tells what it has left can come to its end. The induction is on what is left. -/
theorem completes_tell (hi : s.runs[i]? = some (.working a phase)) : Completes env i (s.tell i a left) := by
  induction left generalizing s phase with
  | nil => exact completes_conclude hi
  | cons n left ih =>
    unfold tell
    by_cases hr : s.repeats n = true
    · rw [if_pos hr]
      exact ih hi
    rw [if_neg hr]
    have told : ((s.note n).emit n).pause.2.runs[i]? = some (.working a phase) := by
      rw [runs_told]
      exact hi
    by_cases hw : ((s.note n).emit n).pause.1 = true
    · simp only [hw, if_true]
      exact completes_telling ((alters_setPhase (.telling a left) told).at told) fun s' hi' => ih hi'
    · simp only [hw]
      exact ih told

/-! ## Commands -/

/-- A run whose command hangs can go on. -/
theorem completes_hold (hi : s.runs[i]? = some (.working a phase))
    (later : ∀ s' : Service, s'.runs[i]? = some (.working a (.calling a stage s.hangs.length)) →
      Completes env i (s'.receive env i a stage reply)) : Completes env i (s.hold i a stage reply) := by
  let s₁ := s.hold i a stage reply
  have held : s₁.runs[i]? = some (.working a (.calling a stage s.hangs.length)) := (alters_hold stage reply hi).at hi
  have hangs : s₁.hangs[s.hangs.length]? = some ⟨i, reply, .held⟩ := by
    simp [s₁, hold, setPhase, modifyRun]
  have released : (s₁.release s.hangs.length).1 = (s₁.setHang s.hangs.length .released).schedule (.lint i) := by
    unfold release
    rw [hangs]
    rfl
  refine .of_unhindered (.release s.hangs.length .start) (.of_lint ?_ ?_)
  · rw [released]
    exact mem_jobs_schedule.mpr (Or.inr rfl)
  · let s₂ := (s₁.release s.hangs.length).1.without (.lint i)
    have runs : s₂.runs[i]? = some (.working a (.calling a stage s.hangs.length)) := by
      rw [runs_without, (keeps_release _ s₁).2.1]
      exact held
    have free : s₂.hangs[s.hangs.length]? = some ⟨i, reply, .released⟩ := by
      simp only [s₂, without, released]
      rw [schedule_eq]
      simp [setHang, hangs]
    have goes : s₂.lint env i = (s₂.setHang s.hangs.length .gone).receive env i a stage reply := by
      unfold lint
      rw [runs]
      simp [Run.working, free]
    rw [goes]
    exact later _ runs

/-- A run whose command has come to a result can go on if it can from the next stage. -/
theorem completes_result {c : CommandResult} (hi : s.runs[i]? = some (.working a phase))
    (hc : reply.result? (a.linter.command env.tree a.target stage) = some c)
    (later : ∀ (next : Stage) (reply : Reply) (s' : Service), Linter.stagesLeft next < Linter.stagesLeft stage →
      s'.runs[i]? = some (.working a phase) → Completes env i (s'.receive env i a next reply)) :
    Completes env i (s.receive env i a stage reply) := by
  fun_cases receive env i a stage reply s with
  | case1 | case2 => cases hc
  | case3 _ _ _ none => rw [hc] at none; cases none
  | case4 _ _ _ _ _ result ended =>
    rw [deliver_eq hi (by simp [Run.working])]
    exact completes_tell hi
  | case5 _ _ _ _ _ next waiting reply' s' hs =>
    refine later next reply' s' (Linter.stagesLeft_resume waiting) ?_
    have issued := alters_issue env (a.linter.command env.tree a.target next) hi
    rw [hs] at issued
    exact issued.at hi

/-- A run whose command comes to a reply can come to its end. The induction is on the stages that are left, and for a
stage on how often its command hangs. -/
theorem completes_receive (hi : s.runs[i]? = some (.working a phase)) :
    Completes env i (s.receive env i a stage reply) := by
  induction hn : Linter.stagesLeft stage using Nat.strongRecOn generalizing s stage reply phase with
  | ind n ih =>
    have later (phase : RunPhase) (next : Stage) (reply : Reply) (s' : Service)
        (less : Linter.stagesLeft next < Linter.stagesLeft stage) (hi' : s'.runs[i]? = some (.working a phase)) :
        Completes env i (s'.receive env i a next reply) := ih _ (hn ▸ less) hi' rfl
    induction reply generalizing s phase with
    | finished p => exact completes_result hi rfl (later phase)
    | failed why => exact completes_result hi rfl (later phase)
    | crash =>
      rw [receive]
      exact completes_conclude hi
    | hang release ihr =>
      rw [receive]
      exact completes_hold hi fun s' hi' => ihr hi'

/-- A run whose job has not done anything can come to its end. -/
theorem completes_ready (hi : s.runs[i]? = some (.working a (.ready a))) : Completes env i (s.lint env i) := by
  unfold lint
  rw [hi]
  exact completes_receive ((alters_issue env _ hi).at hi)

/-! ## The loop -/

/-- Where the loop does not run, a run that is queued starts it. -/
theorem drain_mem_enqueue (hb : s.busy = false) : .drain ∈ (s.enqueue a).jobs := by
  unfold enqueue
  simp only
  split
  · rename_i busy
    have same := busy.symm.trans (drops_cancelEach _ _).busy
    rw [hb] at same
    cases same
  · exact mem_jobs_schedule.mpr (Or.inr rfl)

/-- A turn that starts a run leaves a job for it. -/
theorem lint_mem_takeTurn (hi : s.runs[i]? = some r) (hb : r.task.start.2 = some a) :
    .lint i ∈ (s.takeTurn i).jobs := by
  unfold takeTurn
  simp only [hi, hb]
  split
  · split
    · exact mem_jobs_schedule.mpr (Or.inl (mem_jobs_schedule.mpr (Or.inr rfl)))
    · exact mem_jobs_schedule.mpr (Or.inr rfl)
  · exact mem_jobs_schedule.mpr (Or.inr rfl)

variable {c : Config} {script : List Reply} {delays : List Bool} {es : List Event} {d : Document} {target : LintTarget}

/-- A run that is first in the queue and has a job that drains it before it can come to its end. -/
theorem completes_first (hj : .drain ∈ s.jobs) (ht : s.turn = none) (hd : s.deque = [i])
    (hi : s.runs[i]? = some ⟨⟨a.target.document.uri, .pending, some a, none, true, false⟩, .unstarted, false⟩) :
    Completes env i s := by
  have drained : (s.without .drain).drain =
      ({ s.without .drain with deque := [i], turn := some i, listening := false } : Service).schedule (.turn i) := by
    simp [drain, without, ht, hd]
  let s₁ := (s.without .drain).drain
  have turn : .turn i ∈ s₁.jobs := by
    simp only [s₁, drained]
    exact mem_jobs_schedule.mpr (Or.inr rfl)
  have waits : (s₁.without (.turn i)).runs[i]? =
      some ⟨⟨a.target.document.uri, .pending, some a, none, true, false⟩, .unstarted, false⟩ := by
    rw [runs_without, (fields_drain _).1]
    exact hi
  let s₂ := (s₁.without (.turn i)).takeTurn i
  have lint : .lint i ∈ s₂.jobs := lint_mem_takeTurn waits rfl
  have ready : (s₂.without (.lint i)).runs[i]? = some (.working a (.ready a)) := by
    rw [runs_without, runs_takeTurn waits, List.getElem?_set_self (List.getElem?_eq_some_iff.mp waits).1]
    rfl
  exact .of_unhindered (.work (.work .start hj) turn) (.of_lint lint (completes_ready ready))

/-- A document that is handed in where there is nothing to do can be linted to the end. -/
theorem completes_execute (h : History c script delays es s) (idle : s.Idle) (ht : s.target? env d = some target) :
    Completes env s.runs.length (s.execute env d).1 := by
  have queued := h.sound.enqueues (s.assignment env target) d.uri
  have queues := h.queues.idle idle.busy
  rw [execute_eq ht]
  rw [track_eq] at queued ⊢
  refine completes_first (drain_mem_enqueue idle.busy) (queued.turn.trans queues.2) ?_ queued.added
  rw [queued.deque, queues.1]
  rfl

end ElixirLint.Service
