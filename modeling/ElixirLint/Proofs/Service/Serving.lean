import ElixirLint.Proofs.Service.Working
import Mathlib.Algebra.BigOperators.Fin

/-!
# Every run ends

A service that does its jobs first in, first out, comes to a point where there are none left, whatever its commands come
to: every job leaves less to do (`effort`). Then the run at the head of the queue waits for a command that hangs, if
there is a run in the queue; the runs that are not in the queue are done.

Main results: `InOrder.effort_lt`, `InOrder.settles`, `InOrder.serves_in_turn`.
-/

namespace ElixirLint

/-- How much a job leaves to do at most, and the job itself. -/
def ServiceJob.effort : ServiceJob → Nat
  | .turn _ => 2
  | _ => 1

/-- Whether a run waits for its turn. -/
def Run.isPending (r : Run) : Bool := r.task.state == .pending

namespace Service

variable {s s' s₁ : Service} {i k n : Nat} {r r' : Run} {a b : Assignment} {phase : RunPhase} {d : Deed}
  {env : Surroundings} {c : Config} {script : List Reply} {delays : List Bool} {js : List ServiceJob}

/-- How much there is to do: the jobs, a turn for whom the loop waits, and the turns and jobs of runs in the queue. -/
def effort (s : Service) : Nat :=
  (s.jobs.map ServiceJob.effort).sum + 2 * s.listening.toNat + 2 * s.rest.length + 2 * s.runs.countP Run.isPending

/-! ## Every job leaves less to do -/

/-- A new job adds no more than its own effort. -/
theorem effort_schedule_le (j : ServiceJob) (s : Service) : (s.schedule j).effort ≤ s.effort + j.effort := by
  unfold schedule
  split
  · exact Nat.le_add_right ..
  · simp only [effort, rest, List.map_append, List.sum_append, List.map_singleton, List.sum_singleton]
    omega

/-- The first job has its share of the effort. -/
theorem effort_of_jobs {j : ServiceJob} (hj : s.jobs = j :: js) :
    s.effort = ({ s with jobs := js } : Service).effort + j.effort := by
  simp only [effort, rest, hj, List.map_cons, List.sum_cons]
  omega

/-- The loop that drains the queue adds no effort. -/
theorem effort_drain_le (s : Service) : s.drain.effort ≤ s.effort := by
  rcases drain_cases s with ⟨-, result⟩ | ⟨i, is, hr, result⟩
  · rw [result]
    simp [effort, rest]
  · have next := effort_schedule_le (.turn i) { s with deque := i :: is, turn := some i, listening := false }
    rw [result]
    refine Nat.le_trans next ?_
    simp only [effort, hr]
    simp [rest, ServiceJob.effort]
    omega

/-- A run is replaced by one that does not wait for its turn. -/
theorem countP_set_add (hi : s.runs[i]? = some r) (hp : r'.isPending = false) :
    (s.runs.set i r').countP Run.isPending + r.isPending.toNat = s.runs.countP Run.isPending := by
  obtain ⟨lt, rfl⟩ := List.getElem?_eq_some_iff.mp hi
  have positive : s.runs[i].isPending = true → 0 < s.runs.countP Run.isPending := fun h =>
    List.countP_pos_iff.mpr ⟨_, List.getElem_mem lt, h⟩
  rw [List.countP_set lt, hp]
  cases h : s.runs[i].isPending
  · simp
  · have pos := positive h
    simp
    omega

/-- A run that does not wait for its turn is replaced by another one that does not. -/
theorem effort_set (hi : s.runs[i]? = some r) (hr : r.isPending = false) (hp : r'.isPending = false)
    (hangs : List Hang) (killed : Nat) :
    ({ s with runs := s.runs.set i r', hangs := hangs, killed := killed } : Service).effort = s.effort := by
  have count := countP_set_add hi hp
  rw [hr, Bool.toNat_false, Nat.add_zero] at count
  simp only [effort, rest, count]

/-- What is done aside takes no effort. -/
theorem Aside.effort_eq (h : Aside s s₁) : s₁.effort = s.effort := by
  simp only [effort, rest, h.same, h.deque, h.turn, h.jobs, h.listening]

/-- Where the job of the run at work leaves off, there is no more to do than before. -/
theorem AtWork.effort_yields (w : s.AtWork i a phase) (begun : phase.isOpen = true) (y : Yields i b s s') :
    s'.effort ≤ s.effort := by
  cases y with
  | @ended s₁ h =>
    have w₁ := w.of_alike begun h.toAlike
    let s₂ : Service := { s₁ with runs := s₁.runs.set i (Run.working a phase).finish, listening := false }
    -- The loop no longer waits; that pays for the turn which looks at the run.
    have stops : s₂.effort + 2 = s₁.effort := by
      have count : s₂.runs.countP Run.isPending = s₁.runs.countP Run.isPending := countP_set_add w₁.run rfl
      simp only [effort, rest, count, w₁.listens, s₂, Bool.toNat_true, Bool.toNat_false]
      omega
    rw [w₁.conclude_eq, ← h.effort_eq, ← stops]
    exact effort_schedule_le (.turn i) s₂
  | @hangs s₁ stage reply h =>
    have w₁ := w.of_alike begun h.toAlike
    rw [w₁.hold_eq, ← h.effort_eq]
    exact Nat.le_of_eq (effort_set w₁.run rfl rfl _ s₁.killed)
  | @waits s₁ left h late =>
    have w₁ := w.of_alike begun h.toAlike
    rw [w₁.setPhase_eq, ← h.effort_eq]
    exact Nat.le_of_eq (effort_set w₁.run rfl rfl s₁.hangs s₁.killed)

/-- A job that goes on leaves no more to do than there was. -/
theorem Continues.effort_le (h : Continues delays i s s') : s'.effort ≤ s.effort := by
  cases h with
  | rests => exact Nat.le_refl _
  | works work begun _ y => exact work.effort_yields begun y
  | leaves run => exact Nat.le_of_eq (effort_set run rfl rfl _ _)

/-- A turn leaves less to do than the turn itself. -/
theorem effort_takeTurn_lt (hs : Sound s) (hi : s.runs[i]? = some r) (closed : r.phase.isOpen = false)
    (quiet : s.listening = false) : (s.takeTurn i).effort < s.effort + 2 := by
  obtain ⟨a, rs, p, stands⟩ := hs.stands i r hi
  have looked (ended : r.isOver = true) : (s.takeTurn i).effort < s.effort + 2 := by
    rw [takeTurn_of_isOver hi ended (stands.done.trans ended)]
    exact Nat.lt_succ_of_le (effort_schedule_le .drain s)
  cases stands with
  | works h | halts h => cases (isOpen_of_works h).symm.trans closed
  | finished | canceled => exact looked rfl
  | waits =>
    let s₁ : Service := { s with runs := s.runs.set i (.working a (.ready a)) }
    -- The run no longer waits for its turn; that and the turn pay for its job and for the loop that waits.
    have begins : s₁.effort + 2 = s.effort := by
      have count : s₁.runs.countP Run.isPending + 1 = s.runs.countP Run.isPending := countP_set_add hi rfl
      simp only [effort, rest, ← count, s₁]
      omega
    have scheduled := effort_schedule_le (.lint i) s₁
    have listens : ({ s₁.schedule (.lint i) with listening := true } : Service).effort =
        (s₁.schedule (.lint i)).effort + 2 := by
      simp only [effort, rest, listening_schedule, s₁, quiet, Bool.toNat_true, Bool.toNat_false]
      omega
    rw [takeTurn_of_waits hi, listens]
    simp only [ServiceJob.effort] at scheduled
    omega

/-- Every job leaves less to do. -/
theorem InOrder.effort_lt (h : InOrder c script delays s) (hs : s.step env = some s') : s'.effort < s.effort := by
  obtain ⟨es, history⟩ := h.history
  have employs := h.orderly.employs
  unfold Service.step at hs
  rcases hj : s.jobs with _ | ⟨j, js⟩
  · rw [hj] at hs
    cases hs
  · rw [hj] at hs
    obtain rfl := Option.some.inj hs
    rw [effort_of_jobs hj]
    cases j with
    | drain => exact Nat.lt_succ_of_le (effort_drain_le _)
    | lint i => exact Nat.lt_succ_of_le (employs.continues hj env).effort_le
    | turn i =>
      obtain ⟨idle, -, quiet⟩ := employs.nobody_of_loop hj rfl
      have head := history.queues.head i (history.queues.turns i (hj ▸ .head js))
      have bound := history.sound.bound i (List.mem_of_mem_head? head)
      have hi := List.getElem?_eq_getElem bound
      exact effort_takeTurn_lt (s := { s with jobs := js }) ⟨history.sound.stands, history.sound.bound⟩ hi (idle i _ hi)
        quiet

/-! ## There is an end -/

/-- A run is in the queue once. -/
theorem Moves.nodup (hm : Moves s d s') (hs : Sound s) (h : s.deque.Nodup) : s'.deque.Nodup := by
  cases hm with
  | call drops =>
    rw [drops.deque]
    exact h
  | @queue doc env target _ =>
    rw [(hs.enqueues _ _).deque, track_eq]
    refine List.nodup_append.mpr ⟨h, by simp, fun k hk m hm same => ?_⟩
    have lt := hs.bound k hk
    rw [same, List.mem_singleton.mp hm] at lt
    exact Nat.lt_irrefl _ lt
  | drain hj =>
    have shorter : s.rest.Sublist s.deque := by
      unfold rest
      split
      · exact List.tail_sublist _
      · exact .refl _
    rcases drain_cases (s.without .drain) with ⟨-, result⟩ | ⟨i, is, hr, result⟩
    · rw [result]
      exact List.nodup_nil
    · rw [result, schedule_eq]
      exact hr ▸ shorter.nodup h
  | turn hj =>
    rw [(fields_takeTurn ..).2.2.2]
    exact h
  | lint env hj =>
    rw [((hs.without _).keeps_lint ..).1.deque]
    exact h

/-- No run is in the queue twice. -/
theorem History.nodup {es : List Event} (h : History c script delays es s) : s.deque.Nodup := by
  induction h with
  | start => exact List.nodup_nil
  | next h hd _ ih => exact hd.moves.nodup (History.sound h) ih

/-- The effort of jobs is at most one for each, and one more for those of the loop. -/
theorem effort_jobs_le (js : List ServiceJob) :
    (js.map ServiceJob.effort).sum ≤ js.length + js.countP ServiceJob.isLoop := by
  induction js with
  | nil => rfl
  | cons j js ih =>
    rw [List.map_cons, List.sum_cons, List.length_cons, List.countP_cons]
    cases j <;> simp only [ServiceJob.effort, ServiceJob.isLoop] <;> simp <;> omega

/-- What there is to do is within the bound on the jobs that there are to do. -/
theorem InOrder.effort_le_bound (h : InOrder c script delays s) : s.effort ≤ s.bound := by
  obtain ⟨es, history⟩ := h.history
  have jobs := effort_jobs_le s.jobs
  have pending : s.runs.countP Run.isPending ≤ s.runs.length := List.countP_le_length
  have queue : s.deque.length ≤ s.runs.length := by
    have within : s.deque ⊆ List.range s.runs.length := fun k hk => List.mem_range.mpr (history.sound.bound k hk)
    simpa using history.nodup.length_le_of_subset within
  have rest : s.rest.length ≤ s.deque.length := by
    unfold Service.rest
    split
    · simp
    · exact Nat.le_refl _
  have place := Nat.le_trans history.queues.place (Bool.toNat_le _)
  have listening := s.listening.toNat_le
  unfold places at place
  unfold effort bound
  omega

theorem effort_pos (h : s.jobs ≠ []) : 0 < s.effort := by
  obtain ⟨j, js, hj⟩ := List.exists_cons_of_ne_nil h
  rw [effort_of_jobs hj]
  cases j <;> exact Nat.succ_pos _

/-- As many steps as there is effort leave no job undone. -/
theorem InOrder.settles_within (h : InOrder c script delays s) (env : Surroundings) {fuel : Nat}
    (hf : s.effort ≤ fuel) : (s.settleWith env fuel).jobs = [] := by
  have idle {s : Service} (hs : s.step env = none) : s.jobs = [] := by
    unfold Service.step at hs
    split at hs
    · assumption
    · cases hs
  induction fuel generalizing s with
  | zero =>
    by_cases hj : s.jobs = []
    · exact hj
    · exact absurd (effort_pos hj) (Nat.not_lt.mpr hf)
  | succ fuel ih =>
    unfold Service.settleWith
    rcases hs : s.step env with _ | s'
    · exact idle hs
    · exact ih (h.step hs) (Nat.le_of_lt_succ (Nat.lt_of_lt_of_le (h.effort_lt hs) hf))

/-- The service comes to a point where there is nothing to do. -/
theorem InOrder.settles (h : InOrder c script delays s) (env : Surroundings) : (s.settle env).jobs = [] :=
  h.settles_within env h.effort_le_bound

/-- A run at work stands as one whose job is at work. -/
theorem works_of_stands {rs : List CommandResult} {p : Nat} (h : Run.Stands b rs p (.working a phase)) :
    Run.working a phase = .working b phase ∧ b.Works rs p phase := by
  generalize hr : Run.working a phase = r at h
  cases h with
  | works h =>
    obtain rfl : phase = _ := congrArg Run.phase hr
    exact ⟨rfl, h⟩
  | waits | halts | finished | canceled => simp [Run.working] at hr

/-- A job that cannot go on waits for a command that hangs and has not been let go. -/
theorem Tends.held (tends : s.Tends i phase) (begun : phase.isOpen = true) (due : s.Due delays i phase)
    (prompt : true ∉ delays) (hj : s.jobs = []) :
    ∃ b stage n hang, phase = .calling b stage n ∧ s.hangs[n]? = some hang ∧ hang.run = i ∧ hang.phase = .held := by
  have none : ∀ j, j ∉ s.jobs := by simp [hj]
  cases phase with
  | unstarted | «over» => cases begun
  | ready => exact absurd due (none _)
  | telling => exact absurd due prompt
  | calling b stage n =>
    obtain ⟨hang, hn, hp⟩ := (tends.only n).mpr rfl
    refine ⟨b, stage, n, hang, rfl, hn, tends.mine n hang ⟨hang, hn, hp⟩ hn, ?_⟩
    rcases hang with ⟨run, reply, phase⟩
    cases phase with
    | held => rfl
    | released => exact absurd (due _ hn rfl) (none _)
    | gone => exact absurd rfl hp

/-- Where there is nothing to do, the run at the head of the queue waits for a command that hangs. -/
theorem InOrder.waits (h : InOrder c script delays s) (prompt : true ∉ delays) (hj : s.jobs = []) {is : List Nat}
    (hq : s.deque = i :: is) :
    ∃ a stage n hang, s.runs[i]? = some (.working a (.calling a stage n)) ∧ s.hangs[n]? = some hang ∧
      hang.run = i ∧ hang.phase = .held := by
  obtain ⟨es, history⟩ := h.history
  have orderly := h.orderly
  have busy : s.busy = true := by
    rcases Bool.eq_false_or_eq_true s.busy with busy | ended
    · exact busy
    · rw [(history.queues.idle ended).1] at hq
      cases hq
  have listening : s.listening = true := by
    have placed := orderly.placed busy
    rcases Bool.eq_false_or_eq_true s.listening with listens | quiet
    · exact listens
    · simp [places, hj, quiet] at placed
  cases orderly.employs with
  | nobody _ _ quiet | leaver _ _ _ _ quiet => cases quiet.symm.trans listening
  | @worker k a phase work begun tends due =>
    have head := history.queues.head k work.turn
    rw [hq] at head
    obtain rfl := Option.some.inj head
    obtain ⟨b, stage, n, hang, rfl, hn, mine, held⟩ := tends.held begun due prompt hj
    obtain ⟨_, rs, p, stands⟩ := history.sound.stands i _ work.run
    obtain ⟨same, works⟩ := works_of_stands stands
    cases works with
    | calling => exact ⟨b, stage, n, hang, same ▸ work.run, hn, mine, held⟩

/-- A run whose job is over is done. -/
theorem isOver_of_stands {rs : List CommandResult} {p : Nat} (h : Run.Stands a rs p r) (ended : r.phase = .over) :
    r.isOver = true := by
  cases h with
  | works h =>
    subst ended
    cases h
  | waits => cases ended
  | halts | finished | canceled => rfl

/-- One command at a time, and every run ends: a service that does its jobs first in, first out, and tells an outside
that takes no time, whatever is called between two jobs.

1. Calls start no command. A job starts only commands that it asks for, and asks for none while one is outstanding: one
   that hangs, let go or not, and has not been taken up or torn down. Two are never outstanding.
2. All jobs come to an end.
3. A run whose job is over, or that is not in the queue, is done.
4. When there is no job left, the run at the head of the queue waits for a command that hangs and has not been let go. -/
theorem InOrder.serves_in_turn (h : InOrder c script delays s) (prompt : true ∉ delays) :
    ((∀ d s', Does s d s' → (∀ j rs, d ≠ .worked j rs) → s'.calls = s.calls) ∧
      (∀ env j js, s.jobs = j :: js →
        (runJob env j { s with jobs := js }).calls = started env (asked env j { s with jobs := js }) ++ s.calls ∧
          ∀ p ∈ asked env j { s with jobs := js }, ∀ n, ¬p.1.Outstanding n) ∧
      ∀ n m, s.Outstanding n → s.Outstanding m → n = m) ∧
    (∀ env, (s.settle env).jobs = []) ∧
    (∀ i r, s.runs[i]? = some r → r.phase = .over ∨ i ∉ s.deque → r.isOver = true) ∧
    (s.jobs = [] → ∀ i is, s.deque = i :: is →
      ∃ a stage n hang, s.runs[i]? = some (.working a (.calling a stage n)) ∧ s.hangs[n]? = some hang ∧
        hang.run = i ∧ hang.phase = .held) := by
  obtain ⟨es, history⟩ := h.history
  have orderly := h.orderly
  refine ⟨⟨fun d s' hd hc => hd.calls hc, fun env j js hj => ⟨calls_runJob .., fun p hp n => orderly.asked hj hp n⟩,
    fun n m hn hm => orderly.employs.outstanding_eq hn hm⟩, h.settles, ?_, fun hj i is hq => h.waits prompt hj hq⟩
  rintro i r hi (ended | gone)
  · obtain ⟨a, rs, p, stands⟩ := history.sound.stands i r hi
    exact isOver_of_stands stands ended
  · rcases Bool.eq_false_or_eq_true r.isOver with ended | live
    · exact ended
    · exact absurd (history.queues.waits i r hi live) gone

/-- The draft is handed in, and its command hangs; then the revision is handed in. -/
def replaced : Service :=
  (((((Service.start thorough [.hang finding, .hang .silence]).execute project draft).1.settle project).execute project
    revision).1).settle project

/-- The service got there by doing its jobs in order. -/
theorem inOrder_replaced : InOrder thorough [.hang finding, .hang .silence] [] replaced := by
  have begun : InOrder thorough [.hang finding, .hang .silence] [] (.start thorough [.hang finding, .hang .silence] []) :=
    .start
  have drafted := begun.call (.execute project draft _) nofun
  have revised := (drafted.settle project).call (.execute project revision _) nofun
  exact revised.settle project

/-- The command for the draft has been torn down, and the revision waits for its own. -/
theorem serves_in_turn_replaced :
    InOrder thorough [.hang finding, .hang .silence] [] replaced ∧ true ∉ ([] : List Bool) ∧ replaced.killed = 1 ∧
      ∃ a stage n hang, replaced.runs[1]? = some (.working a (.calling a stage n)) ∧ replaced.hangs[n]? = some hang ∧
        hang.run = 1 ∧ hang.phase = .held := by
  have serves := inOrder_replaced.serves_in_turn (by decide)
  refine ⟨inOrder_replaced, by decide, by decide +kernel, ?_⟩
  exact serves.2.2.2 (by decide +kernel) 1 [] (by decide +kernel)

end Service

end ElixirLint
