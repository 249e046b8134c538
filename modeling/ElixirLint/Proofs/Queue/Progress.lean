import ElixirLint.Proofs.Queue.Order

/-!
# The queue does not stall

When nothing can proceed, either the queue is empty and idle, or its head runs and its token is parked, so that
somebody outside can finish it (`never_stalls`). A head whose body has failed is the one exception in spirit: if
somebody has started it past the queue, and its token was parked before the failure, it goes on running, and the queue
waits for its token as for any other. When the drain loop itself runs a body that fails, it cancels the task.
-/

namespace ElixirLint.Queue.Machine

variable {n : Nat} {scripts : Fin n → Script n} {m m' : Machine n}

attribute [local simp] setTask setParked emit push spawn ret

/-! ## Bodies that fail -/

/-- Somebody who ran the task has seen its body fail. -/
def SawFailure (m : Machine n) (t : Fin n) : Prop :=
  ∃ (w : Nat) (x : Waiter n), m.waiters[w]? = some x ∧ x.phase = .failed ∧ x.goal.runs? = some t

/-- A failure that was seen is not forgotten. -/
theorem SawFailure.of_passes {served : Nat → Prop} {t : Fin n} (h : m.SawFailure t) (hp : Passes served m m') :
    m'.SawFailure t := by
  obtain ⟨w, x, hx, hf, hg⟩ := h
  obtain ⟨x', hx', hgoal, hc⟩ := hp w x hx
  refine ⟨w, x', hx', ?_, by rw [hgoal]; exact hg⟩
  rw [hc.eq_of_isOver (by simp [hf, Phase.isOver]), hf]

/-- The waiter that a failing body is run for sees the failure. -/
theorem sawFailure_panic {t : Fin n} {w : Nat} {token : Bool} {steps : List (BodyStep n)} {c : Cleanup n}
    {goal : Goal n} (hg : m.goals[w]? = some goal) (hr : goal.runs? = some t) :
    (m.runFrame (.body t w token (.panic :: steps) c)).SawFailure t := by
  have hgoals : (if token then m.complete t else m).goals[w]? = some goal := by
    rw [(stirs_release t token m).goals, hg]
  simp only [goals, List.getElem?_map, Option.map_eq_some_iff] at hgoals
  obtain ⟨x, hx, rfl⟩ := hgoals
  refine ⟨w, { x with phase := .failed }, ?_, rfl, hr⟩
  simp only [runFrame, bodyStep, fields_failWaiter]
  simp [setPhase, hx]

/-- In every run a body that has failed was seen failing. -/
theorem Reachable.sawFailure (h : Reachable scripts m) {t : Fin n} (ht : .bodyFailed t ∈ m.events) :
    m.SawFailure t := by
  induction h using Reachable.induct with
  | start => cases ht
  | @frame m f fs h hf ih =>
    rw [(frames_runFrame f { m with frames := fs }).2] at ht
    obtain ht | ht := List.mem_append.mp ht
    · cases causes_of_mem_happens ht with
      | @failed _ w token steps c =>
        obtain ⟨-, goal, hg, hr⟩ := h.faithful.body t w token (.panic :: steps) c (by simp [hf])
        exact sawFailure_panic hg hr
    · exact (ih ht).of_passes (h.passes hf)
  | @job m j js h _ _ ih =>
    have passes : Passes (fun _ => False) m (runJob j { m with jobs := js }) :=
      .of_eq (fields_runJob j { m with jobs := js }).2.2.2.1
    obtain ⟨w, x, u, -, -, -, -, -, hj⟩ | ⟨gs, -, -, -, -, hevents⟩ :=
      runJob_cases (m := { m with jobs := js }) h.body_of_pending j
    · have hm : .bodyFailed t ∈ m.events := by simpa [hj] using ht
      exact (ih hm).of_passes passes
    · rw [hevents] at ht
      exact (ih ht).of_passes passes
  | @perform m a _ _ ih =>
    have passes : Passes (fun _ => False) m (m.perform a) := .stirs (stirs_perform a m)
    exact (ih (by simpa using ht)).of_passes passes
  | @await m goal _ _ _ ih =>
    have passes : Passes (fun _ => False) m (m.addWaiter goal) := .addWaiter goal m
    exact (ih ht).of_passes passes

/-! ## Machines where nothing can proceed -/

/-- Where nothing can proceed there are neither frames nor jobs. -/
theorem frames_of_isQuiet (h : m.isQuiet = true) : m.frames = [] ∧ m.jobs = [] := by
  simpa [isQuiet] using h

/-- When nothing can proceed, nobody is due a look. -/
theorem Reachable.not_due_of_isQuiet (h : Reachable scripts m) (hq : m.isQuiet = true) {w : Nat} {x : Waiter n}
    (hx : m.waiters[w]? = some x) : x.phase.isDue = false := by
  obtain ⟨hf, hj⟩ := frames_of_isQuiet hq
  have hdebt := h.debt w
  simp only [Machine.debt, due, looks, hx, hf, hj, Option.any_some, List.count_nil, List.countP_nil] at hdebt
  cases hd : x.phase.isDue
  · rfl
  · simp [hd] at hdebt

/-- When nothing can proceed while the queue is busy, the drain loop listens for the head. -/
theorem Reachable.listens_of_isQuiet (h : Reachable scripts m) (hq : m.isQuiet = true) (hb : m.busy = true) :
    ∃ (w : Nat) (t : Fin n), m.waiters[w]? = some ⟨.turn t, .listening⟩ ∧ m.deque.head? = some t := by
  obtain ⟨hf, hj⟩ := frames_of_isQuiet hq
  have hl := h.drainLoops
  simp only [Machine.drainLoops, hf, hj, hb, List.count_nil, List.countP_nil, Bool.toNat_true, Nat.zero_add] at hl
  obtain ⟨x, hx, ht⟩ := List.countP_pos_iff.mp (show 0 < m.waiters.countP Waiter.turns by omega)
  obtain ⟨w, hw⟩ := List.mem_iff_getElem?.mp hx
  obtain ⟨t, hg, hd⟩ := h.draining.head w (h.draining.waits w x hw ht)
  have hgoal : x.goal = .turn t := by simpa [goals, hw] using hg
  have hdue := h.not_due_of_isQuiet hq hw
  obtain ⟨goal, phase⟩ := x
  simp only at hgoal
  subst hgoal
  refine ⟨w, t, ?_, hd⟩
  cases phase with
  | listening => exact hw
  | fresh | woken => cases hdue
  | settled | failed => cases ht

/-- The queue never stalls. When nothing can proceed, either the queue is empty, idle and not busy, or its head is
running and its token is parked; and if the body of the head has failed, then somebody has started this task past the
queue and has seen the failure. -/
theorem never_stalls (h : Reachable scripts m) (hq : m.isQuiet = true) :
    (m.idle = true ∧ m.busy = false ∧ m.deque = []) ∨
      ∃ t, m.deque.head? = some t ∧ (m.tasks t).state = .running ∧ m.parked t = true ∧
        (.bodyFailed t ∈ m.events → ∃ x ∈ m.waiters, x.goal = .run t ∧ x.phase = .failed) := by
  obtain ⟨hf, -⟩ := frames_of_isQuiet hq
  cases hb : m.busy with
  | false =>
    left
    refine ⟨by rw [h.draining.idle, hb]; rfl, rfl, ?_⟩
    by_contra hne
    simp [h.draining.busy hne] at hb
  | true =>
    right
    obtain ⟨w, t, hw, hd⟩ := h.listens_of_isQuiet hq hb
    have hdone : (m.tasks t).done = false := h.informed.listening _ (List.mem_of_getElem? hw) rfl
    have hgoal : m.goals[w]? = some (.turn t) := by simp [goals, hw]
    -- The head has been started, and it is not over as it is not done.
    have hstarted : (m.tasks t).state ≠ .pending := h.started (Or.inl ⟨_, hw, by simp⟩) hgoal rfl
    have hrunning : (m.tasks t).state = .running := by
      have hterm : (m.tasks t).state.isTerminal = false := by
        by_contra ht
        obtain hd | hm := h.completes.done_of_terminal t (by simpa using ht)
        · simp [hd] at hdone
        · simp [hf] at hm
      cases hs : (m.tasks t).state <;> simp_all [TaskState.isTerminal]
    have hparked : m.parked t = true := by
      obtain hp | ⟨f, hm, -⟩ := h.tokenHeld hrunning
      · exact hp
      · simp [hf] at hm
    refine ⟨t, hd, hrunning, hparked, fun hfail => ?_⟩
    obtain ⟨v, x, hx, hp, hr⟩ := h.sawFailure hfail
    refine ⟨x, List.mem_of_getElem? hx, ?_, hp⟩
    -- It is not the drain loop that has seen the failure, as the loop still listens.
    cases hgx : x.goal with
    | turn u =>
      rw [hgx] at hr
      obtain rfl := Option.some.inj hr
      have hv : m.goals[v]? = some (.turn u) := by simp [goals, hx, hgx]
      obtain rfl := h.turn_unique hv hgoal
      rw [hw] at hx
      obtain rfl := Option.some.inj hx
      cases hp
    | run u =>
      rw [hgx] at hr
      rw [Option.some.inj hr]
    | completion u | idle => simp [hgx, Goal.runs?] at hr

/-- Two tasks; the body of the first one parks its token and fails. -/
def failing : Fin 2 → Script 2
  | 0 => ⟨⟨"file:///a"⟩, ⟨[.park, .panic], none⟩⟩
  | 1 => ⟨⟨"file:///b"⟩, ⟨[.park], none⟩⟩

/-- The first task has been started past the queue, and then both have been put in. -/
def blocked : Machine 2 :=
  ((((start failing).await (.run 0)).settle.act (.enqueue 0)).settle.act (.enqueue 1)).settle

theorem reachable_blocked : Reachable failing blocked := by
  have hrun (t : Fin 2) : Goal.run 0 ≠ .turn t := by simp
  have started := ((reachable_start failing).await rfl hrun).settle
  have first := (started.act (by decide) (.enqueue 0)).settle
  exact (first.act (by decide) (.enqueue 1)).settle

/-- A task whose body has failed may block those behind it. -/
theorem not_always_unblocked :
    ¬∀ (scripts : Fin 2 → Script 2) (m : Machine 2), Reachable scripts m → m.isQuiet = true →
      ((m.idle = true ∧ m.deque = []) ∨
        ∃ t, m.deque.head? = some t ∧ (m.tasks t).state = .running ∧ m.parked t = true) ∧
      ∀ t u us, m.deque = t :: u :: us → .bodyFailed t ∉ m.events := by
  intro h
  obtain ⟨-, hn⟩ := h failing blocked reachable_blocked (by decide)
  exact hn 0 1 [] (by decide) (by decide)

/-- It has then been started past the queue, and its token is parked. -/
theorem never_stalls_blocked :
    blocked.isQuiet = true ∧ blocked.parked 0 = true ∧ ∃ x ∈ blocked.waiters, x.goal = .run 0 ∧ x.phase = .failed := by
  have hq : blocked.isQuiet = true := by decide
  obtain ⟨-, -, he⟩ | ⟨t, hd, -, hp, hfail⟩ := never_stalls reachable_blocked hq
  · exact absurd he (by decide)
  · obtain rfl : 0 = t := Option.some.inj ((show blocked.deque.head? = some 0 by decide).symm.trans hd)
    exact ⟨hq, hp, hfail (by decide)⟩

end ElixirLint.Queue.Machine
