import ElixirLint.Proofs.Queue.Ledger
import ElixirLint.Proofs.Queue.Order

/-!
# One task at a time

As long as nobody starts a task past the queue, the drain loop alone calls bodies, and it does so in the order in
which tasks were put in (`Reachable.starts_sublist`). So a running task is the head of the queue, and when the loop
calls a body, it is through with all bodies before, and with their cleanups (`one_at_a_time`).
-/

namespace ElixirLint.Queue.Machine

variable {n : Nat} {scripts : Fin n → Script n} {m m' : Machine n}

/-- Whoever runs a task is the drain loop, unless somebody has started one past the queue. -/
theorem NoDirectRun.eq_turn (h : m.NoDirectRun) {goal : Goal n} {t : Fin n} (hg : goal ∈ m.goals)
    (hr : goal.runs? = some t) : goal = .turn t := by
  obtain ⟨x, hx, rfl⟩ := List.mem_map.mp hg
  cases hgoal : x.goal with
  | turn u =>
    rw [hgoal] at hr
    rw [Option.some.inj hr]
  | run u => exact absurd hgoal (h x hx u)
  | completion u | idle => simp [hgoal, Goal.runs?] at hr

/-- Nobody who waits now has begun to wait since. -/
theorem NoDirectRun.of_prefix (h : m'.NoDirectRun) (hg : m.goals <+: m'.goals) : m.NoDirectRun := by
  intro x hx t ht
  have hm : x.goal ∈ m'.goals := hg.subset (List.mem_map_of_mem hx)
  obtain ⟨y, hy, hxy⟩ := List.mem_map.mp hm
  exact h y hy t (hxy.trans ht)

theorem mem_starts {t : Fin n} : t ∈ m.starts ↔ .bodyCalled t ∈ m.events := by
  simp only [starts, List.mem_filterMap, List.mem_reverse]
  constructor
  · rintro ⟨e, he, hs⟩
    cases e <;> simp_all [Event.started?]
  · exact fun h => ⟨_, h, rfl⟩

/-- A task whose body was called in a run without direct starts has been taken up by the drain loop. -/
theorem Reachable.mem_turns (h : Reachable scripts m) (hd : m.NoDirectRun) {t : Fin n}
    (ht : .bodyCalled t ∈ m.events) : t ∈ m.turns := by
  obtain ⟨goal, hg, hr⟩ := h.faithful.called t ht
  rw [hd.eq_turn hg hr] at hg
  exact List.mem_filterMap.mpr ⟨_, hg, rfl⟩

theorem mem_current {t : Fin n} (h : t ∈ m.current) : m.deque.head? = some t := by
  unfold current at h
  split at h
  · exact Option.mem_toList.mp h
  · cases h

/-- A body is called when no other code runs, for a waiter that has not looked yet. -/
theorem Reachable.job_of_bodyCalled (h : Reachable scripts m) {t : Fin n} (hs : m.step = some m')
    (he : m'.events = .bodyCalled t :: m.events) :
    m.frames = [] ∧ (m.tasks t).state = .pending ∧
      ∃ (w : Nat) (x : Waiter n), m.waiters[w]? = some x ∧ x.phase = .fresh ∧ x.goal.runs? = some t := by
  obtain ⟨f, fs, hf, rfl⟩ | ⟨hf, j, js, hj, rfl⟩ := step_cases hs
  · exfalso
    rw [(frames_runFrame f { m with frames := fs }).2] at he
    have hhappens : happens { m with frames := fs } f = [.bodyCalled t] :=
      List.append_cancel_right (show _ = [.bodyCalled t] ++ m.events from he)
    have cause := causes_of_mem_happens (show .bodyCalled t ∈ happens { m with frames := fs } f by simp [hhappens])
    cases cause
  · obtain ⟨w, x, u, -, hx, hp, hg, hu, hj⟩ | ⟨gs, -, -, -, -, hevents⟩ :=
      runJob_cases (m := { m with jobs := js }) h.body_of_pending j
    · rw [hj] at he
      obtain ⟨hut, -⟩ := List.cons.inj he
      obtain rfl := Event.bodyCalled.inj hut
      exact ⟨hf, hu, w, x, hx, hp, hg⟩
    · rw [hevents] at he
      exact absurd (congrArg List.length he) (by simp)

/-- The body that the drain loop calls is that of the head, which it has just taken up. -/
theorem Reachable.current_of_fresh (h : Reachable scripts m) (hd : m.NoDirectRun) {w : Nat} {x : Waiter n} {t : Fin n}
    (hx : m.waiters[w]? = some x) (hp : x.phase = .fresh) (hg : x.goal.runs? = some t) : m.current = [t] := by
  have hgoals : m.goals[w]? = some x.goal := by simp [goals, hx]
  have hturn : x.goal = .turn t := hd.eq_turn (List.mem_of_getElem? hgoals) hg
  have hw : m.turn = some w := h.draining.waits w x hx (by simp [Waiter.turns, hturn, hp, Phase.isOver])
  obtain ⟨u, hu, hhead⟩ := h.draining.head w hw
  rw [hgoals, hturn] at hu
  obtain rfl := Goal.turn.inj (Option.some.inj hu)
  simp [current, hw, hhead]

/-- What a list does not hold can be left out at the end. -/
theorem sublist_of_concat {α : Type} {xs ys : List α} {a : α} (h : xs.Sublist (ys ++ [a])) (ha : a ∉ xs) :
    xs.Sublist ys := by
  obtain ⟨us, vs, rfl, hus, hvs⟩ := List.sublist_append_iff.mp h
  have hn : vs = [] := by
    refine List.eq_nil_iff_forall_not_mem.mpr fun b hb => ha ?_
    obtain rfl := List.mem_singleton.mp (hvs.subset hb)
    exact List.mem_append_right _ hb
  rw [hn, List.append_nil]
  exact hus

/-- In a run without direct starts bodies are called in the order in which the drain loop takes tasks up. -/
theorem Reachable.starts_sublist (h : Reachable scripts m) (hd : m.NoDirectRun) : m.starts.Sublist m.turns := by
  induction h using Reachable.induct with
  | start => exact List.nil_sublist _
  | @frame m f fs h hf ih =>
    have hg : m.goals <+: (runFrame f { m with frames := fs }).goals := goals_prefix_runFrame f { m with frames := fs }
    rw [starts_runFrame]
    exact (ih (hd.of_prefix hg)).trans (hg.sublist.filterMap _)
  | @job m j js h hf hj ih =>
    have hg : (runJob j { m with jobs := js }).goals = m.goals := goals_runJob j { m with jobs := js }
    have hd' : m.NoDirectRun := hd.of_prefix (by simp [hg])
    have hturns : (runJob j { m with jobs := js }).turns = m.turns := congrArg (List.filterMap Goal.turn?) hg
    rw [hturns]
    obtain ⟨w, x, t, -, hx, hp, hr, hs, hj⟩ | ⟨gs, -, -, -, -, hevents⟩ :=
      runJob_cases (m := { m with jobs := js }) h.body_of_pending j
    · -- The body that is called is the last one that the loop has taken up, and it has not been called before.
      have hstarts : (runJob j { m with jobs := js }).starts = m.starts ++ [t] := by
        rw [hj]
        simp [starts, Event.started?]
      have hnew : t ∉ m.starts := by
        intro hm
        have hle := h.bodyCalls_le t
        rw [if_pos (show (m.tasks t).state = .pending from hs), bodyCalls_eq] at hle
        have := List.count_pos_iff.mpr (mem_starts.mp hm)
        omega
      have hold := ih hd'
      rw [h.turns_eq, h.current_of_fresh hd' hx hp hr] at hold ⊢
      rw [hstarts]
      exact (sublist_of_concat hold hnew).append (List.Sublist.refl [t])
    · rw [show (runJob j { m with jobs := js }).starts = m.starts by simp [starts, hevents]]
      exact ih hd'
  | @perform m a _ _ ih =>
    rw [show (m.perform a).starts = m.starts by simp [starts], turns, goals_perform]
    exact ih (hd.of_prefix (by simp))
  | @await m goal _ _ _ ih =>
    have hg : m.goals <+: (m.await goal).goals := by simp
    exact (ih (hd.of_prefix hg)).trans (hg.sublist.filterMap _)

/-- In a run without direct starts a running task is the head of the queue. -/
theorem Reachable.head_of_running (h : Reachable scripts m) (hd : m.NoDirectRun) {t : Fin n}
    (hr : (m.tasks t).state = .running) : m.deque.head? = some t := by
  have ht := h.mem_turns hd (h.bodyCalled_of_running hr)
  rw [h.turns_eq] at ht
  obtain ht | ht := List.mem_append.mp ht
  · have hs := h.isTerminal_of_mem_exits ht
    simp [hr, TaskState.isTerminal] at hs
  · exact mem_current ht

/-- When the drain loop calls a body, the task of every body that was called before is terminal. -/
theorem Reachable.isTerminal_of_bodyCalled (h : Reachable scripts m) (hd : m.NoDirectRun) {t u : Fin n}
    (hs : m.step = some m') (he : m'.events = .bodyCalled t :: m.events) (hu : .bodyCalled u ∈ m.events) :
    (m.tasks u).state.isTerminal = true := by
  obtain ⟨-, hp, w, x, hx, hf, hg⟩ := h.job_of_bodyCalled hs he
  have ht := h.mem_turns hd hu
  rw [h.turns_eq, h.current_of_fresh hd hx hf hg] at ht
  obtain ht | ht := List.mem_append.mp ht
  · exact h.isTerminal_of_mem_exits ht
  · -- The body of the task itself has not been called.
    obtain rfl := List.mem_singleton.mp ht
    have hle := h.bodyCalls_le u
    rw [if_pos hp, bodyCalls_eq] at hle
    have := List.count_pos_iff.mpr hu
    omega

/-- While no code runs, every body that was called has returned or has failed. -/
theorem Reachable.body_ended (h : Reachable scripts m) (hf : m.frames = []) {t : Fin n} (ht : .bodyCalled t ∈ m.events) :
    .bodyReturned t ∈ m.events ∨ .bodyFailed t ∈ m.events := by
  have hcalls := h.bodyCalls t
  have hpos := List.count_pos_iff.mpr ht
  rw [bodyCalls_eq, hf, List.countP_nil] at hcalls
  by_cases hr : .bodyReturned t ∈ m.events
  · exact Or.inl hr
  · right
    rw [List.count_eq_zero.mpr hr] at hcalls
    exact List.count_pos_iff.mp (by omega)

/-- While no code runs, the cleanup that a canceled task's body has returned was called and has returned. -/
theorem Reachable.cleanup_ended (h : Reachable scripts m) (hf : m.frames = []) {t : Fin n}
    (hc : (m.tasks t).state = .canceled) (hr : .bodyReturned t ∈ m.events)
    (ha : (scripts t).body.cleanup.isSome = true) :
    .cleanupCalled t ∈ m.events ∧ .cleanupReturned t ∈ m.events := by
  have hledger := (h.ledger t).canceled hc ha
  have hcalls := h.cleanupCalls t
  have hpos := List.count_pos_iff.mpr hr
  rw [hf, List.countP_nil] at hledger hcalls
  rw [cleanupCalls_eq] at hledger hcalls
  exact ⟨List.count_pos_iff.mp (by omega), List.count_pos_iff.mp (by omega)⟩

/-- As long as nobody starts a task past the queue, only the head of the queue runs, and at most one task does. When
the drain loop calls a body, every task whose body was called before is terminal, that body has returned or failed,
and if the task was canceled and its body returned a cleanup, the cleanup was called and has returned. -/
theorem one_at_a_time (h : Reachable scripts m) (hd : m.NoDirectRun) :
    (∀ t, (m.tasks t).state = .running → m.deque.head? = some t) ∧
    (∀ t u, (m.tasks t).state = .running → (m.tasks u).state = .running → t = u) ∧
    (∀ m' t, m.step = some m' → m'.events = .bodyCalled t :: m.events → ∀ u, .bodyCalled u ∈ m.events →
      (m.tasks u).state.isTerminal = true ∧
      (.bodyReturned u ∈ m.events ∨ .bodyFailed u ∈ m.events) ∧
      ((m.tasks u).state = .canceled → .bodyReturned u ∈ m.events → (scripts u).body.cleanup.isSome = true →
        .cleanupCalled u ∈ m.events ∧ .cleanupReturned u ∈ m.events)) := by
  refine ⟨fun t ht => h.head_of_running hd ht, fun t u ht hu => ?_, fun m' t hs he u hu => ?_⟩
  · have hhead := h.head_of_running hd ht
    exact Option.some.inj (hhead.symm.trans (h.head_of_running hd hu))
  · have hf := (h.job_of_bodyCalled hs he).1
    exact ⟨h.isTerminal_of_bodyCalled hd hs he hu, h.body_ended hf hu, fun hc hr ha => h.cleanup_ended hf hc hr ha⟩

/-- Two tasks for one document, both with a cleanup. -/
def twins : Fin 2 → Script 2 := fun _ => ⟨⟨"file:///a"⟩, ⟨[.park], some []⟩⟩

/-- Two tasks have been put in, the second one while the first one ran, and some work has been done since. -/
def twinsAfter (t u : Fin 2) (fuel : Nat) : Machine 2 :=
  settleWith fuel (((start twins).act (.enqueue t)).settle.act (.enqueue u))

theorem reachable_twinsAfter (t u : Fin 2) (fuel : Nat) : Reachable twins (twinsAfter t u fuel) := by
  have started := (reachable_start twins).act rfl (.enqueue t)
  have settled : ∀ t, ((start twins).act (.enqueue t)).settle.frames = [] := by decide
  exact (started.settle.act (settled t) (.enqueue u)).settleWith fuel

/-- The body of the second task is called when the first one has been canceled and its cleanup has returned. -/
theorem one_at_a_time_twins :
    (twinsAfter 0 1 5).NoDirectRun ∧ ∃ m', (twinsAfter 0 1 5).step = some m' ∧
      m'.events = .bodyCalled 1 :: (twinsAfter 0 1 5).events ∧ ((twinsAfter 0 1 5).tasks 0).state.isTerminal = true ∧
      .cleanupReturned 0 ∈ (twinsAfter 0 1 5).events := by
  have hd : (twinsAfter 0 1 5).NoDirectRun :=
    show ∀ x ∈ (twinsAfter 0 1 5).waiters, ∀ t, x.goal ≠ .run t by decide
  have hs : ∃ m', (twinsAfter 0 1 5).step = some m' ∧ m'.events = .bodyCalled 1 :: (twinsAfter 0 1 5).events :=
    ⟨_, Option.some_get (show (twinsAfter 0 1 5).step.isSome = true by decide) |>.symm, by decide⟩
  obtain ⟨m', hs, he⟩ := hs
  obtain ⟨hterm, -, hcleanup⟩ := (one_at_a_time (reachable_twinsAfter 0 1 5) hd).2.2 m' 1 hs he 0 (by decide)
  exact ⟨hd, m', hs, he, hterm, (hcleanup (by decide) (by decide) rfl).2⟩

end ElixirLint.Queue.Machine
