import ElixirLint.Proofs.Queue.Serial

/-!
# No loss and no duplication

The main statement is `first_in_first_out`: tasks are put into the queue once, leave it in the same order, and leave
it only when they are terminal; what has been put in and has not left is in the queue once; the drain loop calls bodies
in this order too; and the flags of the queue say whether there is a drain loop.
-/

namespace ElixirLint.Queue.Machine

variable {n : Nat} {scripts : Fin n → Script n} {m m' : Machine n}

attribute [local simp] setTask setParked emit push spawn ret

/-! ## Operations that return -/

/-- The first piece of an operation does not say that a task was put in. -/
theorem outcome_perform {a : Action n} (h : (m.perform a).outcome = .enqueued) : m.outcome = .enqueued := by
  cases a with
  | enqueue t =>
    by_cases he : (m.tasks t).enqueued = true
    · simp [perform, he] at h
    · simpa [perform, he] using h
  | finish t => by_cases hp : m.parked t = true <;> simp [perform, hp] at h
  | _ => exact h

/-- Only putting a task in returns that it was put in. -/
theorem outcome_runFrame {f : Frame n} (h : (m.runFrame f).outcome = .enqueued) :
    m.outcome = .enqueued ∨ ∃ t, f = .append t := by
  cases f with
  | append t => exact Or.inr ⟨t, rfl⟩
  | body t w token steps c =>
    left
    match steps with
    | [] => cases token <;> simpa [runFrame, bodyStep] using h
    | .dropToken :: _ => cases token <;> simpa [runFrame, bodyStep] using h
    | .panic :: _ => cases token <;> simpa [runFrame, bodyStep] using h
    | .check :: _ => exact h
    | .display :: _ => exact h
    | .act a :: steps => exact outcome_perform (m := m.push [.note a, .body t w token steps c]) h
    | .park :: _ =>
      by_cases ht : token = true
      · simpa [runFrame, bodyStep, ht] using h
      · by_cases hp : m.parked t = true <;> simpa [runFrame, bodyStep, ht, hp] using h
  | cleanup t actions =>
    cases actions with
    | nil => exact Or.inl h
    | cons a actions => exact Or.inl (outcome_perform (m := m.push [.note a, .cleanup t actions]) h)
  | handOver t c =>
    rw [runFrame_handOver] at h
    left
    split at h
    · exact h
    · split at h
      · simpa using h
      · exact h
  | cancelEach ts =>
    cases ts with
    | nil => simp [runFrame, cancelStep] at h
    | cons t ts =>
      simp only [runFrame, cancelStep_cons] at h
      left
      split at h
      · exact h
      · simpa using h
  | _ => exact Or.inl (by simpa [runFrame, wakeTask, wake] using h)

/-! ## Steps that change the queue -/

/-- What happens in a step other than the call of a body is caused by the topmost frame. -/
theorem Reachable.frame_of_event (h : Reachable scripts m) {e : Event n} (hs : m.step = some m')
    (he : m'.events = e :: m.events) (hb : ∀ t, e ≠ .bodyCalled t) :
    ∃ f fs, m.frames = f :: fs ∧ m' = runFrame f { m with frames := fs } ∧ Causes { m with frames := fs } f e := by
  obtain ⟨f, fs, hf, rfl⟩ | ⟨hf, j, js, hj, rfl⟩ := step_cases hs
  · rw [(frames_runFrame f { m with frames := fs }).2] at he
    have hhappens : happens { m with frames := fs } f = [e] := List.append_cancel_right (show _ = [e] ++ m.events from he)
    exact ⟨f, fs, hf, rfl, causes_of_mem_happens (by simp [hhappens])⟩
  · exfalso
    obtain ⟨w, x, u, -, -, -, -, -, hj⟩ | ⟨gs, -, -, -, -, hevents⟩ :=
      runJob_cases (m := { m with jobs := js }) h.body_of_pending j
    · rw [hj] at he
      exact hb u (List.cons.inj he).1.symm
    · rw [hevents] at he
      exact absurd (congrArg List.length he) (by simp)

/-- A task is put in when the operation returns that it was. -/
theorem Reachable.step_append (h : Reachable scripts m) {t : Fin n} (hs : m.step = some m')
    (he : m'.events = .appended t :: m.events) : m'.outcome = .enqueued ∧ m'.deque = m.deque ++ [t] := by
  obtain ⟨f, fs, -, rfl, cause⟩ := h.frame_of_event hs he (by simp)
  cases cause
  simp [runFrame]

/-- What the drain loop removes is the head, which it has taken up last and which is terminal. -/
theorem Reachable.step_remove (h : Reachable scripts m) {t : Fin n} (hs : m.step = some m')
    (he : m'.events = .removed t :: m.events) :
    m.deque = t :: m'.deque ∧ m.turns = m.exits ++ [t] ∧ (m.tasks t).state.isTerminal = true ∧
      ∃ x ∈ m.waiters, x.goal = .turn t ∧ x.phase.isOver = true := by
  obtain ⟨f, fs, hf, rfl, cause⟩ := h.frame_of_event hs he (by simp)
  cases cause with
  | removed hhead =>
    have hd : m.deque.head? = some t := hhead
    obtain ⟨ts, hq⟩ : ∃ ts, m.deque = t :: ts := List.head?_eq_some_iff.mp hd
    have hturns : m.turns = m.exits ++ [t] := by
      rw [h.turns_eq]
      simp [current, hf, hd]
    have hsplit : m.frames = [] ++ .advance :: fs := hf
    obtain hterm | ⟨g, hg, -⟩ := h.advancing_head hsplit hd
    · refine ⟨by simp [deque_runFrame, hq], hturns, hterm, ?_⟩
      have ht : t ∈ m.turns := by simp [hturns]
      obtain ⟨goal, hgoal, hg⟩ := List.mem_filterMap.mp ht
      obtain ⟨x, hx, rfl⟩ := List.mem_map.mp hgoal
      have hg : x.goal = .turn t := by cases hg' : x.goal <;> simp_all [Goal.turn?]
      have hover := (h.alone_of_frame hf rfl).2.2 x hx
      exact ⟨x, hx, hg, by simpa [Waiter.turns, hg] using hover⟩
    · cases hg

/-- An operation that returns that a task was put in has just put it in. -/
theorem step_enqueued (hs : m.step = some m') (ho : m'.outcome = .enqueued) :
    m.outcome = .enqueued ∨ ∃ t, m'.events = .appended t :: m.events := by
  obtain ⟨f, fs, hf, rfl⟩ | ⟨hf, j, js, hj, rfl⟩ := step_cases hs
  · obtain ho | ⟨t, rfl⟩ := outcome_runFrame ho
    · exact Or.inl ho
    · exact Or.inr ⟨t, by simp [runFrame]⟩
  · rw [(fields_runJob j { m with jobs := js }).2.2.2.2.2] at ho
    exact Or.inl ho

/-- What has been put in is in the queue once, or is terminal. -/
theorem Reachable.queued_or_terminal (h : Reachable scripts m) {t : Fin n} (ht : t ∈ m.entries) :
    m.deque.count t = 1 ∨ (m.tasks t).state.isTerminal = true := by
  have hn := h.nodup_entries
  rw [h.entries_eq] at ht hn
  obtain ht | ht := List.mem_append.mp ht
  · exact Or.inr (h.isTerminal_of_mem_exits ht)
  · have hle := List.nodup_iff_count.mp hn t
    have hpos := List.count_pos_iff.mpr ht
    rw [List.count_append] at hle
    exact Or.inl (by omega)

/-- Whoever waits for the queue to be idle goes on only when nothing is left in it. -/
theorem Reachable.idle_settled (h : Reachable scripts m) (hi : m.reached .idle = true) :
    m.deque = [] ∧ ∀ t ∈ m.entries, (m.tasks t).state.isTerminal = true := by
  have hd := h.draining
  have hq : m.deque = [] := by
    by_contra hq
    have hidle := hd.idle
    rw [hd.busy hq] at hidle
    simp [reached, hidle] at hi
  refine ⟨hq, fun t ht => (h.queued_or_terminal ht).resolve_left ?_⟩
  simp [hq]

/-- First in, first out.
1. What was put in is what has left, in the same order, and what is in the queue, and nothing is put in twice; an
   operation returns that a task was put in exactly when the task joins the end of the queue; and what leaves is the
   head, which the drain loop has taken up last and is through with, and which is terminal.
2. What was put in is in the queue once or is terminal.
3. As long as nobody starts a task past the queue, bodies are called in the order of putting in, each at most once.
4. The idle flag is the negation of the busy flag; a queue that is not empty is busy; there is one drain loop while the
   queue is busy and none else; and who waits for the queue to be idle goes on only when the queue is empty and all
   that was put in is terminal. -/
theorem first_in_first_out (h : Reachable scripts m) (hd : m.NoDirectRun) :
    (m.entries = m.exits ++ m.deque ∧ m.entries.Nodup ∧
      (∀ m' t, m.step = some m' → m'.events = .appended t :: m.events →
        m'.outcome = .enqueued ∧ m'.deque = m.deque ++ [t]) ∧
      (∀ m', m.step = some m' → m'.outcome = .enqueued →
        m.outcome = .enqueued ∨ ∃ t, m'.events = .appended t :: m.events) ∧
      (∀ m' t, m.step = some m' → m'.events = .removed t :: m.events →
        m.deque = t :: m'.deque ∧ m.turns = m.exits ++ [t] ∧ (m.tasks t).state.isTerminal = true ∧
          ∃ x ∈ m.waiters, x.goal = .turn t ∧ x.phase.isOver = true)) ∧
    (∀ t ∈ m.entries, m.deque.count t = 1 ∨ (m.tasks t).state.isTerminal = true) ∧
    (m.starts.Sublist m.entries ∧ m.starts.Nodup) ∧
    (m.idle = (!m.busy) ∧ (m.deque ≠ [] → m.busy = true) ∧ m.drainLoops = m.busy.toNat ∧
      (m.reached .idle = true → m.deque = [] ∧ ∀ t ∈ m.entries, (m.tasks t).state.isTerminal = true)) := by
  have hstarts : m.starts.Sublist m.entries := (h.starts_sublist hd).trans h.turns_prefix.sublist
  exact ⟨⟨h.entries_eq, h.nodup_entries, fun _ _ => h.step_append, fun _ => step_enqueued, fun _ _ => h.step_remove⟩,
    fun _ => h.queued_or_terminal,
    ⟨hstarts, h.nodup_entries.sublist hstarts⟩,
    ⟨h.draining.idle, h.draining.busy, h.drainLoops, h.idle_settled⟩⟩

/-- The first of two tasks for one document is removed when it has been canceled. -/
theorem first_in_first_out_twins :
    (twinsAfter 0 1 3).NoDirectRun ∧ ∃ m', (twinsAfter 0 1 3).step = some m' ∧
      m'.events = .removed 0 :: (twinsAfter 0 1 3).events ∧ (twinsAfter 0 1 3).deque = 0 :: m'.deque ∧
      ((twinsAfter 0 1 3).tasks 0).state.isTerminal = true := by
  have hd : (twinsAfter 0 1 3).NoDirectRun :=
    show ∀ x ∈ (twinsAfter 0 1 3).waiters, ∀ t, x.goal ≠ .run t by decide
  have hs : ∃ m', (twinsAfter 0 1 3).step = some m' ∧ m'.events = .removed 0 :: (twinsAfter 0 1 3).events :=
    ⟨_, Option.some_get (show (twinsAfter 0 1 3).step.isSome = true by decide) |>.symm, by decide⟩
  obtain ⟨m', hs, he⟩ := hs
  obtain ⟨hq, -, hterm, -⟩ := (first_in_first_out (reachable_twinsAfter 0 1 3) hd).1.2.2.2.2 m' 0 hs he
  exact ⟨hd, m', hs, he, hq, hterm⟩

end ElixirLint.Queue.Machine
