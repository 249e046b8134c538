import ElixirLint.Proofs.Queue.Bodies
import ElixirLint.Proofs.Queue.Canceling

/-!
# First in, first out

The record of events says in which order tasks were put into the queue (`entries`), were removed from it (`exits`) and
had their bodies called (`starts`), and the waiters say in which order the drain loop took them up (`turns`). The
queue is what has been put in and not yet been removed (`Reachable.entries_eq`), and the drain loop has taken up what
has been removed and perhaps the head (`Reachable.turns_eq`). Nothing is put in twice (`Reachable.nodup_entries`), and
what has been removed is terminal (`Reachable.isTerminal_of_mem_exits`).
-/

namespace ElixirLint.Queue

/-- The task that was put into the queue, if this is what happened. -/
def Event.entered? {n : Nat} : Event n → Option (Fin n)
  | .appended t => some t
  | _ => none

/-- The task that was removed from the queue, if this is what happened. -/
def Event.left? {n : Nat} : Event n → Option (Fin n)
  | .removed t => some t
  | _ => none

/-- The task whose body was called, if this is what happened. -/
def Event.started? {n : Nat} : Event n → Option (Fin n)
  | .bodyCalled t => some t
  | _ => none

/-- The operation that a frame of a body or of a cleanup does next, if any. -/
def Frame.performs {n : Nat} : Frame n → Option (Action n)
  | .body _ _ _ (.act a :: _) _ => some a
  | .cleanup _ (a :: _) => some a
  | _ => none

/-- The task at the head of the queue whose end the drain loop waits for, if this is the goal. -/
def Goal.turn? {n : Nat} : Goal n → Option (Fin n)
  | .turn t => some t
  | _ => none

namespace Machine

variable {n : Nat} {scripts : Fin n → Script n} {m m' : Machine n}

/-- What was put into the queue, in the order of putting in. -/
def entries (m : Machine n) : List (Fin n) := m.events.reverse.filterMap Event.entered?

/-- What was removed from the queue, in the order of removing. -/
def exits (m : Machine n) : List (Fin n) := m.events.reverse.filterMap Event.left?

/-- The tasks whose bodies were called, in the order of calling. -/
def starts (m : Machine n) : List (Fin n) := m.events.reverse.filterMap Event.started?

/-- The heads that the drain loop has taken up, in the order of taking up. -/
def turns (m : Machine n) : List (Fin n) := m.goals.filterMap Goal.turn?

/-- The head of the queue, from the moment when the drain loop takes it up to the moment when it removes it. -/
def current (m : Machine n) : List (Fin n) :=
  if m.turn.isSome ∨ .advance ∈ m.frames then m.deque.head?.toList else []

/-! ## What a frame adds to the orders -/

/-- What running a frame adds to an order that is read off the record. -/
theorem filterMap_runFrame (p : Event n → Option (Fin n)) (f : Frame n) (m : Machine n) :
    (m.runFrame f).events.reverse.filterMap p =
      m.events.reverse.filterMap p ++ (m.happens f).reverse.filterMap p := by
  rw [(frames_runFrame f m).2, List.reverse_append, List.filterMap_append]

/-- Only a frame that causes events of a kind adds to the order of this kind. -/
theorem filterMap_happens {p : Event n → Option (Fin n)} {f : Frame n} (h : ∀ e, m.Causes f e → p e = none) :
    (m.happens f).reverse.filterMap p = [] := by
  rw [List.filterMap_eq_nil_iff]
  exact fun e he => h e (causes_of_mem_happens (List.mem_reverse.mp he))

/-- The only frame by which a task is put in is the one that appends it. -/
theorem entries_runFrame (f : Frame n) (fs : List (Frame n)) (m : Machine n) :
    (runFrame f { m with frames := fs }).entries = m.entries ++ (match f with | .append t => [t] | _ => []) := by
  simp only [entries, filterMap_runFrame]
  cases f with
  | append t => rfl
  | _ => rw [filterMap_happens fun e he => by cases he <;> rfl]

/-- The only frame by which a task is removed is the one that advances the queue, and it removes the head. -/
theorem exits_runFrame (f : Frame n) (fs : List (Frame n)) (m : Machine n) :
    (runFrame f { m with frames := fs }).exits = m.exits ++ (if f = .advance then m.deque.head?.toList else []) := by
  simp only [exits, filterMap_runFrame]
  by_cases hf : f = .advance
  · subst hf
    cases hq : m.deque <;> simp [happens, Event.left?]
  · rw [filterMap_happens fun e he => by cases he <;> first | rfl | exact absurd rfl hf]
    simp [hf]

theorem starts_runFrame (f : Frame n) (fs : List (Frame n)) (m : Machine n) :
    (runFrame f { m with frames := fs }).starts = m.starts := by
  simp only [starts, filterMap_runFrame]
  rw [filterMap_happens fun e he => by cases he <;> rfl, List.append_nil]

/-- A job puts nothing in and removes nothing. -/
theorem Reachable.orders_job (h : Reachable scripts m) (j : Job) (js : List Job) :
    (runJob j { m with jobs := js }).entries = m.entries ∧ (runJob j { m with jobs := js }).exits = m.exits := by
  obtain ⟨w, x, u, -, -, -, -, -, hj⟩ | ⟨gs, -, -, -, -, hevents⟩ :=
    runJob_cases (m := { m with jobs := js }) h.body_of_pending j
  · rw [hj]
    simp [entries, exits, Event.entered?, Event.left?, List.filterMap_cons]
  · simp [entries, exits, hevents]

/-! ## What has been put in -/

/-- In every run the queue is what has been put in and not been removed. -/
theorem Reachable.entries_eq (h : Reachable scripts m) : m.entries = m.exits ++ m.deque := by
  induction h using Reachable.induct with
  | start => rfl
  | @frame m f fs h hf ih =>
    have hadvance := h.draining.advancing
    rw [entries_runFrame, exits_runFrame, deque_runFrame, ih]
    cases f with
    | advance =>
      obtain ⟨t, ts, hq⟩ := List.exists_cons_of_ne_nil (hadvance (by simp [hf]))
      simp [hq]
    | _ => simp
  | @job m j js h _ _ ih =>
    rw [(h.orders_job j js).1, (h.orders_job j js).2, (fields_runJob _ _).1]
    exact ih
  | perform a _ _ ih => simpa [entries, exits] using ih
  | await goal _ _ _ ih => exact ih

/-! ## Every task is put in once -/

@[simp] theorem enqueued_complete (t u : Fin n) (m : Machine n) :
    ((m.complete t).tasks u).enqueued = (m.tasks u).enqueued := by
  rw [tasks_complete]
  by_cases hu : u = t
  · simp only [hu, if_true, Task.complete]
    split <;> rfl
  · simp [hu]

/-- Operations mark the task that they put in. -/
theorem enqueued_perform (a : Action n) (m : Machine n) (t : Fin n) :
    ((m.perform a).tasks t).enqueued = ((m.tasks t).enqueued || decide (a = .enqueue t)) := by
  cases a with
  | enqueue u =>
    by_cases he : (m.tasks u).enqueued = true
    · by_cases hu : u = t
      · subst hu
        simp [perform, ret, he]
      · simp [perform, ret, he, hu]
    · by_cases hu : u = t
      · subst hu
        simp [perform, push, setTask, he, Task.markEnqueued]
      · simp [perform, push, setTask, he, hu, Ne.symm hu]
  | finish u => by_cases hp : m.parked u = true <;> simp [perform, ret, setParked, hp]
  | _ => simp [perform, push]

/-- Running code marks a task when it does the operation that puts it in. -/
theorem enqueued_runFrame (f : Frame n) (m : Machine n) (t : Fin n) :
    ((m.runFrame f).tasks t).enqueued = ((m.tasks t).enqueued || decide (f.performs = some (.enqueue t))) := by
  cases f with
  | body u w token steps c =>
    match steps with
    | [] => cases token <;> simp [runFrame, bodyStep, push, emit, Frame.performs]
    | .dropToken :: _ => cases token <;> simp [runFrame, bodyStep, push, Frame.performs]
    | .panic :: _ => cases token <;> simp [runFrame, bodyStep, emit, Frame.performs]
    | .check :: _ => simp [runFrame, bodyStep, push, emit, Frame.performs]
    | .display :: _ => simp [runFrame, bodyStep, push, emit, Frame.performs]
    | .act a :: steps =>
      simp only [runFrame, bodyStep, enqueued_perform, Frame.performs, Option.some.injEq]
      rfl
    | .park :: _ =>
      by_cases ht : token = true
      · simp [runFrame, bodyStep, ht, push, setParked, Frame.performs]
      · by_cases hp : m.parked u = true <;> simp [runFrame, bodyStep, ht, hp, push, setParked, Frame.performs]
  | cleanup u actions =>
    cases actions with
    | nil => simp [runFrame, emit, Frame.performs]
    | cons a actions =>
      simp only [runFrame, enqueued_perform, Frame.performs, Option.some.injEq]
      rfl
  | handOver u c =>
    rw [runFrame_handOver]
    split
    · by_cases hu : t = u <;> simp [setTask, hu, Frame.performs]
    · split <;> simp [Frame.performs]
  | cancelEach ts =>
    cases ts with
    | nil => simp [runFrame, cancelStep, ret, Frame.performs]
    | cons u ts =>
      simp only [runFrame, cancelStep_cons]
      split
      · simp [push, Frame.performs]
      · rename_i hs
        by_cases hu : t = u <;> simp [push, setTask, hu, Task.beginCancel, hs, Frame.performs]
  | resolve u => by_cases hu : t = u <;> simp [runFrame, wakeTask, wake, setTask, hu, Task.resolve, Frame.performs]
  | _ => simp [runFrame, emit, Frame.performs]

/-- The operation that puts a task in leaves this on the stack, unless the task has been marked. -/
theorem count_calls (m : Machine n) (a : Action n) (t : Fin n) :
    (m.calls a).count (.append t) = if (m.tasks t).enqueued = false ∧ a = .enqueue t then 1 else 0 := by
  cases a with
  | enqueue u =>
    by_cases hu : u = t
    · subst hu
      cases he : (m.tasks u).enqueued <;> simp [calls, he]
    · cases he : (m.tasks u).enqueued <;> simp [calls, he, hu]
  | _ => simp [calls]

/-- A frame leads to an append of a task exactly if it puts in the task and the task was not marked. -/
theorem count_follow (m : Machine n) (f : Frame n) (t : Fin n) :
    (m.follow f).count (.append t) =
      if (m.tasks t).enqueued = false ∧ f.performs = some (.enqueue t) then 1 else 0 := by
  match f with
  | .body u w token (.act a :: steps) c | .cleanup u (a :: actions) =>
    simp [follow, Frame.performs, List.count_append, count_calls]
  | .handOver u c =>
    rcases c with _ | actions <;> by_cases hs : (m.tasks u).state = .canceled <;>
      simp [follow, cleanupFrames, hs, Frame.performs]
  | .cancelEach (u :: ts) =>
    by_cases hs : (m.tasks u).state.isTerminal = true
    · simp [follow, hs, Frame.performs]
    · rcases hc : (m.tasks u).cleanup with _ | _ | actions <;> simp [follow, cleanupFrames, hs, hc, Frame.performs]
  | .body u w token [] c | .body u w token (.panic :: steps) c | .body u w token (.park :: steps) c
  | .body u w token (.dropToken :: steps) c | .body u w token (.check :: steps) c
  | .body u w token (.display :: steps) c | .cleanup u [] | .cancelEach [] | .look _ | .resolve _ | .append _
  | .note _ | .advance | .next => simp [follow, Frame.performs]

/-- In every run a task that has been marked was put in once, or is about to be. -/
theorem Reachable.count_entries (h : Reachable scripts m) (t : Fin n) :
    m.entries.count t + m.frames.count (.append t) = ((m.tasks t).enqueued).toNat := by
  induction h using Reachable.induct with
  | start => rfl
  | @frame m f fs h hf ih =>
    rw [hf, List.count_cons] at ih
    rw [entries_runFrame, (frames_runFrame _ _).1, enqueued_runFrame, List.count_append, List.count_append, count_follow]
    have entry : (match f with | .append t => [t] | _ => []).count t = if (f == .append t) = true then 1 else 0 := by
      cases f with
      | append u => by_cases hu : u = t <;> simp [hu]
      | _ => simp
    rw [entry]
    generalize (if (f == Frame.append t) = true then 1 else 0) = k at ih ⊢
    cases he : (m.tasks t).enqueued <;> by_cases hp : f.performs = some (.enqueue t) <;> simp [he, hp] at ih ⊢ <;> omega
  | @job m j js h hf _ ih =>
    obtain ⟨hentries, -⟩ := h.orders_job j js
    rw [hentries]
    obtain ⟨w, x, u, -, -, -, -, -, hj⟩ | ⟨gs, hgs, hframes, htasks, -, -⟩ :=
      runJob_cases (m := { m with jobs := js }) h.body_of_pending j
    · rw [hj]
      by_cases hu : t = u
      · subst hu
        simpa [hf] using ih
      · simpa [hu, hf] using ih
    · have hz : gs.count (.append t) = 0 := countP_entering (fun f hf => by cases f <;> simp_all [Frame.enters]) hgs
      rw [hframes, htasks, List.count_append, hz]
      simpa using ih
  | @perform m a h hf ih =>
    have hentries : (m.perform a).entries = m.entries := by simp [entries]
    rw [hentries, enqueued_perform, (fields_perform a m).2.2.2.2.1, List.count_append, count_calls]
    cases he : (m.tasks t).enqueued <;> by_cases hp : a = .enqueue t <;> simp [he, hp] at ih ⊢ <;> omega
  | await goal _ _ _ ih => exact ih

/-- In every run no task has been put in twice. -/
theorem Reachable.nodup_entries (h : Reachable scripts m) : m.entries.Nodup := by
  rw [List.nodup_iff_count]
  intro t
  have := h.count_entries t
  have := Bool.toNat_le (m.tasks t).enqueued
  omega

/-! ## What the drain loop has taken up -/

/-- Whoever comes to wait for a turn has taken up a head. -/
theorem turns_of_goals {goals : List (Goal n)} (h : m'.goals = m.goals ++ goals) :
    m'.turns = m.turns ++ goals.filterMap Goal.turn? := by
  rw [turns, h, List.filterMap_append]
  rfl

/-- The head stays the head while others are put in behind it. -/
theorem current_of_append (h : m.Draining) {t : Fin n} (hq : m'.deque = m.deque ++ [t]) (ht : m'.turn = m.turn)
    (hf : .advance ∈ m'.frames ↔ .advance ∈ m.frames) : m'.current = m.current := by
  by_cases hc : m.turn.isSome ∨ .advance ∈ m.frames
  · have hne : m.deque ≠ [] := by
      obtain hc | hc := hc
      · obtain ⟨w, hw⟩ := Option.isSome_iff_exists.mp hc
        obtain ⟨u, -, hu⟩ := h.head w hw
        rintro hn
        simp [hn] at hu
      · exact h.advancing hc
    obtain ⟨u, us, hu⟩ := List.exists_cons_of_ne_nil hne
    simp [current, ht, hf, hq, hu]
  · simp [current, ht, hf, hc]

/-- The head that is taken up depends on the queue, the turn and whether the head is about to be removed. -/
theorem current_of_eq (hq : m'.deque = m.deque) (ht : m'.turn = m.turn)
    (hf : .advance ∈ m'.frames ↔ .advance ∈ m.frames) : m'.current = m.current := by
  simp only [current, hq, ht, hf]

/-- While the drain loop itself goes on it waits for nothing, and no other frame is about to remove the head. -/
theorem Reachable.idle_of_drains (h : Reachable scripts m) {f : Frame n} {fs : List (Frame n)} (hf : m.frames = f :: fs)
    (hd : f.drains = true) : m.turn = none ∧ .advance ∉ fs := by
  refine ⟨h.draining.between f (by simp [hf]) hd, fun hm => ?_⟩
  cases (h.alone_of_frame hf hd).2.1 _ hm

/-- The head that the loop removes has been taken up. -/
theorem Reachable.turns_advance (h : Reachable scripts m) {fs : List (Frame n)} (hf : m.frames = .advance :: fs)
    (ih : m.turns = m.exits ++ m.current) :
    (runFrame .advance { m with frames := fs }).turns =
      (runFrame .advance { m with frames := fs }).exits ++ (runFrame .advance { m with frames := fs }).current := by
  obtain ⟨ht, hnone⟩ := h.idle_of_drains hf rfl
  have hturns : (runFrame .advance { m with frames := fs }).turns = m.turns :=
    congrArg (List.filterMap Goal.turn?) (goals_runFrame (f := .advance) (by simp) { m with frames := fs })
  have hturn : (runFrame .advance { m with frames := fs }).turn = none :=
    ((flags_runFrame .advance { m with frames := fs }).1 (by simp)).trans ht
  have hc : (runFrame .advance { m with frames := fs }).current = [] := by
    simp [current, hturn, (frames_runFrame .advance { m with frames := fs }).1, not_advance_follow, hnone]
  rw [exits_runFrame, hturns, hc, ih]
  simp [current, hf]

/-- The loop that begins anew takes up the head, if there is one. -/
theorem Reachable.turns_next (h : Reachable scripts m) {fs : List (Frame n)} (hf : m.frames = .next :: fs)
    (ih : m.turns = m.exits ++ m.current) :
    (runFrame .next { m with frames := fs }).turns =
      (runFrame .next { m with frames := fs }).exits ++ (runFrame .next { m with frames := fs }).current := by
  obtain ⟨ht, hnone⟩ := h.idle_of_drains hf rfl
  have hold : m.current = [] := by simp [current, ht, hf, hnone]
  rw [hold, List.append_nil] at ih
  rw [exits_runFrame, show runFrame .next { m with frames := fs } = next { m with frames := fs } from rfl,
    turns_of_goals (goals_next { m with frames := fs })]
  cases hq : m.deque with
  | nil => simp [next, current, wakeIdle, wake, ← ih, turns, goals]
  | cons t ts => simp [next, current, ← ih, turns, Goal.turn?, goals, spawn, addWaiter]

/-- A frame that does not belong to the loop neither takes up a head nor removes one. -/
theorem Reachable.turns_runFrame (h : Reachable scripts m) {f : Frame n} {fs : List (Frame n)}
    (hf : m.frames = f :: fs) (ha : f ≠ .advance) (hn : f ≠ .next) :
    (runFrame f { m with frames := fs }).turns = m.turns ∧
      (runFrame f { m with frames := fs }).exits = m.exits ∧
      (runFrame f { m with frames := fs }).current = m.current := by
  have hmem : .advance ∈ (runFrame f { m with frames := fs }).frames ↔ .advance ∈ m.frames := by
    simp [(frames_runFrame f { m with frames := fs }).1, not_advance_follow, hf, Ne.symm ha]
  have ht := (flags_runFrame f { m with frames := fs }).1 hn
  have hq := deque_runFrame f { m with frames := fs }
  refine ⟨congrArg (List.filterMap Goal.turn?) (goals_runFrame hn { m with frames := fs }), ?_, ?_⟩
  · rw [exits_runFrame, if_neg ha, List.append_nil]
  · cases f with
    | append t => exact current_of_append h.draining hq ht hmem
    | advance => exact absurd rfl ha
    | _ => exact current_of_eq hq ht hmem

/-- A job begins a turn of the loop at most; what is taken up or removed is left to the frames. -/
theorem Reachable.current_job (h : Reachable scripts m) (hf : m.frames = []) (j : Job) (js : List Job) :
    (runJob j { m with jobs := js }).current = m.current := by
  have hq := (fields_runJob j { m with jobs := js }).1
  cases j with
  | drain =>
    obtain ⟨ht, hj⟩ | ⟨w, t, ht, -, hj⟩ | ⟨w, ht, -, hj⟩ := runJob_drain { m with jobs := js } <;> rw [hj]
    · have ht : m.turn = none := ht
      simp [current, push, hf, ht]
    · have ht : m.turn = some w := ht
      simp [current, push, ht]
    · have ht : m.turn = some w := ht
      simp [current, push, ht]
  | poll w =>
    obtain ⟨x, t, -, -, -, -, hj⟩ | ⟨hj, -⟩ := runJob_poll (m := { m with jobs := js }) h.body_of_pending w <;> rw [hj]
    · simp [current]
    · simp [current, push]

/-- In every run the drain loop has taken up what has been removed, and the head from the moment when it takes it up. -/
theorem Reachable.turns_eq (h : Reachable scripts m) : m.turns = m.exits ++ m.current := by
  induction h using Reachable.induct with
  | start => rfl
  | @frame m f fs h hf ih =>
    by_cases ha : f = .advance
    · subst ha
      exact h.turns_advance hf ih
    by_cases hn : f = .next
    · subst hn
      exact h.turns_next hf ih
    obtain ⟨hturns, hexits, hc⟩ := h.turns_runFrame hf ha hn
    rw [hturns, hexits, hc]
    exact ih
  | @job m j js h hf _ ih =>
    rw [(h.orders_job j js).2, h.current_job hf, turns, goals_runJob]
    exact ih
  | @perform m a _ _ ih =>
    have hexits : (m.perform a).exits = m.exits := by simp [exits]
    have hc : (m.perform a).current = m.current :=
      current_of_eq (by simp) (by simp) (by simp [not_advance_calls])
    rw [hexits, hc, turns, goals_perform]
    exact ih
  | @await m goal _ _ hg ih =>
    have hn : [goal].filterMap Goal.turn? = [] := by
      cases goal with
      | turn t => exact absurd rfl (hg t)
      | _ => rfl
    rw [turns_of_goals (goals_await goal m), hn, List.append_nil]
    exact ih

/-- In every run what has been removed is terminal. -/
theorem Reachable.isTerminal_of_mem_exits (h : Reachable scripts m) {t : Fin n} (ht : t ∈ m.exits) :
    (m.tasks t).state.isTerminal = true := by
  induction h using Reachable.induct with
  | start => simp [Machine.start, exits] at ht
  | @frame m f fs h hf ih =>
    refine (changes_runFrame f { m with frames := fs } t).evolves.isTerminal ?_
    rw [exits_runFrame] at ht
    obtain ht | hnew := List.mem_append.mp ht
    · exact ih ht
    · split at hnew
      · rename_i hadvance
        subst hadvance
        have hsplit : m.frames = [] ++ .advance :: fs := hf
        obtain hs | ⟨g, hg, -⟩ := h.advancing_head hsplit (Option.mem_toList.mp hnew)
        · exact hs
        · cases hg
      · cases hnew
  | @job m j js h _ _ ih =>
    rw [(h.orders_job j js).2] at ht
    exact (ages_runJob j { m with jobs := js } t).isTerminal (ih ht)
  | @perform m a _ _ ih => exact (ages_perform a m t).isTerminal (ih (by simpa [exits] using ht))
  | await goal _ _ _ ih => exact ih ht

/-- The drain loop takes tasks up in the order in which they were put in. -/
theorem Reachable.turns_prefix (h : Reachable scripts m) : m.turns <+: m.entries := by
  rw [h.turns_eq, h.entries_eq, List.prefix_append_right_inj]
  unfold current
  split
  · cases m.deque with
    | nil => exact List.nil_prefix
    | cons t ts => exact ⟨ts, rfl⟩
  · exact List.nil_prefix

/-- The drain loop takes no task up twice. -/
theorem Reachable.turn_unique (h : Reachable scripts m) {v w : Nat} {t : Fin n} (hv : m.goals[v]? = some (.turn t))
    (hw : m.goals[w]? = some (.turn t)) : v = w := by
  have hn : m.turns.Nodup := h.nodup_entries.sublist h.turns_prefix.sublist
  rw [turns, List.Nodup, List.pairwise_filterMap, List.pairwise_iff_getElem] at hn
  obtain ⟨hvl, hv⟩ := List.getElem?_eq_some_iff.mp hv
  obtain ⟨hwl, hw⟩ := List.getElem?_eq_some_iff.mp hw
  obtain hlt | rfl | hlt := Nat.lt_trichotomy v w
  · exact absurd rfl (hn v w hvl hwl hlt t (by simp [hv, Goal.turn?]) t (by simp [hw, Goal.turn?]))
  · rfl
  · exact absurd rfl (hn w v hwl hvl hlt t (by simp [hw, Goal.turn?]) t (by simp [hv, Goal.turn?]))

end Machine

end ElixirLint.Queue
