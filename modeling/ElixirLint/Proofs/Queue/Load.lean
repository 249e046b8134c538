import ElixirLint.Proofs.Queue.Completion
import ElixirLint.Proofs.Queue.Order
import Mathlib.Algebra.BigOperators.Fin

/-!
# The work that is left

`load` counts how much a machine has still to do. Whatever is on the stack or in the list of jobs has its own load; a
task has that of the body and the cleanup that it holds, and besides it may be put into the queue once and be done once,
which each may wake everybody who waits. The drain loop may take up every task once, and a busy queue turns idle before
it can turn busy again. What an operation costs that is left on the stack, the step of the script that does it pays
(`stock_perform`). So every piece of work takes something away (`Reachable.load_step`), also when cleanups put tasks in
and cancel each other in circles: a cleanup that is called is not there any more.
-/

namespace ElixirLint.Queue

open Machine

variable {n : Nat}

/-- The load of an operation: to begin it, to look at each task that it may cancel, and to note what it returned. -/
def price (n : Nat) : Nat := 2 * n + 3

/-- The load of a cleanup. -/
def cleanupLoad (c : Cleanup n) : Nat := price n * (c.getD []).length

/-- The load of a body with its cleanup. -/
def bodyLoad (steps : List (BodyStep n)) (c : Cleanup n) : Nat := price n * steps.length + cleanupLoad c

/-- What is left of a load that may have been spent. -/
def unspent (spent : Bool) (load : Nat) : Nat := if spent then 0 else load

/-- The load of a cleanup that a task holds. -/
def keptLoad (c : Option (Cleanup n)) : Nat := (c.map fun c => cleanupLoad c + 1).getD 0

/-- The load of a task that everybody of a crowd may wait for: its body or its cleanup, the way into the queue, and its
end. -/
def taskLoad (crowd : Nat) (x : Task (Body n) (Cleanup n)) : Nat :=
  (x.body.map fun b => bodyLoad b.steps b.cleanup + 3).getD 0 + keptLoad x.cleanup +
    unspent x.enqueued (4 * crowd + 7) + unspent x.done (2 * crowd)

/-- The load of a frame. -/
def Frame.load (crowd : Nat) : Frame n → Nat
  | .body _ _ _ steps c => bodyLoad steps c + 4
  | .handOver _ c => cleanupLoad c + 2
  | .look _ => 1
  | .cleanup _ actions => price n * actions.length + 1
  | .cancelEach ts => 2 * ts.length + 1
  | .resolve _ => 1
  | .append _ => 4 * crowd + 7
  | .note _ => 1
  | .advance => 2
  | .next => 1

/-- The load of a job. -/
def Job.load : Job → Nat
  | .drain => 6
  | .poll _ => 2

/-- The load of some frames. -/
def framesLoad (crowd : Nat) (fs : List (Frame n)) : Nat := (fs.map (Frame.load crowd)).sum

@[simp] theorem framesLoad_nil (crowd : Nat) : framesLoad crowd ([] : List (Frame n)) = 0 := rfl

@[simp] theorem framesLoad_cons (crowd : Nat) (f : Frame n) (fs : List (Frame n)) :
    framesLoad crowd (f :: fs) = f.load crowd + framesLoad crowd fs := by
  simp [framesLoad]

@[simp] theorem framesLoad_append (crowd : Nat) (fs gs : List (Frame n)) :
    framesLoad crowd (fs ++ gs) = framesLoad crowd fs + framesLoad crowd gs := by
  simp [framesLoad]

/-- A step of a body costs the price of an operation. -/
theorem bodyLoad_cons (s : BodyStep n) (steps : List (BodyStep n)) (c : Cleanup n) :
    bodyLoad (s :: steps) c = bodyLoad steps c + price n := by
  simp only [bodyLoad, List.length_cons, Nat.mul_succ]
  omega

/-- Behind its last step a body still has its cleanup to hand over. -/
theorem bodyLoad_nil (c : Cleanup n) : bodyLoad [] c = cleanupLoad c := by
  simp [bodyLoad]

@[simp] theorem unspent_true (load : Nat) : unspent true load = 0 := rfl

@[simp] theorem unspent_false (load : Nat) : unspent false load = load := rfl

section Task

variable {k : Nat} {x : Task (Body n) (Cleanup n)}

/-- A task that is done has spent two pieces of work for each of those who may wait for it. -/
theorem taskLoad_complete (hs : x.state.isTerminal = false) (hd : x.done = false) :
    taskLoad k x.complete + 2 * k ≤ taskLoad k x := by
  simp [taskLoad, Task.complete, hs, hd, keptLoad]

/-- A task that is marked has spent its way into the queue. -/
theorem taskLoad_markEnqueued (he : x.enqueued = false) : taskLoad k x.markEnqueued + (4 * k + 7) = taskLoad k x := by
  simp only [taskLoad, Task.markEnqueued, he, unspent_true, unspent_false]
  omega

/-- A task that is being canceled gives up its cleanup. -/
theorem taskLoad_beginCancel (hs : x.state.isTerminal = false) :
    taskLoad k x.beginCancel.1 + keptLoad x.cleanup ≤ taskLoad k x := by
  simp only [taskLoad, Task.beginCancel, hs]
  simp [keptLoad]
  omega

/-- A task that is handed a cleanup takes on its load. -/
theorem taskLoad_keep (c : Cleanup n) : taskLoad k { x with cleanup := some c } ≤ taskLoad k x + cleanupLoad c + 1 := by
  simp only [taskLoad, keptLoad, Option.map_some, Option.getD_some]
  omega

/-- So has a task that is counted as done. -/
theorem taskLoad_resolve : taskLoad k x.resolve + unspent x.done (2 * k) = taskLoad k x := by
  simp [taskLoad, Task.resolve]

/-- A task that starts gives up its body. -/
theorem taskLoad_start {b : Body n} (hs : x.state = .pending) (hb : x.body = some b) :
    taskLoad k x.start.1 + bodyLoad b.steps b.cleanup + 3 = taskLoad k x := by
  simp only [taskLoad, Task.start, hs, hb, if_true]
  simp
  omega

end Task

namespace Machine

variable {scripts : Fin n → Script n} {m m' : Machine n} {k : Nat}

/-- The load of the tasks. -/
def tasksLoad (crowd : Nat) (m : Machine n) : Nat := ∑ t, taskLoad crowd (m.tasks t)

/-- The load of the jobs, of those who wait, and of the drain loop. A queue that is busy turns idle, which wakes
everybody who waits for that. -/
def sideLoad (crowd : Nat) (m : Machine n) : Nat :=
  (m.jobs.map Job.load).sum + 7 * m.waiters.countP Waiter.turns + 9 * (n - m.turns.length) +
    unspent (!m.busy) (2 * crowd)

/-- The load that is not on the stack. -/
def stock (crowd : Nat) (m : Machine n) : Nat := m.tasksLoad crowd + m.sideLoad crowd

/-- Everybody who waits, and everybody who will if nobody comes from outside. -/
def crowd (m : Machine n) : Nat := m.waiters.length + (n - m.turns.length)

/-- The load of a machine: how many pieces of work it can do at most. -/
def load (m : Machine n) : Nat := m.stock m.crowd + framesLoad m.crowd m.frames

/-! ## What each change of a machine costs -/

/-- The stock depends on tasks, jobs, waiters and the flag of the loop only. -/
theorem stock_of_eq (ht : m'.tasks = m.tasks) (hj : m'.jobs = m.jobs) (hw : m'.waiters = m.waiters)
    (hb : m'.busy = m.busy) : m'.stock k = m.stock k := by
  have hg : m'.turns = m.turns := by simp only [turns, goals_of_waiters hw]
  simp only [stock, tasksLoad, sideLoad, ht, hj, hw, hb, hg]

@[simp] theorem stock_push (fs : List (Frame n)) (m : Machine n) : (m.push fs).stock k = m.stock k := rfl

@[simp] theorem stock_emit (e : Event n) (m : Machine n) : (m.emit e).stock k = m.stock k := rfl

@[simp] theorem stock_ret (o : Outcome) (m : Machine n) : (m.ret o).stock k = m.stock k := rfl

@[simp] theorem stock_setParked (t : Fin n) (p : Bool) (m : Machine n) :
    (m.setParked t p).stock k = m.stock k := rfl

@[simp] theorem stock_spawn (j : Job) (m : Machine n) : (m.spawn j).stock k = m.stock k + j.load := by
  have hg : (m.spawn j).turns = m.turns := rfl
  simp only [stock, sideLoad, tasksLoad, hg]
  simp only [spawn, List.map_append, List.map_cons, List.map_nil, List.sum_append, List.sum_singleton]
  omega

/-- A task that is set takes its load along. -/
theorem stock_setTask (t : Fin n) (x : Task (Body n) (Cleanup n)) (m : Machine n) :
    (m.setTask t x).stock k + taskLoad k (m.tasks t) = m.stock k + taskLoad k x := by
  have side : (m.setTask t x).sideLoad k = m.sideLoad k := rfl
  have others : ∑ u ∈ Finset.univ.erase t, taskLoad k ((m.setTask t x).tasks u) =
      ∑ u ∈ Finset.univ.erase t, taskLoad k (m.tasks u) := by
    refine Finset.sum_congr rfl fun u hu => ?_
    simp [setTask, Finset.ne_of_mem_erase hu]
  have self : (m.setTask t x).tasks t = x := by simp [setTask]
  rw [stock, stock, side, tasksLoad, tasksLoad, ← Finset.add_sum_erase _ _ (Finset.mem_univ t), others, self,
    ← Finset.add_sum_erase Finset.univ (fun u => taskLoad k (m.tasks u)) (Finset.mem_univ t)]
  omega

/-- No more listen than wait. -/
theorem length_listeners_le (wanted : Goal n → Bool) (ws : List (Waiter n)) :
    (listeners wanted ws).length ≤ ws.length := by
  rw [listeners, List.length_map]
  exact (List.length_filter_le _ _).trans_eq List.length_zipIdx

/-- Those who are woken get a job each. -/
theorem stock_wake (wanted : Goal n → Bool) (m : Machine n) :
    (m.wake wanted).stock k = m.stock k + 2 * (listeners wanted m.waiters).length := by
  have hg : (m.wake wanted).turns = m.turns := by simp only [turns, goals_wake]
  have jobs : ((m.wake wanted).jobs.map Job.load).sum =
      (m.jobs.map Job.load).sum + 2 * (listeners wanted m.waiters).length := by
    have polls (ws : List Nat) : ((ws.map Job.poll).map Job.load).sum = 2 * ws.length := by
      induction ws with
      | nil => rfl
      | cons w ws ih =>
        simp only [List.map_cons, List.sum_cons, ih, Job.load, List.length_cons]
        omega
    simp only [wake, List.map_append, List.sum_append, polls]
  have tasks : (m.wake wanted).tasksLoad k = m.tasksLoad k := rfl
  have busy : (m.wake wanted).busy = m.busy := rfl
  rw [stock, stock, tasks, sideLoad, sideLoad, hg, countP_turns_wake, jobs, busy]
  omega

/-- Waking wakes the crowd at most. -/
theorem stock_wake_le (wanted : Goal n → Bool) (hw : m.waiters.length ≤ k) :
    (m.wake wanted).stock k ≤ m.stock k + 2 * k := by
  have := length_listeners_le wanted m.waiters
  rw [stock_wake]
  omega

/-- A waiter that was due a look and gets past it costs nothing; if its turn is over, the drain loop can go on. -/
theorem stock_setPhase {w : Nat} {x : Waiter n} (hx : m.waiters[w]? = some x) (hd : x.phase.isDue = true) (p : Phase) :
    (m.setPhase w p).stock k + 7 * (if p.isOver then (Waiter.turns ⟨x.goal, .fresh⟩).toNat else 0) =
      m.stock k := by
  have hg : (m.setPhase w p).turns = m.turns := by simp only [turns, goals_setPhase]
  have turning := countP_turns_setPhase hx hd p
  have tasks : (m.setPhase w p).tasksLoad k = m.tasksLoad k := rfl
  have jobs : (m.setPhase w p).jobs = m.jobs := rfl
  have busy : (m.setPhase w p).busy = m.busy := rfl
  rw [stock, stock, tasks, sideLoad, sideLoad, hg, jobs, busy]
  omega

/-- A waiter that has reached its goal takes nothing more from the stock than it had in it. -/
theorem stock_settleWaiter {w : Nat} {x : Waiter n} (hx : m.waiters[w]? = some x) (hd : x.phase.isDue = true) :
    (m.settleWaiter w x.goal).stock k ≤ m.stock k := by
  have after := stock_setPhase (k := k) hx hd .settled
  cases hg : x.goal <;> simp [settleWaiter, hg, Phase.isOver, Waiter.turns, Job.load] at after ⊢ <;> omega

theorem stock_failWaiter {w : Nat} {x : Waiter n} (hx : m.waiters[w]? = some x) (hd : x.phase.isDue = true) :
    (m.failWaiter w).stock k ≤ m.stock k := by
  have after := stock_setPhase (k := k) hx hd .failed
  obtain ⟨goal, phase⟩ := x
  cases goal <;> simp [failWaiter, hx, Phase.isOver, Waiter.turns, Job.load] at after ⊢ <;> omega

/-- A waiter that looks takes nothing more from the stock than it had in it. -/
theorem stock_look {w : Nat} {x : Waiter n} (hx : m.waiters[w]? = some x) (hd : x.phase.isDue = true) :
    (m.look w).stock k ≤ m.stock k := by
  simp only [look, hx]
  split
  · exact stock_settleWaiter hx hd
  · have listening := stock_setPhase (k := k) hx hd .listening
    simp only [Phase.isOver] at listening
    omega

/-! ## What operations and frames cost -/

/-- Completing a task pays for the waking of those who listen. -/
theorem stock_complete {t : Fin n} (hw : m.waiters.length ≤ k)
    (hd : (m.tasks t).done = true → (m.tasks t).state.isTerminal = true) : (m.complete t).stock k ≤ m.stock k := by
  unfold complete
  split
  · exact Nat.le_refl _
  · rename_i hs
    have live : (m.tasks t).state.isTerminal = false := by simpa using hs
    have undone : (m.tasks t).done = false := by
      by_contra done
      exact hs (hd (by simpa using done))
    have set := stock_setTask (k := k) t (m.tasks t).complete m
    have woken := stock_wake_le (m := m.setTask t (m.tasks t).complete) (fun g => g.task? == some t) hw
    have after := taskLoad_complete (k := k) live undone
    rw [wakeTask]
    omega

/-- A body gives the token back if it holds it. -/
theorem stock_release {t : Fin n} (hw : m.waiters.length ≤ k)
    (hd : (m.tasks t).done = true → (m.tasks t).state.isTerminal = true) (token : Bool) :
    (if token then m.complete t else m).stock k ≤ m.stock k := by
  split
  · exact stock_complete hw hd
  · exact Nat.le_refl _

/-- What an operation leaves on the stack costs its price at most, with a piece for noting what it returned. -/
theorem stock_perform (hw : m.waiters.length ≤ k)
    (hd : ∀ t, (m.tasks t).done = true → (m.tasks t).state.isTerminal = true) (hq : m.deque.length ≤ n) (a : Action n) :
    (m.perform a).stock k + framesLoad k (m.calls a) + 2 ≤ m.stock k + price n := by
  unfold price
  cases a with
  | enqueue t =>
    by_cases he : (m.tasks t).enqueued = true
    · simp [perform, calls, he]
    · have set := stock_setTask (k := k) t (m.tasks t).markEnqueued m
      have short : (m.withKey (m.tasks t).key).length ≤ n := (List.length_filter_le _ _).trans hq
      have marked := taskLoad_markEnqueued (k := k) (Bool.eq_false_iff.mpr he)
      simp [perform, calls, he, Frame.load]
      omega
  | cancelKey key =>
    have short : (m.withKey key).length ≤ n := (List.length_filter_le _ _).trans hq
    simp [perform, calls, Frame.load]
    omega
  | cancel t =>
    have some : 0 < n := t.pos
    simp [perform, calls, Frame.load]
    omega
  | cancelAll =>
    simp [perform, calls, Frame.load]
    omega
  | finish t =>
    by_cases hp : m.parked t = true
    · have after := stock_complete (m := m.setParked t false) hw (hd t)
      simp [perform, calls, hp] at after ⊢
      omega
    · simp [perform, calls, hp]

/-- The frame of a cleanup costs no more than keeping it did. -/
theorem framesLoad_cleanupFrames (t : Fin n) (c : Option (Cleanup n)) :
    framesLoad k (cleanupFrames t c) ≤ keptLoad c := by
  rcases c with _ | _ | actions <;> simp [cleanupFrames, Frame.load, keptLoad, cleanupLoad]

/-- Calling a cleanup leaves the stock alone. -/
@[simp] theorem stock_invoke (t : Fin n) (c : Option (Cleanup n)) (m : Machine n) :
    (m.invoke t c).stock k = m.stock k :=
  stock_of_eq (by simp) (by simp) (by simp) (by simp)

/-- A step of a body takes more from the load than it leaves behind. -/
theorem stock_bodyStep {t : Fin n} {w : Nat} {token : Bool} {steps : List (BodyStep n)} {c : Cleanup n}
    (hw : m.waiters.length ≤ k) (hd : ∀ t, (m.tasks t).done = true → (m.tasks t).state.isTerminal = true)
    (hq : m.deque.length ≤ n) (hx : ∃ x, m.waiters[w]? = some x ∧ x.phase.isDue = true) :
    (m.bodyStep t w token steps c).stock k + framesLoad k (m.follow (.body t w token steps c)) <
      m.stock k + Frame.load k (.body t w token steps c) := by
  have released := stock_release hw (hd t) token
  match steps with
  | [] =>
    simp [bodyStep, follow, Frame.load, bodyLoad_nil] at released ⊢
    omega
  | .dropToken :: _ =>
    simp [bodyStep, follow, Frame.load, bodyLoad_cons, price] at released ⊢
    omega
  | .panic :: _ =>
    obtain ⟨x, hx, due⟩ := hx
    have failed := stock_failWaiter (k := k) (m := (if token then m.complete t else m).emit (.bodyFailed t))
      ((stirs_release t token m).waiter hx due) due
    simp only [stock_emit] at failed
    simp only [bodyStep, follow, framesLoad_nil, Frame.load]
    omega
  | .check :: _ | .display :: _ =>
    simp [bodyStep, follow, Frame.load, bodyLoad_cons, price]
  | .act a :: steps =>
    have performed := stock_perform (m := m.push [.note a, .body t w token steps c]) hw hd hq a
    have hc : (m.push [.note a, .body t w token steps c]).calls a = m.calls a := by cases a <;> rfl
    simp only [bodyStep, follow, Frame.load, bodyLoad_cons, hc, stock_push, framesLoad_append, framesLoad_cons,
      framesLoad_nil] at performed ⊢
    omega
  | .park :: _ =>
    -- A token that is parked already is replaced, and the old one given back.
    have replaced := stock_complete (m := m.setParked t false) hw (hd t)
    simp only [stock_setParked] at replaced
    by_cases ht : token = true
    · simp [bodyStep, follow, ht, Frame.load, bodyLoad_cons, price]
    · by_cases hp : m.parked t = true
      · simp [bodyStep, follow, ht, hp, Frame.load, bodyLoad_cons, price]
        omega
      · simp [bodyStep, follow, ht, hp, Frame.load, bodyLoad_cons, price]

/-- Canceling the next of some tasks takes more from the load than it leaves behind. -/
theorem stock_cancelStep (ts : List (Fin n)) (m : Machine n) :
    (m.cancelStep ts).stock k + framesLoad k (m.follow (.cancelEach ts)) <
      m.stock k + Frame.load k (.cancelEach ts) := by
  cases ts with
  | nil => simp [cancelStep, follow, Frame.load]
  | cons t ts =>
    rw [cancelStep_cons]
    by_cases hs : (m.tasks t).state.isTerminal = true
    · simp [follow, hs, Frame.load]
    · have set := stock_setTask (k := k) t (m.tasks t).beginCancel.1 m
      have called := framesLoad_cleanupFrames (k := k) t (m.tasks t).cleanup
      have canceled := taskLoad_beginCancel (k := k) (Bool.eq_false_iff.mpr hs)
      simp [follow, hs, Frame.load]
      omega

/-- Handing over a cleanup takes more from the load than it leaves behind. -/
theorem stock_handOver (t : Fin n) (c : Cleanup n) (m : Machine n) :
    (m.runFrame (.handOver t c)).stock k + framesLoad k (m.follow (.handOver t c)) <
      m.stock k + Frame.load k (.handOver t c) := by
  have called := framesLoad_cleanupFrames (k := k) t (some c)
  have set := stock_setTask (k := k) t { m.tasks t with cleanup := some c } m
  have kept := taskLoad_keep (k := k) (x := m.tasks t) c
  have handed : keptLoad (some c) = cleanupLoad c + 1 := rfl
  rw [runFrame_handOver]
  by_cases hr : (m.tasks t).state = .running
  · simp only [hr, if_true, follow, Frame.load] at set kept ⊢
    simp
    omega
  · by_cases hc : (m.tasks t).state = .canceled
    · simp [follow, hc, Frame.load]
      omega
    · simp [follow, hr, hc, Frame.load]

/-- Nobody listens for a task that is done. -/
theorem listeners_eq_nil (h : m.Informed) {t : Fin n} (hd : (m.tasks t).done = true) :
    listeners (fun g => g.task? == some t) m.waiters = [] := by
  rw [List.eq_nil_iff_forall_not_mem]
  intro w hw
  have pos := List.count_pos_iff.mpr hw
  rw [count_listeners] at pos
  obtain ⟨x, hx, phase, goal⟩ : ∃ x, m.waiters[w]? = some x ∧ x.phase = .listening ∧ x.goal.task? = some t := by
    cases hx : m.waiters[w]? with
    | none => simp [hx] at pos
    | some x =>
      rw [hx, Option.any_some, Bool.toNat, Bool.cond_eq_ite] at pos
      split at pos
      · rename_i listens
        exact ⟨x, rfl, by simpa using listens⟩
      · cases pos
  have unreached := h.listening x (List.mem_of_getElem? hx) phase
  cases hg : x.goal <;> simp_all [Goal.task?, reached]

/-- Counting a task as done pays for the waking of those who listen. -/
theorem stock_resolve (hw : m.waiters.length ≤ k) (h : m.Informed) (t : Fin n) :
    ((m.setTask t (m.tasks t).resolve).wakeTask t).stock k ≤ m.stock k := by
  have set := stock_setTask (k := k) t (m.tasks t).resolve m
  rw [wakeTask, stock_wake]
  cases hd : (m.tasks t).done
  · have few := length_listeners_le (fun g => g.task? == some t) m.waiters
    have waiters : (m.setTask t (m.tasks t).resolve).waiters = m.waiters := rfl
    have after := taskLoad_resolve (k := k) (x := m.tasks t)
    rw [hd, unspent_false] at after
    rw [waiters]
    omega
  · have same : (m.tasks t).resolve = m.tasks t := by simp [Task.resolve, ← hd]
    rw [same, setTask_self, listeners_eq_nil h hd]
    simp

/-- A task that is put in brings at most the waking of those who wait for the queue, and the loop. -/
theorem stock_append (hw : m.waiters.length ≤ k) (t : Fin n) : (m.append t).stock k ≤ m.stock k + 4 * k + 6 := by
  cases hb : m.busy
  · rw [append_of_idle hb, stock_spawn]
    have woken := stock_wake_le (k := k) (m := { m with
      deque := m.deque ++ [t], outcome := .enqueued, events := .appended t :: m.events, busy := true, idle := false })
      (fun g => g == Goal.idle) hw
    have flag : Machine.stock k { m with
        deque := m.deque ++ [t], outcome := .enqueued, events := .appended t :: m.events, busy := true, idle := false } =
        m.stock k + 2 * k := by
      simp only [stock, tasksLoad, sideLoad, hb, turns, goals]
      simp
      omega
    simp only [wakeIdle, Job.load]
    omega
  · rw [append_of_busy hb]
    have same : Machine.stock k { m with deque := m.deque ++ [t], outcome := .enqueued, events := .appended t :: m.events } =
        m.stock k := rfl
    omega

/-- The drain loop pays for the turn that it takes with those that are left, and for turning idle with the busy flag. -/
theorem stock_next (hw : m.waiters.length ≤ k) (hb : m.busy = true) (ht : m.next.turns.length ≤ n) :
    m.next.stock k ≤ m.stock k := by
  cases hq : m.deque with
  | nil =>
    have woken := stock_wake_le (k := k) (m := { m with busy := false, idle := true }) (fun g => g == Goal.idle) hw
    have flag : Machine.stock k { m with busy := false, idle := true } + 2 * k = m.stock k := by
      simp [stock, tasksLoad, sideLoad, hb, turns, goals]
      omega
    have ended : m.next = wakeIdle { m with busy := false, idle := true } := by simp only [next, hq]
    rw [ended, wakeIdle]
    omega
  | cons t ts =>
    have taken : m.next.turns = m.turns ++ [t] := by
      rw [turns_of_goals (goals_next m)]
      simp [hq, Goal.turn?]
    have tasks : m.next.tasksLoad k = m.tasksLoad k := by
      simp [tasksLoad]
    have waiters : m.next.waiters = m.waiters ++ [⟨.turn t, .fresh⟩] := by
      simp [next, hq, addWaiter, spawn]
    have jobs : m.next.jobs = m.jobs ++ [.poll m.waiters.length] := by
      simp [next, hq, addWaiter, spawn]
    have busy : m.next.busy = m.busy := by
      simp [next, hq, addWaiter, spawn]
    rw [taken, List.length_append, List.length_singleton] at ht
    rw [stock, stock, tasks, sideLoad, sideLoad, taken, waiters, jobs, busy]
    simp [Job.load, Waiter.turns, Phase.isOver]
    omega

/-! ## The load in a run -/

/-- In every run no more is put in than there are tasks. -/
theorem Reachable.length_entries_le (h : Reachable scripts m) : m.entries.length ≤ n := by
  simpa using h.nodup_entries.length_le_card

/-- No more tasks are in the queue than there are. -/
theorem Reachable.length_deque_le (h : Reachable scripts m) : m.deque.length ≤ n := by
  have all := h.length_entries_le
  rw [h.entries_eq, List.length_append] at all
  omega

/-- In every run the drain loop takes up no more than there are tasks. -/
theorem Reachable.length_turns_le (h : Reachable scripts m) : m.turns.length ≤ n :=
  h.turns_prefix.length_le.trans h.length_entries_le

/-- A frame in a run takes something away from the load. -/
theorem Reachable.stock_frame (h : Reachable scripts m) {f : Frame n} {fs : List (Frame n)} (hf : m.frames = f :: fs)
    (hw : m.waiters.length ≤ k) :
    (runFrame f { m with frames := fs }).stock k + framesLoad k (follow { m with frames := fs } f) <
      m.stock k + f.load k := by
  have hd := h.completes.terminal_of_done
  have hq : m.deque.length ≤ n := h.length_deque_le
  have due {w : Nat} (hs : f.serves w = true) : ∃ x, m.waiters[w]? = some x ∧ x.phase.isDue = true := by
    have owed := debt_pop hf w
    rw [h.debt] at owed
    exact due_of_debt (m := { m with frames := fs }) (by simp [owed, hs])
  cases f with
  | body t w token steps c =>
    exact stock_bodyStep (m := { m with frames := fs }) hw hd hq (due (by simp [Frame.serves]))
  | handOver t c => exact stock_handOver t c _
  | look w =>
    obtain ⟨x, hx, hdue⟩ := due (w := w) (by simp [Frame.serves])
    have looked := stock_look (k := k) (m := { m with frames := fs }) hx hdue
    exact Nat.lt_succ_of_le looked
  | cleanup t actions =>
    cases actions with
    | nil => exact Nat.lt_succ_self _
    | cons a actions =>
      have performed := stock_perform (m := push [.note a, .cleanup t actions] { m with frames := fs }) hw hd hq a
      have hc : calls (push [.note a, .cleanup t actions] { m with frames := fs }) a = calls { m with frames := fs } a := by
        cases a <;> rfl
      have same : stock k { m with frames := fs } = m.stock k := rfl
      simp only [runFrame, follow, Frame.load, hc, stock_push, framesLoad_append, framesLoad_cons, framesLoad_nil,
        List.length_cons, Nat.mul_succ] at performed ⊢
      omega
  | cancelEach ts => exact stock_cancelStep ts _
  | resolve t => exact Nat.lt_succ_of_le (stock_resolve (m := { m with frames := fs }) hw (h.informed.of_eq rfl (fun _ => rfl) rfl) t)
  | append t =>
    have appended := stock_append (m := { m with frames := fs }) hw t
    exact Nat.lt_of_le_of_lt appended (by simp only [Frame.load]; exact Nat.lt_succ_self _)
  | note a => exact Nat.lt_succ_self _
  | advance =>
    have same : (advance { m with frames := fs }).stock k = m.stock k :=
      stock_of_eq (by simp) (by simp) (by simp) (by simp)
    simp [runFrame, same, follow, Frame.load]
  | next =>
    have busy := (h.alone_of_frame hf rfl).1
    have taken := (h.frame hf).length_turns_le
    exact Nat.lt_succ_of_le (stock_next (m := { m with frames := fs }) hw busy taken)

/-- A job in a run takes something away from the load. -/
theorem Reachable.stock_job (h : Reachable scripts m) (j : Job) (js : List Job) :
    (runJob j { m with jobs := js }).stock k + framesLoad k (runJob j { m with jobs := js }).frames <
      stock k { m with jobs := js } + framesLoad k m.frames + j.load := by
  -- The frames that a job begins with are lighter than the job, as long as it leaves everything else alone.
  have begins {m' : Machine n} {gs : List (Frame n)} (hm : runJob j { m with jobs := js } = m'.push gs)
      (hs : m'.stock k = stock k { m with jobs := js }) (hf : m'.frames = m.frames) (hl : framesLoad k gs < j.load) :
      (runJob j { m with jobs := js }).stock k + framesLoad k (runJob j { m with jobs := js }).frames <
        stock k { m with jobs := js } + framesLoad k m.frames + j.load := by
    rw [hm, stock_push, hs]
    simp only [push, framesLoad_append, hf]
    omega
  cases j with
  | drain =>
    obtain ⟨-, hj⟩ | ⟨w, t, -, -, hj⟩ | ⟨w, -, -, hj⟩ := runJob_drain { m with jobs := js }
    · exact begins hj rfl rfl (by simp [Frame.load, Job.load])
    · exact begins hj rfl rfl (by simp [Frame.load, Job.load])
    · exact begins hj rfl rfl (by simp [Frame.load, Job.load])
  | poll w =>
    obtain ⟨x, t, -, -, -, hs, hj⟩ | ⟨hj, -⟩ := runJob_poll (m := { m with jobs := js }) h.body_of_pending w
    · have called := taskLoad_start (k := k) hs (h.body_of_pending t hs)
      have set := stock_setTask (k := k) t (m.tasks t).start.1 { m with jobs := js }
      have stock : (runJob (.poll w) { m with jobs := js }).stock k =
          (setTask t (m.tasks t).start.1 { m with jobs := js }).stock k := by
        rw [hj]
        rfl
      dsimp only at set called
      have frames : (runJob (.poll w) { m with jobs := js }).frames =
          .body t w true (scripts t).body.steps (scripts t).body.cleanup :: m.frames := by
        rw [hj]
        rfl
      rw [stock, frames, framesLoad_cons]
      simp only [Frame.load, Job.load]
      omega
    · exact begins hj rfl rfl (by simp [Frame.load, Job.load])

theorem length_goals (m : Machine n) : m.goals.length = m.waiters.length := List.length_map _

/-- The crowd depends on the goals only. -/
theorem crowd_of_goals (h : m'.goals = m.goals) : m'.crowd = m.crowd := by
  rw [crowd, crowd, ← length_goals, ← length_goals, turns, turns, h]

/-- A frame changes nothing about the crowd: whom the drain loop takes up belonged to it. -/
theorem Reachable.crowd_frame (h : Reachable scripts m) {f : Frame n} {fs : List (Frame n)} (hf : m.frames = f :: fs) :
    (runFrame f { m with frames := fs }).crowd = m.crowd := by
  by_cases hn : f = .next
  · subst hn
    have taken := (h.frame hf).length_turns_le
    have next : (runFrame .next { m with frames := fs }).goals = m.goals ++ (m.deque.head?.map .turn).toList :=
      goals_next { m with frames := fs }
    cases hq : m.deque.head? with
    | none =>
      rw [hq] at next
      exact crowd_of_goals (next.trans (List.append_nil _))
    | some t =>
      rw [hq, Option.map_some, Option.toList_some] at next
      rw [turns, next, List.filterMap_append, List.length_append] at taken
      rw [crowd, crowd, ← length_goals, ← length_goals, turns, turns, next, List.filterMap_append, List.length_append,
        List.length_append]
      simp only [List.filterMap_cons, Goal.turn?, List.filterMap_nil, List.length_singleton] at taken ⊢
      omega
  · exact crowd_of_goals (goals_runFrame hn _)

/-- Every piece of work takes something away from the load. -/
theorem Reachable.load_step (h : Reachable scripts m) (hs : m.step = some m') : m'.load < m.load := by
  have few : m.waiters.length ≤ m.crowd := Nat.le_add_right _ _
  obtain ⟨f, fs, hf, rfl⟩ | ⟨hf, j, js, hj, rfl⟩ := step_cases hs
  · have run := h.stock_frame hf few
    rw [load, load, h.crowd_frame hf, (frames_runFrame _ _).1, framesLoad_append, hf, framesLoad_cons]
    have rest : Machine.frames { m with frames := fs } = fs := rfl
    rw [rest]
    omega
  · have run := h.stock_job (k := m.crowd) j js
    have crowd : (runJob j { m with jobs := js }).crowd = m.crowd := crowd_of_goals (goals_runJob j { m with jobs := js })
    have popped : m.stock m.crowd = stock m.crowd { m with jobs := js } + j.load := by
      simp only [stock, tasksLoad, sideLoad, hj, List.map_cons, List.sum_cons, turns, Machine.goals]
      omega
    rw [load, load, crowd, popped]
    omega

end Machine

end ElixirLint.Queue
