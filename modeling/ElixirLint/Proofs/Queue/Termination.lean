import ElixirLint.Proofs.Queue.Ledger
import ElixirLint.Proofs.Queue.Load
import Mathlib.Algebra.Order.BigOperators.Group.Finset

/-!
# Everything comes to rest

The load of a machine is within the bound that it is given for its work (`load_le_bound`), and every piece of work takes
something away from it. So an operation returns, also from inside a body or a cleanup, and what it makes possible is run
to a state where nothing can proceed, whatever bodies and cleanups do to the tasks of each other.

Main result: `comes_to_rest`.
-/

namespace ElixirLint.Queue

/-- The task whose cleanup was called, if this is what happened. -/
def Event.cleaned? {n : Nat} : Event n → Option (Fin n)
  | .cleanupCalled t => some t
  | _ => none

namespace Machine

variable {n : Nat} {scripts : Fin n → Script n} {m : Machine n} {k s : Nat}

/-! ## The bound -/

/-- What a task adds to the size of a machine. -/
def taskSize (x : Task (Body n) (Cleanup n)) : Nat := (x.body.map bodySize).getD 0 + (x.cleanup.join.getD []).length + 2

/-- A body has a load in proportion to its size. -/
theorem bodyLoad_le (b : Body n) : bodyLoad b.steps b.cleanup + 3 ≤ price n * bodySize b := by
  have three : 3 ≤ price n := Nat.le_add_left _ _
  simp only [bodyLoad, cleanupLoad, bodySize, Nat.mul_add, Nat.mul_one]
  omega

theorem keptLoad_le (c : Option (Cleanup n)) : keptLoad c ≤ price n * (c.join.getD []).length + 1 := by
  rcases c with _ | _ | actions <;> simp [keptLoad, cleanupLoad]

/-- A task has a load in proportion to its size, in a crowd that is bounded. -/
theorem taskLoad_le (hk : k ≤ s) (hp : price n ≤ 3 * s) (hs : 1 ≤ s) (x : Task (Body n) (Cleanup n)) :
    taskLoad k x ≤ 10 * s * taskSize x := by
  have body : (x.body.map fun b => bodyLoad b.steps b.cleanup + 3).getD 0 ≤ price n * (x.body.map bodySize).getD 0 := by
    cases x.body with
    | none => exact Nat.zero_le _
    | some b => exact bodyLoad_le b
  have kept := keptLoad_le x.cleanup
  have entry : unspent x.enqueued (4 * k + 7) ≤ 4 * k + 7 := by cases x.enqueued <;> simp
  have done : unspent x.done (2 * k) ≤ 2 * k := by cases x.done <;> simp
  have priced (a : Nat) : price n * a ≤ 3 * (s * a) := by
    rw [← Nat.mul_assoc]
    exact Nat.mul_le_mul_right a hp
  have pa := priced ((x.body.map bodySize).getD 0)
  have pb := priced (x.cleanup.join.getD []).length
  simp only [taskLoad, taskSize, Nat.mul_assoc, Nat.mul_add]
  omega

/-- A frame has a load in proportion to its size, in a crowd that is bounded. -/
theorem frameLoad_le (hk : k ≤ s) (hp : price n ≤ 3 * s) (hs : 1 ≤ s) (f : Frame n) :
    f.load k ≤ 14 * s * frameSize f := by
  have priced (a : Nat) : price n * a ≤ 3 * (s * a) := by
    rw [← Nat.mul_assoc]
    exact Nat.mul_le_mul_right a hp
  cases f with
  | body t w token steps c =>
    have pa := priced steps.length
    have pb := priced (c.getD []).length
    simp only [Frame.load, bodyLoad, cleanupLoad, frameSize, Nat.mul_assoc, Nat.mul_add, Nat.mul_one]
    omega
  | handOver t c =>
    have pa := priced (c.getD []).length
    simp only [Frame.load, cleanupLoad, frameSize, Nat.mul_assoc, Nat.mul_add, Nat.mul_one]
    omega
  | cleanup t actions =>
    have pa := priced actions.length
    simp only [Frame.load, frameSize, Nat.mul_assoc, Nat.mul_add, Nat.mul_one]
    omega
  | cancelEach ts =>
    have some : ts.length ≤ s * ts.length := Nat.le_mul_of_pos_left _ hs
    simp only [Frame.load, frameSize, Nat.mul_assoc, Nat.mul_add, Nat.mul_one]
    omega
  | _ =>
    simp only [Frame.load, frameSize]
    omega

/-- A sum is bounded in proportion where each of its terms is. -/
theorem sum_map_le {α : Type} {f g : α → Nat} {c : Nat} (h : ∀ x, f x ≤ c * g x) (xs : List α) :
    (xs.map f).sum ≤ c * (xs.map g).sum := by
  rw [← List.sum_map_mul_left]
  exact List.sum_le_sum fun x _ => h x

theorem size_eq (m : Machine n) :
    m.size = ∑ t, taskSize (m.tasks t) + (m.frames.map frameSize).sum + m.jobs.length + m.waiters.length + 1 := by
  rw [Fin.sum_univ_def]
  rfl

/-- The load of a machine is within the bound for its work. -/
theorem load_le_bound (m : Machine n) : m.load ≤ m.bound := by
  have size := m.size_eq
  have tasks : 2 * n ≤ ∑ t, taskSize (m.tasks t) := by
    calc 2 * n = ∑ _t : Fin n, 2 := by simp [Nat.mul_comm]
      _ ≤ _ := Finset.sum_le_sum fun t _ => Nat.le_add_left _ _
  have hk : m.crowd ≤ m.size := by
    simp only [crowd]
    omega
  have hp : price n ≤ 3 * m.size := by
    simp only [price]
    omega
  have hs : 1 ≤ m.size := by omega
  have loaded : m.tasksLoad m.crowd ≤ 10 * m.size * ∑ t, taskSize (m.tasks t) := by
    rw [Finset.mul_sum]
    exact Finset.sum_le_sum fun t _ => taskLoad_le hk hp hs _
  have stacked : framesLoad m.crowd m.frames ≤ 14 * m.size * (m.frames.map frameSize).sum :=
    sum_map_le (frameLoad_le hk hp hs) m.frames
  have listed : (m.jobs.map Job.load).sum ≤ 6 * m.jobs.length := by
    have each : ∀ j : Job, j.load ≤ 6 * 1 := by rintro (_ | _) <;> simp [Job.load]
    simpa using sum_map_le each m.jobs
  have turning : m.waiters.countP Waiter.turns ≤ m.waiters.length := List.countP_le_length
  have busy : unspent (!m.busy) (2 * m.crowd) ≤ 2 * m.crowd := by cases m.busy <;> simp
  generalize ∑ t, taskSize (m.tasks t) = ts at size tasks loaded
  generalize (m.frames.map frameSize).sum = fs at size stacked
  have square : m.size * ts + m.size * fs + m.size ≤ m.size * m.size := by
    calc m.size * ts + m.size * fs + m.size = m.size * (ts + fs + 1) := by simp only [Nat.mul_add, Nat.mul_one]
      _ ≤ m.size * m.size := Nat.mul_le_mul_left _ (by omega)
  have linear : m.size ≤ m.size * m.size := Nat.le_mul_self _
  simp only [load, stock, sideLoad, bound, Nat.mul_assoc] at loaded stacked ⊢
  omega

/-! ## Coming to rest -/

/-- Where no step can be done, nothing can proceed. -/
theorem isQuiet_of_step (h : m.step = none) : m.isQuiet = true := by
  unfold step at h
  split at h
  · cases h
  · rename_i hf
    split at h
    · cases h
    · rename_i hj
      simp [isQuiet, hf, hj]

/-- Running code comes to its end if it may take as many steps as its load. -/
theorem Reachable.frames_unwindWith (h : Reachable scripts m) {fuel : Nat} (hl : m.load ≤ fuel) :
    (unwindWith fuel m).frames = [] := by
  induction fuel generalizing m with
  | zero =>
    unfold unwindWith
    cases hf : m.frames with
    | nil => rfl
    | cons f fs =>
      have less := h.load_step (step_of_frames hf)
      omega
  | succ fuel ih =>
    unfold unwindWith
    split
    · assumption
    · rename_i f fs hf
      have less := h.load_step (step_of_frames hf)
      exact ih (h.frame hf) (by omega)

/-- Everything is run to a state where nothing can proceed if it may take as many steps as its load. -/
theorem Reachable.isQuiet_settleWith (h : Reachable scripts m) {fuel : Nat} (hl : m.load ≤ fuel) :
    (Machine.settleWith fuel m).isQuiet = true := by
  induction fuel generalizing m with
  | zero =>
    cases hs : m.step with
    | none => exact isQuiet_of_step hs
    | some m' =>
      have less := h.load_step hs
      omega
  | succ fuel ih =>
    unfold Machine.settleWith
    split
    · rename_i hs
      exact isQuiet_of_step hs
    · rename_i m' hs
      have less := h.load_step hs
      exact ih (h.later (Later.snoc (Later.refl m) (.work hs))) (by omega)

/-! ## How often tasks are put in, started and cleaned up -/

/-- The tasks whose cleanups were called, in the order of calling. -/
def cleanups (m : Machine n) : List (Fin n) := m.events.reverse.filterMap Event.cleaned?

/-- An order that is read off the record is as long as there are tasks at most, if it names none of them twice. -/
theorem length_filterMap_le {p : Event n → Option (Fin n)} {e : Fin n → Event n} (hp : ∀ t e', p e' = some t ↔ e' = e t)
    (once : ∀ t, m.events.count (e t) ≤ 1) : (m.events.reverse.filterMap p).length ≤ n := by
  have distinct : (m.events.reverse.filterMap p).Nodup := by
    rw [List.nodup_iff_count]
    intro t
    rw [List.count_filterMap, List.countP_reverse]
    refine Nat.le_trans (Nat.le_of_eq (List.countP_congr fun e' _ => ?_)) (once t)
    simp [hp]
  simpa using distinct.length_le_card

/-- In every run a cleanup is called at most once. -/
theorem Reachable.cleanupCalls_le (h : Reachable scripts m) (t : Fin n) : m.cleanupCalls t ≤ 1 := by
  have ledger := h.ledger t
  have returned := h.bodyCalls t
  have called := h.bodyCalls_le t
  by_cases hc : (m.tasks t).state = .canceled ∧ (scripts t).body.cleanup.isSome = true
  · have count := ledger.canceled hc.1 hc.2
    simp only [hc.1, reduceCtorEq, if_false] at called
    omega
  · have never : m.cleanupCalls t = 0 := by
      refine ledger.uncalled ?_
      by_cases hs : (m.tasks t).state = .canceled
      · exact Or.inr (by simpa [hs] using hc)
      · exact Or.inl hs
    omega

/-- Everything comes to rest, whatever bodies and cleanups do to the tasks of each other. In every run:

1. Code that is running comes to its end, wherever it is; so an operation from outside returns.
2. What can proceed is run to a state where nothing can proceed, also after an operation from outside and after somebody
   has begun to wait.
3. Tasks are put in, bodies are called and cleanups are called no more often than there are tasks. -/
theorem comes_to_rest (h : Reachable scripts m) :
    (m.unwind.frames = [] ∧ (m.frames = [] → ∀ a, (m.act a).frames = [])) ∧
    (m.settle.isQuiet = true ∧
      (m.frames = [] → (∀ a, (m.act a).settle.isQuiet = true) ∧
        ∀ goal, (∀ t, goal ≠ .turn t) → (m.await goal).settle.isQuiet = true)) ∧
    m.entries.length ≤ n ∧ m.starts.length ≤ n ∧ m.cleanups.length ≤ n := by
  have settles {m : Machine n} (h : Reachable scripts m) : m.settle.isQuiet = true :=
    h.isQuiet_settleWith m.load_le_bound
  refine ⟨⟨h.frames_unwindWith m.load_le_bound, fun hf a => ?_⟩,
    ⟨settles h, fun hf => ⟨fun a => settles (h.act hf a), fun goal hg => settles (h.await hf hg)⟩⟩,
    h.length_entries_le, ?_, ?_⟩
  · exact (h.perform hf a).frames_unwindWith (m.perform a).load_le_bound
  · refine length_filterMap_le (e := .bodyCalled) (fun t e => ?_) fun t => ?_
    · cases e <;> simp [Event.started?]
    · exact Nat.le_trans (h.bodyCalls_le t) (by split <;> omega)
  · refine length_filterMap_le (e := .cleanupCalled) (fun t e => ?_) fun t => h.cleanupCalls_le t
    cases e <;> simp [Event.cleaned?]

/-- Two tasks for one document that put in and cancel each other, also when they are canceled themselves. -/
def circle : Fin 2 → Script 2 := fun t =>
  ⟨⟨"file:///a"⟩, ⟨[.act (.enqueue t.rev), .park], some [.cancel t.rev, .enqueue t.rev]⟩⟩

/-- One of them is put in and starts, which puts in the other one and cancels the first. -/
theorem comes_to_rest_circle :
    Reachable circle ((start circle).act (.enqueue 0)) ∧ ((start circle).act (.enqueue 0)).frames = [] ∧
      ((start circle).act (.enqueue 0)).settle.isQuiet = true ∧
      ((start circle).act (.enqueue 0)).settle.entries = [0, 1] ∧
      ((start circle).act (.enqueue 0)).settle.cleanups.length ≤ 2 := by
  have begun := reachable_start circle
  have reachable := begun.act rfl (.enqueue 0)
  exact ⟨reachable, (comes_to_rest begun).1.2 rfl _, (comes_to_rest reachable).2.1.1, by decide +kernel,
    (comes_to_rest reachable.settle).2.2.2.2⟩

end Machine

end ElixirLint.Queue
