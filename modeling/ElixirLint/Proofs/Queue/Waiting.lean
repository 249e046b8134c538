import ElixirLint.Proofs.Queue.Life
import ElixirLint.Proofs.Queue.Stir
import Mathlib.Data.List.Count

/-!
# Waiters and the looks they are due

A waiter that has not looked yet, or that has been woken, is due a look. The look is on its way exactly once: as a job
in the list, or on the stack as the frame of the look or of the body that the look will follow. `debt` is the
difference of the two counts. What is owed beside the stack changes when a waiter looks and at no other time
(`Stirs.owed`, `Leaves.owed`), and the stack loses a look just then (`countP_serves_follow`). So in every run the debt
is zero (`Reachable.debt`): no wake-up is lost, and nobody is woken twice.
-/

namespace ElixirLint.Queue

/-- Whether a waiter in this phase is due a look. -/
def Phase.isDue : Phase → Bool
  | .fresh => true
  | .woken => true
  | _ => false

/-- Whether a frame leads to a look of the waiter. -/
def Frame.serves {n : Nat} (w : Nat) : Frame n → Bool
  | .body _ v _ _ _ => v == w
  | .look v => v == w
  | _ => false

namespace Machine

variable {n : Nat} {scripts : Fin n → Script n} {m m' : Machine n}

/-- The looks that a waiter is due. -/
def due (m : Machine n) (w : Nat) : Nat := (m.waiters[w]?.any (·.phase.isDue)).toNat

/-- The looks of a waiter that are on their way. -/
def looks (m : Machine n) (w : Nat) : Nat := m.jobs.count (.poll w) + m.frames.countP (Frame.serves w)

/-- The looks that a waiter is due and that are not on their way. -/
def debt (m : Machine n) (w : Nat) : Int := m.due w - m.looks w

/-- The looks that a waiter is due and that are not in the list of jobs. -/
def owed (m : Machine n) (w : Nat) : Int := m.due w - m.jobs.count (.poll w)

theorem debt_eq (m : Machine n) (w : Nat) : m.debt w = m.owed w - m.frames.countP (Frame.serves w) := by
  simp only [debt, owed, looks]
  omega

/-! ## What is owed after each change -/

/-- What is owed depends on waiters and jobs only. -/
theorem owed_of_eq (hw : m'.waiters = m.waiters) (hj : m'.jobs = m.jobs) (w : Nat) : m'.owed w = m.owed w := by
  simp only [owed, due, hw, hj]

@[simp] theorem owed_spawn (j : Job) (m : Machine n) (w : Nat) :
    (m.spawn j).owed w = m.owed w - if j = .poll w then 1 else 0 := by
  by_cases hj : j = .poll w
  · simp only [owed, due, spawn, List.count_append, hj, List.count_singleton_self, if_true]
    omega
  · simp [owed, due, spawn, List.count_append, hj]

/-- Somebody who comes to wait is owed a look. -/
theorem owed_addWaiter (goal : Goal n) (m : Machine n) (w : Nat) :
    (m.addWaiter goal).owed w = m.owed w + if m.waiters.length = w then 1 else 0 := by
  obtain hw | rfl | hw := Nat.lt_trichotomy w m.waiters.length
  · simp [owed, due, addWaiter, List.getElem?_append_left hw, Nat.ne_of_gt hw]
  · simp [owed, due, addWaiter, Phase.isDue]
    omega
  · have hn : (m.waiters ++ [⟨goal, .fresh⟩])[w]? = none := by
      simp
      omega
    simp [owed, due, addWaiter, hn, Nat.ne_of_lt hw, List.getElem?_eq_none (Nat.le_of_lt hw)]

/-- A waiter that is due a look and gets past it is not due any more. -/
theorem owed_setPhase {v : Nat} {x : Waiter n} (hx : m.waiters[v]? = some x) (hd : x.phase.isDue = true) {p : Phase}
    (hp : p.isDue = false) (w : Nat) : (m.setPhase v p).owed w = m.owed w - if v = w then 1 else 0 := by
  by_cases hw : v = w
  · subst hw
    have before : m.due v = 1 := by simp [due, hx, hd]
    have after : (m.setPhase v p).due v = 0 := by simp [due, setPhase, hx, hp]
    have jobs : (m.setPhase v p).jobs = m.jobs := rfl
    simp only [owed, before, after, jobs, if_true]
    omega
  · simp [owed, due, setPhase, hw]

/-- No index below the first one is counted. -/
theorem countP_zipIdx_lt {α : Type} (p : α → Bool) (xs : List α) {i k : Nat} (h : i < k) :
    (xs.zipIdx k).countP (fun x => p x.1 && x.2 == i) = 0 := by
  rw [List.countP_eq_zero]
  rintro ⟨x, j⟩ hx
  have hj := List.le_snd_of_mem_zipIdx hx
  simp only [Bool.and_eq_true, beq_iff_eq, not_and]
  omega

/-- In a numbered list the item with a number is found once. -/
theorem countP_zipIdx {α : Type} (p : α → Bool) (xs : List α) (i k : Nat) :
    (xs.zipIdx k).countP (fun x => p x.1 && x.2 == k + i) = (xs[i]?.any p).toNat := by
  induction xs generalizing i k with
  | nil => rfl
  | cons x xs ih =>
    cases i with
    | zero =>
      rw [List.zipIdx_cons, List.countP_cons, Nat.add_zero, countP_zipIdx_lt p xs (Nat.lt_succ_self k)]
      cases hp : p x <;> simp [hp]
    | succ i =>
      rw [List.zipIdx_cons, List.countP_cons, List.getElem?_cons_succ, ← ih i (k + 1),
        Nat.add_right_comm k 1 i]
      simp [Nat.add_assoc]

/-- Every listener is listed once. -/
theorem count_listeners (wanted : Goal n → Bool) (ws : List (Waiter n)) (w : Nat) :
    (listeners wanted ws).count w = (ws[w]?.any fun x => x.phase == .listening && wanted x.goal).toNat := by
  rw [← countP_zipIdx _ ws w 0, listeners, List.count_eq_countP, List.countP_map, List.countP_filter]
  simp [Bool.and_comm]

/-- Those who are woken get a job each. -/
@[simp] theorem owed_wake (wanted : Goal n → Bool) (m : Machine n) (w : Nat) : (m.wake wanted).owed w = m.owed w := by
  have hc : ((listeners wanted m.waiters).map Job.poll).count (.poll w) = (listeners wanted m.waiters).count w :=
    List.count_map_of_injective _ _ (fun _ _ h => Job.poll.inj h) w
  rw [count_listeners] at hc
  simp only [owed, due, wake, List.count_append, hc, List.getElem?_map]
  cases hx : m.waiters[w]? with
  | none => simp
  | some x =>
    by_cases hl : x.phase = .listening
    · cases hw : wanted x.goal
      · simp [hl, hw]
      · simp only [hl, hw, Option.map_some, Option.any_some, Phase.isDue, BEq.rfl, Bool.and_self, if_true,
          Bool.toNat_true, Bool.toNat_false, Int.natCast_add]
        omega
    · simp [hl, beq_eq_false_iff_ne.mpr hl]

/-- As long as nobody looks, nothing more is owed. -/
theorem Stirs.owed (h : Stirs m m') (w : Nat) : m'.owed w = m.owed w := by
  induction h with
  | rest hw hj => exact owed_of_eq hw hj w
  | done => exact owed_wake _ _ w
  | @begins m =>
    have flags : Machine.owed { m with busy := true, idle := false } w = m.owed w := rfl
    rw [owed_spawn, wakeIdle, owed_wake, flags]
    simp
  | trans _ _ ih ih' => exact ih'.trans ih

/-- A waiter that is due a look stays so as long as nobody looks. -/
theorem Stirs.waiter (h : Stirs m m') {w : Nat} {x : Waiter n} (hx : m.waiters[w]? = some x)
    (hd : x.phase.isDue = true) : m'.waiters[w]? = some x := by
  have woken (wanted : Goal n → Bool) (m : Machine n) (hx : m.waiters[w]? = some x) :
      (m.wake wanted).waiters[w]? = some x := by
    have hl : x.phase ≠ .listening := by
      rintro hl
      simp [hl, Phase.isDue] at hd
    simp [wake, hx, hl]
  induction h with
  | rest hw => rw [hw, hx]
  | done => exact woken _ _ hx
  | @begins m => exact woken (fun g => g == Goal.idle) { m with busy := true, idle := false } hx
  | trans _ _ ih ih' => exact ih' (ih hx)

/-- A look pays what is owed to its waiter. -/
theorem Leaves.owed {v : Nat} (h : Leaves m v m') {x : Waiter n} (hx : m.waiters[v]? = some x)
    (hd : x.phase.isDue = true) (w : Nat) : m'.owed w = m.owed w - if v = w then 1 else 0 := by
  cases h with
  | listens => exact owed_setPhase hx hd rfl w
  | @settles y => cases y.goal <;> simp [settleWaiter, owed_setPhase hx hd (p := .settled) rfl]
  | fails =>
    unfold failWaiter
    split <;> simp [owed_setPhase hx hd (p := .failed) rfl]

/-- The drain loop's new turn is due a look, and its job is in the list. -/
theorem owed_next (m : Machine n) (w : Nat) : m.next.owed w = m.owed w := by
  unfold next
  split
  · rw [wakeIdle, owed_wake]
    rfl
  · have hw : Machine.owed { m with turn := some m.waiters.length } w = m.owed w := rfl
    rw [owed_spawn, owed_addWaiter, hw]
    by_cases hl : m.waiters.length = w <;> simp [hl]

/-! ## The looks on the stack -/

/-- The frames of an operation serve nobody. -/
theorem not_serves_calls {a : Action n} {f : Frame n} (hf : f ∈ m.calls a) (w : Nat) : f.serves w = false := by
  obtain ⟨ts, rfl⟩ | ⟨t, rfl, -, -⟩ := mem_calls hf <;> rfl

theorem countP_serves_calls (a : Action n) (m : Machine n) (w : Nat) : (m.calls a).countP (Frame.serves w) = 0 :=
  List.countP_eq_zero.mpr fun _ hf => by simp [not_serves_calls hf]

@[simp] theorem countP_serves_cleanupFrames (t : Fin n) (c : Option (Cleanup n)) (w : Nat) :
    (cleanupFrames t c).countP (Frame.serves w) = 0 := by
  refine List.countP_eq_zero.mpr fun f hf => ?_
  obtain ⟨actions, -, rfl⟩ := mem_cleanupFrames hf
  simp [Frame.serves]

/-- A frame with which a waiter looks or gives up serves that waiter. -/
theorem serves_of_leaver {f : Frame n} {w : Nat} (h : f.leaver? = some w) : f.serves w = true := by
  match f with
  | .look v =>
    obtain rfl := Option.some.inj h
    simp [Frame.serves]
  | .body t v token (.panic :: steps) c =>
    obtain rfl := Option.some.inj h
    simp [Frame.serves]
  | .body _ _ _ [] _ | .body _ _ _ (.park :: _) _ | .body _ _ _ (.dropToken :: _) _ | .body _ _ _ (.check :: _) _
  | .body _ _ _ (.display :: _) _ | .body _ _ _ (.act _ :: _) _ | .handOver .. | .cleanup .. | .cancelEach _
  | .resolve _ | .append _ | .note _ | .advance | .next => cases h

/-- A frame hands on the look it leads to, unless the waiter looks or gives up. -/
theorem countP_serves_follow (f : Frame n) (m : Machine n) (w : Nat) :
    (m.follow f).countP (Frame.serves w) + (if f.leaver? = some w then 1 else 0) = if f.serves w then 1 else 0 := by
  match f with
  | .body t v _ [] c => by_cases hv : v = w <;> simp [follow, Frame.serves, Frame.leaver?, hv]
  | .body t v token (.act a :: steps) c =>
    by_cases hv : v = w <;> simp [follow, Frame.serves, Frame.leaver?, countP_serves_calls, hv]
  | .body t v token (.panic :: steps) c | .look v =>
    by_cases hv : v = w <;> simp [follow, Frame.serves, Frame.leaver?, hv]
  | .body t v token (.park :: steps) c | .body t v token (.dropToken :: steps) c
  | .body t v token (.check :: steps) c | .body t v token (.display :: steps) c =>
    by_cases hv : v = w <;> simp [follow, Frame.serves, Frame.leaver?, hv]
  | .handOver t c =>
    simp only [follow]
    split <;> simp [Frame.serves, Frame.leaver?]
  | .cleanup t (a :: actions) => simp [follow, Frame.serves, Frame.leaver?, countP_serves_calls]
  | .cancelEach (t :: ts) =>
    simp only [follow]
    split <;> simp [Frame.serves, Frame.leaver?]
  | .cleanup t [] | .cancelEach [] | .resolve _ | .append _ | .note _ | .advance | .next =>
    simp [follow, Frame.serves, Frame.leaver?]

/-! ## The debt in a run -/

/-- A waiter with a debt is known, and due a look. -/
theorem due_of_debt {w : Nat} (h : 0 < m.debt w) : ∃ x, m.waiters[w]? = some x ∧ x.phase.isDue = true := by
  cases hx : m.waiters[w]? with
  | none =>
    simp [debt, due, hx] at h
    omega
  | some x =>
    refine ⟨x, rfl, ?_⟩
    by_contra hd
    rw [Bool.not_eq_true] at hd
    simp only [debt, due, hx, Option.any_some, hd, Bool.toNat_false] at h
    omega

/-- A frame pays the debt of the waiter it serves. -/
theorem debt_runFrame {f : Frame n} (h : ∀ v, f.serves v = true → 0 < m.debt v) (w : Nat) :
    (m.runFrame f).debt w = m.debt w - if f.serves w then 1 else 0 := by
  have owed : (m.runFrame f).owed w = m.owed w - if f.leaver? = some w then 1 else 0 := by
    cases hl : f.leaver? with
    | none =>
      by_cases hf : f = .next
      · subst hf
        simpa [runFrame] using owed_next m w
      · simpa using (stirs_runFrame hl hf m).owed w
    | some v =>
      obtain ⟨x, hx, hd⟩ := due_of_debt (h v (serves_of_leaver hl))
      obtain ⟨m', hs, hv⟩ := leaves_runFrame hl m
      rw [hv.owed (hs.waiter hx hd) hd w, hs.owed w]
      simp
  have frames := countP_serves_follow f m w
  rw [debt_eq, debt_eq, owed, (frames_runFrame f m).1, List.countP_append]
  by_cases hl : f.leaver? = some w <;> by_cases hs : f.serves w = true <;>
    simp only [hl, hs, if_true, if_false, Bool.false_eq_true] at frames ⊢ <;> omega

/-- A job puts on the stack what serves the waiter that it is for. -/
theorem debt_runJob {b : Fin n → Body n} (hb : ∀ t, (m.tasks t).state = .pending → (m.tasks t).body = some (b t))
    (j : Job) (w : Nat) : (m.runJob j).debt w = m.debt w - if j = .poll w then 1 else 0 := by
  rw [debt_eq, debt_eq, owed_of_eq (m := m) (by simp) (by simp) w]
  cases j with
  | drain =>
    obtain ⟨-, hj⟩ | ⟨v, t, -, -, hj⟩ | ⟨v, -, -, hj⟩ := runJob_drain m <;> rw [hj] <;> simp [push, Frame.serves]
  | poll v =>
    obtain ⟨x, t, -, -, -, -, hj⟩ | ⟨hj, -⟩ := runJob_poll hb v <;> rw [hj]
    · by_cases hv : v = w <;> simp [Frame.serves, hv]
      omega
    · by_cases hv : v = w <;> simp [push, Frame.serves, hv]
      omega

/-- A frame taken from the stack is in debt to the waiter that it serves. -/
theorem debt_pop {f : Frame n} {fs : List (Frame n)} (hf : m.frames = f :: fs) (w : Nat) :
    debt { m with frames := fs } w = m.debt w + if f.serves w then 1 else 0 := by
  cases hs : f.serves w <;> simp [debt, due, looks, hf, hs]
  omega

/-- A job taken from the list is in debt to the waiter that it is for. -/
theorem debt_popJob {j : Job} {js : List Job} (hj : m.jobs = j :: js) (w : Nat) :
    debt { m with jobs := js } w = m.debt w + if j = .poll w then 1 else 0 := by
  by_cases h : j = .poll w <;> simp [debt, due, looks, hj, h]
  omega

/-- In every run the looks that are due are on their way. -/
theorem Reachable.debt (h : Reachable scripts m) (w : Nat) : m.debt w = 0 := by
  induction h using Reachable.induct generalizing w with
  | start => rfl
  | @frame m f fs _ hf ih =>
    have pop := debt_pop hf
    rw [debt_runFrame, pop, ih]
    · omega
    · intro v hv
      rw [pop, ih]
      simp [hv]
  | @job m j js h _ hj ih =>
    rw [debt_runJob (m := { m with jobs := js }) h.body_of_pending, debt_popJob hj, ih]
    omega
  | @perform m a _ _ ih =>
    rw [← ih w, debt_eq, debt_eq, (stirs_perform a m).owed w]
    simp [countP_serves_calls]
  | @await m goal _ _ _ ih =>
    rw [← ih w, debt_eq, debt_eq, Machine.await, owed_spawn, owed_addWaiter]
    by_cases hl : m.waiters.length = w <;> simp [hl, spawn, addWaiter]

end Machine

end ElixirLint.Queue
