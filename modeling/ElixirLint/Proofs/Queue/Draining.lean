import ElixirLint.Proofs.Queue.Looking

/-!
# The drain loop

There is at most one drain loop, and there is one exactly while the queue is busy (`Reachable.drainLoops`). Between
two pieces of work the loop is a job in the list, a frame on the stack, or a waiter whose turn is not over, and
`excess` counts these against the flag.

`Draining` says how the loop, the flags and the queue belong together: the idle flag is the negation of the busy
flag, a queue that is not empty is busy, and the loop waits for the head of the queue and for nothing else.
-/

namespace ElixirLint.Queue

/-- Whether a frame is the drain loop going on. -/
def Frame.drains {n : Nat} : Frame n → Bool
  | .advance => true
  | .next => true
  | _ => false

/-- Whether a waiter is the drain loop waiting for the head of the queue. -/
def Waiter.turns {n : Nat} (x : Waiter n) : Bool :=
  match x.goal with
  | .turn _ => !x.phase.isOver
  | _ => false

namespace Machine

variable {n : Nat} {scripts : Fin n → Script n} {m m' : Machine n}

/-- The number of drain loops: those that wait for a turn and those that go on. -/
def drainLoops (m : Machine n) : Nat :=
  m.jobs.count .drain + m.frames.countP Frame.drains + m.waiters.countP Waiter.turns

/-- The number of drain loops beyond the one that a busy queue has. -/
def excess (m : Machine n) : Int := m.drainLoops - m.busy.toNat

/-- The number of drain loops that are not on the stack, beyond the one that a busy queue has. -/
def spare (m : Machine n) : Int := m.jobs.count .drain + m.waiters.countP Waiter.turns - m.busy.toNat

theorem excess_eq (m : Machine n) : m.excess = m.spare + m.frames.countP Frame.drains := by
  simp only [excess, drainLoops, spare]
  omega

/-! ## The drain loops off the stack after each change -/

/-- The spare loops depend on waiters, jobs and the flag only. -/
theorem spare_of_eq (hw : m'.waiters = m.waiters) (hj : m'.jobs = m.jobs) (hb : m'.busy = m.busy) :
    m'.spare = m.spare := by
  simp only [spare, hw, hj, hb]

@[simp] theorem spare_spawn (j : Job) (m : Machine n) :
    (m.spawn j).spare = m.spare + if j = .drain then 1 else 0 := by
  by_cases hj : j = .drain
  · simp only [spare, spawn, List.count_append, hj, List.count_singleton_self, if_true]
    omega
  · simp [spare, spawn, List.count_append, hj]

/-- A waiter for a turn is a spare loop. -/
theorem spare_addWaiter (goal : Goal n) (m : Machine n) :
    (m.addWaiter goal).spare = m.spare + (Waiter.turns ⟨goal, .fresh⟩).toNat := by
  simp only [spare, addWaiter, List.countP_append]
  cases ht : (Waiter.turns ⟨goal, .fresh⟩) <;> simp [ht]
  omega

/-- Waking nobody's turn is over. -/
@[simp] theorem countP_turns_wake (wanted : Goal n → Bool) (m : Machine n) :
    (m.wake wanted).waiters.countP Waiter.turns = m.waiters.countP Waiter.turns := by
  have hw : Waiter.turns ∘ (fun x : Waiter n =>
      if x.phase == .listening && wanted x.goal then { x with phase := .woken } else x) = Waiter.turns := by
    funext x
    by_cases h : (x.phase == .listening && wanted x.goal) = true
    · have hl : x.phase = .listening := by simpa using (Bool.and_eq_true_iff.mp h).1
      rw [Function.comp_apply, if_pos h]
      simp [Waiter.turns, hl, Phase.isOver]
    · rw [Function.comp_apply, if_neg h]
  simp only [wake, List.countP_map, hw]

@[simp] theorem spare_wake (wanted : Goal n → Bool) (m : Machine n) : (m.wake wanted).spare = m.spare := by
  have hj : ((listeners wanted m.waiters).map Job.poll).count .drain = 0 := by simp [List.count_eq_zero]
  rw [spare, countP_turns_wake]
  simp only [spare, wake, List.count_append, hj, Nat.add_zero]

/-- Changing an element of a list changes a count by what becomes of that element. -/
theorem countP_modify {α : Type} (p : α → Bool) (f : α → α) {xs : List α} {i : Nat} {x : α} (h : xs[i]? = some x) :
    (xs.modify i f).countP p + (p x).toNat = xs.countP p + (p (f x)).toNat := by
  induction xs generalizing i with
  | nil => simp at h
  | cons y ys ih =>
    cases i with
    | zero =>
      obtain rfl : y = x := by simpa using h
      rw [List.modify_zero_cons, List.countP_cons, List.countP_cons]
      cases p y <;> cases p (f y) <;> simp
    | succ i =>
      rw [List.modify_succ_cons, List.countP_cons, List.countP_cons]
      have := ih (i := i) (by simpa using h)
      omega

/-- A waiter that was due a look and goes on to some phase ends its turn if it is over. -/
theorem countP_turns_setPhase {w : Nat} {x : Waiter n} (hx : m.waiters[w]? = some x) (hd : x.phase.isDue = true)
    (p : Phase) :
    (m.setPhase w p).waiters.countP Waiter.turns + (if p.isOver then (Waiter.turns ⟨x.goal, .fresh⟩).toNat else 0) =
      m.waiters.countP Waiter.turns := by
  have hc := countP_modify Waiter.turns (fun y => { y with phase := p }) hx
  have hb : x.turns = Waiter.turns ⟨x.goal, .fresh⟩ := by
    cases hp : x.phase <;> simp [hp, Phase.isDue, Waiter.turns, Phase.isOver] at hd ⊢
  have ha : Waiter.turns { x with phase := p } = (Waiter.turns ⟨x.goal, .fresh⟩ && !p.isOver) := by
    cases hg : x.goal <;> simp [Waiter.turns, Phase.isOver]
  rw [ha, hb] at hc
  simp only [setPhase]
  cases ho : p.isOver <;> simp [ho] at hc ⊢ <;> omega

/-- A waiter that was due a look and goes on to some phase takes the drain loop along if its turn is over. -/
theorem spare_setPhase {w : Nat} {x : Waiter n} (hx : m.waiters[w]? = some x) (hd : x.phase.isDue = true) (p : Phase) :
    (m.setPhase w p).spare = m.spare - if p.isOver then (Waiter.turns ⟨x.goal, .fresh⟩).toNat else 0 := by
  have hc := countP_turns_setPhase hx hd p
  have hj : (m.setPhase w p).jobs = m.jobs := rfl
  have hb : (m.setPhase w p).busy = m.busy := rfl
  rw [spare, spare, hj, hb, ← hc]
  split <;> omega

/-- A queue that turns busy gets the drain loop that it then has. -/
theorem Stirs.spare (h : Stirs m m') : m'.spare = m.spare := by
  induction h with
  | rest hw hj _ _ hb => exact spare_of_eq hw hj hb
  | done => exact spare_wake _ _
  | @begins m hb =>
    rw [spare_spawn, wakeIdle, spare_wake]
    simp [Machine.spare, hb]
  | trans _ _ ih ih' => exact ih'.trans ih

/-- A turn that is over lets the drain loop go on. -/
theorem Leaves.spare {w : Nat} (h : Leaves m w m') {x : Waiter n} (hx : m.waiters[w]? = some x)
    (hd : x.phase.isDue = true) : m'.spare = m.spare := by
  cases h with
  | listens => simp [spare_setPhase hx hd, Phase.isOver]
  | @settles y hy =>
    obtain rfl := Option.some.inj (hx.symm.trans hy)
    cases hg : x.goal <;> simp [settleWaiter, spare_setPhase hx hd, hg, Phase.isOver, Waiter.turns]
  | fails =>
    obtain ⟨goal, phase⟩ := x
    cases goal <;> simp [failWaiter, hx, spare_setPhase hx hd, Phase.isOver, Waiter.turns]

/-- The drain loop waits for its next turn, or ends and the queue is not busy any more. -/
theorem spare_next (m : Machine n) : m.next.spare = m.spare + if m.deque = [] then m.busy.toNat else 1 := by
  unfold next
  split
  · rename_i h
    rw [wakeIdle, spare_wake]
    simp [spare, h]
  · rename_i t ts h
    have ht : Machine.spare { m with turn := some m.waiters.length } = m.spare := rfl
    rw [spare_spawn, spare_addWaiter, ht]
    simp [h, Waiter.turns, Phase.isOver]

/-! ## The drain loops on the stack -/

/-- An operation puts no frame of the loop on the stack. -/
theorem not_drains_calls {a : Action n} {f : Frame n} (hf : f ∈ m.calls a) : f.drains = false := by
  obtain ⟨ts, rfl⟩ | ⟨t, rfl, -, -⟩ := mem_calls hf <;> rfl

theorem countP_drains_calls (a : Action n) (m : Machine n) : (m.calls a).countP Frame.drains = 0 :=
  List.countP_eq_zero.mpr fun _ hf => by simp [not_drains_calls hf]

@[simp] theorem countP_drains_cleanupFrames (t : Fin n) (c : Option (Cleanup n)) :
    (cleanupFrames t c).countP Frame.drains = 0 := by
  refine List.countP_eq_zero.mpr fun f hf => ?_
  obtain ⟨actions, -, rfl⟩ := mem_cleanupFrames hf
  simp [Frame.drains]

/-- The drain loop stays on the stack until its next turn. -/
theorem countP_drains_follow {f : Frame n} (hf : f ≠ .next) (m : Machine n) :
    (m.follow f).countP Frame.drains = f.drains.toNat := by
  match f with
  | .body t w token (.act a :: steps) c | .cleanup t (a :: actions) =>
    simp [follow, Frame.drains, countP_drains_calls]
  | .handOver t c | .cancelEach (t :: ts) =>
    simp only [follow]
    split <;> simp [Frame.drains]
  | .next => exact absurd rfl hf
  | .body _ _ _ [] _ | .body _ _ _ (.park :: _) _ | .body _ _ _ (.dropToken :: _) _ | .body _ _ _ (.check :: _) _
  | .body _ _ _ (.display :: _) _ | .body _ _ _ (.panic :: _) _ | .look _ | .cleanup _ [] | .cancelEach []
  | .resolve _ | .append _ | .note _ | .advance => rfl

/-! ## The drain loops in a run -/

/-- A frame of the drain loop hands the loop on, unless the loop ends. -/
theorem excess_runFrame {f : Frame n} (h : ∀ v, f.serves v = true → 0 < m.debt v) (hn : f ≠ .next) :
    (m.runFrame f).excess = m.excess + f.drains.toNat := by
  have spare : (m.runFrame f).spare = m.spare := by
    cases hl : f.leaver? with
    | none => exact (stirs_runFrame hl hn m).spare
    | some v =>
      obtain ⟨x, hx, hd⟩ := due_of_debt (h v (serves_of_leaver hl))
      obtain ⟨m', hs, hv⟩ := leaves_runFrame hl m
      rw [hv.spare (hs.waiter hx hd) hd, hs.spare]
  rw [excess_eq, excess_eq, spare, (frames_runFrame f m).1, List.countP_append, countP_drains_follow hn]
  omega

/-- The drain loop that takes a turn leaves the stack. -/
theorem excess_next (m : Machine n) : m.next.excess = m.excess + if m.deque = [] then m.busy.toNat else 1 := by
  rw [excess_eq, excess_eq, spare_next, (fields_next m).2.2.2.1]
  omega

/-- A job of the loop that has been taken from the list adds a loop when it is run; no other job does. -/
theorem excess_runJob (j : Job) (m : Machine n) :
    (m.runJob j).excess = m.excess + if j = .drain then 1 else 0 := by
  rw [excess_eq, excess_eq, spare_of_eq (m := m) (by simp) (by simp) (by simp)]
  cases j with
  | drain =>
    obtain ⟨-, hj⟩ | ⟨v, t, -, -, hj⟩ | ⟨v, -, -, hj⟩ := runJob_drain m <;> rw [hj] <;>
      simp [push, List.countP_cons, Frame.drains] <;> omega
  | poll w =>
    have run (t : Fin n) : (m.runTask t w).frames.countP Frame.drains = m.frames.countP Frame.drains := by
      unfold runTask
      split <;> simp [push, emit, setTask, Frame.drains]
    simp only [runJob]
    split
    · simp [run]
    · simp [run]
    · simp [push, Frame.drains]

/-- In every run there is one drain loop while the queue is busy, and none else. -/
theorem Reachable.excess (h : Reachable scripts m) : m.excess = 0 := by
  induction h using Reachable.induct with
  | start => rfl
  | @frame m f fs h hf ih =>
    have hd (v : Nat) (hv : f.serves v = true) : 0 < Machine.debt { m with frames := fs } v := by
      rw [debt_pop hf, h.debt]
      simp [hv]
    have pop : Machine.excess { m with frames := fs } = m.excess - f.drains.toNat := by
      cases hs : f.drains <;> simp [Machine.excess, Machine.drainLoops, hf, hs]
      omega
    by_cases hn : f = .next
    · subst hn
      have hb : m.busy = true := by
        cases hb : m.busy
        · rw [Machine.excess, Machine.drainLoops, hf, hb, List.countP_cons_of_pos rfl] at ih
          simp at ih
          omega
        · rfl
      rw [show runFrame .next { m with frames := fs } = next { m with frames := fs } from rfl, excess_next, pop, ih]
      simp [Frame.drains, hb]
    · rw [excess_runFrame hd hn, pop, ih]
      omega
  | @job m j js _ _ hj ih =>
    have pop : Machine.excess { m with jobs := js } = m.excess - if j = .drain then 1 else 0 := by
      by_cases hs : j = .drain <;> simp [Machine.excess, Machine.drainLoops, hj, hs]
      omega
    rw [excess_runJob, pop, ih]
    omega
  | @perform m a _ _ ih =>
    rw [← ih, excess_eq, excess_eq, (stirs_perform a m).spare]
    simp [countP_drains_calls]
  | @await m goal _ _ hg ih =>
    have ht : Waiter.turns ⟨goal, .fresh⟩ = false := by
      cases goal with
      | turn t => exact absurd rfl (hg t)
      | _ => rfl
    rw [← ih, excess_eq, excess_eq, Machine.await, spare_spawn, spare_addWaiter, ht]
    simp [spawn, addWaiter]

/-- The queue is busy exactly while there is a drain loop, and there is never more than one. -/
theorem Reachable.drainLoops (h : Reachable scripts m) : m.drainLoops = m.busy.toNat := by
  have := h.excess
  simp only [Machine.excess] at this
  omega

/-! ## The loop, the flags and the queue -/

/-- How the drain loop, the flags and the queue belong together. -/
structure Draining (m : Machine n) : Prop where
  idle : m.idle = !m.busy
  busy : m.deque ≠ [] → m.busy = true
  head : ∀ w, m.turn = some w → ∃ t, m.goals[w]? = some (.turn t) ∧ m.deque.head? = some t
  waits : ∀ w x, m.waiters[w]? = some x → x.turns = true → m.turn = some w
  between : ∀ f ∈ m.frames, f.drains = true → m.turn = none
  advancing : .advance ∈ m.frames → m.deque ≠ []

/-- While the drain loop goes on as a frame there is no second one. -/
theorem Reachable.alone_of_frame (h : Reachable scripts m) {f : Frame n} {fs : List (Frame n)} (hf : m.frames = f :: fs)
    (hd : f.drains = true) :
    m.busy = true ∧ (∀ g ∈ fs, g.drains = false) ∧ ∀ x ∈ m.waiters, x.turns = false := by
  have hl := h.drainLoops
  rw [Machine.drainLoops, hf, List.countP_cons_of_pos hd] at hl
  have hb := Bool.toNat_le m.busy
  refine ⟨?_, fun g hg => ?_, fun x hx => ?_⟩
  · cases hm : m.busy
    · rw [hm, Bool.toNat_false] at hl
      omega
    · rfl
  · have hz : fs.countP Frame.drains = 0 := by omega
    simpa using List.countP_eq_zero.mp hz g hg
  · have hz : m.waiters.countP Waiter.turns = 0 := by omega
    simpa using List.countP_eq_zero.mp hz x hx

/-- While the drain loop goes on as a job it waits for no turn. -/
theorem Reachable.alone_of_job (h : Reachable scripts m) {js : List Job} (hj : m.jobs = .drain :: js) :
    ∀ x ∈ m.waiters, x.turns = false := by
  intro x hx
  have hl := h.drainLoops
  rw [Machine.drainLoops, hj, List.count_cons_self] at hl
  have hb := Bool.toNat_le m.busy
  have hz : m.waiters.countP Waiter.turns = 0 := by omega
  simpa using List.countP_eq_zero.mp hz x hx

/-- A turn that is not over was not over before. -/
theorem turns_of_passes {served : Nat → Prop} (h : Passes served m m') {w : Nat} (hw : w < m.waiters.length)
    {x' : Waiter n} (hx' : m'.waiters[w]? = some x') (ht : x'.turns = true) :
    ∃ x, m.waiters[w]? = some x ∧ x.turns = true := by
  have hx : m.waiters[w]? = some m.waiters[w] := List.getElem?_eq_getElem hw
  obtain ⟨y, hy, hg, hc⟩ := h w _ hx
  obtain rfl := Option.some.inj (hy.symm.trans hx')
  refine ⟨_, hx, ?_⟩
  by_contra hn
  cases ho : m.waiters[w].phase.isOver
  · cases hm : m.waiters[w].goal <;> simp [Waiter.turns, hg, hm, ho] at hn ht
  · have hp := hc.eq_of_isOver ho
    exact hn (by simpa [Waiter.turns, hg, hp] using ht)

/-- Only removing the head leads to the drain loop going on. -/
theorem Leads.drains {f g : Frame n} (h : m.Leads f g) (hd : g.drains = true) : f = .advance ∧ g = .next := by
  cases h with
  | next => exact ⟨rfl, rfl⟩
  | call f h =>
    rw [not_drains_calls h] at hd
    cases hd
  | _ => cases hd

/-- No frame leads to the head being removed; only a job does. -/
theorem not_advance_follow (m : Machine n) (f : Frame n) : .advance ∉ m.follow f := by
  intro h
  obtain ⟨-, hn⟩ := (leads_of_mem_follow h).drains rfl
  cases hn

/-- No operation removes the head of the queue. -/
theorem not_advance_calls (m : Machine n) (a : Action n) : .advance ∉ m.calls a := by
  intro h
  cases not_drains_calls h

namespace Draining

/-- Code that leaves the queue, its flags and the turn alone keeps the loop in order. -/
theorem of_eq {served : Nat → Prop} (h : m.Draining) (hq : m'.deque = m.deque) (hb : m'.busy = m.busy)
    (hi : m'.idle = m.idle) (ht : m'.turn = m.turn) (hg : m'.goals = m.goals) (hp : Passes served m m')
    (hf : ∀ f ∈ m'.frames, f.drains = true → f ∈ m.frames) : m'.Draining where
  idle := by rw [hi, hb, h.idle]
  busy := by rw [hq, hb]; exact h.busy
  head := by rw [hq, ht, hg]; exact h.head
  waits w x' hx' hd := by
    have hl := congrArg List.length hg
    simp only [goals, List.length_map] at hl
    obtain ⟨x, hx, hd⟩ := turns_of_passes hp (by have := (List.getElem?_eq_some_iff.mp hx').1; omega) hx' hd
    rw [ht]
    exact h.waits w x hx hd
  between f hm hd := by
    rw [ht]
    exact h.between f (hf f hm hd) hd
  advancing hm := by
    rw [hq]
    exact h.advancing (hf _ hm rfl)

/-- Putting a task in keeps loop, flags and queue together. -/
theorem append {served : Nat → Prop} (h : m.Draining) (t : Fin n) (hp : Passes served m m') (hq : m'.deque = m.deque ++ [t])
    (hb : m'.busy = true) (hi : m'.idle = false) (ht : m'.turn = m.turn) (hg : m'.goals = m.goals)
    (hf : ∀ f ∈ m'.frames, f ∈ m.frames) : m'.Draining where
  idle := by rw [hi, hb]; rfl
  busy _ := hb
  head w hw := by
    rw [ht] at hw
    obtain ⟨u, hu, hd⟩ := h.head w hw
    refine ⟨u, by rw [hg]; exact hu, ?_⟩
    rw [hq, List.head?_append, hd]
    rfl
  waits w x' hx' hd := by
    have hl := congrArg List.length hg
    simp only [goals, List.length_map] at hl
    obtain ⟨x, hx, hd⟩ := turns_of_passes hp (by have := (List.getElem?_eq_some_iff.mp hx').1; omega) hx' hd
    rw [ht]
    exact h.waits w x hx hd
  between f hm hd := by
    rw [ht]
    exact h.between f (hf f hm) hd
  advancing _ := by simp [hq]

/-- The drain loop removes the head while it waits for nothing. -/
theorem advance (h : m.Draining) {fs : List (Frame n)} (hf : m.frames = .advance :: fs) (hb : m.busy = true)
    (hd : ∀ g ∈ fs, g.drains = false) (hw : ∀ x ∈ m.waiters, x.turns = false) :
    (Machine.advance { m with frames := fs }).Draining := by
  have ht : m.turn = none := h.between .advance (by simp [hf]) rfl
  constructor
  · simpa using h.idle
  · simp [hb]
  · simp [ht]
  · intro w x hx hx'
    rw [(fields_advance _).2.2.2.2.2.2.1] at hx
    simp [hw x (List.mem_of_getElem? hx)] at hx'
  · simp [ht]
  · intro hm
    rw [(fields_advance _).2.2.2.2.2.2.2.2.1] at hm
    obtain hm | hm := List.mem_cons.mp hm
    · cases hm
    · cases hd _ hm

/-- The drain loop waits for the head that it takes. -/
theorem next (h : m.Draining) {fs : List (Frame n)} (hf : m.frames = .next :: fs) (hb : m.busy = true)
    (hd : ∀ g ∈ fs, g.drains = false) (hw : ∀ x ∈ m.waiters, x.turns = false) :
    (Machine.next { m with frames := fs }).Draining := by
  have ht : m.turn = none := h.between .next (by simp [hf]) rfl
  unfold Machine.next
  cases hq : m.deque with
  | nil =>
    constructor
    · rfl
    · simp [Machine.wakeIdle, Machine.wake]
    · simp [Machine.wakeIdle, Machine.wake, ht]
    · intro w x hx hx'
      have hp : Passes (fun _ => False) m (wakeIdle { m with frames := fs, busy := false, idle := true }) :=
        .trans (show Passes _ m { m with frames := fs, busy := false, idle := true } from .of_eq rfl) (.wake _ _)
      have hl : w < m.waiters.length := by
        simpa [Machine.wakeIdle, Machine.wake] using (List.getElem?_eq_some_iff.mp hx).1
      obtain ⟨y, hy, hy'⟩ := turns_of_passes hp hl hx hx'
      simp [hw y (List.mem_of_getElem? hy)] at hy'
    · exact fun f _ _ => ht
    · intro hm
      cases hd _ hm
  | cons t ts =>
    constructor
    · exact h.idle
    · exact fun _ => hb
    · intro w hw
      obtain rfl := Option.some.inj hw
      exact ⟨t, by simp [goals, Machine.spawn, Machine.addWaiter], by simp [Machine.spawn, Machine.addWaiter]⟩
    · intro w x hx hx'
      simp only [Machine.spawn, Machine.addWaiter] at hx ⊢
      obtain hl | hl := Nat.lt_or_ge w m.waiters.length
      · rw [List.getElem?_append_left hl] at hx
        simp [hw x (List.mem_of_getElem? hx)] at hx'
      · have hu := (List.getElem?_eq_some_iff.mp hx).1
        simp only [List.length_append, List.length_singleton] at hu
        exact congrArg some (by omega)
    · intro f hm hd'
      simp [hd f hm] at hd'
    · intro hm
      cases hd _ hm

end Draining

/-- A queue into which a task was put is not idle. -/
theorem idle_append (h : m.idle = !m.busy) (t : Fin n) : (m.append t).idle = false := by
  cases hb : m.busy
  · rw [append_of_idle hb]
    rfl
  · rw [append_of_busy hb, show Machine.idle _ = m.idle from rfl, h, hb]
    rfl

/-- The topmost frame keeps the loop in order. -/
theorem Reachable.draining_frame (h : Reachable scripts m) {f : Frame n} {fs : List (Frame n)} (hf : m.frames = f :: fs)
    (ih : m.Draining) : (runFrame f { m with frames := fs }).Draining := by
  by_cases hd : f.drains = true
  · obtain ⟨hb, hn, hw⟩ := h.alone_of_frame hf hd
    cases f with
    | advance => exact ih.advance hf hb hn hw
    | next => exact ih.next hf hb hn hw
    | _ => cases hd
  · have hn : f ≠ .next := by
      rintro rfl
      exact hd rfl
    have hg := goals_runFrame hn { m with frames := fs }
    have ht := (flags_runFrame f { m with frames := fs }).1 hn
    by_cases ha : ∃ t, f = .append t
    · obtain ⟨t, rfl⟩ := ha
      refine ih.append t (h.passes hf) ?_ ?_ (idle_append (m := { m with frames := fs }) ih.idle t) ht hg ?_
      · simp [runFrame]
      · simp [runFrame]
      · simp +contextual [runFrame, hf]
    · have hflags := (flags_runFrame f { m with frames := fs }).2 hn (by simpa using ha)
      refine ih.of_eq ?_ hflags.1 hflags.2 ht hg (h.passes hf) ?_
      · rw [deque_runFrame]
        split
        · exact absurd ⟨_, rfl⟩ ha
        · exact absurd rfl hd
        · rfl
      · intro g hm hgd
        rw [(frames_runFrame _ _).1] at hm
        obtain hm | hm := List.mem_append.mp hm
        · obtain ⟨rfl, -⟩ := (leads_of_mem_follow hm).drains hgd
          exact absurd rfl hd
        · simp [hf, show g ∈ fs from hm]

/-- The next job keeps the loop in order. -/
theorem Reachable.draining_job (h : Reachable scripts m) {j : Job} {js : List Job} (hf : m.frames = [])
    (hj : m.jobs = j :: js) (ih : m.Draining) : (runJob j { m with jobs := js }).Draining := by
  cases j with
  | poll w =>
    have poll (m' : Machine n) (hm : m' = runJob (.poll w) { m with jobs := js }) (ht : m'.turn = m.turn)
        (hd : ∀ f ∈ m'.frames, f.drains = false) : (runJob (.poll w) { m with jobs := js }).Draining := by
      subst hm
      have fields := fields_runJob (.poll w) { m with jobs := js }
      have passes : Passes (fun _ => False) m (runJob (.poll w) { m with jobs := js }) := .of_eq fields.2.2.2.1
      refine ih.of_eq fields.1 fields.2.1 fields.2.2.1 ht ?_ passes ?_
      · exact goals_runJob _ _
      · intro f hm hfd
        simp [hd f hm] at hfd
    obtain ⟨x, t, -, -, -, -, hj⟩ | ⟨hj, -⟩ := runJob_poll (m := { m with jobs := js }) h.body_of_pending w
    · exact poll _ hj.symm rfl (by simp [hf, Frame.drains])
    · exact poll _ hj.symm rfl (by simp [push, hf, Frame.drains])
  | drain =>
    have hw := h.alone_of_job hj
    -- The turn is over, and the loop goes on as a frame that removes the head.
    have ended (m' : Machine n) (hm : m' = runJob .drain { m with jobs := js }) (ht : m'.turn = none)
        (hq : .advance ∈ m'.frames → m.deque ≠ []) : (runJob .drain { m with jobs := js }).Draining := by
      subst hm
      obtain ⟨hdeque, hbusy, hidle, hwaiters, -⟩ := fields_runJob .drain { m with jobs := js }
      constructor
      · rw [hidle, hbusy]
        exact ih.idle
      · rw [hdeque, hbusy]
        exact ih.busy
      · simp [ht]
      · intro v x hx hx'
        rw [hwaiters] at hx
        simp [hw x (List.mem_of_getElem? hx)] at hx'
      · exact fun _ _ _ => ht
      · rw [hdeque]
        exact hq
    have turned {w : Nat} (ht : m.turn = some w) : m.deque ≠ [] := by
      obtain ⟨t, -, hd⟩ := ih.head w ht
      rintro hq
      simp [hq] at hd
    obtain ⟨ht, hj⟩ | ⟨w, t, ht, -, hj⟩ | ⟨w, ht, -, hj⟩ := runJob_drain { m with jobs := js }
    · exact ended _ hj.symm ht (by simp [push, hf])
    · exact ended _ hj.symm rfl (fun _ => turned ht)
    · exact ended _ hj.symm rfl (fun _ => turned ht)

/-- In every run the drain loop, the flags and the queue belong together. -/
theorem Reachable.draining (h : Reachable scripts m) : m.Draining := by
  induction h using Reachable.induct with
  | start => constructor <;> simp [Machine.start]
  | frame h hf ih => exact h.draining_frame hf ih
  | job h hf hj ih => exact h.draining_job hf hj ih
  | @perform m a h hf ih =>
    have passes : Passes (fun _ => False) m (m.perform a) := .stirs (stirs_perform a m)
    refine ih.of_eq (by simp) (by simp) (by simp) (by simp) (by simp) passes ?_
    intro f hm hfd
    rw [(fields_perform a m).2.2.2.2.1, hf, List.append_nil] at hm
    simp [not_drains_calls hm] at hfd
  | @await m goal h hf hg ih =>
    obtain ⟨hi, hb, hh, hw, hn, ha⟩ := ih
    have hx (x : Waiter n) (hx : x ∈ [(⟨goal, .fresh⟩ : Waiter n)]) : x.turns = false := by
      obtain rfl := List.mem_singleton.mp hx
      cases goal with
      | turn t => exact absurd rfl (hg t)
      | _ => rfl
    refine ⟨hi, hb, fun w ht => ?_, fun w x hxw hd => ?_, hn, ha⟩
    · obtain ⟨t, hg, hd⟩ := hh w ht
      have hl := (List.getElem?_eq_some_iff.mp hg).1
      refine ⟨t, ?_, hd⟩
      simp only [goals, Machine.await, addWaiter, spawn, List.map_append] at hg hl ⊢
      rw [List.getElem?_append_left hl]
      exact hg
    · simp only [Machine.await, addWaiter, spawn] at hxw ⊢
      obtain hl | hl := Nat.lt_or_ge w m.waiters.length
      · rw [List.getElem?_append_left hl] at hxw
        exact hw w x hxw hd
      · rw [List.getElem?_append_right hl] at hxw
        simp [hx x (List.mem_of_getElem? hxw)] at hd

end Machine

end ElixirLint.Queue
