import ElixirLint.Proofs.Queue.Waiting

/-!
# What the phase of a waiter says

`Informed`: a waiter that listens has not reached its goal, and a waiter that has settled waited for a task that is
done. So somebody who listens in a state where nothing can proceed waits in vain for good reason. `Reachable.started`:
a waiter that runs a task itself has started it before its first look, or has found it started or canceled.
-/

namespace ElixirLint.Queue.Machine

variable {n : Nat} {scripts : Fin n → Script n} {m m' : Machine n}

attribute [local simp] setTask setParked emit push spawn ret

/-! ## Listening and settled waiters -/

/-- Those who listen have not reached their goal, and those who have settled have. -/
structure Informed (m : Machine n) : Prop where
  listening : ∀ x ∈ m.waiters, x.phase = .listening → m.reached x.goal = false
  settled : ∀ x ∈ m.waiters, ∀ t, x.phase = .settled → x.goal.task? = some t → (m.tasks t).done = true

theorem reached_wake (wanted : Goal n → Bool) (m : Machine n) (goal : Goal n) :
    (m.wake wanted).reached goal = m.reached goal := by
  cases goal <;> rfl

namespace Informed

/-- What those who wait know depends on their phases, on the completion marks and on whether the queue is idle. -/
theorem of_eq (h : m.Informed) (hw : m'.waiters = m.waiters) (hd : ∀ t, (m'.tasks t).done = (m.tasks t).done)
    (hi : m'.idle = m.idle) : m'.Informed := by
  have hr (goal : Goal n) : m'.reached goal = m.reached goal := by
    cases goal <;> simp [reached, hd, hi]
  constructor
  · simpa only [hw, hr] using h.listening
  · simpa only [hw, hd] using h.settled

/-- Waking those for whom something may have changed keeps everybody informed. -/
theorem wake (wanted : Goal n → Bool) (hw : m'.waiters = m.waiters)
    (hr : ∀ goal, wanted goal = false → m'.reached goal = m.reached goal)
    (hd : ∀ t, (m.tasks t).done = true → (m'.tasks t).done = true) (h : m.Informed) :
    (m'.wake wanted).Informed := by
  constructor
  · intro x hx hl
    simp only [Machine.wake, hw, List.mem_map] at hx
    obtain ⟨y, hy, rfl⟩ := hx
    split at hl
    · simp at hl
    · rename_i hn
      have hq : wanted y.goal = false := by simpa [hl] using hn
      rw [if_neg hn, reached_wake, hr _ hq]
      exact h.listening y hy hl
  · intro x hx t hs ht
    simp only [Machine.wake, hw, List.mem_map] at hx
    obtain ⟨y, hy, rfl⟩ := hx
    split at hs
    · simp at hs
    · rename_i hn
      rw [if_neg hn] at ht
      exact hd t (h.settled y hy t hs ht)

/-- A task that becomes done wakes those who listen for it. -/
theorem wakeTask (h : m.Informed) (t : Fin n) {x : Task (Body n) (Cleanup n)} (hx : x.done = true) :
    ((m.setTask t x).wakeTask t).Informed := by
  have hw : (m.setTask t x).waiters = m.waiters := rfl
  refine wake _ hw ?_ ?_ h
  · intro goal hg
    have hne (u : Fin n) (hu : goal.task? = some u) : u ≠ t := by
      rintro rfl
      simp [hu] at hg
    cases goal with
    | idle => rfl
    | turn u => simp [reached, hne u rfl]
    | run u => simp [reached, hne u rfl]
    | completion u => simp [reached, hne u rfl]
  · intro u hu
    by_cases he : u = t
    · simp [he, hx]
    · simpa [he] using hu

/-- When the queue turns idle, those who listen for that are woken and stay informed. -/
theorem wakeIdle (h : m.Informed) (hw : m'.waiters = m.waiters) (ht : m'.tasks = m.tasks) : m'.wakeIdle.Informed := by
  refine wake _ hw ?_ (fun t hd => by rw [ht]; exact hd) h
  intro goal hg
  cases goal with
  | idle => simp at hg
  | _ => simp [reached, ht]

/-- A waiter may pass to a phase that fits what it has seen. -/
theorem setPhase (h : m.Informed) (w : Nat) (p : Phase)
    (hl : p = .listening → ∀ x, m.waiters[w]? = some x → m.reached x.goal = false)
    (hs : p = .settled → ∀ x t, m.waiters[w]? = some x → x.goal.task? = some t → (m.tasks t).done = true) :
    (m.setPhase w p).Informed := by
  have hr (goal : Goal n) : (m.setPhase w p).reached goal = m.reached goal := by cases goal <;> rfl
  -- A waiter of the new list is an old one, or the one whose phase is set.
  have hx (x : Waiter n) (hx : x ∈ (m.setPhase w p).waiters) :
      x ∈ m.waiters ∨ ∃ y, m.waiters[w]? = some y ∧ x = { y with phase := p } := by
    obtain ⟨v, hv⟩ := List.mem_iff_getElem?.mp hx
    simp only [Machine.setPhase, List.getElem?_modify] at hv
    by_cases hw : w = v
    · subst hw
      obtain ⟨y, hy, rfl⟩ := Option.map_eq_some_iff.mp hv
      exact Or.inr ⟨y, hy, by simp⟩
    · simp only [hw, if_false, id_map'] at hv
      exact Or.inl (List.mem_of_getElem? (by simpa using hv))
  constructor
  · intro x hm hp
    rw [hr]
    obtain hm | ⟨y, hy, rfl⟩ := hx x hm
    · exact h.listening x hm hp
    · exact hl hp y hy
  · intro x hm t hp ht
    obtain hm | ⟨y, hy, rfl⟩ := hx x hm
    · exact h.settled x hm t hp ht
    · exact hs hp y t hy ht

/-- Somebody who comes to wait has not listened yet. -/
theorem addWaiter (h : m.Informed) (goal : Goal n) : (m.addWaiter goal).Informed := by
  have hr (goal' : Goal n) : (m.addWaiter goal).reached goal' = m.reached goal' := by cases goal' <;> rfl
  constructor
  · intro x hx hp
    rw [hr]
    simp only [Machine.addWaiter, List.mem_append, List.mem_singleton] at hx
    obtain hx | rfl := hx
    · exact h.listening x hx hp
    · simp at hp
  · intro x hx t hp ht
    simp only [Machine.addWaiter, List.mem_append, List.mem_singleton] at hx
    obtain hx | rfl := hx
    · exact h.settled x hx t hp ht
    · simp at hp

/-- As long as nobody looks, everybody stays informed. -/
theorem stirs (h : m.Informed) (hs : Stirs m m') : m'.Informed := by
  induction hs with
  | rest hw _ hd hi => exact h.of_eq hw hd hi
  | done hx => exact h.wakeTask _ hx
  | @begins m =>
    have woken : (Machine.wakeIdle { m with busy := true, idle := false }).Informed := h.wakeIdle rfl rfl
    exact woken.of_eq rfl (fun _ => rfl) rfl
  | trans _ _ ih ih' => exact ih' (ih h)

/-- Whoever looks or gives up is informed. -/
theorem leaves (h : m.Informed) {w : Nat} (hl : Leaves m w m') : m'.Informed := by
  cases hl with
  | listens hr => exact h.setPhase w .listening (fun _ x hx => hr x hx) (by simp)
  | @settles x hx hr =>
    refine (h.setPhase w .settled (by simp) fun _ y t hy ht => ?_).of_eq (by simp) (by simp [Machine.setPhase])
      (by simp [Machine.setPhase])
    obtain rfl := Option.some.inj (hx.symm.trans hy)
    cases hg : x.goal <;> simp_all [reached, Goal.task?]
  | fails =>
    exact (h.setPhase w .failed (by simp) (by simp)).of_eq (by simp) (by simp [Machine.setPhase])
      (by simp [Machine.setPhase])

/-- The loop keeps everybody informed: when it ends it wakes those who wait for that. -/
theorem next (h : m.Informed) : m.next.Informed := by
  unfold Machine.next
  split
  · exact h.wakeIdle rfl rfl
  · have turned : Informed { m with turn := some m.waiters.length } := h.of_eq rfl (fun _ => rfl) rfl
    exact (turned.addWaiter _).of_eq rfl (fun _ => rfl) rfl

/-- A frame keeps everybody informed. -/
theorem runFrame (h : m.Informed) (f : Frame n) : (m.runFrame f).Informed := by
  cases hl : f.leaver? with
  | none =>
    by_cases hf : f = .next
    · subst hf
      exact h.next
    · exact h.stirs (stirs_runFrame hl hf m)
  | some w =>
    obtain ⟨m', hs, hw⟩ := leaves_runFrame hl m
    exact (h.stirs hs).leaves hw

/-- A job keeps everybody informed. -/
theorem runJob (h : m.Informed) (j : Job) : (m.runJob j).Informed := by
  have started (t : Fin n) (w : Nat) : (m.runTask t w).Informed := by
    refine h.of_eq ?_ (fun u => ?_) ?_
    · unfold Machine.runTask
      split <;> rfl
    · rw [tasks_runTask]
      by_cases hu : u = t
      · simp [hu]
      · simp [hu]
    · unfold Machine.runTask
      split <;> rfl
  cases j with
  | drain =>
    obtain ⟨-, hj⟩ | ⟨w, t, -, -, hj⟩ | ⟨w, -, -, hj⟩ := runJob_drain m <;> rw [hj] <;>
      exact h.of_eq rfl (fun _ => rfl) rfl
  | poll w =>
    simp only [Machine.runJob]
    split
    · exact started _ w
    · exact started _ w
    · exact h.of_eq rfl (fun _ => rfl) rfl

end Informed

/-- In every run, those who listen have not reached their goal, and those who have settled have. -/
theorem Reachable.informed (h : Reachable scripts m) : m.Informed := by
  induction h using Reachable.induct with
  | start => exact ⟨by simp [Machine.start], by simp [Machine.start]⟩
  | @frame m f fs _ _ ih =>
    have popped : Informed { m with frames := fs } := ih.of_eq rfl (fun _ => rfl) rfl
    exact popped.runFrame f
  | @job m j js _ _ _ ih =>
    have popped : Informed { m with jobs := js } := ih.of_eq rfl (fun _ => rfl) rfl
    exact popped.runJob j
  | perform a _ _ ih => exact ih.stirs (stirs_perform a _)
  | await goal _ _ _ ih => exact (ih.addWaiter goal).of_eq rfl (fun _ => rfl) rfl

/-! ## How phases change -/

end Machine

/-- Whether a waiter in this phase is through with waiting. -/
def Phase.isOver : Phase → Bool
  | .settled => true
  | .failed => true
  | _ => false

/-- What a piece of running code may make of the phase of a waiter, which it may serve. -/
inductive Phase.Change (served : Prop) : Phase → Phase → Prop
  | none (p : Phase) : Change served p p
  | wake : Change served .listening .woken
  | pass {p : Phase} (h : served) (hp : p.isOver = false) (q : Phase) : Change served p q

namespace Phase.Change

variable {served : Prop} {p q r : Phase}

theorem trans (h : Change served p q) (h' : Change served q r) : Change served p r := by
  cases h with
  | none => exact h'
  | wake =>
    cases h' with
    | none => exact .wake
    | pass hs _ => exact .pass hs rfl r
  | pass hs hp => exact .pass hs hp r

/-- Who is through with waiting stays as he is. -/
theorem eq_of_isOver (h : Change served p q) (hp : p.isOver = true) : q = p := by
  cases h with
  | none => rfl
  | wake => cases hp
  | pass _ hn => simp [hp] at hn

/-- Who has not looked yet looks only when he is served. -/
theorem served_of_fresh (h : Change served .fresh q) (hq : q ≠ .fresh) : served := by
  cases h with
  | none => exact absurd rfl hq
  | pass hs => exact hs

end Phase.Change

namespace Machine

variable {n : Nat} {scripts : Fin n → Script n} {m m' m'' : Machine n}

attribute [local simp] setTask setParked emit push spawn ret

/-- Every waiter goes on waiting for the same goal, and its phase becomes what a piece of code may make of it that
serves some waiters. -/
def Passes (served : Nat → Prop) (m m' : Machine n) : Prop :=
  ∀ w x, m.waiters[w]? = some x →
    ∃ x', m'.waiters[w]? = some x' ∧ x'.goal = x.goal ∧ Phase.Change (served w) x.phase x'.phase

namespace Passes

variable {served : Nat → Prop}

/-- Waiters that are left alone pass. -/
theorem of_eq (h : m'.waiters = m.waiters) : Passes served m m' :=
  fun _ x hx => ⟨x, by rw [h]; exact hx, rfl, .none _⟩

theorem trans (h : Passes served m m') (h' : Passes served m' m'') : Passes served m m'' := by
  intro w x hx
  obtain ⟨x', hx', hg, hc⟩ := h w x hx
  obtain ⟨x'', hx'', hg', hc'⟩ := h' w x' hx'
  exact ⟨x'', hx'', hg'.trans hg, hc.trans hc'⟩

/-- Waking may make listeners look again. -/
theorem wake (wanted : Goal n → Bool) (m : Machine n) : Passes served m (m.wake wanted) := by
  intro w x hx
  refine ⟨if x.phase == .listening && wanted x.goal then { x with phase := .woken } else x, ?_, ?_, ?_⟩
  · simp only [Machine.wake, List.getElem?_map, hx, Option.map_some]
  · split <;> rfl
  · split
    · rename_i h
      have hl : x.phase = .listening := by simpa using (Bool.and_eq_true_iff.mp h).1
      rw [hl]
      exact .wake
    · exact .none _

/-- Those who waited before somebody else came are left alone. -/
theorem addWaiter (goal : Goal n) (m : Machine n) : Passes served m (m.addWaiter goal) := by
  intro w x hx
  exact ⟨x, (List.getElem?_append_left (List.getElem?_eq_some_iff.mp hx).1).trans hx, rfl, .none _⟩

/-- A waiter that is due a look is served by going on to any phase. -/
theorem setPhase {v : Nat} (hv : served v) {y : Waiter n} (hy : m.waiters[v]? = some y) (hd : y.phase.isDue = true)
    (p : Phase) : Passes served m (m.setPhase v p) := by
  intro w x hx
  by_cases hw : v = w
  · subst hw
    obtain rfl := Option.some.inj (hy.symm.trans hx)
    refine ⟨{ y with phase := p }, by simp [Machine.setPhase, hy], rfl, .pass hv ?_ p⟩
    cases hp : y.phase <;> simp [hp, Phase.isDue, Phase.isOver] at hd ⊢
  · exact ⟨x, by simpa [Machine.setPhase, hw] using hx, rfl, .none _⟩

/-- As long as nobody looks, waiters are at most woken. -/
theorem stirs (h : Stirs m m') : Passes served m m' := by
  induction h with
  | rest hw => exact of_eq hw
  | done => exact wake _ (setTask ..)
  | @begins m => exact (wake (fun g => g == Goal.idle) { m with busy := true, idle := false }).trans (of_eq rfl)
  | trans _ _ ih ih' => exact ih.trans ih'

/-- A waiter that looks or gives up changes its phase, if it is served. -/
theorem leaves {v : Nat} (h : Leaves m v m') (hv : served v) {y : Waiter n} (hy : m.waiters[v]? = some y)
    (hd : y.phase.isDue = true) : Passes served m m' := by
  cases h with
  | listens => exact setPhase hv hy hd .listening
  | settles => exact (setPhase hv hy hd .settled).trans (of_eq (by simp))
  | fails => exact (setPhase hv hy hd .failed).trans (of_eq (by simp))

/-- The loop wakes waiters or adds one. -/
theorem next (m : Machine n) : Passes served m m.next := by
  unfold Machine.next
  split
  · exact wake _ { m with busy := false, idle := true }
  · exact addWaiter _ { m with turn := some m.waiters.length }

/-- A frame changes the phases of those waiters only that it serves, and wakes others. -/
theorem runFrame {f : Frame n} (h : ∀ v, f.serves v = true → 0 < m.debt v) :
    Passes (fun v => f.serves v = true) m (m.runFrame f) := by
  cases hl : f.leaver? with
  | none =>
    by_cases hf : f = .next
    · subst hf
      exact next m
    · exact stirs (stirs_runFrame hl hf m)
  | some v =>
    have hv := serves_of_leaver hl
    obtain ⟨x, hx, hd⟩ := due_of_debt (h v hv)
    obtain ⟨m', hs, hw⟩ := leaves_runFrame hl m
    exact (stirs hs).trans (leaves hw hv (hs.waiter hx hd) hd)

end Passes

/-- In a run the topmost frame may change the phases of the waiters that it serves, and wake others. -/
theorem Reachable.passes {f : Frame n} {fs : List (Frame n)} (h : Reachable scripts m) (hf : m.frames = f :: fs) :
    Passes (fun v => f.serves v = true) m (runFrame f { m with frames := fs }) := by
  have hd (v : Nat) (hv : f.serves v = true) : 0 < Machine.debt { m with frames := fs } v := by
    rw [debt_pop hf, h.debt]
    simp [hv]
  have popped : Passes (fun v => f.serves v = true) m { m with frames := fs } := .of_eq rfl
  exact popped.trans (.runFrame hd)

/-! ## Waiters that have begun -/

/-- The waiter has looked. -/
def Looked (m : Machine n) (w : Nat) : Prop := ∃ x, m.waiters[w]? = some x ∧ x.phase ≠ .fresh

/-- The waiter has looked, or is about to run the body of its task or to look. -/
def Begun (m : Machine n) (w : Nat) : Prop := m.Looked w ∨ ∃ f ∈ m.frames, f.serves w = true

/-- A known waiter that has looked had looked before, or has been served. -/
theorem Looked.of_passes {served : Nat → Prop} (h : Passes served m m') {w : Nat} (hw : w < m.waiters.length)
    (hl : m'.Looked w) : m.Looked w ∨ served w := by
  obtain ⟨x', hx', hp⟩ := hl
  have hx : m.waiters[w]? = some m.waiters[w] := List.getElem?_eq_getElem hw
  obtain ⟨y, hy, -, hc⟩ := h w _ hx
  obtain rfl := Option.some.inj (hy.symm.trans hx')
  by_cases hn : m.waiters[w].phase = .fresh
  · rw [hn] at hc
    exact Or.inr (hc.served_of_fresh hp)
  · exact Or.inl ⟨_, hx, hn⟩

/-- Somebody who comes to wait has not looked. -/
theorem Looked.of_addWaiter {goal : Goal n} {w : Nat} (h : (m.addWaiter goal).Looked w) : m.Looked w := by
  obtain ⟨x, hx, hp⟩ := h
  obtain hw | hw := Nat.lt_or_ge w m.waiters.length
  · exact ⟨x, (List.getElem?_append_left hw).symm.trans hx, hp⟩
  · rw [addWaiter, List.getElem?_append_right hw] at hx
    have hm := List.mem_singleton.mp (List.mem_of_getElem? hx)
    exact absurd (congrArg Waiter.phase hm) hp

/-- A frame leads to no look of another waiter. -/
theorem Leads.serves {f g : Frame n} (h : m.Leads f g) {w : Nat} (hs : g.serves w = true) : f.serves w = true := by
  cases h with
  | body | look => exact hs
  | call f h =>
    rw [not_serves_calls h] at hs
    cases hs
  | _ => cases hs

/-- A waiter that running code adds has not looked yet. -/
theorem fresh_of_new {f : Frame n} {w : Nat} {x : Waiter n} (hw : m.waiters.length ≤ w)
    (hx : (m.runFrame f).waiters[w]? = some x) : x.phase = .fresh := by
  by_cases hf : f = .next
  · subst hf
    simp only [runFrame, next] at hx
    split at hx
    · simp [wakeIdle, wake, List.getElem?_eq_none hw] at hx
    · rw [show (spawn _ _).waiters = m.waiters ++ [_] from rfl, List.getElem?_append_right hw] at hx
      have hm := List.mem_singleton.mp (List.mem_of_getElem? hx)
      rw [hm]
  · have hl := congrArg List.length (goals_runFrame hf m)
    simp only [goals, List.length_map] at hl
    rw [List.getElem?_eq_none (by omega)] at hx
    exact absurd hx (by simp)

/-- Running code lets no waiter begin. -/
theorem Reachable.begun_of_frame {f : Frame n} {fs : List (Frame n)} (h : Reachable scripts m) (hf : m.frames = f :: fs)
    {w : Nat} (hb : (runFrame f { m with frames := fs }).Begun w) : m.Begun w := by
  obtain ⟨x, hx, hp⟩ | ⟨g, hg, hs⟩ := hb
  · obtain hw | hw := Nat.lt_or_ge w m.waiters.length
    · obtain hl | hs := Looked.of_passes (h.passes hf) hw ⟨x, hx, hp⟩
      · exact Or.inl hl
      · exact Or.inr ⟨f, by simp [hf], hs⟩
    · exact absurd (fresh_of_new (m := { m with frames := fs }) hw hx) hp
  · rw [(frames_runFrame _ _).1, List.mem_append] at hg
    obtain hg | hg := hg
    · exact Or.inr ⟨f, by simp [hf], (leads_of_mem_follow hg).serves hs⟩
    · exact Or.inr ⟨g, by simp [hf, hg], hs⟩

/-- Whoever has begun is known. -/
theorem Reachable.lt_of_begun (h : Reachable scripts m) {w : Nat} (hb : m.Begun w) : w < m.waiters.length := by
  obtain ⟨x, hx, -⟩ | ⟨f, hf, hs⟩ := hb
  · exact (List.getElem?_eq_some_iff.mp hx).1
  · have hpos : 0 < m.frames.countP (Frame.serves w) := List.countP_pos_iff.mpr ⟨f, hf, hs⟩
    by_contra hw
    have hn : m.waiters[w]? = none := List.getElem?_eq_none (Nat.le_of_not_lt hw)
    have := h.debt w
    simp only [Machine.debt, due, looks, hn, Option.any_none, Bool.toNat_false] at this
    omega

/-- A waiter begins by a job of its own. -/
theorem Reachable.begun_of_job (h : Reachable scripts m) (hf : m.frames = []) {j : Job} {js : List Job} {w : Nat}
    (hb : (runJob j { m with jobs := js }).Begun w) : m.Looked w ∨ j = .poll w := by
  cases j with
  | drain =>
    left
    obtain ⟨-, hj⟩ | ⟨v, u, -, -, hj⟩ | ⟨v, -, -, hj⟩ := runJob_drain { m with jobs := js } <;> rw [hj] at hb <;>
      simpa [Begun, Looked, hf, Frame.serves] using hb
  | poll v =>
    obtain ⟨y, u, -, -, -, -, hj⟩ | ⟨hj, -⟩ := runJob_poll (m := { m with jobs := js }) h.body_of_pending v <;>
      rw [hj] at hb <;> simpa [Begun, Looked, hf, Frame.serves] using hb

/-- An operation lets no waiter begin. -/
theorem begun_of_perform (hf : m.frames = []) {a : Action n} {w : Nat} (hw : w < m.waiters.length)
    (hb : (m.perform a).Begun w) : m.Begun w := by
  obtain h | ⟨g, hg, hs⟩ := hb
  · have hp : Passes (fun _ => False) m (m.perform a) := .stirs (stirs_perform a m)
    exact Or.inl ((h.of_passes hp hw).resolve_right id)
  · simp only [fields_perform, hf, List.append_nil] at hg
    simp [not_serves_calls hg] at hs

/-- Who begins to wait has not begun to look. -/
theorem begun_of_await (hf : m.frames = []) {goal : Goal n} {w : Nat} (hb : (m.await goal).Begun w) : m.Begun w := by
  obtain h | ⟨g, hg, hs⟩ := hb
  · exact Or.inl (Looked.of_addWaiter (show (m.addWaiter goal).Looked w from h))
  · rw [frames_await, hf] at hg
    simp at hg

/-- The first job of a waiter starts the task that it runs, unless the task is not pending any more. -/
theorem Reachable.started_poll (h : Reachable scripts m) {js : List Job} {w : Nat} {x : Waiter n} {t : Fin n}
    (hx : m.waiters[w]? = some x) (hp : x.phase = .fresh) (ht : x.goal.runs? = some t) :
    ((runJob (.poll w) { m with jobs := js }).tasks t).state ≠ .pending := by
  obtain ⟨y, u, hy, -, hu, -, hj⟩ | ⟨hj, hs⟩ := runJob_poll (m := { m with jobs := js }) h.body_of_pending w
  · obtain rfl := Option.some.inj (hx.symm.trans hy)
    obtain rfl := Option.some.inj (ht.symm.trans hu)
    rw [hj]
    by_cases hs : (m.tasks t).state = .pending <;> simp [Task.state_start, hs]
  · rw [hj]
    exact hs x t hx hp ht

/-- A waiter that runs a task itself and has begun has started the task, or has found it started or canceled. -/
theorem Reachable.started (h : Reachable scripts m) {w : Nat} {goal : Goal n} {t : Fin n} (hb : m.Begun w)
    (hg : m.goals[w]? = some goal) (ht : goal.runs? = some t) : (m.tasks t).state ≠ .pending := by
  induction h using Reachable.induct with
  | start =>
    obtain ⟨x, hx, -⟩ | ⟨f, hf, -⟩ := hb
    · simp [Machine.start] at hx
    · simp [Machine.start] at hf
  | @frame m f fs h hf ih =>
    have hb := h.begun_of_frame hf hb
    have hw : w < m.goals.length := by simpa [goals] using h.lt_of_begun hb
    obtain ⟨gs, hgs⟩ := goals_prefix_runFrame f { m with frames := fs }
    rw [← hgs] at hg
    have hg : m.goals[w]? = some goal := (List.getElem?_append_left hw).symm.trans hg
    exact fun hp => ih hb hg ((changes_runFrame f { m with frames := fs } t).evolves.pending_of_pending hp)
  | @job m j js h hf _ ih =>
    rw [goals_runJob] at hg
    have old (hl : m.Looked w) : ((runJob j { m with jobs := js }).tasks t).state ≠ .pending :=
      fun hp => ih (Or.inl hl) hg ((ages_runJob j { m with jobs := js } t).pending_of_pending hp)
    obtain hl | rfl := h.begun_of_job hf hb
    · exact old hl
    obtain ⟨x, hx, rfl⟩ : ∃ x, m.waiters[w]? = some x ∧ x.goal = goal := by simpa [goals] using hg
    by_cases hp : x.phase = .fresh
    · exact h.started_poll hx hp ht
    · exact old ⟨x, hx, hp⟩
  | @perform m a h hf ih =>
    rw [goals_perform] at hg
    have hw : w < m.waiters.length := by simpa [goals] using (List.getElem?_eq_some_iff.mp hg).1
    exact fun hp => ih (begun_of_perform hf hw hb) hg ((ages_perform a m t).pending_of_pending hp)
  | @await m goal' h hf _ ih =>
    have hb := begun_of_await hf hb
    have hw : w < m.goals.length := by simpa [goals] using h.lt_of_begun hb
    rw [goals_await] at hg
    exact ih hb ((List.getElem?_append_left hw).symm.trans hg)

end ElixirLint.Queue.Machine
