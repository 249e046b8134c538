import ElixirLint.Proofs.Queue.Progress

/-!
# The completion mark and those who wait for it

The completion mark of a task is set once and stays (`Later.done`), on a terminal task only, and unless the task is just
being canceled every terminal task has it. Those who wait for a task look at nothing but the mark, and nobody misses it.
So when nothing can proceed they are through exactly if the task is terminal, whether they came before it was or after
that (`done_as_terminal`). The one exception is whoever ran a body that failed: he is told so instead. There is one such
waiter for each body that has failed (`Reachable.failures`), and it is the one that the body was run for.
-/

namespace ElixirLint.Queue

/-- Whether a waiter has seen a body fail while it waited for the task. -/
def Waiter.failedFor {n : Nat} (t : Fin n) (x : Waiter n) : Bool :=
  match x.phase with
  | .failed => x.goal.task? == some t
  | _ => false

namespace Machine

variable {n : Nat} {scripts : Fin n → Script n} {m m' : Machine n}

attribute [local simp] push spawn emit setTask

/-! ## The mark is set once -/

/-- A task that is done stays so. -/
theorem Later.done (h : Later m m') {t : Fin n} (hd : (m.tasks t).done = true) : (m'.tasks t).done = true :=
  (h.ages t).done hd

/-- Along a run the mark of a task is unset for a while, and set from then on. -/
theorem done_along {ms : List (Machine n)} (h : List.IsChain Move (m :: ms)) (t : Fin n) :
    ∃ i j, (m :: ms).map (fun m => (m.tasks t).done) = List.replicate i false ++ List.replicate j true := by
  induction ms generalizing m with
  | nil =>
    cases hd : (m.tasks t).done
    · exact ⟨1, 0, by simp [hd]⟩
    · exact ⟨0, 1, by simp [hd]⟩
  | cons m' ms ih =>
    obtain ⟨move, rest⟩ := List.isChain_cons_cons.mp h
    obtain ⟨i, j, hij⟩ := ih rest
    rw [List.map_cons, hij]
    cases hd : (m.tasks t).done
    · exact ⟨i + 1, j, rfl⟩
    · have next : (m'.tasks t).done = true := (move.ages t).done hd
      cases i with
      | zero => exact ⟨0, j + 1, rfl⟩
      | succ i =>
        rw [List.map_cons, next, List.replicate_succ, List.cons_append] at hij
        cases (List.cons.inj hij).1

/-! ## Bodies that fail, and who sees it -/

/-- How many of those who wait for a task have seen its body fail. -/
def failures (m : Machine n) (t : Fin n) : Nat := m.waiters.countP (Waiter.failedFor t)

/-- The failures of a task are counted by waiters. -/
theorem failures_of_eq (h : m'.waiters = m.waiters) (t : Fin n) : m'.failures t = m.failures t := by
  simp only [failures, h]

@[simp] theorem failures_wake (wanted : Goal n → Bool) (m : Machine n) (t : Fin n) :
    (m.wake wanted).failures t = m.failures t := by
  have same : Waiter.failedFor t ∘ (fun x : Waiter n =>
      if x.phase == .listening && wanted x.goal then { x with phase := .woken } else x) = Waiter.failedFor t := by
    funext x
    by_cases h : (x.phase == .listening && wanted x.goal) = true
    · have listens : x.phase = .listening := by simpa using (Bool.and_eq_true_iff.mp h).1
      rw [Function.comp_apply, if_pos h]
      simp [Waiter.failedFor, listens]
    · rw [Function.comp_apply, if_neg h]
  simp only [failures, wake, List.countP_map, same]

@[simp] theorem failures_addWaiter (goal : Goal n) (m : Machine n) (t : Fin n) :
    (m.addWaiter goal).failures t = m.failures t := by
  simp [failures, addWaiter, Waiter.failedFor]

/-- A waiter that was due a look has seen no body fail before it passes to another phase. -/
theorem failures_setPhase {w : Nat} {x : Waiter n} (hx : m.waiters[w]? = some x) (hd : x.phase.isDue = true) (p : Phase)
    (t : Fin n) :
    (m.setPhase w p).failures t = m.failures t + (Waiter.failedFor t { x with phase := p }).toNat := by
  have count := countP_modify (Waiter.failedFor t) (fun y => { y with phase := p }) hx
  have before : x.failedFor t = false := by
    cases hp : x.phase <;> simp [hp, Phase.isDue, Waiter.failedFor] at hd ⊢
  rw [before] at count
  exact count

/-- As long as nobody looks or gives up, nobody sees a body fail. -/
theorem Stirs.failures (h : Stirs m m') (t : Fin n) : m'.failures t = m.failures t := by
  induction h with
  | rest hw => exact failures_of_eq hw t
  | done => exact failures_wake _ _ t
  | @begins m => exact failures_wake (fun g => g == Goal.idle) { m with busy := true, idle := false } t
  | trans _ _ ih ih' => exact ih'.trans ih

theorem failures_look {w : Nat} {x : Waiter n} (hx : m.waiters[w]? = some x) (hd : x.phase.isDue = true) (t : Fin n) :
    (m.look w).failures t = m.failures t := by
  simp only [look, hx]
  split
  · rw [failures_of_eq (m := m.setPhase w .settled) (by simp) t, failures_setPhase hx hd]
    simp [Waiter.failedFor]
  · simp [failures_setPhase hx hd, Waiter.failedFor]

theorem failures_next (m : Machine n) (t : Fin n) : m.next.failures t = m.failures t := by
  unfold next
  split
  · exact failures_wake _ _ t
  · exact failures_addWaiter _ _ t

/-- Whoever is served by the topmost frame is due a look. -/
theorem Reachable.due_of_serves (h : Reachable scripts m) {f : Frame n} {fs : List (Frame n)} (hf : m.frames = f :: fs)
    {w : Nat} (hs : f.serves w = true) : ∃ x, m.waiters[w]? = some x ∧ x.phase.isDue = true := by
  have owed := debt_pop hf w
  rw [h.debt] at owed
  exact due_of_debt (m := { m with frames := fs }) (by simp [owed, hs])

/-- A body that fails lets the waiter that runs it see this. -/
theorem Reachable.failures_panic (h : Reachable scripts m) {u : Fin n} {w : Nat} {token : Bool}
    {steps : List (BodyStep n)} {c : Cleanup n} {fs : List (Frame n)}
    (hf : m.frames = .body u w token (.panic :: steps) c :: fs) (t : Fin n) :
    (runFrame (.body u w token (.panic :: steps) c) { m with frames := fs }).failures t =
      m.failures t + [Event.bodyFailed u].count (.bodyFailed t) := by
  obtain ⟨x, hx, hd⟩ := h.due_of_serves hf (w := w) (by simp [Frame.serves])
  obtain ⟨-, goal, hg, hr⟩ := h.faithful.body u w token (.panic :: steps) c (by simp [hf])
  have task : x.goal.task? = some u := by
    obtain rfl : x.goal = goal := by simpa [goals, hx] using hg
    cases hgoal : x.goal <;> simp_all [Goal.runs?, Goal.task?]
  have stirs := stirs_release u token { m with frames := fs }
  have failed := failures_setPhase (stirs.waiter hx hd) hd .failed t
  rw [stirs.failures t] at failed
  have seen : (runFrame (.body u w token (.panic :: steps) c) { m with frames := fs }).waiters =
      ((if token then complete u { m with frames := fs } else { m with frames := fs }).setPhase w .failed).waiters := by
    simp [runFrame, bodyStep, setPhase]
  rw [failures_of_eq seen, failed]
  have before : Machine.failures { m with frames := fs } t = m.failures t := rfl
  rw [before]
  by_cases hu : u = t <;> simp [Waiter.failedFor, task, hu]

/-- A frame lets somebody see a body fail just when this body fails. -/
theorem Reachable.failures_frame (h : Reachable scripts m) {f : Frame n} {fs : List (Frame n)} (hf : m.frames = f :: fs)
    (t : Fin n) :
    (runFrame f { m with frames := fs }).failures t =
      m.failures t + (happens { m with frames := fs } f).count (.bodyFailed t) := by
  -- All other frames either only stir those who wait, or are about somebody who is due a look.
  have calm (hn : ∀ u, .bodyFailed u ∉ happens { m with frames := fs } f)
      (hs : (runFrame f { m with frames := fs }).failures t = m.failures t) :
      (runFrame f { m with frames := fs }).failures t =
        m.failures t + (happens { m with frames := fs } f).count (.bodyFailed t) := by
    rw [hs, List.count_eq_zero.mpr (hn t), Nat.add_zero]
  cases hl : f.leaver? with
  | none =>
    refine calm (fun u hu => ?_) ?_
    · cases causes_of_mem_happens hu
      cases hl
    · by_cases hn : f = .next
      · subst hn
        exact failures_next { m with frames := fs } t
      · exact (stirs_runFrame hl hn { m with frames := fs }).failures t
  | some w =>
    cases f with
    | look v =>
      obtain ⟨x, hx, hd⟩ := h.due_of_serves hf (w := v) (by simp [Frame.serves])
      exact calm (by simp [happens]) (failures_look (m := { m with frames := fs }) hx hd t)
    | body u v token steps c =>
      obtain ⟨steps, rfl⟩ : ∃ rest, steps = .panic :: rest := by
        cases steps with
        | nil => cases hl
        | cons s rest => cases s <;> first | exact ⟨rest, rfl⟩ | cases hl
      exact h.failures_panic hf t
    | _ => cases hl

/-- In every run as many have seen the body of a task fail as it has failed. -/
theorem Reachable.failures (h : Reachable scripts m) (t : Fin n) : m.failures t = m.events.count (.bodyFailed t) := by
  induction h using Reachable.induct with
  | start => rfl
  | @frame m f fs h hf ih =>
    rw [h.failures_frame hf, ih, (frames_runFrame f { m with frames := fs }).2, List.count_append, Nat.add_comm]
  | @job m j js h _ _ ih =>
    have same : (runJob j { m with jobs := js }).failures t = m.failures t := failures_of_eq (by simp) t
    obtain ⟨w, x, u, -, -, -, -, -, hj⟩ | ⟨gs, -, -, -, -, hevents⟩ :=
      runJob_cases (m := { m with jobs := js }) h.body_of_pending j
    · rw [same, ih, hj]
      simp
    · rw [same, ih, hevents]
  | @perform m a _ _ ih =>
    rw [(stirs_perform a m).failures t, ih, (fields_perform a m).2.2.2.2.2]
  | @await m goal _ _ _ ih =>
    exact (failures_addWaiter goal m t).trans ih

/-- In every run a body fails at most once, and so at most one waiter has seen it. -/
theorem Reachable.failures_le (h : Reachable scripts m) (t : Fin n) : m.failures t ≤ 1 := by
  have calls := h.bodyCalls t
  have once : m.bodyCalls t ≤ 1 := Nat.le_trans (h.bodyCalls_le t) (by split <;> omega)
  rw [h.failures t]
  omega

/-- What is counted once at most is not found in two places. -/
theorem eq_of_countP_le {α : Type} {p : α → Bool} {xs : List α} (h : xs.countP p ≤ 1) {i j : Nat} {x y : α}
    (hx : xs[i]? = some x) (hy : xs[j]? = some y) (px : p x = true) (py : p y = true) : i = j := by
  induction xs generalizing i j with
  | nil => simp at hx
  | cons z zs ih =>
    have later {k : Nat} {u : α} (hu : zs[k]? = some u) (pu : p u = true) : 0 < zs.countP p :=
      List.countP_pos_iff.mpr ⟨u, List.mem_of_getElem? hu, pu⟩
    rw [List.countP_cons] at h
    cases i with
    | zero =>
      cases j with
      | zero => rfl
      | succ j =>
        obtain rfl : z = x := by simpa using hx
        have := later (k := j) (by simpa using hy) py
        simp only [px, if_true] at h
        omega
    | succ i =>
      cases j with
      | zero =>
        obtain rfl : z = y := by simpa using hy
        have := later (k := i) (by simpa using hx) px
        simp only [py, if_true] at h
        omega
      | succ j =>
        exact congrArg Nat.succ (ih (by omega) (by simpa using hx) (by simpa using hy))

/-- In every run whoever has seen the body of a task fail has run this body, and nobody else has seen it. -/
theorem Reachable.failed (h : Reachable scripts m) {t : Fin n} {w : Nat} {x : Waiter n} (hx : m.waiters[w]? = some x)
    (ht : x.goal.task? = some t) (hp : x.phase = .failed) :
    x.goal.runs? = some t ∧ .bodyFailed t ∈ m.events ∧
      ∀ (v : Nat) (y : Waiter n), m.waiters[v]? = some y → y.goal.task? = some t → y.phase = .failed → v = w := by
  have counted {v : Nat} {y : Waiter n} (ht : y.goal.task? = some t) (hp : y.phase = .failed) :
      y.failedFor t = true := by simp [Waiter.failedFor, hp, ht]
  have alone {v : Nat} {y : Waiter n} (hy : m.waiters[v]? = some y) (ht' : y.goal.task? = some t)
      (hp' : y.phase = .failed) : v = w :=
    eq_of_countP_le (h.failures_le t) hy hx (counted (v := v) ht' hp') (counted (v := w) ht hp)
  have failed : .bodyFailed t ∈ m.events := by
    rw [← List.count_pos_iff, ← h.failures t]
    exact List.countP_pos_iff.mpr ⟨x, List.mem_of_getElem? hx, counted (v := w) ht hp⟩
  refine ⟨?_, failed, fun v y hy ht hp => alone hy ht hp⟩
  obtain ⟨v, y, hy, hp', hr⟩ := h.sawFailure failed
  have task : y.goal.task? = some t := by
    cases hg : y.goal <;> simp_all [Goal.runs?, Goal.task?]
  obtain rfl := alone hy task hp'
  obtain rfl := Option.some.inj (hx.symm.trans hy)
  exact hr

/-! ## When nothing can proceed -/

/-- In every run the mark and the terminal states agree, unless the task is just being canceled. -/
theorem Reachable.done_iff (h : Reachable scripts m) {t : Fin n} (hc : .resolve t ∉ m.frames) :
    (m.tasks t).done = true ↔ (m.tasks t).state.isTerminal = true :=
  ⟨h.completes.terminal_of_done t, fun ht => (h.completes.done_of_terminal t ht).resolve_right hc⟩

/-- When nothing can proceed, whoever waits for a task and has not seen its body fail is through exactly if the task is
done. -/
theorem Reachable.settled_iff (h : Reachable scripts m) (hq : m.isQuiet = true) {t : Fin n} {w : Nat} {x : Waiter n}
    (hx : m.waiters[w]? = some x) (ht : x.goal.task? = some t) (hp : x.phase ≠ .failed) :
    x.phase = .settled ↔ (m.tasks t).done = true := by
  have member := List.mem_of_getElem? hx
  constructor
  · intro hs
    exact h.informed.settled x member t hs ht
  · intro hd
    have due := h.not_due_of_isQuiet hq hx
    cases hphase : x.phase with
    | settled => rfl
    | failed => exact absurd hphase hp
    | fresh | woken => simp [hphase, Phase.isDue] at due
    | listening =>
      have unreached := h.informed.listening x member hphase
      cases hg : x.goal <;> simp_all [Goal.task?, reached]

/-- The completion mark says what the state says. In every run, for every task:

1. Along whatever follows, the mark is unset for a while and set from then on: it is set once at most, and stays.
2. A task that is done is terminal.
3. Unless the task is just being canceled, it is done exactly if it is finished or canceled.
4. When nothing can proceed, everybody who ever waited for the task, by running it or not, before it was terminal or
   after that, is through exactly if it is terminal; only he who ran a body that failed has seen it fail. -/
theorem done_as_terminal (h : Reachable scripts m) (t : Fin n) :
    (∀ ms, List.IsChain Move (m :: ms) → ∃ i j,
      (m :: ms).map (fun m => (m.tasks t).done) = List.replicate i false ++ List.replicate j true) ∧
    ((m.tasks t).done = true → (m.tasks t).state.isTerminal = true) ∧
    (.resolve t ∉ m.frames →
      ((m.tasks t).done = true ↔ (m.tasks t).state = .finished ∨ (m.tasks t).state = .canceled)) ∧
    (m.isQuiet = true → ∀ (w : Nat) (x : Waiter n), m.waiters[w]? = some x → x.goal.task? = some t →
      (x.phase ≠ .failed →
        (x.phase = .settled ↔ (m.tasks t).state = .finished ∨ (m.tasks t).state = .canceled)) ∧
      (x.phase = .failed → x.goal.runs? = some t ∧ .bodyFailed t ∈ m.events ∧
        ∀ (v : Nat) (y : Waiter n), m.waiters[v]? = some y → y.goal.task? = some t → y.phase = .failed → v = w)) := by
  have terminal : (m.tasks t).state.isTerminal = true ↔
      (m.tasks t).state = .finished ∨ (m.tasks t).state = .canceled := by
    cases (m.tasks t).state <;> simp [TaskState.isTerminal]
  refine ⟨fun ms hc => done_along hc t, h.completes.terminal_of_done t, fun hc => ?_, fun hq w x hx ht => ⟨?_, ?_⟩⟩
  · rw [← terminal]
    exact h.done_iff hc
  · intro hp
    obtain ⟨hf, -⟩ := frames_of_isQuiet hq
    rw [← terminal, h.settled_iff hq hx ht hp]
    exact h.done_iff (by simp [hf])
  · exact h.failed hx ht

/-- A task has been started directly. Somebody has come to wait for it, it has been canceled, and then somebody else has
come to wait for it. -/
def abandoned (t : Fin 2) : Machine 2 :=
  ((((start failing).await (.run t)).settle.await (.completion t)).settle.act (.cancel t)).settle.await (.completion t)
    |>.settle

/-- The task parks its token and fails. -/
theorem reachable_abandoned : Reachable failing (abandoned 0) := by
  have started : Reachable failing ((start failing).await (.run 0)).settle :=
    ((reachable_start failing).await rfl (by simp)).settle
  have waited : Reachable failing (((start failing).await (.run 0)).settle.await (.completion 0)).settle :=
    (started.await (by decide) (by simp)).settle
  have canceled := (waited.act (by decide) (.cancel 0)).settle
  exact (canceled.await (by decide) (by simp)).settle

/-- Both who wait for it are through, though the one came before it was canceled and the other after that; the direct
run has failed. -/
theorem done_as_terminal_abandoned :
    (abandoned 0).isQuiet = true ∧ ((abandoned 0).tasks 0).done = true ∧
      (abandoned 0).waiters[0]? = some ⟨.run 0, .failed⟩ ∧ .bodyFailed 0 ∈ (abandoned 0).events ∧
      (∃ x y, (abandoned 0).waiters[1]? = some x ∧ (abandoned 0).waiters[2]? = some y ∧ x.goal = .completion 0 ∧
        y.goal = .completion 0 ∧ x.phase = .settled ∧ y.phase = .settled) := by
  have quiet : (abandoned 0).isQuiet = true := by decide
  have canceled : ((abandoned 0).tasks 0).state = .canceled := by decide
  obtain ⟨-, -, marked, through⟩ := done_as_terminal reachable_abandoned 0
  have first : (abandoned 0).waiters[0]? = some ⟨.run 0, .failed⟩ := by decide
  have goals : (abandoned 0).goals = [.run 0, .completion 0, .completion 0] := by decide
  have waiter (w : Nat) (hw : (abandoned 0).goals[w]? = some (.completion 0)) :
      ∃ x, (abandoned 0).waiters[w]? = some x ∧ x.goal = .completion 0 ∧ x.phase = .settled := by
    obtain ⟨x, hx, hg⟩ : ∃ x, (abandoned 0).waiters[w]? = some x ∧ x.goal = .completion 0 := by
      simpa [Machine.goals] using hw
    have task : x.goal.task? = some 0 := by rw [hg]; rfl
    have unfailed : x.phase ≠ .failed := by
      intro hp
      have runs := ((through quiet w x hx task).2 hp).1
      rw [hg] at runs
      cases runs
    exact ⟨x, hx, hg, ((through quiet w x hx task).1 unfailed).mpr (Or.inr canceled)⟩
  obtain ⟨x, hx, gx, px⟩ := waiter 1 (by rw [goals]; rfl)
  obtain ⟨y, hy, gy, py⟩ := waiter 2 (by rw [goals]; rfl)
  exact ⟨quiet, (marked (by decide)).mpr (Or.inr canceled), first, ((through quiet 0 _ first rfl).2 rfl).2.1,
    x, y, hx, hy, gx, gy, px, py⟩

end Machine

end ElixirLint.Queue
