import ElixirLint.Proofs.Queue.Completion
import ElixirLint.Proofs.Queue.Ledger

/-!
# Tasks end once

Only who holds the token of a task finishes it, and a token exists only once the body has been called. So a task goes
from pending to running and on to finished or canceled, or from pending straight to canceled, and nowhere else
(`Reachable.progresses`). Together with the ledger of cleanups this gives `ends_once`: a body is called at most once
and not after the end, and the cleanup that it returns is called exactly once if the task is canceled and never
otherwise, whoever cancels or finishes the task first, the body and the cleanup themselves included.
-/

namespace ElixirLint

/-- The ways in which the state of a task may change. -/
inductive TaskState.Progress : TaskState → TaskState → Prop
  | start : Progress .pending .running
  | skip : Progress .pending .canceled
  | finish : Progress .running .finished
  | cancel : Progress .running .canceled

namespace Queue.Machine

variable {n : Nat} {scripts : Fin n → Script n} {m m' : Machine n}

attribute [local simp] setTask setParked emit push ret wakeTask wake

/-! ## Who finishes a task -/

/-- Only the holder of a parked token finishes a task by an operation. -/
theorem parked_of_finished_perform {a : Action n} {t : Fin n} (h : ((m.perform a).tasks t).state = .finished) :
    (m.tasks t).state = .finished ∨ m.parked t = true := by
  cases a with
  | finish u =>
    by_cases hp : m.parked u = true
    · by_cases hu : t = u
      · subst hu
        exact Or.inr hp
      · left
        simpa [perform, hp, tasks_complete, hu] using h
    · left
      simpa [perform, hp] using h
  | enqueue u =>
    left
    by_cases he : (m.tasks u).enqueued = true
    · simpa [perform, he] using h
    · by_cases hu : t = u
      · subst hu
        simpa [perform, he, Task.markEnqueued] using h
      · simpa [perform, he, hu] using h
  | _ => exact Or.inl h

/-- A body that lets go of its token finishes no other task. -/
theorem holds_of_finished_release {t u : Fin n} {token : Bool}
    (h : ((if token then m.complete u else m).tasks t).state = .finished) :
    (m.tasks t).state = .finished ∨ (token = true ∧ t = u) := by
  cases token with
  | false => exact Or.inl h
  | true =>
    by_cases hu : t = u
    · exact Or.inr ⟨rfl, hu⟩
    · left
      simpa [tasks_complete, hu] using h

/-- A body finishes a task only by letting go of the token that it holds, or of the one that is parked. -/
theorem holds_of_finished_body {u t : Fin n} {w : Nat} {token : Bool} {steps : List (BodyStep n)} {c : Cleanup n}
    (h : ((m.runFrame (.body u w token steps c)).tasks t).state = .finished) :
    (m.tasks t).state = .finished ∨ m.parked t = true ∨ Frame.holdsToken t (.body u w token steps c) = true := by
  have release (h : ((if token then m.complete u else m).tasks t).state = .finished) :
      (m.tasks t).state = .finished ∨ m.parked t = true ∨ Frame.holdsToken t (.body u w token steps c) = true := by
    obtain h | ⟨ht, hu⟩ := holds_of_finished_release h
    · exact Or.inl h
    · exact Or.inr (Or.inr (by simp [Frame.holdsToken, ht, hu]))
  rcases steps with _ | ⟨step, steps⟩
  · exact release h
  cases step with
  | dropToken => exact release h
  | panic => exact release (by simpa [runFrame, bodyStep] using h)
  | check | display => exact Or.inl h
  | act a => exact (parked_of_finished_perform h).imp_right Or.inl
  | park =>
    by_cases ht : token = true
    · exact Or.inl (by simpa [runFrame, bodyStep, ht] using h)
    · by_cases hp : m.parked u = true
      · by_cases hu : t = u
        · subst hu
          exact Or.inr (Or.inl hp)
        · exact Or.inl (by simpa [runFrame, bodyStep, ht, hp, tasks_complete, hu] using h)
      · exact Or.inl (by simpa [runFrame, bodyStep, ht, hp] using h)

/-- A task is finished by whoever holds its token: the running body, or whoever has access to the parked token. -/
theorem holds_of_finished_runFrame {f : Frame n} {t : Fin n} (h : ((m.runFrame f).tasks t).state = .finished) :
    (m.tasks t).state = .finished ∨ m.parked t = true ∨ f.holdsToken t = true := by
  match f with
  | .body u w token steps c => exact holds_of_finished_body h
  | .handOver u c =>
    left
    rw [runFrame_handOver] at h
    split at h
    · by_cases hu : t = u
      · subst hu
        simpa using h
      · simpa [hu] using h
    · split at h
      · simpa using h
      · exact h
  | .cleanup u [] => exact Or.inl h
  | .cleanup u (a :: actions) => exact (parked_of_finished_perform h).imp_right Or.inl
  | .cancelEach [] => exact Or.inl h
  | .cancelEach (u :: ts) =>
    left
    simp only [runFrame, cancelStep_cons] at h
    split at h
    · exact h
    · rename_i hs
      by_cases hu : t = u
      · subst hu
        simp [Task.beginCancel, hs] at h
      · simpa [hu] using h
  | .resolve u =>
    left
    by_cases hu : t = u
    · subst hu
      simpa [runFrame, Task.resolve] using h
    · simpa [runFrame, hu] using h
  | .look w | .append u | .note a | .advance | .next => exact Or.inl (by simpa [runFrame] using h)

/-! ## Tokens exist after the start only -/

/-- The body of a pending task is not on the stack. -/
theorem Reachable.started_of_body (h : Reachable scripts m) {t : Fin n} {f : Frame n} (hf : f ∈ m.frames)
    (hb : f.runsBody t = true) : (m.tasks t).state ≠ .pending := by
  intro hp
  have hcalls := h.bodyCalls t
  have hle := h.bodyCalls_le t
  have hpos : 0 < m.frames.countP (Frame.runsBody t) := List.countP_pos_iff.mpr ⟨f, hf, hb⟩
  simp only [hp, if_true] at hle
  omega

/-- A body that holds the token of a task is a body of that task. -/
theorem runsBody_of_holdsToken {f : Frame n} {t : Fin n} (h : f.holdsToken t = true) : f.runsBody t = true := by
  cases f with
  | body u w token steps c =>
    simp only [Frame.holdsToken, Bool.and_eq_true, beq_iff_eq] at h
    simp [Frame.runsBody, h.2]
  | _ => cases h

/-- No operation parks a token. -/
theorem parked_of_perform {a : Action n} {t : Fin n} (h : (m.perform a).parked t = true) : m.parked t = true := by
  cases a with
  | finish u =>
    by_cases hp : m.parked u = true
    · by_cases hu : t = u
      · subst hu
        exact hp
      · simpa [perform, hp, hu] using h
    · simpa [perform, hp] using h
  | enqueue u => by_cases he : (m.tasks u).enqueued = true <;> simpa [perform, he] using h
  | _ => exact h

/-- Only its body parks the token of a task. -/
theorem parked_of_runFrame {f : Frame n} {t : Fin n} (h : (m.runFrame f).parked t = true) :
    m.parked t = true ∨ f.runsBody t = true := by
  match f with
  | .body u w token (.act a :: steps) c =>
    exact Or.inl (parked_of_perform (m := m.push [.note a, .body u w token steps c]) h)
  | .body u w token (.park :: steps) c =>
    by_cases hu : t = u
    · exact Or.inr (by simp [Frame.runsBody, hu])
    · left
      by_cases ht : token = true
      · simpa [runFrame, bodyStep, ht, hu] using h
      · by_cases hp : m.parked u = true <;> simpa [runFrame, bodyStep, ht, hp, hu] using h
  | .body u w token [] c | .body u w token (.dropToken :: steps) c | .body u w token (.panic :: steps) c =>
    left
    cases token <;> simpa [runFrame, bodyStep] using h
  | .body u w token (.check :: steps) c | .body u w token (.display :: steps) c => exact Or.inl h
  | .handOver u c =>
    left
    rw [runFrame_handOver] at h
    split at h
    · exact h
    · split at h
      · simpa using h
      · exact h
  | .cleanup u [] => exact Or.inl h
  | .cleanup u (a :: actions) => exact Or.inl (parked_of_perform (m := m.push [.note a, .cleanup u actions]) h)
  | .cancelEach [] => exact Or.inl h
  | .cancelEach (u :: ts) =>
    left
    simp only [runFrame, cancelStep_cons] at h
    split at h
    · exact h
    · simpa using h
  | .look w | .append u | .resolve u | .note a | .advance | .next => exact Or.inl (by simpa [runFrame] using h)

/-- In every run only tasks that have been started have a parked token. -/
theorem Reachable.started_of_parked (h : Reachable scripts m) {t : Fin n} (hp : m.parked t = true) :
    (m.tasks t).state ≠ .pending := by
  induction h using Reachable.induct with
  | start => cases hp
  | @frame m f fs h hf ih =>
    intro hs
    have old := (changes_runFrame f { m with frames := fs } t).evolves.pending_of_pending hs
    obtain hp | hb := parked_of_runFrame hp
    · exact ih hp old
    · exact h.started_of_body (f := f) (by simp [hf]) hb old
  | @job m j js h _ _ ih =>
    intro hs
    have hpark : (runJob j { m with jobs := js }).parked = m.parked := by
      obtain ⟨w, x, u, -, -, -, -, -, hj⟩ | ⟨gs, -, -, -, hparked, -⟩ :=
        runJob_cases (m := { m with jobs := js }) h.body_of_pending j
      · rw [hj]
        rfl
      · exact hparked
    rw [hpark] at hp
    exact ih hp ((ages_runJob j { m with jobs := js } t).pending_of_pending hs)
  | @perform m a _ _ ih =>
    intro hs
    exact ih (parked_of_perform hp) ((ages_perform a m t).pending_of_pending hs)
  | await goal _ _ _ ih => exact ih hp

/-! ## The ways of a task -/

/-- One piece of running code changes the state of a task as a life goes, if it does not finish a pending task. -/
theorem progress_of_change {β η : Type} {keeps : η → Prop} {cancels : Prop} {x y : Task β η}
    (h : Task.Change keeps cancels x y) (hf : y.state = .finished → x.state ≠ .pending) :
    y.state = x.state ∨ x.state.Progress y.state := by
  cases h with
  | none | resolve | markEnqueued | keep => exact Or.inl rfl
  | complete hs =>
    right
    have hy : x.complete.state = .finished := by simp [Task.complete, hs]
    cases hx : x.state with
    | pending => exact absurd hx (hf hy)
    | running =>
      rw [hy]
      exact .finish
    | finished | canceled => simp [hx, TaskState.isTerminal] at hs
  | cancel _ hs =>
    right
    have hy : x.beginCancel.1.state = .canceled := by simp [Task.beginCancel, hs]
    cases hx : x.state with
    | pending =>
      rw [hy]
      exact .skip
    | running =>
      rw [hy]
      exact .cancel
    | finished | canceled => simp [hx, TaskState.isTerminal] at hs

theorem progress_start {β η : Type} (x : Task β η) : x.start.1.state = x.state ∨ x.state.Progress x.start.1.state := by
  by_cases hs : x.state = .pending
  · right
    simp only [Task.start, hs, if_true]
    exact .start
  · exact Or.inl (by simp [Task.start, hs])

/-- In every run a move leaves the state of a task alone or changes it as the life of a task goes. -/
theorem Reachable.progresses (h : Reachable scripts m) (move : Move m m') (t : Fin n) :
    (m'.tasks t).state = (m.tasks t).state ∨ (m.tasks t).state.Progress (m'.tasks t).state := by
  cases move with
  | work hs =>
    obtain ⟨f, fs, hf, rfl⟩ | ⟨hf, j, js, hj, rfl⟩ := step_cases hs
    · refine progress_of_change (changes_runFrame f { m with frames := fs } t) fun hfin hp => ?_
      obtain hs | hs | hs := holds_of_finished_runFrame hfin
      · rw [show (m.tasks t).state = .finished from hs] at hp
        cases hp
      · exact h.started_of_parked hs hp
      · exact h.started_of_body (f := f) (by simp [hf]) (runsBody_of_holdsToken hs) hp
    · obtain ht | ⟨u, ht⟩ := tasks_runJob j { m with jobs := js } <;> rw [ht]
      · exact Or.inl rfl
      · by_cases hu : t = u
        · subst hu
          simpa using progress_start (m.tasks t)
        · exact Or.inl (by simp [hu])
  | perform a _ =>
    have change := (changes_perform a m : Changes (fun _ _ => False) (fun _ => False) m _) t
    refine progress_of_change change fun hfin hp => ?_
    obtain hs | hs := parked_of_finished_perform hfin
    · rw [hs] at hp
      cases hp
    · exact h.started_of_parked hs hp
  | await goal => exact Or.inl rfl

/-! ## Calls of bodies and cleanups -/

/-- Code of a task is on the stack: its body, its cleanup, or the cleanup being handed over. -/
def Busy (m : Machine n) (t : Fin n) : Prop :=
  ∃ f ∈ m.frames, f.runsBody t = true ∨ f.handsOver t = true ∨ f.runsCleanup t = true

/-- A task whose code is on the stack has been started. -/
theorem Reachable.started_of_busy (h : Reachable scripts m) {t : Fin n} (hb : m.Busy t) :
    (m.tasks t).state ≠ .pending := by
  intro hp
  obtain ⟨f, hf, hb | hb | hb⟩ := hb
  · exact h.started_of_body hf hb hp
  · have hz := ((h.ledger t).pending hp).2
    exact absurd hb (by simpa using List.countP_eq_zero.mp hz f hf)
  · have hz := (h.ledger t).uncalled (Or.inl (by simp [hp]))
    have hcalls := h.cleanupCalls t
    have hpos : 0 < m.frames.countP (Frame.runsCleanup t) := List.countP_pos_iff.mpr ⟨f, hf, hb⟩
    omega

/-- A body that looks whether its task has been canceled is told so as it is. -/
theorem canceled_of_checked {f : Frame n} {t : Fin n} {b : Bool} (h : .checked t (some b) ∈ m.happens f) :
    b = ((m.tasks t).state == .canceled) := by
  match f with
  | .body u w token (.check :: steps) c =>
    obtain ⟨rfl, hb⟩ := Event.checked.inj (List.mem_singleton.mp h)
    cases token with
    | true => exact Option.some.inj hb
    | false => cases hb
  | .body u w token [] c | .body u w token (.panic :: steps) c | .body u w token (.park :: steps) c
  | .body u w token (.dropToken :: steps) c | .body u w token (.display :: steps) c
  | .body u w token (.act a :: steps) c | .cleanup u [] | .cleanup u (a :: actions) | .cancelEach [] | .look _
  | .resolve _ | .append _ | .note _ | .next => simp [happens] at h
  | .handOver u c =>
    simp only [happens] at h
    split at h
    · cases mem_cleanupEvents h
    · cases h
  | .cancelEach (u :: ts) =>
    simp only [happens] at h
    split at h
    · cases h
    · cases mem_cleanupEvents h
  | .advance =>
    simp only [happens, List.mem_map, Option.mem_toList] at h
    obtain ⟨u, -, hu⟩ := h
    cases hu

/-- A move calls the bodies of pending tasks only, and tells those who look whether a task has been canceled so as it
is. -/
theorem Reachable.events_of_move (h : Reachable scripts m) (move : Move m m') :
    ∃ es, m'.events = es ++ m.events ∧ ∀ t, (.bodyCalled t ∈ es → (m.tasks t).state = .pending) ∧
      ∀ b, .checked t (some b) ∈ es → b = ((m.tasks t).state == .canceled) := by
  cases move with
  | work hs =>
    obtain ⟨f, fs, hf, rfl⟩ | ⟨hf, j, js, hj, rfl⟩ := step_cases hs
    · refine ⟨_, (frames_runFrame f { m with frames := fs }).2, fun t => ⟨fun hm => ?_, fun b hm => ?_⟩⟩
      · cases causes_of_mem_happens hm
      · exact canceled_of_checked hm
    · obtain ⟨w, x, u, -, -, -, -, hp, hj⟩ | ⟨gs, -, -, -, -, hevents⟩ :=
        runJob_cases (m := { m with jobs := js }) h.body_of_pending j
      · rw [hj]
        refine ⟨[.bodyCalled u], rfl, fun t => ⟨fun hm => ?_, fun b hm => ?_⟩⟩
        · obtain rfl := Event.bodyCalled.inj (List.mem_singleton.mp hm)
          exact hp
        · cases List.mem_singleton.mp hm
      · exact ⟨[], hevents, by simp⟩
  | perform a _ => exact ⟨[], by simp, by simp⟩
  | await goal => exact ⟨[], rfl, by simp⟩

/-- Once a task is terminal, its body is not called any more, and whoever looks whether it has been canceled is told
the same. -/
theorem Reachable.final (h : Reachable scripts m) {t : Fin n} (ht : (m.tasks t).state.isTerminal = true)
    (hl : Later m m') :
    ∃ es, m'.events = es ++ m.events ∧ .bodyCalled t ∉ es ∧
      ∀ b, .checked t (some b) ∈ es → b = ((m.tasks t).state == .canceled) := by
  induction hl with
  | refl => exact ⟨[], rfl, by simp, by simp⟩
  | @tail m₁ m₂ hl move ih =>
    obtain ⟨es, hes, hcalled, hchecked⟩ := ih
    obtain ⟨es', hes', hnew⟩ := (h.later hl).events_of_move move
    have hs : (m₁.tasks t).state = (m.tasks t).state := (Later.ages hl t).state_of_terminal ht
    obtain ⟨hcalled', hchecked'⟩ := hnew t
    rw [hs] at hcalled' hchecked'
    refine ⟨es' ++ es, by rw [hes', hes, List.append_assoc], fun hm => ?_, fun b hm => ?_⟩
    · obtain hm | hm := List.mem_append.mp hm
      · rw [hcalled' hm] at ht
        cases ht
      · exact hcalled hm
    · obtain hm | hm := List.mem_append.mp hm
      · exact hchecked' b hm
      · exact hchecked b hm

/-- Once a task is terminal, its body is called no more often. -/
theorem Reachable.bodyCalls_final (h : Reachable scripts m) {t : Fin n} (ht : (m.tasks t).state.isTerminal = true)
    (hl : Later m m') : m'.bodyCalls t = m.bodyCalls t := by
  obtain ⟨es, hes, hn, -⟩ := h.final ht hl
  rw [bodyCalls_eq, bodyCalls_eq, hes, List.count_append, List.count_eq_zero.mpr hn, Nat.zero_add]

/-- Unless its cleanup is just being handed over, the cleanup of a task has been called once if the body has returned
one and the task is canceled, and else it has not been called. -/
theorem Reachable.cleanupCalls_of_quiet (h : Reachable scripts m) {t : Fin n}
    (hh : ∀ f ∈ m.frames, f.handsOver t = false) :
    m.cleanupCalls t =
      if .bodyReturned t ∈ m.events ∧ (scripts t).body.cleanup.isSome = true ∧ (m.tasks t).state = .canceled then 1
      else 0 := by
  have hz : m.frames.countP (Frame.handsOver t) = 0 := List.countP_eq_zero.mpr fun f hf => by simp [hh f hf]
  have ledger := h.ledger t
  have hcalls := h.bodyCalls t
  have hle := h.bodyCalls_le t
  by_cases hc : (m.tasks t).state = .canceled ∧ (scripts t).body.cleanup.isSome = true
  · have hcount := ledger.canceled hc.1 hc.2
    rw [hz, Nat.zero_add] at hcount
    simp only [hc.1, reduceCtorEq, if_false] at hle
    split
    · rename_i hr
      have := List.count_pos_iff.mpr hr.1
      omega
    · rename_i hr
      have := List.count_eq_zero.mpr fun hm => hr ⟨hm, hc.2, hc.1⟩
      omega
  · rw [if_neg fun hr => hc ⟨hr.2.2, hr.2.1⟩]
    refine ledger.uncalled ?_
    by_cases hs : (m.tasks t).state = .canceled
    · exact Or.inr (by simpa [hs] using hc)
    · exact Or.inl hs

/-- A task ends once, and so does its cleanup. For every task of every run:

1. a move leaves its state alone, or takes it from pending to running or canceled, or from running to finished or
   canceled;
2. its body is called at most once;
3. once it is terminal, its state stays and its body is not called any more;
4. while its body, its cleanup or the hand-over of its cleanup is on the stack, starting it again changes nothing and
   hands out no body;
5. unless its cleanup is just being handed over, the cleanup has been called exactly once if the body has returned one
   and the task is canceled, and not at all otherwise. -/
theorem ends_once (h : Reachable scripts m) (t : Fin n) :
    (∀ m', Move m m' →
      (m'.tasks t).state = (m.tasks t).state ∨ (m.tasks t).state.Progress (m'.tasks t).state) ∧
    m.bodyCalls t ≤ 1 ∧
    ((m.tasks t).state.isTerminal = true → ∀ m', Later m m' →
      (m'.tasks t).state = (m.tasks t).state ∧ m'.bodyCalls t = m.bodyCalls t) ∧
    (m.Busy t → (m.tasks t).start = (m.tasks t, none)) ∧
    ((∀ f ∈ m.frames, f.handsOver t = false) →
      m.cleanupCalls t =
        if .bodyReturned t ∈ m.events ∧ (scripts t).body.cleanup.isSome = true ∧ (m.tasks t).state = .canceled then 1
        else 0) := by
  refine ⟨fun m' move => h.progresses move t, ?_, fun ht m' hl => ?_, fun hb => ?_, h.cleanupCalls_of_quiet⟩
  · refine Nat.le_trans (h.bodyCalls_le t) ?_
    split <;> omega
  · exact ⟨(hl.ages t).state_of_terminal ht, h.bodyCalls_final ht hl⟩
  · simp [Task.start, h.started_of_busy hb]

/-- A task whose body cancels it, and whose cleanup cancels and finishes it again. -/
def restless : Fin 1 → Script 1 := fun _ => ⟨⟨"file:///a"⟩, ⟨[.act (.cancel 0), .park], some [.cancel 0, .finish 0]⟩⟩

/-- The task has been run directly, and some work has been done since. -/
def restlessAfter (fuel : Nat) : Machine 1 := settleWith fuel ((start restless).await (.run 0))

theorem reachable_restlessAfter (fuel : Nat) : Reachable restless (restlessAfter fuel) :=
  ((reachable_start restless).await rfl (by simp)).settleWith fuel

/-- The cleanup of a task that cancels itself before it has returned it is called once. -/
theorem ends_once_restless :
    (∀ f ∈ (restlessAfter 20).frames, f.handsOver 0 = false) ∧ (restlessAfter 20).cleanupCalls 0 = 1 := by
  have hn : ∀ f ∈ (restlessAfter 20).frames, f.handsOver 0 = false := by decide
  refine ⟨hn, ((ends_once (reachable_restlessAfter 20) 0).2.2.2.2 hn).trans (if_pos ?_)⟩
  exact ⟨by decide, rfl, by decide⟩

end Queue.Machine

end ElixirLint
