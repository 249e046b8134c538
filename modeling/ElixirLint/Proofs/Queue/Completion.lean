import ElixirLint.Proofs.Queue.Life

/-!
# Completion and tokens

Two invariants about the end of a task. `Completes`: the completion mark is set on terminal tasks only, and a terminal
task without it is being canceled, with the frame that will set it still on the stack. `TokenHeld`: a running task
has its token parked, or held by its body.
-/

namespace ElixirLint.Queue.Machine

variable {n : Nat} {scripts : Fin n → Script n} {m m' : Machine n}

attribute [local simp] setTask setParked emit push spawn ret setPhase addWaiter wake wakeTask wakeIdle

/-! ## The completion mark -/

/-- The completion mark and the terminal states agree, but for tasks that are just being canceled. -/
structure Completes (m : Machine n) : Prop where
  terminal_of_done : ∀ t, (m.tasks t).done = true → (m.tasks t).state.isTerminal = true
  done_of_terminal : ∀ t, (m.tasks t).state.isTerminal = true → (m.tasks t).done = true ∨ .resolve t ∈ m.frames
  terminal_of_resolve : ∀ t, .resolve t ∈ m.frames → (m.tasks t).state.isTerminal = true

namespace Completes

/-- The completion marks depend on tasks and on the frames that resolve them. -/
theorem of_eq (h : m.Completes) (ht : m'.tasks = m.tasks) (hf : ∀ t, .resolve t ∈ m'.frames ↔ .resolve t ∈ m.frames) :
    m'.Completes := by
  constructor
  · simpa only [ht] using h.terminal_of_done
  · simpa only [ht, hf] using h.done_of_terminal
  · simpa only [ht, hf] using h.terminal_of_resolve

/-- A task may change as long as it neither becomes terminal nor done. -/
theorem setTask (h : m.Completes) {t : Fin n} {x : Task (Body n) (Cleanup n)}
    (hs : x.state.isTerminal = (m.tasks t).state.isTerminal) (hd : x.done = (m.tasks t).done) :
    (m.setTask t x).Completes := by
  obtain ⟨h1, h2, h3⟩ := h
  constructor <;> simp <;> grind

/-- A task that completes is terminal and done. -/
theorem complete (h : m.Completes) (t : Fin n) : (m.complete t).Completes := by
  obtain ⟨h1, h2, h3⟩ := h
  constructor <;> simp only [tasks_complete, fields_complete] <;> grind [Task.complete, TaskState.isTerminal]

/-- An operation keeps marks and states in agreement. -/
theorem perform (h : m.Completes) (a : Action n) : (m.perform a).Completes := by
  have hf : ∀ t, .resolve t ∈ (m.perform a).frames ↔ .resolve t ∈ m.frames := by
    intro t
    have hc : .resolve t ∉ m.calls a := fun hc => by simpa using mem_calls hc
    simp [hc]
  cases a with
  | enqueue t =>
    by_cases he : (m.tasks t).enqueued = true
    · exact h.of_eq (by simp [Machine.perform, he]) hf
    · exact (h.setTask (t := t) (x := (m.tasks t).markEnqueued) rfl rfl).of_eq (by simp [Machine.perform, he]) hf
  | finish t =>
    by_cases hp : m.parked t = true
    · exact (h.complete t).of_eq (by simp [Machine.perform, hp, tasks_complete]) (by simpa using hf)
    · exact h.of_eq (by simp [Machine.perform, hp]) hf
  | _ => exact h.of_eq rfl hf

theorem bodyStep (h : m.Completes) (t : Fin n) (w : Nat) (token : Bool) (steps : List (BodyStep n))
    (c : Cleanup n) : (m.bodyStep t w token steps c).Completes := by
  have release : (if token then m.complete t else m).Completes := by
    split
    · exact h.complete t
    · exact h
  match steps with
  | [] => exact release.of_eq rfl (by simp [Machine.bodyStep])
  | .dropToken :: _ => exact release.of_eq rfl (by simp [Machine.bodyStep])
  | .panic :: _ => exact release.of_eq (by simp [Machine.bodyStep]) (by simp [Machine.bodyStep])
  | .check :: _ => exact h.of_eq rfl (by simp [Machine.bodyStep])
  | .display :: _ => exact h.of_eq rfl (by simp [Machine.bodyStep])
  | .act a :: steps =>
    have pushed : (m.push [.note a, .body t w token steps c]).Completes := h.of_eq rfl (by simp)
    exact pushed.perform a
  | .park :: _ =>
    by_cases ht : token = true
    · exact h.of_eq (by simp [Machine.bodyStep, ht]) (by simp [Machine.bodyStep, ht])
    · by_cases hp : m.parked t = true
      · exact (h.complete t).of_eq (by simp [Machine.bodyStep, ht, hp, tasks_complete])
          (by simp [Machine.bodyStep, ht, hp])
      · exact h.of_eq (by simp [Machine.bodyStep, ht, hp]) (by simp [Machine.bodyStep, ht, hp])

/-- A task that is being canceled is left to be resolved by a frame on the stack. -/
theorem cancelStep (h : m.Completes) (ts : List (Fin n)) : (m.cancelStep ts).Completes := by
  cases ts with
  | nil => exact h.of_eq rfl (by simp [Machine.cancelStep])
  | cons t ts =>
    rw [cancelStep_cons]
    split
    · exact h.of_eq rfl (by simp)
    · rename_i hs
      obtain ⟨h1, h2, h3⟩ := h
      have canceled : ((m.setTask t (m.tasks t).beginCancel.1).push [.resolve t, .cancelEach ts]).Completes := by
        constructor <;> simp <;> grind [Task.beginCancel, TaskState.isTerminal]
      exact canceled.of_eq (by simp) (by unfold invoke; split <;> simp)

/-- The frame of a task that is being canceled sets its completion mark. -/
theorem resolve (h : m.Completes) {t : Fin n} {fs : List (Frame n)} (hf : m.frames = .resolve t :: fs) :
    (runFrame (.resolve t) { m with frames := fs }).Completes := by
  obtain ⟨h1, h2, h3⟩ := h
  rw [hf] at h2 h3
  constructor <;> simp [Machine.runFrame, Task.resolve] <;> grind

/-- A frame keeps marks and states in agreement, if it does not resolve a task. -/
theorem runFrame (h : m.Completes) (f : Frame n) (hf : ∀ t, f ≠ .resolve t) : (m.runFrame f).Completes := by
  cases f with
  | body t w token steps c => exact h.bodyStep t w token steps c
  | handOver t c =>
    rw [runFrame_handOver]
    split
    · exact h.setTask rfl rfl
    · split
      · exact h.of_eq (by simp) (by simp [invoke]; split <;> simp)
      · exact h
  | cleanup t actions =>
    cases actions with
    | nil => exact h.of_eq rfl (by simp [Machine.runFrame])
    | cons a actions =>
      have pushed : (m.push [.note a, .cleanup t actions]).Completes := h.of_eq rfl (by simp)
      exact pushed.perform a
  | cancelEach ts => exact h.cancelStep ts
  | resolve t => exact absurd rfl (hf t)
  | _ => exact h.of_eq (by simp [Machine.runFrame]) (by simp [Machine.runFrame])

theorem start (h : m.Completes) (t : Fin n) : (m.setTask t (m.tasks t).start.1).Completes := by
  unfold Task.start
  split
  · rename_i hs
    exact h.setTask (by simp [hs, TaskState.isTerminal]) rfl
  · rw [setTask_self]
    exact h

theorem runTask (h : m.Completes) (t : Fin n) (w : Nat) : (m.runTask t w).Completes := by
  have started := h.start t
  unfold Machine.runTask
  split
  · rename_i x b hs
    rw [hs] at started
    exact started.of_eq rfl (by simp)
  · rename_i x hs
    rw [hs] at started
    exact started.of_eq rfl (by simp)

theorem runJob (h : m.Completes) (j : Job) : (m.runJob j).Completes := by
  cases j with
  | drain =>
    simp only [Machine.runJob]
    split
    · exact h.of_eq rfl (by simp)
    · split <;> exact h.of_eq rfl (by simp)
  | poll w =>
    simp only [Machine.runJob]
    split
    · exact h.runTask _ w
    · exact h.runTask _ w
    · exact h.of_eq rfl (by simp)

end Completes

/-- In every run the completion marks and the terminal states agree, but for tasks that are just being canceled. -/
theorem Reachable.completes (h : Reachable scripts m) : m.Completes := by
  induction h using Reachable.induct with
  | start => exact ⟨by simp [start, Task.fresh], by simp [start, Task.fresh, TaskState.isTerminal], by simp [start]⟩
  | @frame m f fs _ hf ih =>
    by_cases hr : ∃ t, f = .resolve t
    · obtain ⟨t, rfl⟩ := hr
      exact ih.resolve hf
    · have popped : Completes { m with frames := fs } := ih.of_eq rfl (by simp [hf]; grind)
      exact popped.runFrame f (by simpa using hr)
  | @job m j js _ _ _ ih =>
    have popped : Completes { m with jobs := js } := ih.of_eq rfl (by simp)
    exact popped.runJob j
  | perform a _ _ ih => exact ih.perform a
  | await goal _ _ _ ih => exact ih.of_eq rfl (by simp [Machine.await])

/-! ## Tokens -/

end Machine

/-- Whether a frame is a body that holds the token of a task. -/
def Frame.holdsToken {n : Nat} (t : Fin n) : Frame n → Bool
  | .body u _ token _ _ => token && t == u
  | _ => false

namespace Machine

variable {n : Nat} {scripts : Fin n → Script n} {m m' : Machine n}

attribute [local simp] setTask setParked emit push spawn ret setPhase addWaiter wake wakeTask wakeIdle

/-- The token of a task is parked, or its body holds it. -/
def TokenHeld (m : Machine n) (t : Fin n) : Prop := m.parked t = true ∨ ∃ f ∈ m.frames, f.holdsToken t = true

/-- A token is held as long as nobody takes it from its place and the stack only grows. -/
theorem TokenHeld.mono {t : Fin n} (h : m.TokenHeld t) (hp : m'.parked = m.parked) (hf : ∀ f ∈ m.frames, f ∈ m'.frames) :
    m'.TokenHeld t := by
  obtain h | ⟨f, h, ht⟩ := h
  · exact Or.inl (by rw [hp]; exact h)
  · exact Or.inr ⟨f, hf f h, ht⟩

/-- Only other tasks can be running when a task has been completed. -/
theorem ne_of_running_complete {t u : Fin n} (h : ((m.complete t).tasks u).state = .running) : u ≠ t := by
  rintro rfl
  have ht := Task.isTerminal_complete (m.tasks u)
  simp only [tasks_complete, if_true] at h
  simp [h, TaskState.isTerminal] at ht

/-- Finishing a task is the only operation that lets go of a token, and the task is then not running any more. -/
theorem TokenHeld.perform {t : Fin n} (h : m.TokenHeld t) (a : Action n)
    (hr : ((m.perform a).tasks t).state = .running) : (m.perform a).TokenHeld t := by
  cases a with
  | finish u =>
    by_cases hp : m.parked u = true
    · have hu : t ≠ u := ne_of_running_complete (m := m.setParked u false) (by simpa [Machine.perform, hp] using hr)
      simpa [TokenHeld, Machine.perform, hp, hu, calls] using h
    · exact h.mono (by simp [Machine.perform, hp]) (by simp +contextual)
  | enqueue u =>
    by_cases he : (m.tasks u).enqueued = true
    · exact h.mono (by simp [Machine.perform, he]) (by simp +contextual)
    · exact h.mono (by simp [Machine.perform, he]) (by simp +contextual)
  | _ => exact h.mono rfl (by simp +contextual)

/-- A body step keeps the tokens of the tasks that go on running. -/
theorem tokenHeld_bodyStep {t u : Fin n} {w : Nat} {token : Bool} {steps : List (BodyStep n)} {c : Cleanup n}
    (h : m.TokenHeld u ∨ token = true ∧ u = t)
    (hr : ((m.bodyStep t w token steps c).tasks u).state = .running) :
    (m.bodyStep t w token steps c).TokenHeld u := by
  have keep (hu : token = true → u ≠ t) : m.TokenHeld u := h.resolve_right fun ⟨ht, he⟩ => hu ht he
  match steps with
  | [] =>
    have hu : token = true → u ≠ t := fun ht => ne_of_running_complete (by simpa [bodyStep, ht] using hr)
    refine (keep hu).mono ?_ ?_ <;> cases token <;> simp +contextual [bodyStep]
  | .dropToken :: _ =>
    have hu : token = true → u ≠ t := fun ht => ne_of_running_complete (by simpa [bodyStep, ht] using hr)
    refine (keep hu).mono ?_ ?_ <;> cases token <;> simp +contextual [bodyStep]
  | .panic :: _ =>
    have hu : token = true → u ≠ t := fun ht => ne_of_running_complete (by simpa [bodyStep, ht] using hr)
    refine (keep hu).mono ?_ ?_ <;> cases token <;> simp +contextual [bodyStep]
  | .check :: steps =>
    obtain h | ⟨ht, hu⟩ := h
    · exact h.mono rfl (by simp +contextual [bodyStep])
    · exact Or.inr ⟨.body t w token steps c, by simp [bodyStep], by simp [Frame.holdsToken, ht, hu]⟩
  | .display :: steps =>
    obtain h | ⟨ht, hu⟩ := h
    · exact h.mono rfl (by simp +contextual [bodyStep])
    · exact Or.inr ⟨.body t w token steps c, by simp [bodyStep], by simp [Frame.holdsToken, ht, hu]⟩
  | .act a :: steps =>
    have pushed : (m.push [.note a, .body t w token steps c]).TokenHeld u := by
      obtain h | ⟨ht, hu⟩ := h
      · exact h.mono rfl (by simp +contextual)
      · exact Or.inr ⟨.body t w token steps c, by simp, by simp [Frame.holdsToken, ht, hu]⟩
    exact pushed.perform a hr
  | .park :: _ =>
    by_cases ht : token = true
    · by_cases hu : u = t
      · exact Or.inl (by simp [bodyStep, ht, hu])
      · simpa [TokenHeld, bodyStep, ht, hu, Frame.holdsToken] using h
    · have h := keep (by simp [ht])
      by_cases hp : m.parked t = true
      · have hu : u ≠ t :=
          ne_of_running_complete (m := m.setParked t false) (by simpa [bodyStep, ht, hp] using hr)
        simpa [TokenHeld, bodyStep, ht, hp, hu, Frame.holdsToken] using h
      · exact h.mono (by simp +contextual [bodyStep, ht, hp]) (by simp +contextual [bodyStep, ht, hp])

/-- A task that is still running after a frame has its token held somewhere. -/
theorem tokenHeld_runFrame {f : Frame n} {u : Fin n} (h : m.TokenHeld u ∨ f.holdsToken u = true)
    (hr : ((m.runFrame f).tasks u).state = .running) : (m.runFrame f).TokenHeld u := by
  cases f with
  | body t w token steps c => exact tokenHeld_bodyStep (by simpa [Frame.holdsToken] using h) hr
  | cleanup t actions =>
    have held : m.TokenHeld u := by simpa [Frame.holdsToken] using h
    cases actions with
    | nil => exact held.mono rfl (by simp +contextual [runFrame])
    | cons a actions =>
      have pushed : (m.push [.note a, .cleanup t actions]).TokenHeld u := held.mono rfl (by simp +contextual)
      exact pushed.perform a hr
  | handOver t c =>
    have held : m.TokenHeld u := by simpa [Frame.holdsToken] using h
    rw [runFrame_handOver]
    split
    · exact held.mono rfl (by simp +contextual)
    · split
      · exact held.mono (by simp +contextual) (by unfold invoke; split <;> simp +contextual)
      · exact held
  | cancelEach ts =>
    have held : m.TokenHeld u := by simpa [Frame.holdsToken] using h
    cases ts with
    | nil => exact held.mono rfl (by simp +contextual [runFrame, cancelStep])
    | cons t ts =>
      simp only [runFrame, cancelStep_cons]
      split
      · exact held.mono rfl (by simp +contextual)
      · exact held.mono (by simp +contextual) (by unfold invoke; split <;> simp +contextual)
  | _ =>
    have held : m.TokenHeld u := by simpa [Frame.holdsToken] using h
    exact held.mono (by simp +contextual [runFrame]) (by simp +contextual [runFrame])

/-- Starting a task hands its token to the body. -/
theorem tokenHeld_startTask {t u : Fin n} {w : Nat} {b : Body n}
    (h : (m.tasks u).state = .running → m.TokenHeld u)
    (hr : ((m.startTask t w b).tasks u).state = .running) : (m.startTask t w b).TokenHeld u := by
  by_cases hu : u = t
  · exact Or.inr ⟨.body t w true b.steps b.cleanup, by simp, by simp [Frame.holdsToken, hu]⟩
  · have held := h (by simpa [hu] using hr)
    exact held.mono rfl (by simp +contextual)

/-- In every run the token of a running task is held by somebody. -/
theorem Reachable.tokenHeld (h : Reachable scripts m) {t : Fin n} (hr : (m.tasks t).state = .running) :
    m.TokenHeld t := by
  induction h using Reachable.induct with
  | start => simp [Machine.start, Task.fresh] at hr
  | @frame m f fs _ hf ih =>
    obtain hp | ⟨g, hg, ht⟩ := ih ((changes_runFrame f { m with frames := fs } t).running hr)
    · exact tokenHeld_runFrame (Or.inl (Or.inl hp)) hr
    · rw [hf] at hg
      obtain rfl | hg := List.mem_cons.mp hg
      · exact tokenHeld_runFrame (Or.inr ht) hr
      · exact tokenHeld_runFrame (Or.inl (Or.inr ⟨g, hg, ht⟩)) hr
  | @job m j js h _ _ ih =>
    cases j with
    | drain =>
      obtain ⟨-, hj⟩ | ⟨w, u, -, -, hj⟩ | ⟨w, -, -, hj⟩ := runJob_drain { m with jobs := js } <;> rw [hj] at hr ⊢
      · exact (ih hr).mono rfl (by simp +contextual)
      · exact (ih hr).mono rfl (by simp +contextual)
      · exact (ih hr).mono rfl (by simp +contextual)
    | poll w =>
      obtain ⟨x, u, -, -, -, -, hj⟩ | ⟨hj, -⟩ := runJob_poll (m := { m with jobs := js }) h.body_of_pending w <;>
        rw [hj] at hr ⊢
      · exact tokenHeld_startTask (fun hr => (ih hr).mono rfl (by simp)) hr
      · exact (ih hr).mono rfl (by simp +contextual)
  | @perform m a _ _ ih => exact (ih (running_perform hr)).perform a hr
  | await goal _ _ _ ih => exact (ih hr).mono rfl (by simp [Machine.await])

end ElixirLint.Queue.Machine
