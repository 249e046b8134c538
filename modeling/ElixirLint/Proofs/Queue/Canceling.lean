import ElixirLint.Proofs.Queue.Completion
import ElixirLint.Proofs.Queue.Draining

/-!
# What is still to be canceled

An operation that cancels some tasks leaves them on the stack as the targets of a frame. A target is terminal when its
turn has come, and until then it stays a target (`targets_follow`), whatever the cleanups do that run in between. So
the drain loop, which cancels a head whose body has failed, removes only terminal tasks (`Reachable.advancing_head`).
-/

namespace ElixirLint.Queue

/-- The tasks that a frame is still to cancel. -/
def Frame.targets {n : Nat} : Frame n → List (Fin n)
  | .cancelEach ts => ts
  | _ => []

namespace Machine

variable {n : Nat} {scripts : Fin n → Script n} {m m' : Machine n}

/-- The task is among the targets of some frames. -/
def Targeted (fs : List (Frame n)) (t : Fin n) : Prop := ∃ f ∈ fs, t ∈ f.targets

/-- A task that is targeted below is targeted. -/
theorem Targeted.append_left {fs gs : List (Frame n)} {t : Fin n} (h : Targeted gs t) : Targeted (fs ++ gs) t := by
  obtain ⟨f, hf, ht⟩ := h
  exact ⟨f, List.mem_append_right _ hf, ht⟩

theorem Targeted.append_right {fs gs : List (Frame n)} {t : Fin n} (h : Targeted fs t) : Targeted (fs ++ gs) t := by
  obtain ⟨f, hf, ht⟩ := h
  exact ⟨f, List.mem_append_left _ hf, ht⟩

/-- A target of a frame is terminal after the frame, or stays a target. -/
theorem targets_follow {f : Frame n} {t : Fin n} (h : t ∈ f.targets) :
    ((m.runFrame f).tasks t).state.isTerminal = true ∨ Targeted (m.follow f) t := by
  cases f with
  | cancelEach ts =>
    cases ts with
    | nil => cases h
    | cons u ts =>
      by_cases hs : (m.tasks u).state.isTerminal = true
      · obtain rfl | h := List.mem_cons.mp h
        · exact Or.inl ((changes_runFrame _ m t).evolves.isTerminal hs)
        · exact Or.inr ⟨.cancelEach ts, by simp [follow, hs], h⟩
      · obtain rfl | h := List.mem_cons.mp h
        · left
          simp only [runFrame, cancelStep_cons, hs, Bool.false_eq_true, if_false, fields_invoke]
          simp [push, setTask, Task.isTerminal_beginCancel]
        · exact Or.inr ⟨.cancelEach ts, by simp [follow, hs], h⟩
  | _ => cases h

/-- What is done to the targets of a stack by its topmost frame. -/
theorem targeted_runFrame {f : Frame n} {pre : List (Frame n)} {t : Fin n} (h : Targeted (f :: pre) t) :
    ((m.runFrame f).tasks t).state.isTerminal = true ∨ Targeted (m.follow f ++ pre) t := by
  obtain ⟨g, hg, ht⟩ := h
  obtain rfl | hg := List.mem_cons.mp hg
  · exact (targets_follow ht).imp_right .append_right
  · exact Or.inr (Targeted.append_left ⟨g, hg, ht⟩)

/-- A frame that is none of those that take the place of the topmost one was on the stack below it. -/
theorem split_of_not_mem {α : Type} {xs ys pre post : List α} {x : α} (h : xs ++ ys = pre ++ x :: post) (hx : x ∉ xs) :
    ∃ mid, pre = xs ++ mid ∧ ys = mid ++ x :: post := by
  obtain ⟨mid, rfl, hy⟩ | ⟨mid, hxs, hy⟩ := List.append_eq_append_iff.mp h
  · exact ⟨mid, rfl, hy⟩
  · cases mid with
    | nil => exact ⟨[], by simpa using hxs.symm, by simpa using hy.symm⟩
    | cons y mid =>
      obtain ⟨rfl, -⟩ := List.cons.inj hy
      exact absurd (by rw [hxs]; simp) hx

/-- The drain loop waits for the head of the queue. -/
theorem Reachable.turn_waiter (h : Reachable scripts m) {w : Nat} {t : Fin n} (ht : m.turn = some w)
    (hd : m.deque.head? = some t) : ∃ x, m.waiters[w]? = some x ∧ x.goal = .turn t := by
  obtain ⟨u, hg, hu⟩ := h.draining.head w ht
  obtain rfl := Option.some.inj (hu.symm.trans hd)
  simpa [goals] using hg

/-- The drain loop that goes on after its turn finds the head terminal, unless the body of the head has failed. -/
theorem Reachable.isTerminal_of_turn (h : Reachable scripts m) {w : Nat} {t : Fin n} {js : List Job}
    (hj : m.jobs = .drain :: js) (ht : m.turn = some w) (hd : m.deque.head? = some t)
    (hn : m.waiters[w]? ≠ some ⟨.turn t, .failed⟩) : (m.tasks t).state.isTerminal = true := by
  obtain ⟨⟨goal, phase⟩, hx, rfl : goal = .turn t⟩ := h.turn_waiter ht hd
  have hm := List.mem_of_getElem? hx
  have hs : phase = .settled := by
    have ho := h.alone_of_job hj _ hm
    cases phase <;> simp only [Waiter.turns, Phase.isOver, Bool.not_true, Bool.not_false, Bool.true_eq_false] at ho
    · rfl
    · exact absurd hx hn
  subst hs
  exact h.completes.terminal_of_done t (h.informed.settled _ hm t rfl rfl)

/-- The job that begins the removal of the head cancels the head before if its body has failed. -/
theorem Reachable.advancing_job (h : Reachable scripts m) (hframes : m.frames = []) {j : Job} {js : List Job}
    (hj : m.jobs = j :: js) {pre post : List (Frame n)} {t : Fin n}
    (hf : (runJob j { m with jobs := js }).frames = pre ++ .advance :: post) (hd : m.deque.head? = some t) :
    ((runJob j { m with jobs := js }).tasks t).state.isTerminal = true ∨ Targeted pre t := by
  have hmem : .advance ∈ (runJob j { m with jobs := js }).frames := by simp [hf]
  cases j with
  | poll w =>
    exfalso
    obtain ⟨x, u, -, -, -, -, hr⟩ | ⟨hr, -⟩ := runJob_poll (m := { m with jobs := js }) h.body_of_pending w <;>
      rw [hr] at hmem <;> simp [push, hframes] at hmem
  | drain =>
    obtain ⟨-, hr⟩ | ⟨w, u, ht, hu, hr⟩ | ⟨w, ht, hu, hr⟩ := runJob_drain { m with jobs := js }
    · rw [hr] at hmem
      simp [push, hframes] at hmem
    · right
      obtain ⟨x, hx, hg⟩ := h.turn_waiter ht hd
      obtain rfl := Option.some.inj (hu.symm.trans hx)
      obtain rfl : u = t := Goal.turn.inj hg
      rw [hr] at hf
      have hsplit : [.cancelEach [u]] ++ (.advance :: m.frames) = pre ++ .advance :: post := hf
      obtain ⟨mid, rfl, -⟩ := split_of_not_mem hsplit (by simp)
      exact Targeted.append_right ⟨.cancelEach [u], by simp, by simp [Frame.targets]⟩
    · left
      rw [hr]
      exact h.isTerminal_of_turn hj ht hd (hu t)

/-- A frame above the removal of the head leaves the head where it is. -/
theorem Reachable.head_of_frame (h : Reachable scripts m) {f : Frame n} {fs : List (Frame n)} (hf : m.frames = f :: fs)
    (ha : .advance ∈ fs) : (runFrame f { m with frames := fs }).deque.head? = m.deque.head? := by
  rw [deque_runFrame]
  split
  · obtain ⟨v, vs, hv⟩ := List.exists_cons_of_ne_nil (h.draining.advancing (by simp [hf, ha]))
    simp [hv]
  · cases (h.alone_of_frame hf rfl).2.1 _ ha
  · rfl

/-- In every run the head that the drain loop is about to remove is terminal, or will be before it is removed. -/
theorem Reachable.advancing_head (h : Reachable scripts m) {pre post : List (Frame n)} {t : Fin n}
    (hf : m.frames = pre ++ .advance :: post) (hd : m.deque.head? = some t) :
    (m.tasks t).state.isTerminal = true ∨ Targeted pre t := by
  induction h using Reachable.induct generalizing pre post with
  | start => simp [Machine.start] at hd
  | @frame m f fs h hframes ih =>
    have hna := not_advance_follow { m with frames := fs } f
    rw [(frames_runFrame f { m with frames := fs }).1] at hf
    obtain ⟨mid, rfl, hfs⟩ := split_of_not_mem hf hna
    replace hfs : fs = mid ++ .advance :: post := hfs
    have hold : m.frames = (f :: mid) ++ .advance :: post := by rw [hframes, hfs]; rfl
    rw [h.head_of_frame hframes (by simp [hfs])] at hd
    obtain hs | ht := ih hold hd
    · exact Or.inl ((changes_runFrame f { m with frames := fs } t).evolves.isTerminal hs)
    · exact targeted_runFrame ht
  | @job m j js h hframes hj _ =>
    rw [(fields_runJob _ _).1] at hd
    exact h.advancing_job hframes hj hf hd
  | @perform m a h hframes ih =>
    exfalso
    have hm : (.advance : Frame n) ∈ m.calls a := by
      have := congrArg (Frame.advance ∈ ·) hf
      simpa [hframes] using this
    exact not_advance_calls m a hm
  | @await m goal h hframes _ ih =>
    rw [frames_await, hframes] at hf
    simp at hf

end Machine

end ElixirLint.Queue
