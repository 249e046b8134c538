import ElixirLint.Proofs.Queue.Bodies

/-!
# Where the cleanups are

`Ledger` says where the cleanup is that a body has returned: about to be handed over, kept by its running task, or
called once its task has been canceled. So with no code of the task on the stack its cleanup has been called exactly
once if the body has returned one and the task is canceled, and never otherwise.
-/

namespace ElixirLint.Queue

/-- Whether a frame is about to hand over the cleanup of a task. -/
def Frame.handsOver {n : Nat} (t : Fin n) : Frame n → Bool
  | .handOver u _ => decide (u = t)
  | _ => false

namespace Machine

variable {n : Nat} {scripts : Fin n → Script n} {m m' : Machine n}

/-- Where the cleanup of a task is, as far as its body has returned. -/
structure Ledger (scripts : Fin n → Script n) (m : Machine n) (t : Fin n) : Prop where
  pending : (m.tasks t).state = .pending →
    m.events.count (.bodyReturned t) = 0 ∧ m.frames.countP (Frame.handsOver t) = 0
  kept : (m.tasks t).state ≠ .running → (m.tasks t).cleanup = none
  running : (m.tasks t).state = .running →
    m.events.count (.bodyReturned t) = m.frames.countP (Frame.handsOver t) + (m.tasks t).cleanup.isSome.toNat
  canceled : (m.tasks t).state = .canceled → (scripts t).body.cleanup.isSome = true →
    m.events.count (.bodyReturned t) = m.frames.countP (Frame.handsOver t) + m.cleanupCalls t
  uncalled : (m.tasks t).state ≠ .canceled ∨ (scripts t).body.cleanup = none → m.cleanupCalls t = 0

/-- A body that returns hands its cleanup over. -/
theorem handsOver_follow (m : Machine n) (f : Frame n) (t : Fin n) :
    (m.follow f).countP (Frame.handsOver t) = (m.happens f).count (.bodyReturned t) := by
  have calls (a : Action n) : (m.calls a).countP (Frame.handsOver t) = 0 :=
    countP_calls (fun _ => rfl) (fun _ => rfl) m a
  have handed (u : Fin n) (c : Option (Cleanup n)) :
      (cleanupFrames u c).countP (Frame.handsOver t) = 0 ∧ (cleanupEvents u c).count (.bodyReturned t) = 0 := by
    rcases c with _ | _ | actions <;> exact ⟨rfl, rfl⟩
  match f with
  | .body u w token [] c => by_cases hu : u = t <;> simp [happens, follow, Frame.handsOver, hu]
  | .body u w token (.panic :: steps) c
  | .body u w token (.park :: steps) c | .body u w token (.dropToken :: steps) c
  | .body u w token (.check :: steps) c | .body u w token (.display :: steps) c
  | .body u w token (.act a :: steps) c => simp [happens, follow, Frame.handsOver, List.countP_append, calls]
  | .handOver u c => by_cases hs : (m.tasks u).state = .canceled <;> simp [happens, follow, hs, handed]
  | .cleanup u [] => simp [happens, follow]
  | .cleanup u (a :: actions) => simp [happens, follow, Frame.handsOver, List.countP_append, calls]
  | .cancelEach [] => simp [happens, follow]
  | .cancelEach (u :: ts) =>
    by_cases hs : (m.tasks u).state.isTerminal = true <;>
      simp [happens, follow, hs, handed, Frame.handsOver, List.countP_append]
  | .advance => cases hq : m.deque <;> simp [happens, follow, Frame.handsOver, hq]
  | .look _ | .resolve _ | .append _ | .note _ | .next => simp [happens, follow]

/-- A cleanup is called when it is handed over or when its task is canceled. -/
theorem cleanupCalled_of_mem {f : Frame n} {t : Fin n} (h : .cleanupCalled t ∈ m.happens f) :
    (∃ c, f = .handOver t c) ∨ ∃ ts, f = .cancelEach (t :: ts) := by
  cases causes_of_mem_happens h with
  | adopt => exact Or.inl ⟨_, rfl⟩
  | cancel => exact Or.inr ⟨_, rfl⟩

namespace Ledger

/-- Code that neither hands over the cleanup of the task nor cancels it keeps its ledger right, also when it lets the
body return. -/
theorem of_change {t : Fin n} {keeps : Cleanup n → Prop} {cancels : Prop} (h : Ledger scripts m t) {d : Nat}
    (hr : m'.events.count (.bodyReturned t) = m.events.count (.bodyReturned t) + d)
    (hh : m'.frames.countP (Frame.handsOver t) = m.frames.countP (Frame.handsOver t) + d)
    (hc : m'.cleanupCalls t = m.cleanupCalls t) (hd : (m.tasks t).state = .pending → d = 0)
    (change : Task.Change keeps cancels (m.tasks t) (m'.tasks t)) (hk : ∀ c, ¬keeps c) (hn : ¬cancels) :
    Ledger scripts m' t := by
  obtain ⟨hpending, hkept, hrunning, hcanceled, huncalled⟩ := h
  -- The task is as it was for the ledger, or its work is over.
  have cases : ((m'.tasks t).state = (m.tasks t).state ∧ (m'.tasks t).cleanup = (m.tasks t).cleanup) ∨
      (m.tasks t).state.isTerminal = false ∧ (m'.tasks t).state = .finished ∧ (m'.tasks t).cleanup = none := by
    generalize m'.tasks t = y at change
    cases change with
    | none | resolve | markEnqueued => exact Or.inl ⟨rfl, rfl⟩
    | complete hs => exact Or.inr ⟨hs, by simp [Task.complete, hs], by simp [Task.complete, hs]⟩
    | cancel h => exact absurd h hn
    | keep h => exact absurd h (hk _)
  obtain ⟨hs, hq⟩ | ⟨hs, hs', hq⟩ := cases
  · constructor
    · intro hp
      rw [hs] at hp
      rw [hr, hh, hd hp]
      exact hpending hp
    · rw [hs, hq]
      exact hkept
    · intro hp
      rw [hs] at hp
      rw [hr, hh, hq, hrunning hp]
      omega
    · intro hp ha
      rw [hs] at hp
      rw [hr, hh, hc, hcanceled hp ha]
      omega
    · rw [hs, hc]
      exact huncalled
  · constructor
    · simp [hs']
    · exact fun _ => hq
    · simp [hs']
    · simp [hs']
    · rw [hc]
      intro _
      refine huncalled (Or.inl ?_)
      intro hcs
      simp [hcs, TaskState.isTerminal] at hs

/-- A cleanup that is handed over is kept, called or dropped. -/
theorem handOver {t : Fin n} {c : Cleanup n} {fs : List (Frame n)} (h : Ledger scripts m t)
    (hf : m.frames = .handOver t c :: fs) (hc : c = (scripts t).body.cleanup)
    (hr : m.events.count (.bodyReturned t) ≤ 1) :
    Ledger scripts (runFrame (.handOver t c) { m with frames := fs }) t := by
  obtain ⟨hpending, hkept, hrunning, hcanceled, huncalled⟩ := h
  have hh : m.frames.countP (Frame.handsOver t) = fs.countP (Frame.handsOver t) + 1 := by
    rw [hf]
    exact List.countP_cons_of_pos (by simp [Frame.handsOver])
  rw [runFrame_handOver]
  cases hs : (m.tasks t).state with
  | pending => simp [hh, hs] at hpending
  | finished =>
    simp only [hs, reduceCtorEq, if_false]
    exact ⟨by simp [hs], hkept, by simp [hs], by simp [hs], huncalled⟩
  | running =>
    simp only [hs, if_true]
    have hr' := hrunning hs
    constructor
    · simp [Machine.setTask]
    · simp [Machine.setTask]
    · simp [Machine.setTask]
      omega
    · simp [Machine.setTask]
    · intro _
      exact huncalled (Or.inl (by simp [hs]))
  | canceled =>
    simp only [hs, reduceCtorEq, if_false, if_true]
    have hcalls : cleanupCalls (invoke t (some c) { m with frames := fs }) t =
        m.cleanupCalls t + (c.isSome).toNat := by
      rcases c with _ | actions <;> simp [Machine.cleanupCalls, cleanupEvents]
    have hframes : (invoke t (some c) { m with frames := fs }).frames.countP (Frame.handsOver t) =
        fs.countP (Frame.handsOver t) := by
      rcases c with _ | actions <;> simp [cleanupFrames, Frame.handsOver]
    have hreturned : (invoke t (some c) { m with frames := fs }).events.count (.bodyReturned t) =
        m.events.count (.bodyReturned t) := by
      rcases c with _ | actions <;> simp [cleanupEvents]
    constructor
    · simp [hs]
    · simpa using hkept
    · simp [hs]
    · intro _ ha
      rw [hreturned, hframes, hcalls, hcanceled hs ha, hc, ha, hh]
      simp only [Bool.toNat_true]
      omega
    · rintro (hn | hn)
      · simp [hs] at hn
      · rw [hcalls, huncalled (Or.inr hn), hc, hn]
        rfl

/-- A task that is canceled gives its cleanup away to be called. -/
theorem cancel {t : Fin n} {ts : List (Fin n)} (h : Ledger scripts m t)
    (hc : ∀ c, (m.tasks t).cleanup = some c → c = (scripts t).body.cleanup) :
    Ledger scripts (m.cancelStep (t :: ts)) t := by
  obtain ⟨hpending, hkept, hrunning, hcanceled, huncalled⟩ := h
  rw [cancelStep_cons]
  split
  · exact ⟨hpending, hkept, hrunning, hcanceled, huncalled⟩
  · rename_i hs
    have hn : (m.tasks t).state ≠ .canceled := fun hn => hs (by simp [hn, TaskState.isTerminal])
    have hz := huncalled (Or.inl hn)
    generalize hm : (m.setTask t (m.tasks t).beginCancel.1).push [.resolve t, .cancelEach ts] = m₁
    have htask : m₁.tasks t = (m.tasks t).beginCancel.1 := by simp [← hm, push, setTask]
    have hstate : (m₁.tasks t).state = .canceled := by simp [htask, Task.beginCancel, hs]
    have hcalls : (m₁.invoke t (m.tasks t).cleanup).cleanupCalls t =
        if (m.tasks t).cleanup.isSome = true ∧ (scripts t).body.cleanup.isSome = true then 1 else 0 := by
      have hz' : m₁.cleanupCalls t = 0 := by simpa [← hm, push, setTask, Machine.cleanupCalls] using hz
      simp only [Machine.cleanupCalls, frames_invoke, List.countP_append]
      rw [show m₁.events.countP (fun e => e == .cleanupCalled t) = 0 from hz']
      rcases hk : (m.tasks t).cleanup with _ | c
      · rfl
      · obtain rfl := hc c hk
        rcases (scripts t).body.cleanup with _ | actions <;> simp [cleanupEvents]
    have hframes : (m₁.invoke t (m.tasks t).cleanup).frames.countP (Frame.handsOver t) =
        m.frames.countP (Frame.handsOver t) := by
      rw [(frames_invoke _ _ _).1, ← hm]
      rcases (m.tasks t).cleanup with _ | _ | actions <;> simp [cleanupFrames, push, setTask, Frame.handsOver]
    have hreturned : (m₁.invoke t (m.tasks t).cleanup).events.count (.bodyReturned t) =
        m.events.count (.bodyReturned t) := by
      rw [(frames_invoke _ _ _).2, ← hm]
      rcases (m.tasks t).cleanup with _ | _ | actions <;> simp [cleanupEvents, push, setTask]
    constructor
    · simp [hstate]
    · simp [htask, Task.beginCancel, hs]
    · simp [hstate]
    · intro _ ha
      rw [hreturned, hframes, hcalls, ha]
      cases hst : (m.tasks t).state with
      | pending =>
        obtain ⟨hr, hh⟩ := hpending hst
        simp [hr, hh, hkept (by simp [hst])]
      | running =>
        rw [hrunning hst]
        cases (m.tasks t).cleanup <;> rfl
      | finished | canceled => simp [hst, TaskState.isTerminal] at hs
    · rintro (hn | hn)
      · simp [hstate] at hn
      · simp [hcalls, hn]

/-- Of the stack only the frames that hand over the cleanup matter. -/
theorem of_frames {t : Fin n} {fs : List (Frame n)} (h : Ledger scripts m t)
    (hf : m.frames.countP (Frame.handsOver t) = fs.countP (Frame.handsOver t)) (js : List Job) :
    Ledger scripts { m with frames := fs, jobs := js } t := by
  obtain ⟨hpending, hkept, hrunning, hcanceled, huncalled⟩ := h
  rw [hf] at hpending hrunning hcanceled
  exact ⟨hpending, hkept, hrunning, hcanceled, huncalled⟩

/-- A pending task that is started has returned nothing, and any other task is left alone. -/
theorem startTask {t u : Fin n} (h : Ledger scripts m t) (hs : (m.tasks u).state = .pending) (w : Nat) (b : Body n) :
    Ledger scripts (m.startTask u w b) t := by
  have hcalls : (m.startTask u w b).cleanupCalls t = m.cleanupCalls t := by simp [Machine.cleanupCalls]
  have hframes : (m.startTask u w b).frames.countP (Frame.handsOver t) = m.frames.countP (Frame.handsOver t) := by
    simp [Frame.handsOver]
  have hreturned : (m.startTask u w b).events.count (.bodyReturned t) = m.events.count (.bodyReturned t) := by simp
  by_cases hu : t = u
  · subst hu
    obtain ⟨hpending, hkept, hrunning, hcanceled, huncalled⟩ := h
    obtain ⟨hr, hh⟩ := hpending hs
    have hk := hkept (by simp [hs])
    have hz := huncalled (Or.inl (by simp [hs]))
    have hstate : ((m.startTask t w b).tasks t).state = .running := by simp [Task.state_start, hs]
    have hcleanup : ((m.startTask t w b).tasks t).cleanup = none := by simp [hk]
    constructor
    · exact fun hp => absurd (hstate.symm.trans hp) (by decide)
    · exact fun _ => hcleanup
    · intro _
      rw [hreturned, hframes, hcleanup, hr, hh]
      rfl
    · exact fun hp => absurd (hstate.symm.trans hp) (by decide)
    · exact fun _ => hcalls.trans hz
  · have change : Task.Change (fun _ => False) False (m.tasks t) ((m.startTask u w b).tasks t) := by
      simp only [fields_startTask, hu, if_false]
      exact .none _
    exact h.of_change (d := 0) hreturned hframes hcalls (fun _ => rfl) change (fun _ => id) id

/-- Frames that a job begins with hand over nothing. -/
theorem enter {t : Fin n} (h : Ledger scripts m t) {fs : List (Frame n)} (hfs : ∀ f ∈ fs, f.enters = true)
    (hf : m'.frames = fs ++ m.frames) (ht : m'.tasks = m.tasks) (he : m'.events = m.events) :
    Ledger scripts m' t := by
  have hz : fs.countP (Frame.handsOver t) = 0 :=
    countP_entering (fun f hf => by cases f <;> simp_all [Frame.handsOver, Frame.enters]) hfs
  have change : Task.Change (fun _ => False) False (m.tasks t) (m'.tasks t) := by
    rw [ht]
    exact .none _
  refine h.of_change (d := 0) ?_ ?_ ?_ (fun _ => rfl) change (fun _ => id) id
  · rw [he]
    rfl
  · simp [hf, hz]
  · simp [Machine.cleanupCalls, he]

/-- An operation by itself cancels nothing; the frames that it leaves do. -/
theorem perform {t : Fin n} (h : Ledger scripts m t) (a : Action n) : Ledger scripts (m.perform a) t := by
  have hz : (m.calls a).countP (Frame.handsOver t) = 0 := countP_calls (fun _ => rfl) (fun _ => rfl) m a
  have change := (changes_perform a m : Changes (fun _ _ => False) (fun _ => False) m _) t
  refine h.of_change (d := 0) ?_ ?_ ?_ (fun _ => rfl) change (fun _ => id) id
  · simp
  · simp [hz]
  · simp [Machine.cleanupCalls]

end Ledger

/-- In every run the body of a pending task is not on the stack. -/
theorem Reachable.not_runsBody_of_pending (h : Reachable scripts m) {t : Fin n} (hp : (m.tasks t).state = .pending)
    {f : Frame n} (hf : f ∈ m.frames) : f.runsBody t = false := by
  have hcalls := h.bodyCalls t
  have hle := h.bodyCalls_le t
  rw [if_pos hp] at hle
  have hz : m.frames.countP (Frame.runsBody t) = 0 := by omega
  simpa using List.countP_eq_zero.mp hz f hf

/-- In a run the frame that goes on keeps the ledger right. -/
theorem Reachable.ledger_frame (h : Reachable scripts m) {f : Frame n} {fs : List (Frame n)} (hf : m.frames = f :: fs)
    {t : Fin n} (ih : Ledger scripts m t) : Ledger scripts (runFrame f { m with frames := fs }) t := by
  by_cases hh : ∃ c, f = .handOver t c
  · obtain ⟨c, rfl⟩ := hh
    refine ih.handOver hf (h.faithful.handOver t c (by simp [hf])) ?_
    have hcalls := h.bodyCalls t
    have hle := h.bodyCalls_le t
    split at hle <;> omega
  have hz : m.frames.countP (Frame.handsOver t) = fs.countP (Frame.handsOver t) := by
    rw [hf]
    refine List.countP_cons_of_neg fun hn => hh ?_
    cases f with
    | handOver u c => exact ⟨c, by rw [of_decide_eq_true hn]⟩
    | _ => cases hn
  by_cases hc : ∃ ts, f = .cancelEach (t :: ts)
  · obtain ⟨ts, rfl⟩ := hc
    exact (ih.of_frames hz m.jobs).cancel (h.faithful.kept t)
  · obtain ⟨hframes, hevents⟩ := frames_runFrame f { m with frames := fs }
    refine ih.of_change (d := (happens { m with frames := fs } f).count (.bodyReturned t)) ?_ ?_ ?_ ?_
      (changes_runFrame f { m with frames := fs } t) (fun c hk => hh ⟨c, hk⟩) hc
    · rw [hevents, List.count_append]
      exact Nat.add_comm _ _
    · rw [hframes, List.countP_append, handsOver_follow, hz]
      exact Nat.add_comm _ _
    · have hn : .cleanupCalled t ∉ happens { m with frames := fs } f := fun hm =>
        (cleanupCalled_of_mem hm).elim hh hc
      rw [cleanupCalls_eq, cleanupCalls_eq, hevents, List.count_append, List.count_eq_zero.mpr hn, Nat.zero_add]
    · intro hp
      have ends := body_ends { m with frames := fs } f t
      rw [h.not_runsBody_of_pending hp (by simp [hf]), Bool.toNat_false] at ends
      omega

/-- In every run every cleanup that a body has returned is accounted for. -/
theorem Reachable.ledger (h : Reachable scripts m) (t : Fin n) : Ledger scripts m t := by
  induction h using Reachable.induct with
  | start => constructor <;> simp [Machine.start, Task.fresh, Machine.cleanupCalls]
  | frame h hf ih => exact h.ledger_frame hf ih
  | @job m j js h _ _ ih =>
    have popped : Ledger scripts { m with jobs := js } t := ih.of_frames rfl js
    obtain ⟨w, x, u, -, -, -, -, hs, hj⟩ | ⟨gs, hgs, hframes, htasks, -, hevents⟩ :=
      runJob_cases (m := { m with jobs := js }) h.body_of_pending j
    · rw [hj]
      exact popped.startTask hs w _
    · exact popped.enter hgs hframes htasks hevents
  | perform a _ _ ih => exact ih.perform a
  | await goal _ _ _ ih => exact ⟨ih.pending, ih.kept, ih.running, ih.canceled, ih.uncalled⟩

end Machine

end ElixirLint.Queue
