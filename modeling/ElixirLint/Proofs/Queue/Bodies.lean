import ElixirLint.Proofs.Queue.Looking

/-!
# Bodies and cleanups

What is called comes to its end: a body that was called has returned, has failed or is still on the stack
(`Reachable.bodyCalls`), and a cleanup that was called has returned or is still on the stack
(`Reachable.cleanupCalls`). A body is called at most once, for somebody who runs the task, and a task whose body was
called is not pending.

`Faithful` says that what is on the stack comes from the scripts: the cleanups of the bodies, and the waiters that
bodies are run for.
-/

namespace ElixirLint.Queue

/-- Whether a frame is the body of a task. -/
def Frame.runsBody {n : Nat} (t : Fin n) : Frame n → Bool
  | .body u _ _ _ _ => decide (u = t)
  | _ => false

/-- Whether a frame is the cleanup of a task. -/
def Frame.runsCleanup {n : Nat} (t : Fin n) : Frame n → Bool
  | .cleanup u _ => decide (u = t)
  | _ => false

namespace Machine

variable {n : Nat} {scripts : Fin n → Script n} {m m' : Machine n}

/-! ## Calls and their ends -/

theorem bodyCalls_eq (m : Machine n) (t : Fin n) : m.bodyCalls t = m.events.count (.bodyCalled t) := rfl

theorem cleanupCalls_eq (m : Machine n) (t : Fin n) : m.cleanupCalls t = m.events.count (.cleanupCalled t) := rfl

/-- Frames that neither cancel tasks nor put one into the queue are not among those of an operation. -/
theorem countP_calls {p : Frame n → Bool} (hc : ∀ ts, p (.cancelEach ts) = false) (ha : ∀ t, p (.append t) = false)
    (m : Machine n) (a : Action n) : (m.calls a).countP p = 0 := by
  rw [List.countP_eq_zero]
  intro f hf
  obtain ⟨ts, rfl⟩ | ⟨t, rfl, -, -⟩ := mem_calls hf
  · simp [hc]
  · simp [ha]

/-- A body goes on, or has come to its end. -/
theorem body_ends (m : Machine n) (f : Frame n) (t : Fin n) :
    (m.happens f).count (.bodyReturned t) + (m.happens f).count (.bodyFailed t) +
      (m.follow f).countP (Frame.runsBody t) = (f.runsBody t).toNat := by
  have calls (a : Action n) : (m.calls a).countP (Frame.runsBody t) = 0 :=
    countP_calls (fun _ => rfl) (fun _ => rfl) m a
  match f with
  | .body u w token [] c | .body u w token (.panic :: steps) c =>
    by_cases hu : u = t <;> simp [happens, follow, Frame.runsBody, hu]
  | .body u w token (.park :: steps) c | .body u w token (.dropToken :: steps) c
  | .body u w token (.check :: steps) c | .body u w token (.display :: steps) c
  | .body u w token (.act a :: steps) c =>
    by_cases hu : u = t <;> simp [happens, follow, Frame.runsBody, hu, List.countP_append, calls]
  | .handOver u c =>
    by_cases hs : (m.tasks u).state = .canceled <;> rcases c with _ | actions <;>
      simp [happens, follow, hs, cleanupEvents, cleanupFrames, Frame.runsBody]
  | .cleanup u [] => simp [happens, follow, Frame.runsBody]
  | .cleanup u (a :: actions) => simp [happens, follow, Frame.runsBody, List.countP_append, calls]
  | .cancelEach [] => simp [happens, follow, Frame.runsBody]
  | .cancelEach (u :: ts) =>
    by_cases hs : (m.tasks u).state.isTerminal = true
    · simp [happens, follow, hs, Frame.runsBody]
    · rcases hc : (m.tasks u).cleanup with _ | _ | actions <;>
        simp [happens, follow, hs, hc, cleanupEvents, cleanupFrames, Frame.runsBody]
  | .advance => cases hq : m.deque <;> simp [happens, follow, Frame.runsBody, hq]
  | .look _ | .resolve _ | .append _ | .note _ | .next => simp [happens, follow, Frame.runsBody]

/-- Running code calls no body. -/
theorem not_bodyCalled (m : Machine n) (f : Frame n) (t : Fin n) : (m.happens f).count (.bodyCalled t) = 0 := by
  rw [List.count_eq_zero]
  intro h
  cases causes_of_mem_happens h

/-- A cleanup that was handed out is called if there is anything to run. -/
theorem countP_cleanupFrames (u t : Fin n) (c : Option (Cleanup n)) :
    (cleanupFrames u c).countP (Frame.runsCleanup t) = (cleanupEvents u c).count (.cleanupCalled t) ∧
      (cleanupEvents u c).count (.cleanupReturned t) = 0 := by
  rcases c with _ | _ | actions
  · exact ⟨rfl, rfl⟩
  · exact ⟨rfl, rfl⟩
  · by_cases hu : u = t <;> simp [cleanupFrames, cleanupEvents, Frame.runsCleanup, hu]

/-- A cleanup that is called goes on the stack, and goes on or has come to its end. -/
theorem cleanup_ends (m : Machine n) (f : Frame n) (t : Fin n) :
    (m.happens f).count (.cleanupReturned t) + (m.follow f).countP (Frame.runsCleanup t) =
      (m.happens f).count (.cleanupCalled t) + (f.runsCleanup t).toNat := by
  have calls (a : Action n) : (m.calls a).countP (Frame.runsCleanup t) = 0 :=
    countP_calls (fun _ => rfl) (fun _ => rfl) m a
  match f with
  | .body u w token [] c | .body u w token (.panic :: steps) c
  | .body u w token (.park :: steps) c | .body u w token (.dropToken :: steps) c
  | .body u w token (.check :: steps) c | .body u w token (.display :: steps) c
  | .body u w token (.act a :: steps) c =>
    simp [happens, follow, Frame.runsCleanup, List.countP_append, calls]
  | .handOver u c =>
    have handed := countP_cleanupFrames u t (some c)
    by_cases hs : (m.tasks u).state = .canceled <;> simp [happens, follow, hs, handed, Frame.runsCleanup]
  | .cleanup u [] => by_cases hu : u = t <;> simp [happens, follow, Frame.runsCleanup, hu]
  | .cleanup u (a :: actions) =>
    by_cases hu : u = t <;> simp [happens, follow, Frame.runsCleanup, hu, List.countP_append, calls]
  | .cancelEach [] => simp [happens, follow, Frame.runsCleanup]
  | .cancelEach (u :: ts) =>
    by_cases hs : (m.tasks u).state.isTerminal = true
    · simp [happens, follow, hs, Frame.runsCleanup]
    · have handed := countP_cleanupFrames u t (m.tasks u).cleanup
      simp [happens, follow, hs, handed, Frame.runsCleanup, List.countP_append]
  | .advance => cases hq : m.deque <;> simp [happens, follow, Frame.runsCleanup, hq]
  | .look _ | .resolve _ | .append _ | .note _ | .next => simp [happens, follow, Frame.runsCleanup]

/-- In every run a body that was called has returned, has failed or is on the stack. -/
theorem Reachable.bodyCalls (h : Reachable scripts m) (t : Fin n) :
    m.bodyCalls t =
      m.events.count (.bodyReturned t) + m.events.count (.bodyFailed t) + m.frames.countP (Frame.runsBody t) := by
  induction h using Reachable.induct with
  | start => rfl
  | @frame m f fs _ hf ih =>
    obtain ⟨hframes, hevents⟩ := frames_runFrame f { m with frames := fs }
    have ends := body_ends { m with frames := fs } f t
    have new := not_bodyCalled { m with frames := fs } f t
    rw [bodyCalls_eq, hf, List.countP_cons] at ih
    simp only [bodyCalls_eq, hframes, hevents, List.countP_append, List.count_append]
    cases hb : f.runsBody t <;>
      simp only [hb, Bool.toNat_true, Bool.toNat_false, if_true, Bool.false_eq_true, if_false] at ih ends <;> omega
  | @job m j js h _ _ ih =>
    obtain ⟨w, x, u, -, -, -, -, -, hj⟩ | ⟨gs, hgs, hframes, -, -, hevents⟩ :=
      runJob_cases (m := { m with jobs := js }) h.body_of_pending j
    · rw [hj]
      by_cases hu : u = t <;> simp [Machine.bodyCalls, Frame.runsBody, hu] at ih ⊢ <;> omega
    · have hz : gs.countP (Frame.runsBody t) = 0 :=
        countP_entering (fun f hf => by cases f <;> simp_all [Frame.runsBody, Frame.enters]) hgs
      simpa [Machine.bodyCalls, hframes, hevents, hz] using ih
  | @perform m a _ _ ih =>
    simpa [Machine.bodyCalls, countP_calls (p := Frame.runsBody t) (fun _ => rfl) (fun _ => rfl) m a] using ih
  | await goal _ _ _ ih => exact ih

/-- In every run a cleanup that was called has returned or is on the stack. -/
theorem Reachable.cleanupCalls (h : Reachable scripts m) (t : Fin n) :
    m.cleanupCalls t = m.events.count (.cleanupReturned t) + m.frames.countP (Frame.runsCleanup t) := by
  induction h using Reachable.induct with
  | start => rfl
  | @frame m f fs _ hf ih =>
    obtain ⟨hframes, hevents⟩ := frames_runFrame f { m with frames := fs }
    have ends := cleanup_ends { m with frames := fs } f t
    rw [cleanupCalls_eq, hf, List.countP_cons] at ih
    simp only [cleanupCalls_eq, hframes, hevents, List.countP_append, List.count_append]
    cases hb : f.runsCleanup t <;>
      simp only [hb, Bool.toNat_true, Bool.toNat_false, if_true, Bool.false_eq_true, if_false] at ih ends <;> omega
  | @job m j js h _ _ ih =>
    obtain ⟨w, x, u, -, -, -, -, -, hj⟩ | ⟨gs, hgs, hframes, -, -, hevents⟩ :=
      runJob_cases (m := { m with jobs := js }) h.body_of_pending j
    · rw [hj]
      simpa [Machine.cleanupCalls, Frame.runsCleanup] using ih
    · have hz : gs.countP (Frame.runsCleanup t) = 0 :=
        countP_entering (fun f hf => by cases f <;> simp_all [Frame.runsCleanup, Frame.enters]) hgs
      simpa [Machine.cleanupCalls, hframes, hevents, hz] using ih
  | @perform m a _ _ ih =>
    simpa [Machine.cleanupCalls, countP_calls (p := Frame.runsCleanup t) (fun _ => rfl) (fun _ => rfl) m a] using ih
  | await goal _ _ _ ih => exact ih

/-- In every run a body is called at most once, and the body of a pending task has not been called. -/
theorem Reachable.bodyCalls_le (h : Reachable scripts m) (t : Fin n) :
    m.bodyCalls t ≤ if (m.tasks t).state = .pending then 0 else 1 := by
  induction h using Reachable.induct with
  | start => simp [Machine.start, Machine.bodyCalls]
  | @frame m f fs _ hf ih =>
    have new := not_bodyCalled { m with frames := fs } f t
    have old := (changes_runFrame f { m with frames := fs } t).evolves.pending_of_pending
    rw [bodyCalls_eq, (frames_runFrame f { m with frames := fs }).2, List.count_append, new, Nat.zero_add]
    refine Nat.le_trans ih ?_
    by_cases hp : ((runFrame f { m with frames := fs }).tasks t).state = .pending
    · simp [hp, show (m.tasks t).state = .pending from old hp]
    · simp only [hp, if_false]
      split <;> omega
  | @job m j js h _ _ ih =>
    obtain ⟨w, x, u, -, -, -, -, hs, hj⟩ | ⟨gs, -, -, htasks, -, hevents⟩ :=
      runJob_cases (m := { m with jobs := js }) h.body_of_pending j
    · rw [hj]
      replace hs : (m.tasks u).state = .pending := hs
      by_cases hu : t = u
      · subst hu
        simp only [hs, if_true] at ih
        simp [Machine.bodyCalls, Task.state_start, hs] at ih ⊢
        omega
      · have hne : u ≠ t := fun h => hu h.symm
        simpa [Machine.bodyCalls, hu, hne] using ih
    · simpa [Machine.bodyCalls, htasks, hevents] using ih
  | @perform m a _ _ ih =>
    have old := (ages_perform a m t).pending_of_pending
    simp only [Machine.bodyCalls, fields_perform] at ih ⊢
    refine Nat.le_trans ih ?_
    by_cases hp : ((m.perform a).tasks t).state = .pending
    · simp [hp, old hp]
    · simp only [hp, if_false]
      split <;> omega
  | await goal _ _ _ ih => exact ih

/-- In every run the body of a running task has been called. -/
theorem Reachable.bodyCalled_of_running (h : Reachable scripts m) {t : Fin n} (hr : (m.tasks t).state = .running) :
    .bodyCalled t ∈ m.events := by
  induction h using Reachable.induct with
  | start => simp [Machine.start, Task.fresh] at hr
  | @frame m f fs _ _ ih =>
    rw [(frames_runFrame f { m with frames := fs }).2]
    exact List.mem_append_right _ (ih ((changes_runFrame f { m with frames := fs } t).running hr))
  | @job m j js h _ _ ih =>
    obtain ⟨w, x, u, -, -, -, -, -, hj⟩ | ⟨gs, -, -, htasks, -, hevents⟩ :=
      runJob_cases (m := { m with jobs := js }) h.body_of_pending j
    · rw [hj] at hr ⊢
      by_cases hu : t = u
      · subst hu
        simp
      · exact List.mem_cons_of_mem _ (ih (by simpa [hu] using hr))
    · rw [htasks] at hr
      rw [hevents]
      exact ih hr
  | @perform m a _ _ ih =>
    rw [(fields_perform a m).2.2.2.2.2]
    exact ih (running_perform hr)
  | await goal _ _ _ ih => exact ih hr

/-! ## What is called belongs to the scripts -/

/-- Bodies are run for somebody who runs their task, and cleanups are those of the scripts. -/
structure Faithful (scripts : Fin n → Script n) (m : Machine n) : Prop where
  body : ∀ t w token steps c, .body t w token steps c ∈ m.frames →
    c = (scripts t).body.cleanup ∧ ∃ goal, m.goals[w]? = some goal ∧ goal.runs? = some t
  handOver : ∀ t c, .handOver t c ∈ m.frames → c = (scripts t).body.cleanup
  kept : ∀ t c, (m.tasks t).cleanup = some c → c = (scripts t).body.cleanup
  called : ∀ t, .bodyCalled t ∈ m.events → ∃ goal ∈ m.goals, goal.runs? = some t

/-- Keeping a cleanup is the only way for a task to get one. -/
theorem kept_of_change {keeps : Cleanup n → Prop} {cancels : Prop} {x y : Task (Body n) (Cleanup n)}
    (h : Task.Change keeps cancels x y) {c : Cleanup n} (hc : y.cleanup = some c) : x.cleanup = some c ∨ keeps c := by
  cases h with
  | none | resolve | markEnqueued => exact Or.inl hc
  | complete h => simp [Task.complete, h] at hc
  | cancel _ h => simp [Task.beginCancel, h] at hc
  | keep hk _ =>
    obtain rfl := Option.some.inj hc
    exact Or.inr hk

/-- An element of a beginning of a list is at the same place in the list. -/
theorem getElem?_of_prefix {α : Type} {xs ys : List α} (h : xs <+: ys) {i : Nat} {x : α} (hx : xs[i]? = some x) :
    ys[i]? = some x := by
  obtain ⟨zs, rfl⟩ := h
  rw [List.getElem?_append_left (List.getElem?_eq_some_iff.mp hx).1]
  exact hx

namespace Faithful

/-- What matters are the stack, the tasks, the waiters and the record. -/
theorem of_eq (h : Faithful scripts m) (hf : m'.frames = m.frames) (ht : m'.tasks = m.tasks)
    (hg : m'.goals = m.goals) (he : m'.events = m.events) : Faithful scripts m' := by
  obtain ⟨hbody, hhand, hkept, hcalled⟩ := h
  exact ⟨by rwa [hf, hg], by rwa [hf], by rwa [ht], by rwa [he, hg]⟩

/-- What a frame leads to comes from the scripts if the frame does. -/
theorem frame (h : Faithful scripts m) {f : Frame n} {fs : List (Frame n)} (hf : m.frames = f :: fs) :
    Faithful scripts (runFrame f { m with frames := fs }) := by
  obtain ⟨hbody, hhand, hkept, hcalled⟩ := h
  obtain ⟨hframes, hevents⟩ := frames_runFrame f { m with frames := fs }
  have hgoals : m.goals <+: (runFrame f { m with frames := fs }).goals := goals_prefix_runFrame f { m with frames := fs }
  rw [hf] at hbody hhand
  constructor
  · intro t w token steps c hm
    rw [hframes, List.mem_append] at hm
    obtain hm | hm := hm
    · have lead := leads_of_mem_follow hm
      cases lead with
      | @body _ _ token' _ s _ _ _ =>
        obtain ⟨hc, goal, hg, hr⟩ := hbody t w token' (s :: steps) c (List.mem_cons_self ..)
        exact ⟨hc, goal, getElem?_of_prefix hgoals hg, hr⟩
      | call f hc => simpa using mem_calls hc
    · obtain ⟨hc, goal, hg, hr⟩ := hbody t w token steps c (List.mem_cons_of_mem _ hm)
      exact ⟨hc, goal, getElem?_of_prefix hgoals hg, hr⟩
  · intro t c hm
    rw [hframes, List.mem_append] at hm
    obtain hm | hm := hm
    · have lead := leads_of_mem_follow hm
      cases lead with
      | @handOver _ w token _ => exact (hbody t w token [] c (List.mem_cons_self ..)).1
      | call f hc => simpa using mem_calls hc
    · exact hhand t c (List.mem_cons_of_mem _ hm)
  · intro t c hc
    obtain hc | rfl := kept_of_change (changes_runFrame f { m with frames := fs } t) hc
    · exact hkept t c hc
    · exact hhand t c (List.mem_cons_self ..)
  · intro t hm
    have new : .bodyCalled t ∉ happens { m with frames := fs } f :=
      List.count_eq_zero.mp (not_bodyCalled { m with frames := fs } f t)
    rw [hevents, List.mem_append] at hm
    obtain ⟨goal, hg, hr⟩ := hcalled t (hm.resolve_left new)
    exact ⟨goal, hgoals.subset hg, hr⟩

/-- A task is started for somebody who runs it, with the body and the cleanup of its script. -/
theorem startTask (h : Faithful scripts m) {t : Fin n} {w : Nat} {goal : Goal n} (hg : m.goals[w]? = some goal)
    (hr : goal.runs? = some t) : Faithful scripts (m.startTask t w (scripts t).body) := by
  obtain ⟨hbody, hhand, hkept, hcalled⟩ := h
  have hgoals : (m.startTask t w (scripts t).body).goals = m.goals := goals_of_waiters (by simp)
  constructor
  · intro u v token steps c hm
    rw [hgoals]
    simp only [fields_startTask, List.mem_cons] at hm
    obtain hm | hm := hm
    · cases hm
      exact ⟨rfl, goal, hg, hr⟩
    · exact hbody u v token steps c hm
  · intro u c hm
    exact hhand u c (by simpa using hm)
  · intro u c hc
    refine hkept u c ?_
    by_cases hu : u = t
    · simpa [hu] using hc
    · simpa [hu] using hc
  · intro u hm
    rw [hgoals]
    simp only [fields_startTask, List.mem_cons, Event.bodyCalled.injEq] at hm
    obtain rfl | hm := hm
    · exact ⟨goal, List.mem_of_getElem? hg, hr⟩
    · exact hcalled u hm

/-- Frames that a job begins with are neither bodies nor about to hand over a cleanup. -/
theorem enter (h : Faithful scripts m) {fs : List (Frame n)} (hfs : ∀ f ∈ fs, f.enters = true)
    (hf : m'.frames = fs ++ m.frames) (ht : m'.tasks = m.tasks) (hg : m'.goals = m.goals)
    (he : m'.events = m.events) : Faithful scripts m' := by
  obtain ⟨hbody, hhand, hkept, hcalled⟩ := h
  have old {f : Frame n} (hn : f.enters = false) (hm : f ∈ m'.frames) : f ∈ m.frames := by
    rw [hf, List.mem_append] at hm
    exact hm.resolve_left fun hm => by simp [hfs f hm] at hn
  refine ⟨fun t w token steps c hm => ?_, fun t c hm => hhand t c (old rfl hm), by rwa [ht], by rwa [he, hg]⟩
  rw [hg]
  exact hbody t w token steps c (old rfl hm)

/-- An operation puts no body on the stack and lets no task keep a cleanup. -/
theorem perform (h : Faithful scripts m) (a : Action n) : Faithful scripts (m.perform a) := by
  obtain ⟨hbody, hhand, hkept, hcalled⟩ := h
  constructor
  · intro t w token steps c hm
    simp only [fields_perform, List.mem_append] at hm
    rw [goals_perform]
    exact hbody t w token steps c (hm.resolve_left fun hm => by simpa using mem_calls hm)
  · intro t c hm
    simp only [fields_perform, List.mem_append] at hm
    exact hhand t c (hm.resolve_left fun hm => by simpa using mem_calls hm)
  · intro t c hc
    have change := (changes_perform a m : Changes (fun _ _ => False) (fun _ => False) m _) t
    exact hkept t c ((kept_of_change change hc).resolve_right id)
  · simpa using hcalled

/-- Who begins to wait comes behind those who wait already. -/
theorem await (h : Faithful scripts m) (goal : Goal n) : Faithful scripts (m.await goal) := by
  obtain ⟨hbody, hhand, hkept, hcalled⟩ := h
  have hgoals : m.goals <+: (m.await goal).goals := by simp
  refine ⟨fun t w token steps c hm => ?_, hhand, hkept, fun t hm => ?_⟩
  · obtain ⟨hc, g, hg, hr⟩ := hbody t w token steps c hm
    exact ⟨hc, g, getElem?_of_prefix hgoals hg, hr⟩
  · obtain ⟨g, hg, hr⟩ := hcalled t hm
    exact ⟨g, hgoals.subset hg, hr⟩

end Faithful

/-- In every run bodies are run for those who run their tasks, and cleanups are those of the scripts. -/
theorem Reachable.faithful (h : Reachable scripts m) : Faithful scripts m := by
  induction h using Reachable.induct with
  | start => constructor <;> simp [Machine.start, Task.fresh]
  | frame _ hf ih => exact ih.frame hf
  | @job m j js h _ _ ih =>
    have popped : Faithful scripts { m with jobs := js } := ih.of_eq rfl rfl rfl rfl
    obtain ⟨w, x, t, -, hx, -, hr, -, hj⟩ | ⟨gs, hgs, hframes, htasks, -, hevents⟩ :=
      runJob_cases (m := { m with jobs := js }) h.body_of_pending j
    · rw [hj]
      exact popped.startTask (by simp [goals, hx]) hr
    · exact popped.enter hgs hframes htasks (goals_runJob _ _) hevents
  | perform a _ _ ih => exact ih.perform a
  | await goal _ _ _ ih => exact ih.await goal

end Machine

end ElixirLint.Queue
