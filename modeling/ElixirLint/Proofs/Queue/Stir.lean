import ElixirLint.Proofs.Queue.Effect

/-!
# What running code does to those who wait

Running code reaches those who wait in few ways. It may let tasks be done or make the queue busy, and wake who listens
for that (`Stirs`), and after that one waiter may look or give up (`Leaves`). `stirs_runFrame` and `leaves_runFrame` say
which frames do what; what holds of the waiters and the jobs is derived from the two. Only the drain loop that takes the
head or ends is left out, as it alone adds a waiter or turns the queue idle.
-/

namespace ElixirLint.Queue

/-- The waiter that looks or gives up when a frame is run. -/
def Frame.leaver? {n : Nat} : Frame n → Option Nat
  | .look w => some w
  | .body _ w _ (.panic :: _) _ => some w
  | _ => none

namespace Machine

variable {n : Nat} {m m' m'' : Machine n}

attribute [local simp] setTask setParked emit push spawn ret

/-- What may become of a machine for those who wait, as long as none of them looks. -/
inductive Stirs : Machine n → Machine n → Prop
  /-- Nobody who waits sees a difference. -/
  | rest {m m' : Machine n} (hw : m'.waiters = m.waiters) (hj : m'.jobs = m.jobs)
      (hd : ∀ t, (m'.tasks t).done = (m.tasks t).done) (hi : m'.idle = m.idle) (hb : m'.busy = m.busy) : Stirs m m'
  /-- A task is done, and those who listen for it are woken. -/
  | done {m : Machine n} {t : Fin n} {x : Task (Body n) (Cleanup n)} (hx : x.done = true) :
      Stirs m ((m.setTask t x).wakeTask t)
  /-- The queue turns busy and gets a drain loop. -/
  | begins {m : Machine n} (hb : m.busy = false) :
      Stirs m ((wakeIdle { m with busy := true, idle := false }).spawn .drain)
  | trans {m m' m'' : Machine n} (h : Stirs m m') (h' : Stirs m' m'') : Stirs m m''

/-- What becomes of a machine when a waiter looks or gives up. -/
inductive Leaves (m : Machine n) (w : Nat) : Machine n → Prop
  | listens (hr : ∀ x, m.waiters[w]? = some x → m.reached x.goal = false) : Leaves m w (m.setPhase w .listening)
  | settles {x : Waiter n} (hx : m.waiters[w]? = some x) (hr : m.reached x.goal = true) :
      Leaves m w (m.settleWaiter w x.goal)
  | fails : Leaves m w (m.failWaiter w)

/-! ## What each operation does -/

theorem Stirs.refl (m : Machine n) : Stirs m m := .rest rfl rfl (fun _ => rfl) rfl rfl

/-- Completing a task at most wakes those who listen for it. -/
theorem stirs_complete (t : Fin n) (m : Machine n) : Stirs m (m.complete t) := by
  unfold complete
  split
  · exact .refl m
  · rename_i ht
    exact .done (by simp [Task.complete, ht])

/-- The first piece of an operation at most wakes listeners. -/
theorem stirs_perform (a : Action n) (m : Machine n) : Stirs m (m.perform a) := by
  cases a with
  | enqueue t =>
    by_cases he : (m.tasks t).enqueued = true
    · simp only [perform, he, if_true]
      exact .rest rfl rfl (fun _ => rfl) rfl rfl
    · refine .rest (by simp [perform, he]) (by simp [perform, he]) (fun u => ?_) (by simp) (by simp)
      by_cases hu : u = t <;> simp [perform, he, hu, Task.markEnqueued]
  | finish t =>
    by_cases hp : m.parked t = true
    · have parked : Stirs m (m.setParked t false) := .rest rfl rfl (fun _ => rfl) rfl rfl
      simp only [perform, hp, if_true]
      exact (parked.trans (stirs_complete t _)).trans (.rest rfl rfl (fun _ => rfl) rfl rfl)
    · simp only [perform, hp]
      exact .rest rfl rfl (fun _ => rfl) rfl rfl
  | _ => exact .rest rfl rfl (fun _ => rfl) rfl rfl

/-- A body gives the token back if it holds it. -/
theorem stirs_release (t : Fin n) (token : Bool) (m : Machine n) : Stirs m (if token then m.complete t else m) := by
  split
  · exact stirs_complete t m
  · exact .refl m

/-- A step of a body at most wakes listeners, unless the body fails. -/
theorem stirs_bodyStep {t : Fin n} {w : Nat} {token : Bool} {steps : List (BodyStep n)} {c : Cleanup n}
    (h : Frame.leaver? (.body t w token steps c) = none) : Stirs m (m.bodyStep t w token steps c) := by
  match steps with
  | [] => exact (stirs_release t token m).trans (.rest rfl rfl (fun _ => rfl) rfl rfl)
  | .dropToken :: _ => exact (stirs_release t token m).trans (.rest rfl rfl (fun _ => rfl) rfl rfl)
  | .panic :: _ => cases h
  | .check :: _ => exact .rest rfl rfl (fun _ => rfl) rfl rfl
  | .display :: _ => exact .rest rfl rfl (fun _ => rfl) rfl rfl
  | .act a :: steps =>
    have pushed : Stirs m (m.push [.note a, .body t w token steps c]) := .rest rfl rfl (fun _ => rfl) rfl rfl
    exact pushed.trans (stirs_perform a _)
  | .park :: steps =>
    by_cases ht : token = true
    · simp only [bodyStep, ht, if_true]
      exact .rest rfl rfl (fun _ => rfl) rfl rfl
    · -- A token that is parked already is replaced, and the old one given back.
      have parked : Stirs m (if m.parked t then (m.setParked t false).complete t else m) := by
        split
        · have taken : Stirs m (m.setParked t false) := .rest rfl rfl (fun _ => rfl) rfl rfl
          exact taken.trans (stirs_complete t _)
        · exact .refl m
      simp only [bodyStep, ht, Bool.false_eq_true, if_false]
      exact parked.trans (.rest rfl rfl (fun _ => rfl) rfl rfl)

theorem stirs_cancelStep (ts : List (Fin n)) (m : Machine n) : Stirs m (m.cancelStep ts) := by
  cases ts with
  | nil => exact .rest rfl rfl (fun _ => rfl) rfl rfl
  | cons t ts =>
    rw [cancelStep_cons]
    split
    · exact .rest rfl rfl (fun _ => rfl) rfl rfl
    · rename_i hs
      refine .rest (by simp) (by simp) (fun u => ?_) (by simp) (by simp)
      by_cases hu : u = t <;> simp [hu, Task.beginCancel, hs]

theorem stirs_append (t : Fin n) (m : Machine n) : Stirs m (m.append t) := by
  cases hb : m.busy
  · rw [append_of_idle hb]
    have appended :
        Stirs m { m with deque := m.deque ++ [t], outcome := .enqueued, events := .appended t :: m.events } :=
      .rest rfl rfl (fun _ => rfl) rfl rfl
    exact appended.trans (.begins hb)
  · rw [append_of_busy hb]
    exact .rest rfl rfl (fun _ => rfl) rfl rfl

/-- A look is what its waiter does. -/
theorem leaves_look (w : Nat) (m : Machine n) : Leaves m w (m.look w) := by
  unfold look
  split
  · rename_i hx
    have same : m.setPhase w .listening = m := by
      simp only [setPhase, List.modify_eq_self (List.getElem?_eq_none_iff.mp hx)]
    have listens : Leaves m w (m.setPhase w .listening) := .listens fun x hx' => by simp [hx] at hx'
    rwa [same] at listens
  · rename_i x hx
    split
    · rename_i hr
      exact .settles hx hr
    · rename_i hr
      refine .listens fun y hy => ?_
      obtain rfl := Option.some.inj (hx.symm.trans hy)
      simpa using hr

/-! ## What a frame does -/

/-- A frame where nobody looks or gives up only stirs those who wait, unless it is the drain loop at its next turn. -/
theorem stirs_runFrame {f : Frame n} (hl : f.leaver? = none) (hf : f ≠ .next) (m : Machine n) :
    Stirs m (m.runFrame f) := by
  cases f with
  | body t w token steps c => exact stirs_bodyStep hl
  | handOver t c =>
    rw [runFrame_handOver]
    split
    · refine .rest rfl rfl (fun u => ?_) rfl rfl
      by_cases hu : u = t <;> simp [hu]
    · split
      · exact .rest (by simp) (by simp) (by simp) (by simp) (by simp)
      · exact .refl m
  | look w => cases hl
  | cleanup t actions =>
    cases actions with
    | nil => exact .rest rfl rfl (fun _ => rfl) rfl rfl
    | cons a actions =>
      have pushed : Stirs m (m.push [.note a, .cleanup t actions]) := .rest rfl rfl (fun _ => rfl) rfl rfl
      exact pushed.trans (stirs_perform a _)
  | cancelEach ts => exact stirs_cancelStep ts m
  | resolve t => exact .done rfl
  | append t => exact stirs_append t m
  | note a => exact .rest rfl rfl (fun _ => rfl) rfl rfl
  | advance =>
    exact .rest (by simp [runFrame]) (by simp [runFrame]) (by simp [runFrame]) (by simp [runFrame]) (by simp [runFrame])
  | next => exact absurd rfl hf

/-- A frame where a waiter looks or gives up stirs the others before that. -/
theorem leaves_runFrame {f : Frame n} {w : Nat} (hl : f.leaver? = some w) (m : Machine n) :
    ∃ m', Stirs m m' ∧ Leaves m' w (m.runFrame f) := by
  match f with
  | .look v =>
    obtain rfl := Option.some.inj hl
    exact ⟨m, .refl m, leaves_look v m⟩
  | .body t v token (.panic :: steps) c =>
    obtain rfl := Option.some.inj hl
    have failed : Stirs m ((if token then m.complete t else m).emit (.bodyFailed t)) :=
      (stirs_release t token m).trans (.rest rfl rfl (fun _ => rfl) rfl rfl)
    exact ⟨_, failed, .fails⟩
  | .body _ _ _ [] _ | .body _ _ _ (.park :: _) _ | .body _ _ _ (.dropToken :: _) _ | .body _ _ _ (.check :: _) _
  | .body _ _ _ (.display :: _) _ | .body _ _ _ (.act _ :: _) _ | .handOver .. | .cleanup .. | .cancelEach _
  | .resolve _ | .append _ | .note _ | .advance | .next => cases hl

/-! ## What is waited for -/

/-- What everybody who ever waited waited for, in the order of coming. -/
def goals (m : Machine n) : List (Goal n) := m.waiters.map (·.goal)

theorem goals_of_waiters (h : m'.waiters = m.waiters) : m'.goals = m.goals := by
  simp only [goals, h]

@[simp] theorem goals_wake (wanted : Goal n → Bool) (m : Machine n) : (m.wake wanted).goals = m.goals := by
  simp only [goals, wake, List.map_map]
  refine List.map_congr_left fun x _ => ?_
  simp only [Function.comp_apply]
  split <;> rfl

@[simp] theorem goals_setPhase (w : Nat) (p : Phase) (m : Machine n) : (m.setPhase w p).goals = m.goals := by
  refine List.ext_getElem? fun v => ?_
  simp only [goals, setPhase, List.getElem?_map, List.getElem?_modify]
  cases m.waiters[v]? with
  | none => rfl
  | some x => by_cases h : w = v <;> simp [h]

theorem Stirs.goals (h : Stirs m m') : m'.goals = m.goals := by
  induction h with
  | rest hw => exact goals_of_waiters hw
  | done => exact goals_wake _ _
  | @begins m => exact goals_wake (fun g => g == Goal.idle) { m with busy := true, idle := false }
  | trans _ _ ih ih' => exact ih'.trans ih

theorem Leaves.goals {w : Nat} (h : Leaves m w m') : m'.goals = m.goals := by
  cases h with
  | listens => exact goals_setPhase w .listening m
  | settles => exact (goals_of_waiters (by simp)).trans (goals_setPhase w .settled m)
  | fails => exact (goals_of_waiters (by simp)).trans (goals_setPhase w .failed m)

/-- An operation adds nobody who waits. -/
@[simp] theorem goals_perform (a : Action n) (m : Machine n) : (m.perform a).goals = m.goals :=
  (stirs_perform a m).goals

/-- A job adds nobody who waits: only the loop does, later on. -/
@[simp] theorem goals_runJob (j : Job) (m : Machine n) : (m.runJob j).goals = m.goals := goals_of_waiters (by simp)

@[simp] theorem goals_await (goal : Goal n) (m : Machine n) : (m.await goal).goals = m.goals ++ [goal] := by
  simp [goals, await, addWaiter, spawn]

/-- The drain loop that takes the head waits for it. -/
theorem goals_next (m : Machine n) : m.next.goals = m.goals ++ (m.deque.head?.map .turn).toList := by
  unfold next
  split
  · rename_i h
    simp only [h, List.head?_nil, Option.map_none, Option.toList_none, List.append_nil]
    exact goals_wake _ _
  · rename_i h
    simp [Machine.goals, addWaiter, h]

/-- Only the drain loop that takes the head adds a goal. -/
theorem goals_runFrame {f : Frame n} (h : f ≠ .next) (m : Machine n) : (m.runFrame f).goals = m.goals := by
  cases hl : f.leaver? with
  | none => exact (stirs_runFrame hl h m).goals
  | some w =>
    obtain ⟨m', hs, hw⟩ := leaves_runFrame hl m
    exact hw.goals.trans hs.goals

/-- Goals are never taken back. -/
theorem goals_prefix_runFrame (f : Frame n) (m : Machine n) : m.goals <+: (m.runFrame f).goals := by
  by_cases hf : f = .next
  · subst hf
    rw [show m.runFrame .next = m.next from rfl, goals_next]
    exact List.prefix_append _ _
  · simp [goals_runFrame hf]

end Machine

end ElixirLint.Queue
