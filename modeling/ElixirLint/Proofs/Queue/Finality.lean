import ElixirLint.Proofs.Queue.Canceling
import ElixirLint.Proofs.Queue.Lifecycle

/-!
# What has been canceled stays so

An operation is called from outside or by a body or cleanup, and it returns when the frames that it has put on the
stack are gone (`Executes`). On its way it cancels one after the other the tasks that it has found in the queue, and
the cleanups that run in between may put tasks in, take up the same tasks, or cancel others; each task that it has
found is terminal when it returns (`Executes.isTerminal`). `no_resurrection` adds that it is so for ever: in no
continuation of the run does such a task change its state or have its body called, and whoever looks at its token is
told the same each time.
-/

namespace ElixirLint.Queue.Machine

variable {n : Nat} {scripts : Fin n → Script n} {m m₀ m' m'' : Machine n} {a : Action n}

/-! ## Operations from their call to their return -/

/-- An operation is called in the first machine, and begins in the second one: somebody outside does it while no code
is running, or it is the next one of the body or the cleanup that is running. -/
inductive Calls (a : Action n) : Machine n → Machine n → Prop
  | outside {m : Machine n} (h : m.frames = []) : Calls a m m
  | body {m : Machine n} {t : Fin n} {w : Nat} {token : Bool} {steps : List (BodyStep n)} {c : Cleanup n}
      {fs : List (Frame n)} (h : m.frames = .body t w token (.act a :: steps) c :: fs) :
      Calls a m (push [.note a, .body t w token steps c] { m with frames := fs })
  | cleanup {m : Machine n} {t : Fin n} {actions : List (Action n)} {fs : List (Frame n)}
      (h : m.frames = .cleanup t (a :: actions) :: fs) :
      Calls a m (push [.note a, .cleanup t actions] { m with frames := fs })

/-- All that stands on the given frames is run to its end, and with it all that it puts there. -/
inductive Unwinds (base : List (Frame n)) : Machine n → Machine n → Prop
  | done {m : Machine n} (h : m.frames = base) : Unwinds base m m
  | frame {m m' : Machine n} {f : Frame n} {pre : List (Frame n)} (h : m.frames = f :: (pre ++ base))
      (rest : Unwinds base (runFrame f { m with frames := pre ++ base }) m') : Unwinds base m m'

/-- An operation that is called in the first machine returns in the second one. -/
def Executes (a : Action n) (m m' : Machine n) : Prop :=
  ∃ m₀, Calls a m m₀ ∧ Unwinds m₀.frames (m₀.perform a) m'

/-- Calling an operation is a move. -/
theorem Calls.move (h : Calls a m m₀) : Move m (m₀.perform a) := by
  cases h with
  | outside h => exact .perform a h
  | body h => exact .work (step_of_frames h)
  | cleanup h => exact .work (step_of_frames h)

/-- A call by itself changes nothing but the stack. -/
theorem Calls.same (h : Calls a m m₀) : m₀.tasks = m.tasks ∧ m₀.deque = m.deque := by
  cases h <;> exact ⟨rfl, rfl⟩

/-- What code unwinds to comes later. -/
theorem Unwinds.later {base : List (Frame n)} (h : Unwinds base m m') : Later m m' := by
  induction h with
  | done h => exact .refl _
  | frame h _ ih => exact ((Later.refl _).snoc (.work (step_of_frames h))).trans ih

/-- An operation from its call to its return is a piece of the run. -/
theorem Executes.later (h : Executes a m m') : Later m m' := by
  obtain ⟨m₀, call, unwinds⟩ := h
  exact ((Later.refl m).snoc call.move).trans unwinds.later

/-- Doing an operation from outside until nothing stands on the stack any more is such a piece. -/
theorem unwinds_unwindWith {fuel : Nat} (h : (unwindWith fuel m).frames = []) : Unwinds [] m (unwindWith fuel m) := by
  induction fuel generalizing m with
  | zero => exact .done h
  | succ fuel ih =>
    unfold unwindWith at h ⊢
    split at h
    · exact .done h
    · rename_i f fs hf
      have hsplit : m.frames = f :: (fs ++ []) := by simp [hf]
      exact .frame hsplit (by simpa using ih h)

/-- An operation from outside that leaves no code running has returned. -/
theorem executes_act (hf : m.frames = []) (h : (m.act a).frames = []) : Executes a m (m.act a) := by
  refine ⟨m, .outside hf, ?_⟩
  rw [hf]
  exact unwinds_unwindWith h

/-! ## Every task that is to be canceled is reached -/

/-- The tasks that an operation with the outcome given was to cancel: those in the queue with the key of the task that
it has put in, or with the key that it was called for, or all of them. -/
def Condemns (m : Machine n) (a : Action n) (outcome : Outcome) (t : Fin n) : Prop :=
  t ∈ m.deque ∧
    match a with
    | .enqueue u => (m.tasks t).key = (m.tasks u).key ∧ outcome = .enqueued
    | .cancelKey key => (m.tasks t).key = key
    | .cancelAll => True
    | .cancel _ => False
    | .finish _ => False

/-- A target above the given frames is terminal when these are reached again, whatever is run until then. -/
theorem Unwinds.isTerminal {base pre : List (Frame n)} {t : Fin n} (h : Unwinds base m m')
    (hf : m.frames = pre ++ base) (ht : (m.tasks t).state.isTerminal = true ∨ Targeted pre t) :
    (m'.tasks t).state.isTerminal = true := by
  induction h generalizing pre with
  | @done m hb =>
    obtain rfl : pre = [] := List.append_left_eq_self.mp (hf.symm.trans hb)
    obtain ht | ⟨f, hf, -⟩ := ht
    · exact ht
    · cases hf
  | @frame m m' f mid hb _ ih =>
    obtain rfl : pre = f :: mid := List.append_cancel_right (hf.symm.trans (hb.trans rfl))
    have hsplit : (runFrame f { m with frames := mid ++ base }).frames =
        (follow { m with frames := mid ++ base } f ++ mid) ++ base := by
      rw [(frames_runFrame f { m with frames := mid ++ base }).1, List.append_assoc]
    refine ih hsplit ?_
    obtain ht | ht := ht
    · exact Or.inl ((changes_runFrame f { m with frames := mid ++ base } t).evolves.isTerminal ht)
    · exact targeted_runFrame ht

/-- An operation that is refused returns at once. -/
theorem Unwinds.eq_of_frames {base : List (Frame n)} (h : Unwinds base m m') (hf : m.frames = base) : m' = m := by
  cases h with
  | done => rfl
  | @frame _ _ f pre hb _ =>
    have := congrArg List.length (hf.symm.trans hb)
    simp only [List.length_cons, List.length_append] at this
    omega

/-- The tasks that an operation is to cancel are targets of the frames that it begins with. -/
theorem targeted_of_condemns {t : Fin n} (hu : Unwinds m.frames (m.perform a) m')
    (hc : m.Condemns a m'.outcome t) : Targeted (m.calls a) t := by
  obtain ⟨hq, hc⟩ := hc
  cases a with
  | enqueue u =>
    obtain ⟨hk, ho⟩ := hc
    by_cases he : (m.tasks u).enqueued = true
    · have hr := hu.eq_of_frames (by simp [calls, he])
      simp [hr, perform, he, ret] at ho
    · exact ⟨.cancelEach (m.withKey (m.tasks u).key), by simp [calls, he], by simp [Frame.targets, withKey, hq, hk]⟩
  | cancelKey key =>
    exact ⟨.cancelEach (m.withKey key), by simp [calls], by simp [Frame.targets, withKey, hq, show _ = key from hc]⟩
  | cancelAll => exact ⟨.cancelEach m.deque, by simp [calls], hq⟩
  | cancel u => cases hc
  | finish u => cases hc

/-- When an operation returns, every task that it was to cancel is terminal. -/
theorem Executes.isTerminal {t : Fin n} (h : Executes a m m') (hc : m.Condemns a m'.outcome t) :
    (m'.tasks t).state.isTerminal = true := by
  obtain ⟨m₀, call, unwinds⟩ := h
  obtain ⟨htasks, hdeque⟩ := call.same
  have hc₀ : m₀.Condemns a m'.outcome t := by
    unfold Condemns at hc ⊢
    rw [htasks, hdeque]
    exact hc
  exact unwinds.isTerminal (fields_perform a m₀).2.2.2.2.1 (Or.inr (targeted_of_condemns unwinds hc₀))

/-- No resurrection. When an operation that cancels tasks returns, wherever in a run it was called, every task in the
queue at the call that it was to cancel is terminal; and however the run goes on, the state of such a task stays, its
body is not called, and whoever looks whether it has been canceled, be it its body or the holder of its parked token,
is told the same each time: that it has been canceled, unless it had finished before. -/
theorem no_resurrection {t : Fin n} (h : Reachable scripts m) (he : Executes a m m')
    (hc : m.Condemns a m'.outcome t) :
    (m'.tasks t).state.isTerminal = true ∧
    ∀ m'', Later m' m'' →
      (m''.tasks t).state = (m'.tasks t).state ∧
      (∀ b, m''.parkedCanceled t = some b → b = ((m'.tasks t).state == .canceled)) ∧
      ∃ es, m''.events = es ++ m'.events ∧ .bodyCalled t ∉ es ∧
        ∀ b, .checked t (some b) ∈ es → b = ((m'.tasks t).state == .canceled) := by
  have ht := he.isTerminal hc
  refine ⟨ht, fun m'' hl => ?_⟩
  have hs : (m''.tasks t).state = (m'.tasks t).state := (hl.ages t).state_of_terminal ht
  refine ⟨hs, fun b hb => ?_, (h.later he.later).final ht hl⟩
  unfold parkedCanceled at hb
  split at hb
  · rw [← hs]
    exact (Option.some.inj hb).symm
  · cases hb

/-- Two tasks for one document: the cleanup of the first one puts the second one in and finishes the first one. -/
def relay (t u : Fin 2) : Fin 2 → Script 2 := fun x =>
  ⟨⟨"file:///a"⟩, ⟨[.park], if x = t then some [.enqueue u, .finish t] else none⟩⟩

/-- The first task runs. -/
def relayed (t u : Fin 2) : Machine 2 := ((start (relay t u)).act (.enqueue t)).settle

theorem reachable_relayed : Reachable (relay 0 1) (relayed 0 1) :=
  ((reachable_start (relay 0 1)).act rfl (.enqueue 0)).settle

/-- When the document is canceled, the first task is canceled, and it stays so while the second one runs. -/
theorem no_resurrection_relay :
    (relayed 0 1).Condemns (.cancelKey ⟨"file:///a"⟩) ((relayed 0 1).act (.cancelKey ⟨"file:///a"⟩)).outcome 0 ∧
      (((relayed 0 1).act (.cancelKey ⟨"file:///a"⟩)).tasks 0).state.isTerminal = true ∧
      (((relayed 0 1).act (.cancelKey ⟨"file:///a"⟩)).settle.tasks 0).state = .canceled ∧
      (((relayed 0 1).act (.cancelKey ⟨"file:///a"⟩)).settle.tasks 1).state = .running := by
  have hc : (relayed 0 1).Condemns (.cancelKey ⟨"file:///a"⟩)
      ((relayed 0 1).act (.cancelKey ⟨"file:///a"⟩)).outcome 0 := ⟨by decide, by decide⟩
  have he : Executes (.cancelKey ⟨"file:///a"⟩) (relayed 0 1) ((relayed 0 1).act (.cancelKey ⟨"file:///a"⟩)) :=
    executes_act (by decide) (by decide)
  obtain ⟨ht, hstays⟩ := no_resurrection reachable_relayed he hc
  exact ⟨hc, ht, (hstays _ (later_settleWith _ _)).1.trans (by decide), by decide⟩

end ElixirLint.Queue.Machine
