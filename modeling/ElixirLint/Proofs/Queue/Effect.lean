import ElixirLint.Queue.Machine

/-!
# What the operations of the machine leave alone

Most operations touch few parts of a machine. The lemmas `fields_…` say for each operation with cases which parts it
leaves as they are and, where one expression does for all cases, what becomes of the others. The later modules open an
operation through them; what an operation does to the waiters and the jobs is left to the modules about waiting.
-/

namespace ElixirLint.Queue

/-- The task that reaching a goal runs, if any. -/
def Goal.runs? {n : Nat} : Goal n → Option (Fin n)
  | .turn t => some t
  | .run t => some t
  | _ => none

/-- Whether a job may begin with the frame, without starting a task. -/
def Frame.enters {n : Nat} : Frame n → Bool
  | .look _ => true
  | .cancelEach _ => true
  | .advance => true
  | .next => true
  | _ => false

namespace Machine

variable {n : Nat} {m : Machine n}

attribute [local simp] setTask setParked emit push spawn ret setPhase addWaiter wake wakeTask wakeIdle

/-- Setting a task to what it is changes nothing. -/
theorem setTask_self (t : Fin n) (m : Machine n) : m.setTask t (m.tasks t) = m := by
  have h : (fun u => if u = t then m.tasks t else m.tasks u) = m.tasks := by
    funext u
    split
    · rename_i hu
      rw [hu]
    · rfl
  simp only [setTask, h]

/-! ## Completing a task -/

/-- Completing touches one task, and a terminal one not at all. -/
theorem tasks_complete (t : Fin n) (m : Machine n) :
    (m.complete t).tasks = fun u => if u = t then (m.tasks t).complete else m.tasks u := by
  unfold complete
  split
  · rename_i h
    rw [Task.complete_of_isTerminal h]
    exact congrArg tasks (setTask_self t m).symm
  · rfl

/-- What completing a task leaves alone: all but the task, those who wait, and the jobs that wake them. -/
@[simp] theorem fields_complete (t : Fin n) (m : Machine n) :
    (m.complete t).parked = m.parked ∧ (m.complete t).deque = m.deque ∧ (m.complete t).busy = m.busy ∧
      (m.complete t).idle = m.idle ∧ (m.complete t).turn = m.turn ∧ (m.complete t).frames = m.frames ∧
      (m.complete t).outcome = m.outcome ∧ (m.complete t).events = m.events := by
  unfold complete
  split <;> simp

/-! ## Waiters that look -/

/-- What a waiter that has reached its goal leaves alone: it changes its phase, and the loop may get a job. -/
@[simp] theorem fields_settleWaiter (w : Nat) (goal : Goal n) (m : Machine n) :
    (m.settleWaiter w goal).tasks = m.tasks ∧ (m.settleWaiter w goal).parked = m.parked ∧
      (m.settleWaiter w goal).deque = m.deque ∧ (m.settleWaiter w goal).busy = m.busy ∧
      (m.settleWaiter w goal).idle = m.idle ∧ (m.settleWaiter w goal).turn = m.turn ∧
      (m.settleWaiter w goal).waiters = (m.setPhase w .settled).waiters ∧
      (m.settleWaiter w goal).frames = m.frames ∧ (m.settleWaiter w goal).outcome = m.outcome ∧
      (m.settleWaiter w goal).events = m.events := by
  cases goal <;> simp [settleWaiter]

/-- What a waiter that gives up leaves alone: it changes its phase, and the loop may get a job. -/
@[simp] theorem fields_failWaiter (w : Nat) (m : Machine n) :
    (m.failWaiter w).tasks = m.tasks ∧ (m.failWaiter w).parked = m.parked ∧ (m.failWaiter w).deque = m.deque ∧
      (m.failWaiter w).busy = m.busy ∧ (m.failWaiter w).idle = m.idle ∧ (m.failWaiter w).turn = m.turn ∧
      (m.failWaiter w).waiters = (m.setPhase w .failed).waiters ∧ (m.failWaiter w).frames = m.frames ∧
      (m.failWaiter w).outcome = m.outcome ∧ (m.failWaiter w).events = m.events := by
  unfold failWaiter
  split <;> simp

/-- What a look leaves alone: all but waiters and jobs. -/
@[simp] theorem fields_look (w : Nat) (m : Machine n) :
    (m.look w).tasks = m.tasks ∧ (m.look w).parked = m.parked ∧ (m.look w).deque = m.deque ∧
      (m.look w).busy = m.busy ∧ (m.look w).idle = m.idle ∧ (m.look w).turn = m.turn ∧
      (m.look w).frames = m.frames ∧ (m.look w).outcome = m.outcome ∧ (m.look w).events = m.events := by
  unfold look
  split
  · simp
  · split <;> simp

/-! ## The drain loop -/

theorem append_of_busy (h : m.busy = true) (t : Fin n) :
    m.append t = { m with deque := m.deque ++ [t], outcome := .enqueued, events := .appended t :: m.events } := by
  simp [append, h]

theorem append_of_idle (h : m.busy = false) (t : Fin n) :
    m.append t =
      (wakeIdle { m with
        deque := m.deque ++ [t], outcome := .enqueued, events := .appended t :: m.events, busy := true,
        idle := false }).spawn .drain := by
  simp [append, h]

/-- What putting in a task comes to, whether the loop runs or not. -/
@[simp] theorem fields_append (t : Fin n) (m : Machine n) :
    (m.append t).tasks = m.tasks ∧ (m.append t).parked = m.parked ∧ (m.append t).deque = m.deque ++ [t] ∧
      (m.append t).busy = true ∧ (m.append t).turn = m.turn ∧ (m.append t).frames = m.frames ∧
      (m.append t).outcome = .enqueued ∧ (m.append t).events = .appended t :: m.events := by
  cases h : m.busy
  · simp [append_of_idle h]
  · simp [append_of_busy h, h]

/-- What the loop leaves alone when it goes to the next task. -/
@[simp] theorem fields_next (m : Machine n) :
    m.next.tasks = m.tasks ∧ m.next.parked = m.parked ∧ m.next.deque = m.deque ∧ m.next.frames = m.frames ∧
      m.next.outcome = m.outcome ∧ m.next.events = m.events := by
  unfold next
  split <;> simp

/-- What the loop leaves alone when it removes the head of the queue. -/
@[simp] theorem fields_advance (m : Machine n) :
    m.advance.tasks = m.tasks ∧ m.advance.parked = m.parked ∧ m.advance.deque = m.deque.tail ∧
      m.advance.busy = m.busy ∧ m.advance.idle = m.idle ∧ m.advance.turn = m.turn ∧ m.advance.waiters = m.waiters ∧
      m.advance.jobs = m.jobs ∧ m.advance.frames = .next :: m.frames ∧ m.advance.outcome = m.outcome := by
  unfold advance
  split <;> simp_all

/-! ## Operations -/

/-- The frames that an operation leaves on the stack. -/
def calls (m : Machine n) : Action n → List (Frame n)
  | .enqueue t => if (m.tasks t).enqueued then [] else [.cancelEach (m.withKey (m.tasks t).key), .append t]
  | .cancelKey key => [.cancelEach (m.withKey key)]
  | .cancel t => [.cancelEach [t]]
  | .cancelAll => [.cancelEach m.deque]
  | .finish _ => []

/-- What the first piece of an operation leaves alone; the rest of it is put on the stack. -/
@[simp] theorem fields_perform (a : Action n) (m : Machine n) :
    (m.perform a).deque = m.deque ∧ (m.perform a).busy = m.busy ∧ (m.perform a).idle = m.idle ∧
      (m.perform a).turn = m.turn ∧ (m.perform a).frames = m.calls a ++ m.frames ∧
      (m.perform a).events = m.events := by
  cases a with
  | enqueue t => by_cases h : (m.tasks t).enqueued = true <;> simp [perform, calls, h]
  | finish t => by_cases h : m.parked t = true <;> simp [perform, calls, h]
  | _ => simp [perform, calls]

/-- The frames of an operation cancel tasks or put one into the queue. -/
theorem mem_calls {m : Machine n} {a : Action n} {f : Frame n} (h : f ∈ m.calls a) :
    (∃ ts, f = .cancelEach ts) ∨ ∃ t, f = .append t ∧ a = .enqueue t ∧ (m.tasks t).enqueued = false := by
  cases a with
  | enqueue t =>
    by_cases he : (m.tasks t).enqueued = true
    · simp [calls, he] at h
    · simp only [calls, he, Bool.false_eq_true, if_false, List.mem_cons, List.not_mem_nil, or_false] at h
      rcases h with rfl | rfl
      · exact Or.inl ⟨_, rfl⟩
      · exact Or.inr ⟨t, rfl, rfl, by simpa using he⟩
  | finish t => simp [calls] at h
  | _ => exact Or.inl ⟨_, by simpa [calls] using h⟩

@[simp] theorem frames_await (goal : Goal n) (m : Machine n) : (m.await goal).frames = m.frames := rfl

/-! ## Cleanups -/

/-- Begins a cleanup that was handed out, if there is anything to run. -/
def invoke (t : Fin n) (cleanup : Option (Cleanup n)) (m : Machine n) : Machine n :=
  match cleanup with
  | some (some actions) => (m.emit (.cleanupCalled t)).push [.cleanup t actions]
  | _ => m

/-- What calling a cleanup leaves alone: all but the stack and the events. -/
@[simp] theorem fields_invoke (t : Fin n) (c : Option (Cleanup n)) (m : Machine n) :
    (m.invoke t c).tasks = m.tasks ∧ (m.invoke t c).parked = m.parked ∧ (m.invoke t c).deque = m.deque ∧
      (m.invoke t c).busy = m.busy ∧ (m.invoke t c).idle = m.idle ∧ (m.invoke t c).turn = m.turn ∧
      (m.invoke t c).waiters = m.waiters ∧ (m.invoke t c).jobs = m.jobs ∧ (m.invoke t c).outcome = m.outcome := by
  unfold invoke
  split <;> simp

/-- Canceling some tasks begins with the first of them: a terminal one is passed over, and any other one is canceled
and resolved after its cleanup. -/
theorem cancelStep_cons (t : Fin n) (ts : List (Fin n)) (m : Machine n) :
    m.cancelStep (t :: ts) =
      if (m.tasks t).state.isTerminal then m.push [.cancelEach ts]
      else ((m.setTask t (m.tasks t).beginCancel.1).push [.resolve t, .cancelEach ts]).invoke t (m.tasks t).cleanup := by
  by_cases h : (m.tasks t).state.isTerminal = true
  · simp only [cancelStep, h, if_true]
  · simp only [cancelStep, h, Task.beginCancel, invoke]
    rfl

/-- A returned cleanup is kept while its task runs, begun if the task was canceled meanwhile, and else dropped. -/
theorem runFrame_handOver (t : Fin n) (c : Cleanup n) (m : Machine n) :
    runFrame (.handOver t c) m =
      if (m.tasks t).state = .running then m.setTask t { m.tasks t with cleanup := some c }
      else if (m.tasks t).state = .canceled then m.invoke t (some c)
      else m := by
  cases hs : (m.tasks t).state <;> simp only [runFrame, Task.adopt, hs, setTask_self] <;> rfl

/-! ## The frames and the events of a frame -/

/-- The frame of a cleanup that was handed out, if there is anything to run. -/
def cleanupFrames (t : Fin n) : Option (Cleanup n) → List (Frame n)
  | some (some actions) => [.cleanup t actions]
  | _ => []

/-- The event of a cleanup that was handed out, if there is anything to run. -/
def cleanupEvents (t : Fin n) : Option (Cleanup n) → List (Event n)
  | some (some _) => [.cleanupCalled t]
  | _ => []

/-- The frames that take the place of a frame that has been run. -/
def follow (m : Machine n) : Frame n → List (Frame n)
  | .body t w _ [] c => [.handOver t c, .look w]
  | .body t w _ (.park :: steps) c => [.body t w false steps c]
  | .body t w _ (.dropToken :: steps) c => [.body t w false steps c]
  | .body t w token (.check :: steps) c => [.body t w token steps c]
  | .body t w token (.display :: steps) c => [.body t w token steps c]
  | .body _ _ _ (.panic :: _) _ => []
  | .body t w token (.act a :: steps) c => m.calls a ++ [.note a, .body t w token steps c]
  | .handOver t c => if (m.tasks t).state = .canceled then cleanupFrames t (some c) else []
  | .look _ => []
  | .cleanup _ [] => []
  | .cleanup t (a :: actions) => m.calls a ++ [.note a, .cleanup t actions]
  | .cancelEach [] => []
  | .cancelEach (t :: ts) =>
    if (m.tasks t).state.isTerminal then [.cancelEach ts]
    else cleanupFrames t (m.tasks t).cleanup ++ [.resolve t, .cancelEach ts]
  | .resolve _ => []
  | .append _ => []
  | .note _ => []
  | .advance => [.next]
  | .next => []

/-- How a frame leads to another one, which takes part in what takes its place. -/
inductive Leads (m : Machine n) : Frame n → Frame n → Prop
  | body {t : Fin n} {w : Nat} {token token' : Bool} {s : BodyStep n} {steps : List (BodyStep n)} {c : Cleanup n}
      (h : token' = true → token = true) : Leads m (.body t w token (s :: steps) c) (.body t w token' steps c)
  | handOver {t : Fin n} {w : Nat} {token : Bool} {c : Cleanup n} : Leads m (.body t w token [] c) (.handOver t c)
  | look {t : Fin n} {w : Nat} {token : Bool} {c : Cleanup n} : Leads m (.body t w token [] c) (.look w)
  | cleanup {t : Fin n} {a : Action n} {actions : List (Action n)} :
      Leads m (.cleanup t (a :: actions)) (.cleanup t actions)
  | adopt {t : Fin n} {actions : List (Action n)} (h : (m.tasks t).state = .canceled) :
      Leads m (.handOver t (some actions)) (.cleanup t actions)
  | pass {t : Fin n} {ts : List (Fin n)} : Leads m (.cancelEach (t :: ts)) (.cancelEach ts)
  | resolve {t : Fin n} {ts : List (Fin n)} (h : (m.tasks t).state.isTerminal = false) :
      Leads m (.cancelEach (t :: ts)) (.resolve t)
  | cancel {t : Fin n} {ts : List (Fin n)} {actions : List (Action n)} (h : (m.tasks t).state.isTerminal = false)
      (hc : (m.tasks t).cleanup = some (some actions)) : Leads m (.cancelEach (t :: ts)) (.cleanup t actions)
  | next : Leads m .advance .next
  | note (f : Frame n) (a : Action n) : Leads m f (.note a)
  | call (f : Frame n) {a : Action n} {g : Frame n} (h : g ∈ m.calls a) : Leads m f g

/-- A frame of a cleanup is there only for a cleanup with operations. -/
theorem mem_cleanupFrames {t : Fin n} {c : Option (Cleanup n)} {f : Frame n} (h : f ∈ cleanupFrames t c) :
    ∃ actions, c = some (some actions) ∧ f = .cleanup t actions := by
  match c with
  | some (some actions) => exact ⟨actions, rfl, List.mem_singleton.mp h⟩
  | some none => cases h
  | none => cases h

/-- The only event of a cleanup is that it is called. -/
theorem mem_cleanupEvents {t : Fin n} {c : Option (Cleanup n)} {e : Event n} (h : e ∈ cleanupEvents t c) :
    e = .cleanupCalled t := by
  match c with
  | some (some actions) => exact List.mem_singleton.mp h
  | some none => cases h
  | none => cases h

/-- The frames that take the place of a frame are those that it leads to. -/
theorem leads_of_mem_follow {f g : Frame n} (h : g ∈ m.follow f) : m.Leads f g := by
  match f with
  | .body t w token [] c =>
    simp only [follow, List.mem_cons, List.not_mem_nil, or_false] at h
    obtain rfl | rfl := h
    · exact .handOver
    · exact .look
  | .body t w token (.act a :: steps) c =>
    simp only [follow, List.mem_append, List.mem_cons, List.not_mem_nil, or_false] at h
    obtain h | rfl | rfl := h
    · exact .call _ h
    · exact .note _ a
    · exact .body id
  | .body t w token (.park :: steps) c =>
    obtain rfl := List.mem_singleton.mp h
    exact .body (by simp)
  | .body t w token (.dropToken :: steps) c =>
    obtain rfl := List.mem_singleton.mp h
    exact .body (by simp)
  | .body t w token (.check :: steps) c =>
    obtain rfl := List.mem_singleton.mp h
    exact .body id
  | .body t w token (.display :: steps) c =>
    obtain rfl := List.mem_singleton.mp h
    exact .body id
  | .body t w token (.panic :: steps) c => cases h
  | .handOver t c =>
    simp only [follow] at h
    split at h
    · rename_i hs
      obtain ⟨actions, hc, rfl⟩ := mem_cleanupFrames h
      obtain rfl := Option.some.inj hc
      exact .adopt hs
    · cases h
  | .cleanup t [] => cases h
  | .cleanup t (a :: actions) =>
    simp only [follow, List.mem_append, List.mem_cons, List.not_mem_nil, or_false] at h
    obtain h | rfl | rfl := h
    · exact .call _ h
    · exact .note _ a
    · exact .cleanup
  | .cancelEach [] => cases h
  | .cancelEach (t :: ts) =>
    simp only [follow] at h
    split at h
    · obtain rfl := List.mem_singleton.mp h
      exact .pass
    · rename_i hs
      have hs : (m.tasks t).state.isTerminal = false := by simpa using hs
      simp only [List.mem_append, List.mem_cons, List.not_mem_nil, or_false] at h
      obtain h | rfl | rfl := h
      · obtain ⟨actions, hc, rfl⟩ := mem_cleanupFrames h
        exact .cancel hs hc
      · exact .resolve hs
      · exact .pass
  | .advance =>
    obtain rfl := List.mem_singleton.mp h
    exact .next
  | .look _ | .resolve _ | .append _ | .note _ | .next => cases h

/-- What happens when a frame is run. -/
def happens (m : Machine n) : Frame n → List (Event n)
  | .body t _ _ [] _ => [.bodyReturned t]
  | .body t _ token (.check :: _) _ => [.checked t (if token then some ((m.tasks t).state == .canceled) else none)]
  | .body t _ token (.display :: _) _ =>
    [.displayed t (if token then some ((m.tasks t).state == .canceled) else none)]
  | .body t _ _ (.panic :: _) _ => [.bodyFailed t]
  | .handOver t c => if (m.tasks t).state = .canceled then cleanupEvents t (some c) else []
  | .cleanup t [] => [.cleanupReturned t]
  | .cancelEach (t :: _) => if (m.tasks t).state.isTerminal then [] else cleanupEvents t (m.tasks t).cleanup
  | .append t => [.appended t]
  | .note a => [.acted a m.outcome]
  | .advance => m.deque.head?.toList.map .removed
  | _ => []

/-- How a frame brings an event about. -/
inductive Causes (m : Machine n) : Frame n → Event n → Prop
  | returned {t : Fin n} {w : Nat} {token : Bool} {c : Cleanup n} : Causes m (.body t w token [] c) (.bodyReturned t)
  | failed {t : Fin n} {w : Nat} {token : Bool} {steps : List (BodyStep n)} {c : Cleanup n} :
      Causes m (.body t w token (.panic :: steps) c) (.bodyFailed t)
  | checked (f : Frame n) (t : Fin n) (canceled : Option Bool) : Causes m f (.checked t canceled)
  | displayed (f : Frame n) (t : Fin n) (canceled : Option Bool) : Causes m f (.displayed t canceled)
  | adopt {t : Fin n} {c : Cleanup n} (h : (m.tasks t).state = .canceled) : Causes m (.handOver t c) (.cleanupCalled t)
  | cancel {t : Fin n} {ts : List (Fin n)} (h : (m.tasks t).state.isTerminal = false) :
      Causes m (.cancelEach (t :: ts)) (.cleanupCalled t)
  | cleaned {t : Fin n} : Causes m (.cleanup t []) (.cleanupReturned t)
  | appended {t : Fin n} : Causes m (.append t) (.appended t)
  | removed {t : Fin n} (h : m.deque.head? = some t) : Causes m .advance (.removed t)
  | acted (f : Frame n) (a : Action n) (o : Outcome) : Causes m f (.acted a o)

/-- What happens when a frame is run is what it causes. -/
theorem causes_of_mem_happens {f : Frame n} {e : Event n} (h : e ∈ m.happens f) : m.Causes f e := by
  match f with
  | .body t w token [] c =>
    obtain rfl := List.mem_singleton.mp h
    exact .returned
  | .body t w token (.panic :: steps) c =>
    obtain rfl := List.mem_singleton.mp h
    exact .failed
  | .body t w token (.check :: steps) c =>
    obtain rfl := List.mem_singleton.mp h
    exact .checked ..
  | .body t w token (.display :: steps) c =>
    obtain rfl := List.mem_singleton.mp h
    exact .displayed ..
  | .handOver t c =>
    simp only [happens] at h
    split at h
    · rename_i hs
      obtain rfl := mem_cleanupEvents h
      exact .adopt hs
    · cases h
  | .cancelEach (t :: ts) =>
    simp only [happens] at h
    split at h
    · cases h
    · rename_i hs
      obtain rfl := mem_cleanupEvents h
      exact .cancel (by simpa using hs)
  | .cleanup t [] =>
    obtain rfl := List.mem_singleton.mp h
    exact .cleaned
  | .append t =>
    obtain rfl := List.mem_singleton.mp h
    exact .appended
  | .note a =>
    obtain rfl := List.mem_singleton.mp h
    exact .acted ..
  | .advance =>
    simp only [happens, List.mem_map, Option.mem_toList] at h
    obtain ⟨t, ht, rfl⟩ := h
    exact .removed ht
  | .body t w token (.park :: steps) c | .body t w token (.dropToken :: steps) c
  | .body t w token (.act a :: steps) c | .cleanup t (a :: actions) | .cancelEach [] | .look _ | .resolve _
  | .next => cases h

/-- A cleanup that is called puts its frame on the stack and notes its event. -/
@[simp] theorem frames_invoke (t : Fin n) (c : Option (Cleanup n)) (m : Machine n) :
    (m.invoke t c).frames = cleanupFrames t c ++ m.frames ∧ (m.invoke t c).events = cleanupEvents t c ++ m.events := by
  unfold invoke
  split <;> simp_all [cleanupFrames, cleanupEvents]

/-- A step of a body puts on the stack what follows it, and notes what happens. -/
theorem frames_bodyStep (t : Fin n) (w : Nat) (token : Bool) (steps : List (BodyStep n)) (c : Cleanup n)
    (m : Machine n) :
    (m.bodyStep t w token steps c).frames = m.follow (.body t w token steps c) ++ m.frames ∧
      (m.bodyStep t w token steps c).events = m.happens (.body t w token steps c) ++ m.events := by
  match steps with
  | [] => cases token <;> simp [bodyStep, follow, happens]
  | .dropToken :: _ => cases token <;> simp [bodyStep, follow, happens]
  | .panic :: _ => cases token <;> simp [bodyStep, follow, happens]
  | .check :: _ => simp [bodyStep, follow, happens]
  | .display :: _ => simp [bodyStep, follow, happens]
  | .act a :: steps =>
    have hc : (m.push [.note a, .body t w token steps c]).calls a = m.calls a := by cases a <;> rfl
    constructor
    · simp only [bodyStep, follow, fields_perform, hc]
      simp
    · simp only [bodyStep, happens, fields_perform]
      simp
  | .park :: _ =>
    by_cases ht : token = true
    · simp [bodyStep, ht, follow, happens]
    · by_cases hp : m.parked t = true <;> simp [bodyStep, ht, hp, follow, happens]

/-- What running a frame does to the stack and to the record of events. -/
theorem frames_runFrame (f : Frame n) (m : Machine n) :
    (m.runFrame f).frames = m.follow f ++ m.frames ∧ (m.runFrame f).events = m.happens f ++ m.events := by
  cases f with
  | body t w token steps c => exact frames_bodyStep t w token steps c m
  | handOver t c =>
    rw [runFrame_handOver]
    cases hs : (m.tasks t).state <;> simp [follow, happens, hs]
  | look w => simp [runFrame, follow, happens]
  | cleanup t actions =>
    cases actions with
    | nil => simp [runFrame, follow, happens]
    | cons a actions =>
      have hc : (m.push [.note a, .cleanup t actions]).calls a = m.calls a := by cases a <;> rfl
      constructor
      · simp only [runFrame, follow, fields_perform, hc]
        simp
      · simp only [runFrame, happens, fields_perform]
        simp
  | cancelEach ts =>
    cases ts with
    | nil => simp [runFrame, cancelStep, follow, happens]
    | cons t ts =>
      simp only [runFrame, cancelStep_cons, follow, happens]
      split <;> simp
  | advance =>
    simp only [runFrame, advance, follow, happens]
    split <;> simp_all
  | _ => simp [runFrame, follow, happens]

/-- Running a frame adds a task to the queue, removes the head, or leaves the queue alone. -/
theorem deque_runFrame (f : Frame n) (m : Machine n) :
    (m.runFrame f).deque =
      match f with
      | .append t => m.deque ++ [t]
      | .advance => m.deque.tail
      | _ => m.deque := by
  cases f with
  | body t w token steps c =>
    match steps with
    | [] => cases token <;> simp [runFrame, bodyStep]
    | .dropToken :: _ => cases token <;> simp [runFrame, bodyStep]
    | .panic :: _ => cases token <;> simp [runFrame, bodyStep]
    | .check :: _ => rfl
    | .display :: _ => rfl
    | .act a :: steps => simp [runFrame, bodyStep]
    | .park :: _ =>
      by_cases ht : token = true
      · simp [runFrame, bodyStep, ht]
      · by_cases hp : m.parked t = true <;> simp [runFrame, bodyStep, ht, hp]
  | handOver t c =>
    rw [runFrame_handOver]
    split
    · rfl
    · split <;> simp
  | cleanup t actions => cases actions <;> simp [runFrame]
  | cancelEach ts =>
    cases ts with
    | nil => rfl
    | cons t ts =>
      simp only [runFrame, cancelStep_cons]
      split <;> simp
  | _ => simp [runFrame]

/-- Only putting a task in and the drain loop touch the turn and the flags. -/
theorem flags_runFrame (f : Frame n) (m : Machine n) :
    (f ≠ .next → (m.runFrame f).turn = m.turn) ∧
      (f ≠ .next → (∀ t, f ≠ .append t) → (m.runFrame f).busy = m.busy ∧ (m.runFrame f).idle = m.idle) := by
  cases f with
  | body t w token steps c =>
    match steps with
    | [] => cases token <;> simp [runFrame, bodyStep]
    | .dropToken :: _ => cases token <;> simp [runFrame, bodyStep]
    | .panic :: _ => cases token <;> simp [runFrame, bodyStep]
    | .check :: _ => simp [runFrame, bodyStep]
    | .display :: _ => simp [runFrame, bodyStep]
    | .act a :: steps => simp [runFrame, bodyStep]
    | .park :: _ =>
      by_cases ht : token = true
      · simp [runFrame, bodyStep, ht]
      · by_cases hp : m.parked t = true <;> simp [runFrame, bodyStep, ht, hp]
  | handOver t c =>
    rw [runFrame_handOver]
    split
    · simp
    · split <;> simp
  | cleanup t actions => cases actions <;> simp [runFrame]
  | cancelEach ts =>
    cases ts with
    | nil => simp [runFrame, cancelStep]
    | cons t ts =>
      simp only [runFrame, cancelStep_cons]
      split <;> simp
  | _ => simp [runFrame]

/-! ## Jobs -/

/-- Starts a task for a waiter. -/
def startTask (t : Fin n) (w : Nat) (b : Body n) (m : Machine n) : Machine n :=
  ((m.setTask t (m.tasks t).start.1).emit (.bodyCalled t)).push [.body t w true b.steps b.cleanup]

/-- A task that starts has its body called, which is run next; the queue and the waiters are left alone. -/
@[simp] theorem fields_startTask (t : Fin n) (w : Nat) (b : Body n) (m : Machine n) :
    (m.startTask t w b).tasks = (fun u => if u = t then (m.tasks t).start.1 else m.tasks u) ∧
      (m.startTask t w b).parked = m.parked ∧ (m.startTask t w b).deque = m.deque ∧
      (m.startTask t w b).busy = m.busy ∧ (m.startTask t w b).idle = m.idle ∧ (m.startTask t w b).turn = m.turn ∧
      (m.startTask t w b).waiters = m.waiters ∧ (m.startTask t w b).jobs = m.jobs ∧
      (m.startTask t w b).frames = .body t w true b.steps b.cleanup :: m.frames ∧
      (m.startTask t w b).outcome = m.outcome ∧ (m.startTask t w b).events = .bodyCalled t :: m.events := by
  simp [startTask]

/-- A task that is run for a waiter starts if it is pending, and else the waiter looks. -/
theorem runTask_eq {t : Fin n} {b : Body n} (hb : (m.tasks t).state = .pending → (m.tasks t).body = some b)
    (w : Nat) :
    m.runTask t w = if (m.tasks t).state = .pending then m.startTask t w b else m.push [.look w] := by
  by_cases hp : (m.tasks t).state = .pending
  · simp only [runTask, startTask, Task.start, hp, if_true, hb hp]
  · simp only [runTask, Task.start, hp, if_false, setTask_self]

/-- A waiter that has not looked yet and whose goal is to run a task starts this task if it is pending; any other one
looks. -/
theorem runJob_poll {b : Fin n → Body n} (hb : ∀ t, (m.tasks t).state = .pending → (m.tasks t).body = some (b t))
    (w : Nat) :
    (∃ x t, m.waiters[w]? = some x ∧ x.phase = .fresh ∧ x.goal.runs? = some t ∧ (m.tasks t).state = .pending ∧
        m.runJob (.poll w) = m.startTask t w (b t)) ∨
      (m.runJob (.poll w) = m.push [.look w] ∧
        ∀ x t, m.waiters[w]? = some x → x.phase = .fresh → x.goal.runs? = some t → (m.tasks t).state ≠ .pending) := by
  by_cases h : ∃ x t, m.waiters[w]? = some x ∧ x.phase = .fresh ∧ x.goal.runs? = some t
  · obtain ⟨⟨goal, phase⟩, t, hx, rfl, hg⟩ := h
    have hj : m.runJob (.poll w) = m.runTask t w := by
      cases goal <;> simp_all [runJob, Goal.runs?]
    rw [hj, runTask_eq (hb t)]
    by_cases hp : (m.tasks t).state = .pending
    · exact Or.inl ⟨_, t, hx, rfl, hg, hp, by simp [hp]⟩
    · refine Or.inr ⟨by simp [hp], fun y u hy _ hu => ?_⟩
      obtain rfl := Option.some.inj (hx.symm.trans hy)
      obtain rfl := Option.some.inj (hg.symm.trans hu)
      exact hp
  · refine Or.inr ⟨?_, fun x t hx hp hg => absurd ⟨x, t, hx, hp, hg⟩ h⟩
    simp only [runJob]
    split
    · rename_i t hx
      exact absurd ⟨_, t, hx, rfl, rfl⟩ h
    · rename_i t hx
      exact absurd ⟨_, t, hx, rfl, rfl⟩ h
    · rfl

/-- The drain loop that goes on takes the head if it waits for nothing. Else its turn is over, and it removes the
head, after a cancel if the body has failed. -/
theorem runJob_drain (m : Machine n) :
    (m.turn = none ∧ m.runJob .drain = m.push [.next]) ∨
      (∃ w t, m.turn = some w ∧ m.waiters[w]? = some ⟨.turn t, .failed⟩ ∧
        m.runJob .drain = push [.cancelEach [t], .advance] { m with turn := none }) ∨
      (∃ w, m.turn = some w ∧ (∀ t, m.waiters[w]? ≠ some ⟨.turn t, .failed⟩) ∧
        m.runJob .drain = push [.advance] { m with turn := none }) := by
  simp only [runJob]
  cases ht : m.turn with
  | none => exact Or.inl ⟨rfl, rfl⟩
  | some w =>
    right
    dsimp only
    split
    · rename_i t hw
      exact Or.inl ⟨w, t, rfl, hw, rfl⟩
    · rename_i hw
      exact Or.inr ⟨w, rfl, hw, rfl⟩

/-- A job that starts no task changes no task, and nothing happens before its frames are run. -/
theorem runJob_cases {b : Fin n → Body n} (hb : ∀ t, (m.tasks t).state = .pending → (m.tasks t).body = some (b t))
    (j : Job) :
    (∃ w x t, j = .poll w ∧ m.waiters[w]? = some x ∧ x.phase = .fresh ∧ x.goal.runs? = some t ∧
        (m.tasks t).state = .pending ∧ m.runJob j = m.startTask t w (b t)) ∨
      ∃ fs, (∀ f ∈ fs, f.enters = true) ∧ (m.runJob j).frames = fs ++ m.frames ∧ (m.runJob j).tasks = m.tasks ∧
        (m.runJob j).parked = m.parked ∧ (m.runJob j).events = m.events := by
  cases j with
  | drain =>
    obtain ⟨-, hj⟩ | ⟨w, t, -, -, hj⟩ | ⟨w, -, -, hj⟩ := runJob_drain m <;> rw [hj]
    · exact Or.inr ⟨[.next], by simp [Frame.enters], rfl, rfl, rfl, rfl⟩
    · exact Or.inr ⟨[.cancelEach [t], .advance], by simp [Frame.enters], rfl, rfl, rfl, rfl⟩
    · exact Or.inr ⟨[.advance], by simp [Frame.enters], rfl, rfl, rfl, rfl⟩
  | poll w =>
    obtain ⟨x, t, hx, hp, hg, hs, hj⟩ | ⟨hj, -⟩ := runJob_poll hb w
    · exact Or.inl ⟨w, x, t, rfl, hx, hp, hg, hs, hj⟩
    · rw [hj]
      exact Or.inr ⟨[.look w], by simp [Frame.enters], rfl, rfl, rfl, rfl⟩

/-- Frames that no job begins with are not among those of a job that starts no task. -/
theorem countP_entering {p : Frame n → Bool} (hp : ∀ f, p f = true → f.enters = false) {fs : List (Frame n)}
    (h : ∀ f ∈ fs, f.enters = true) : fs.countP p = 0 := by
  rw [List.countP_eq_zero]
  intro f hf hpf
  simpa [hp f hpf] using h f hf

/-- A job leaves the queue and the waiters to the frames that it begins. -/
@[simp] theorem fields_runJob (j : Job) (m : Machine n) :
    (m.runJob j).deque = m.deque ∧ (m.runJob j).busy = m.busy ∧ (m.runJob j).idle = m.idle ∧
      (m.runJob j).waiters = m.waiters ∧ (m.runJob j).jobs = m.jobs ∧ (m.runJob j).outcome = m.outcome := by
  have run (t : Fin n) (w : Nat) :
      (m.runTask t w).deque = m.deque ∧ (m.runTask t w).busy = m.busy ∧ (m.runTask t w).idle = m.idle ∧
        (m.runTask t w).waiters = m.waiters ∧ (m.runTask t w).jobs = m.jobs ∧ (m.runTask t w).outcome = m.outcome := by
    unfold runTask
    split <;> simp
  cases j with
  | drain => obtain ⟨-, hj⟩ | ⟨w, t, -, -, hj⟩ | ⟨w, -, -, hj⟩ := runJob_drain m <;> rw [hj] <;> simp
  | poll w =>
    simp only [runJob]
    split
    · exact run _ w
    · exact run _ w
    · simp

end Machine

end ElixirLint.Queue
