import ElixirLint.Proofs.Queue.Order

/-!
# Several queues with the same tasks

A task may be put into any queue, and code of one queue may call another one: a body or a cleanup that runs for one
queue does an operation on any of them, in a runtime or not. So there is one stack for all queues, and each frame on it
is run by the queue that it belongs to. What a queue has for itself is a `Line`; a `Fleet` is all the lines with what
they share. A queue of a fleet does its work as a machine (`Fleet.machine`), the fleet takes over what has become of it
(`Fleet.hold`), and the other queues see which tasks are done meanwhile.

A machine is a fleet all of whose work is done by one queue (`Fleet.move_solo`, `Fleet.run_solo`), and a fleet of one
queue, always in a runtime, does nothing else (`Fleet.of_move_solo`).

Main definitions: `Fleet`, `Fleet.Move`, `Fleet.Run`, `Fleet.Returns`.
-/

namespace ElixirLint.Queue

/-- A frame after the operation that it does next. -/
def Frame.rest {n : Nat} : Frame n → Frame n
  | .body t w token (_ :: steps) c => .body t w token steps c
  | .cleanup t (_ :: actions) => .cleanup t actions
  | f => f

/-- What a queue has for itself: see the parts of a machine with these names. -/
structure Line (n : Nat) where
  deque : List (Fin n)
  busy : Bool
  idle : Bool
  turn : Option Nat
  waiters : List (Waiter n)
  jobs : List Job

/-- Some queues with the same tasks. -/
structure Fleet (k n : Nat) where
  /-- The tasks. -/
  tasks : Fin n → Task (Body n) (Cleanup n)
  /-- Whether the token of a task is parked. -/
  parked : Fin n → Bool
  /-- What each queue has for itself. -/
  lines : Fin k → Line n
  /-- The running code, the innermost first, and for which queue it runs. -/
  stack : List (Fin k × Frame n)
  /-- What the last operation returned. -/
  outcome : Outcome
  /-- What has happened, the last first. -/
  events : List (Event n)

/-- A call of an operation on one of the queues. -/
structure Call (k n : Nat) where
  /-- The operation. -/
  action : Action n
  /-- The queue. -/
  queue : Fin k
  /-- Whether it is made where something could run the queue. -/
  inRuntime : Bool

/-- A queue that nothing has been put into. -/
def Line.fresh {n : Nat} : Line n := ⟨[], false, true, none, [], []⟩

namespace Machine

variable {n : Nat}

/-- Begins an operation in a runtime or outside of any. -/
def call (inRuntime : Bool) (a : Action n) (m : Machine n) : Machine n :=
  match inRuntime, a with
  | false, .enqueue t => (m.enqueueOutside t).1.ret (m.enqueueOutside t).2
  | _, a => m.perform a

/-- The machine as it is in the middle of other code. -/
def atop (fs : List (Frame n)) (m : Machine n) : Machine n := { m with frames := m.frames ++ fs }

/-- The own part of the queue of a machine. -/
def line (m : Machine n) : Line n := ⟨m.deque, m.busy, m.idle, m.turn, m.waiters, m.jobs⟩

end Machine

namespace Fleet

variable {k n : Nat}

/-- All queues before anything has happened. -/
def start (scripts : Fin n → Script n) : Fleet k n where
  tasks := (Machine.start scripts).tasks
  parked := (Machine.start scripts).parked
  lines _ := .fresh
  stack := []
  outcome := .nothing
  events := []

/-- A queue as a machine, with nothing on its stack. -/
def machine (F : Fleet k n) (q : Fin k) : Machine n where
  tasks := F.tasks
  parked := F.parked
  deque := (F.lines q).deque
  busy := (F.lines q).busy
  idle := (F.lines q).idle
  turn := (F.lines q).turn
  waiters := (F.lines q).waiters
  jobs := (F.lines q).jobs
  frames := []
  outcome := F.outcome
  events := F.events

/-- Whether a goal is about a task that is done in the second state and was not in the first one. -/
def justDone (before after : Fin n → Task (Body n) (Cleanup n)) (g : Goal n) : Bool :=
  g.task?.any fun t => (after t).done && !(before t).done

/-- The fleet after a piece of work of a queue, which is left as the machine given: its frames go on top of the stack,
and the other queues wake those who listen for tasks that are done now. -/
def hold (F : Fleet k n) (q : Fin k) (m : Machine n) : Fleet k n where
  tasks := m.tasks
  parked := m.parked
  lines p := if p = q then m.line else ((F.machine p).wake (justDone F.tasks m.tasks)).line
  stack := m.frames.map (fun f => (q, f)) ++ F.stack
  outcome := m.outcome
  events := m.events

/-- Begins a call. -/
def call (F : Fleet k n) (c : Call k n) : Fleet k n :=
  F.hold c.queue ((F.machine c.queue).call c.inRuntime c.action)

/-! ## Runs -/

/-- An operation is called in the first fleet, and begins in the second one: somebody outside does it while no code is
running, or it is the next one of the body or the cleanup that is running. -/
inductive Calls (a : Action n) : Fleet k n → Fleet k n → Prop
  | outside {F : Fleet k n} (h : F.stack = []) : Calls a F F
  | inside {F : Fleet k n} {q : Fin k} {f : Frame n} {rest : List (Fin k × Frame n)} (h : F.stack = (q, f) :: rest)
      (ha : f.performs = some a) : Calls a F { F with stack := (q, .note a) :: (q, f.rest) :: rest }

/-- One move of a run, with the call that is made by it. Operations are called on any queue, in a runtime or not; else
the topmost frame goes on, or with no frame left the next job of a queue, or somebody begins to wait. -/
inductive Move : Fleet k n → Option (Call k n) → Fleet k n → Prop
  | call {F F₁ : Fleet k n} (c : Call k n) (h : Calls c.action F F₁) : Move F (some c) (F₁.call c)
  | frame {F : Fleet k n} {q : Fin k} {f : Frame n} {rest : List (Fin k × Frame n)} (h : F.stack = (q, f) :: rest)
      (hf : f.performs = none) : Move F none (hold { F with stack := rest } q ((F.machine q).runFrame f))
  | job {F : Fleet k n} {q : Fin k} {j : Job} {js : List Job} (h : F.stack = []) (hj : (F.lines q).jobs = j :: js) :
      Move F none (F.hold q (Machine.runJob j { F.machine q with jobs := js }))
  | await {F : Fleet k n} (q : Fin k) (goal : Goal n) (h : F.stack = []) (hg : ∀ t, goal ≠ .turn t) :
      Move F none (F.hold q ((F.machine q).await goal))

/-- What can come of the scripts, with all calls that have been made meanwhile, the last first. -/
inductive Run (scripts : Fin n → Script n) : List (Call k n) → Fleet k n → Prop
  | start : Run scripts [] (start scripts)
  | next {cs : List (Call k n)} {c : Option (Call k n)} {F F' : Fleet k n} (h : Run scripts cs F) (hm : Move F c F') :
      Run scripts (c.toList ++ cs) F'

/-- Whatever is run next, all that stands on the given stack is run to its end and then satisfies a condition. -/
inductive Returns (base : List (Fin k × Frame n)) (P : Fleet k n → Prop) : Fleet k n → Prop
  | back {F : Fleet k n} (h : F.stack = base) (hp : P F) : Returns base P F
  | on {F : Fleet k n} {x : Fin k × Frame n} {pre : List (Fin k × Frame n)} (h : F.stack = x :: (pre ++ base))
      (goes : ∃ c F', Move F c F') (rest : ∀ c F', Move F c F' → Returns base P F') : Returns base P F

variable {F F₁ F' : Fleet k n} {a : Action n} {q p : Fin k} {m : Machine n}

/-- Code that is running goes on. -/
theorem exists_move {x : Fin k × Frame n} {rest : List (Fin k × Frame n)} (h : F.stack = x :: rest) :
    ∃ c F', Move F c F' := by
  obtain ⟨q, f⟩ := x
  cases ha : f.performs with
  | none => exact ⟨_, _, .frame h ha⟩
  | some a => exact ⟨_, _, .call ⟨a, q, true⟩ (.inside h ha)⟩

/-! ## What a queue leaves to the others -/

/-- Where nobody listens for what has come, waking changes nothing. -/
theorem wake_of_forall {wanted : Goal n → Bool} (h : ∀ x ∈ m.waiters, wanted x.goal = false) :
    m.wake wanted = m := by
  have none : Machine.listeners wanted m.waiters = [] := by
    simp only [Machine.listeners, List.map_eq_nil_iff, List.filter_eq_nil_iff]
    intro x hx
    simp [h x.1 (List.fst_mem_of_mem_zipIdx hx)]
  have same :
      (m.waiters.map fun w => if w.phase == .listening && wanted w.goal then { w with phase := .woken } else w) =
        m.waiters := by
    refine (List.map_congr_left fun x hx => ?_).trans (List.map_id _)
    simp [h x hx]
  simp only [Machine.wake, none, same, List.map_nil, List.append_nil]

@[simp] theorem justDone_self (tasks : Fin n → Task (Body n) (Cleanup n)) (g : Goal n) :
    justDone tasks tasks g = false := by
  cases hg : g.task? <;> simp [justDone, hg]

/-- A piece of work that only returns something leaves all queues as they are. -/
theorem hold_ret (F : Fleet k n) (q : Fin k) (o : Outcome) :
    F.hold q ((F.machine q).ret o) = { F with outcome := o } := by
  have lines : (F.hold q ((F.machine q).ret o)).lines = F.lines := by
    funext p
    by_cases hp : p = q
    · subst hp
      simp [hold, Machine.line, Machine.ret, machine]
    · have same : (F.machine p).wake (justDone F.tasks F.tasks) = F.machine p := wake_of_forall (by simp)
      simp only [hold, hp, if_false]
      exact congrArg Machine.line same
  exact congrArg (fun lines => { F with lines := lines, outcome := o }) lines

/-! ## One queue -/

end Fleet

namespace Machine

variable {n : Nat}

section Atop

variable (fs gs : List (Frame n)) (t : Fin n) (m : Machine n)

/-- Putting frames on a stack has nothing to do with what is below. -/
theorem push_atop : (m.atop fs).push gs = (m.push gs).atop fs := by
  simp [push, atop]

theorem complete_atop : (m.atop fs).complete t = (m.complete t).atop fs := by
  simp only [complete]
  split
  · rename_i h
    rw [if_pos (show (m.tasks t).state.isTerminal = true from h)]
  · rename_i h
    rw [if_neg (show ¬(m.tasks t).state.isTerminal = true from h)]
    rfl

theorem release_atop (token : Bool) :
    (if token then (m.atop fs).complete t else m.atop fs) = (if token then m.complete t else m).atop fs := by
  cases token
  · rfl
  · exact complete_atop fs t m

theorem invoke_atop (c : Option (Cleanup n)) : (m.atop fs).invoke t c = (m.invoke t c).atop fs := by
  rcases c with _ | _ | actions
  · rfl
  · rfl
  · exact push_atop fs [.cleanup t actions] (m.emit (.cleanupCalled t))

/-- An operation does not look at the stack. -/
theorem perform_atop (a : Action n) : (m.atop fs).perform a = (m.perform a).atop fs := by
  have tasks : (m.atop fs).tasks = m.tasks := rfl
  have parked : (m.atop fs).parked = m.parked := rfl
  cases a with
  | enqueue t =>
    simp only [perform, tasks]
    split
    · rfl
    · exact push_atop fs _ (m.setTask t (m.tasks t).markEnqueued)
  | finish t =>
    simp only [perform, parked]
    split
    · exact congrArg (ret (.taken true)) (complete_atop fs t (m.setParked t false))
    · rfl
  | _ => exact push_atop fs _ m

theorem failWaiter_atop (w : Nat) : (m.atop fs).failWaiter w = (m.failWaiter w).atop fs := by
  have waiters : (m.atop fs).waiters = m.waiters := rfl
  simp only [failWaiter, waiters]
  split <;> rfl

theorem look_atop (w : Nat) : (m.atop fs).look w = (m.look w).atop fs := by
  have waiters : (m.atop fs).waiters = m.waiters := rfl
  have reached (goal : Goal n) : (m.atop fs).reached goal = m.reached goal := by cases goal <;> rfl
  simp only [look, waiters, reached]
  split
  · rfl
  · split
    · rename_i x _ _
      cases x.goal <;> rfl
    · rfl

/-- A step of a body has nothing to do with what is below on the stack. -/
theorem bodyStep_atop (w : Nat) (token : Bool) (steps : List (BodyStep n)) (c : Cleanup n) :
    (m.atop fs).bodyStep t w token steps c = (m.bodyStep t w token steps c).atop fs := by
  have released := release_atop fs t m token
  match steps with
  | [] =>
    simp only [bodyStep, released]
    exact push_atop fs _ ((if token then m.complete t else m).emit (.bodyReturned t))
  | .park :: steps =>
    cases token with
    | true => exact push_atop fs _ (m.setParked t true)
    | false =>
      have parked : (m.atop fs).parked = m.parked := rfl
      simp only [bodyStep, parked, Bool.false_eq_true, if_false]
      split
      · rw [← push_atop, ← complete_atop]
        rfl
      · exact push_atop fs _ m
  | .dropToken :: steps =>
    simp only [bodyStep, released]
    exact push_atop fs _ (if token then m.complete t else m)
  | .check :: steps => exact push_atop fs _ (m.emit _)
  | .display :: steps => exact push_atop fs _ (m.emit _)
  | .panic :: steps =>
    simp only [bodyStep, released]
    exact failWaiter_atop fs ((if token then m.complete t else m).emit (.bodyFailed t)) w
  | .act a :: steps =>
    simp only [bodyStep, push_atop]
    exact perform_atop fs (m.push _) a

/-- A frame does not look at the stack below it. -/
theorem runFrame_atop (f : Frame n) : (m.atop fs).runFrame f = (m.runFrame f).atop fs := by
  have tasks : (m.atop fs).tasks = m.tasks := rfl
  have deque : (m.atop fs).deque = m.deque := rfl
  cases f with
  | body t w token steps c => exact bodyStep_atop fs t m w token steps c
  | handOver t c =>
    simp only [runFrame_handOver, tasks]
    split
    · rfl
    · split
      · exact invoke_atop fs t m (some c)
      · rfl
  | look w => exact look_atop fs m w
  | cleanup t actions =>
    cases actions with
    | nil => rfl
    | cons a actions =>
      simp only [runFrame, push_atop]
      exact perform_atop fs (m.push _) a
  | cancelEach ts =>
    cases ts with
    | nil => rfl
    | cons t ts =>
      simp only [runFrame, cancelStep_cons, tasks]
      split
      · exact push_atop fs _ m
      · rw [← invoke_atop, ← push_atop]
        rfl
  | resolve t => rfl
  | append t =>
    cases hb : m.busy
    · rw [runFrame, append_of_idle (m := m.atop fs) hb, runFrame, append_of_idle hb]
      rfl
    · rw [runFrame, append_of_busy (m := m.atop fs) hb, runFrame, append_of_busy hb]
      rfl
  | note a => rfl
  | advance =>
    simp only [runFrame, advance, deque]
    split
    · exact push_atop fs _ m
    · rw [← push_atop]
      rfl
  | next =>
    simp only [runFrame, next, deque]
    split <;> rfl

end Atop

/-- A frame that does an operation is advanced, and its operation begins. -/
theorem runFrame_of_performs {f : Frame n} {a : Action n} (h : f.performs = some a) (m : Machine n) :
    m.runFrame f = (m.push [.note a, f.rest]).perform a := by
  cases f with
  | body t w token steps c =>
    cases steps with
    | nil => cases h
    | cons s steps =>
      cases s with
      | act b =>
        obtain rfl : b = a := Option.some.inj h
        rfl
      | _ => cases h
  | cleanup t actions =>
    cases actions with
    | nil => cases h
    | cons b actions =>
      obtain rfl : b = a := Option.some.inj h
      rfl
  | _ => cases h

@[simp] theorem atop_nil (m : Machine n) : m.atop [] = m := by
  simp [atop]

@[simp] theorem call_true (a : Action n) (m : Machine n) : m.call true a = m.perform a := by
  cases a <;> rfl

/-- A call begins the operation, unless a task is to be put in outside a runtime: this is refused at once. -/
theorem call_cases (inRuntime : Bool) (a : Action n) (m : Machine n) :
    m.call inRuntime a = m.perform a ∧ (∀ t, a = .enqueue t → inRuntime = true) ∨
      inRuntime = false ∧ (∃ t, a = .enqueue t) ∧ m.call inRuntime a = m.ret (.refused .noRuntime) := by
  cases inRuntime with
  | true => exact Or.inl ⟨call_true a m, fun _ _ => rfl⟩
  | false =>
    cases a with
    | enqueue t => exact Or.inr ⟨rfl, ⟨t, rfl⟩, rfl⟩
    | _ => exact Or.inl ⟨rfl, nofun⟩

end Machine

namespace Fleet

variable {k n : Nat} {q : Fin k} {m m' : Machine n}

/-- A fleet all of whose work is done by one queue. -/
def solo (q : Fin k) (m : Machine n) : Fleet k n where
  tasks := m.tasks
  parked := m.parked
  lines p := if p = q then m.line else .fresh
  stack := m.frames.map fun f => (q, f)
  outcome := m.outcome
  events := m.events

/-- The queue of such a fleet, with nothing on its stack. -/
theorem machine_solo (stack : List (Fin k × Frame n)) :
    ({ solo q m with stack := stack } : Fleet k n).machine q = { m with frames := [] } := by
  simp [machine, solo, Machine.line]

/-- The work of one queue leaves the others alone, since nobody waits there. -/
theorem hold_solo (fs : List (Frame n)) :
    ({ solo q m with stack := fs.map fun f => (q, f) } : Fleet k n).hold q m' = solo q (m'.atop fs) := by
  have lines (p : Fin k) (hp : p ≠ q) :
      (({ solo q m with stack := fs.map fun f => (q, f) } : Fleet k n).machine p).wake
        (justDone m.tasks m'.tasks) = ({ solo q m with stack := fs.map fun f => (q, f) } : Fleet k n).machine p :=
    wake_of_forall (by simp [machine, solo, hp, Line.fresh])
  simp only [hold, solo, Machine.atop, List.map_append, Fleet.mk.injEq, true_and, and_true]
  funext p
  by_cases hp : p = q
  · simp [hp, Machine.line]
  · simp only [hp, if_false]
    refine (congrArg Machine.line (lines p hp)).trans ?_
    simp [machine, solo, hp, Machine.line]

/-- What is called in such a fleet on its queue is what the machine does in the middle of the code below. -/
theorem call_solo (a : Action n) (fs : List (Frame n)) :
    ({ solo q m with stack := fs.map fun f => (q, f) } : Fleet k n).call ⟨a, q, true⟩ =
      solo q (Machine.perform a { m with frames := fs }) := by
  have below : { m with frames := fs } = Machine.atop fs { m with frames := [] } := rfl
  rw [call, machine_solo, Machine.call_true, hold_solo, below, Machine.perform_atop]

/-- What is run in such a fleet for its queue is what the machine does in the middle of the code below. -/
theorem frame_solo (f : Frame n) (fs : List (Frame n)) :
    ({ solo q m with stack := fs.map fun f => (q, f) } : Fleet k n).hold q
      (((solo q m : Fleet k n).machine q).runFrame f) = solo q (Machine.runFrame f { m with frames := fs }) := by
  have alone : (solo q m : Fleet k n).machine q = { m with frames := [] } := machine_solo (solo q m : Fleet k n).stack
  have below : { m with frames := fs } = Machine.atop fs { m with frames := [] } := rfl
  rw [alone, hold_solo, below, Machine.runFrame_atop]

section Idle

variable (hf : m.frames = [])
include hf

/-- A queue that does all the work with an empty stack leaves the stack of the fleet empty. -/
theorem stack_solo_of_idle : (solo q m : Fleet k n).stack = [] := by
  simp [solo, hf]

/-- Whatever this queue becomes, it does all the work. -/
theorem hold_solo_of_idle : (solo q m : Fleet k n).hold q m' = solo q m' := by
  have all : ({ solo q m with stack := [] } : Fleet k n).hold q m' = solo q (m'.atop []) := hold_solo []
  rwa [Machine.atop_nil, ← stack_solo_of_idle hf] at all

/-- Taken out of the fleet, it is the machine that it was. -/
theorem machine_solo_of_idle : (solo q m : Fleet k n).machine q = m := by
  refine (machine_solo (solo q m : Fleet k n).stack).trans ?_
  rw [← hf]

end Idle

/-- What a machine does is what a fleet may do. -/
theorem move_solo (q : Fin k) (h : Machine.Move m m') :
    ∃ c, Move (solo q m) c (solo q m') ∧ ∀ x ∈ c, x.inRuntime = true := by
  cases h with
  | work h =>
    obtain ⟨f, fs, hf, rfl⟩ | ⟨hf, j, js, hj, rfl⟩ := Machine.step_cases h
    · have top : (solo q m : Fleet k n).stack = (q, f) :: fs.map fun f => (q, f) := by simp [solo, hf]
      cases ha : f.performs with
      | none => exact ⟨none, frame_solo f fs ▸ .frame top ha, nofun⟩
      | some a =>
        have begun := call_solo (k := k) (q := q) (m := m) a (.note a :: f.rest :: fs)
        have move := Move.call ⟨a, q, true⟩ (.inside top ha)
        rw [Machine.runFrame_of_performs ha]
        exact ⟨_, begun ▸ move, by simp⟩
    · have jobs : ((solo q m : Fleet k n).lines q).jobs = j :: js := by simpa [solo, Machine.line] using hj
      have move := Move.job (stack_solo_of_idle hf) jobs
      rw [hold_solo_of_idle hf, machine_solo_of_idle hf] at move
      exact ⟨none, move, nofun⟩
  | perform a hf =>
    have begun := call_solo (k := k) (q := q) (m := m) a m.frames
    have move := Move.call ⟨a, q, true⟩ (.outside (stack_solo_of_idle (q := q) hf))
    exact ⟨_, begun ▸ move, by simp⟩
  | await goal hf hg =>
    have move := Move.await q goal (stack_solo_of_idle (q := q) hf) hg
    rw [hold_solo_of_idle hf, machine_solo_of_idle hf] at move
    exact ⟨none, move, nofun⟩

/-- With one queue only and always in a runtime, a fleet does what the machine does. -/
theorem of_move_solo {c : Option (Call 1 n)} {F : Fleet 1 n} (h : Move (solo 0 m) c F)
    (hc : ∀ x ∈ c, x.inRuntime = true) : ∃ m', Machine.Move m m' ∧ F = solo 0 m' := by
  have only (p : Fin 1) : p = 0 := Subsingleton.elim p 0
  have top {q : Fin 1} {f : Frame n} {rest : List (Fin 1 × Frame n)}
      (hs : (solo 0 m : Fleet 1 n).stack = (q, f) :: rest) :
      ∃ fs, m.frames = f :: fs ∧ rest = fs.map fun f => (0, f) := by
    obtain ⟨g, fs, hf, hg, rest⟩ := List.map_eq_cons_iff.mp hs
    obtain rfl := congrArg Prod.snd hg
    exact ⟨fs, hf, rest.symm⟩
  have idle (hs : (solo 0 m : Fleet 1 n).stack = []) : m.frames = [] := List.map_eq_nil_iff.mp hs
  cases h with
  | call x calls =>
    obtain ⟨a, p, inRuntime⟩ := x
    obtain rfl := only p
    obtain rfl : inRuntime = true := hc _ rfl
    cases calls with
    | outside hs => exact ⟨_, .perform a (idle hs), call_solo a m.frames⟩
    | @inside q f rest hs ha =>
      obtain ⟨fs, hf, rfl⟩ := top hs
      obtain rfl := only q
      refine ⟨_, .work (Machine.step_of_frames hf), ?_⟩
      rw [Machine.runFrame_of_performs ha]
      exact call_solo a (.note a :: f.rest :: fs)
  | @frame q f rest hs _ =>
    obtain ⟨fs, hf, rfl⟩ := top hs
    obtain rfl := only q
    exact ⟨_, .work (Machine.step_of_frames hf), frame_solo f fs⟩
  | @job q j js hs hj =>
    obtain rfl := only q
    rw [machine_solo_of_idle (idle hs), hold_solo_of_idle (idle hs)]
    exact ⟨_, .work (Machine.step_of_jobs (idle hs) (by simpa [solo, Machine.line] using hj)), rfl⟩
  | await q goal hs hg =>
    obtain rfl := only q
    rw [machine_solo_of_idle (idle hs), hold_solo_of_idle (idle hs)]
    exact ⟨_, .await goal (idle hs) hg, rfl⟩

/-- All that can come of the scripts in a machine can come of them in a fleet. -/
theorem run_solo {scripts : Fin n → Script n} (q : Fin k) (h : Machine.Reachable scripts m) :
    ∃ cs, Run scripts cs (solo q m : Fleet k n) := by
  induction h with
  | refl =>
    have same : (solo q (Machine.start scripts) : Fleet k n) = start scripts := by
      simp [solo, start, Machine.start, Machine.line, Line.fresh]
    exact ⟨[], same ▸ .start⟩
  | tail _ move ih =>
    obtain ⟨cs, run⟩ := ih
    obtain ⟨c, next, -⟩ := move_solo q move
    exact ⟨_, run.next next⟩

end Fleet

end ElixirLint.Queue
