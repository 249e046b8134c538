import ElixirLint.Queue.Script

/-!
# The queue as a machine

The queue runs tasks one at a time, in the order in which they were put in. A single loop drains it: it starts the
task at the head, waits until that task is done, removes it, and goes on until nothing is left. Putting a task in
starts the loop when none is running, and cancels every task in the queue with the same key; a canceled task keeps
its place until the loop comes to it.

Everything happens on one thread. Code that runs is a stack of frames, and code that could run stands in a first-in
first-out list of jobs; `step` does the next piece of work: the topmost frame, or with no frame left the next job. So
a cleanup or a body that calls back into the queue is run to its end in the middle of what called it, and the state
after every `step` is one that such code can meet.

Main definitions: `Machine`, `Machine.start`, `Machine.step`, `Machine.perform` (an operation from outside) and
`Machine.settle` (all that can be done).
-/

namespace ElixirLint.Queue

/-- What somebody waits for. -/
inductive Goal (n : Nat)
  /-- The drain loop runs a task at the head of the queue. -/
  | turn (t : Fin n)
  /-- A task is run directly, outside the queue. -/
  | run (t : Fin n)
  /-- A task is to be done, whoever runs it. -/
  | completion (t : Fin n)
  /-- The queue is to be idle. -/
  | idle
  deriving DecidableEq

/-- The task that a goal is about, if any. -/
def Goal.task? {n : Nat} : Goal n → Option (Fin n)
  | .turn t => some t
  | .run t => some t
  | .completion t => some t
  | .idle => none

/-- How far a waiter has come. -/
inductive Phase
  /-- Its job has not been run yet. -/
  | fresh
  /-- It has looked and waits to be woken. -/
  | listening
  /-- It has been woken and its job is in the list. -/
  | woken
  /-- It has reached its goal. -/
  | settled
  /-- The body it ran has failed. -/
  | failed
  deriving DecidableEq, Repr

/-- Somebody who waits for a goal. -/
structure Waiter (n : Nat) where
  /-- What is waited for. -/
  goal : Goal n
  /-- How far the waiting has come. -/
  phase : Phase
  deriving DecidableEq

/-- Code that could run: the drain loop going on, or a waiter looking again. -/
inductive Job
  | drain
  | poll (waiter : Nat)
  deriving DecidableEq, Repr

/-- What an operation returned. -/
inductive Outcome
  | nothing
  | enqueued
  | refused (error : QueueError)
  | taken (found : Bool)
  deriving DecidableEq, Repr

/-- Code that is running, in the middle of something. -/
inductive Frame (n : Nat)
  /-- The body of a task, run for a waiter, with the token still held or not, and what is left of the body. -/
  | body (t : Fin n) (waiter : Nat) (token : Bool) (steps : List (BodyStep n)) (cleanup : Cleanup n)
  /-- The cleanup that a body has returned is about to be kept, run or dropped. -/
  | handOver (t : Fin n) (cleanup : Cleanup n)
  /-- A waiter looks whether its goal has been reached. -/
  | look (waiter : Nat)
  /-- The cleanup of a task, with the operations left. -/
  | cleanup (t : Fin n) (actions : List (Action n))
  /-- Tasks that are still to be canceled. -/
  | cancelEach (ts : List (Fin n))
  /-- A canceled task is about to count as done. -/
  | resolve (t : Fin n)
  /-- A task is about to be put at the end of the queue. -/
  | append (t : Fin n)
  /-- An operation of a body or cleanup is about to note what it returned. -/
  | note (a : Action n)
  /-- The drain loop is about to remove the head, which it has run. -/
  | advance
  /-- The drain loop is about to take the head. -/
  | next
  deriving DecidableEq

/-- Something that happened. -/
inductive Event (n : Nat)
  /-- A task was put at the end of the queue. -/
  | appended (t : Fin n)
  /-- The body of a task was called. -/
  | bodyCalled (t : Fin n)
  /-- The body of a task returned. -/
  | bodyReturned (t : Fin n)
  /-- The body of a task failed. -/
  | bodyFailed (t : Fin n)
  /-- The cleanup of a task was called. -/
  | cleanupCalled (t : Fin n)
  /-- The cleanup of a task returned. -/
  | cleanupReturned (t : Fin n)
  /-- The head of the queue was removed. -/
  | removed (t : Fin n)
  /-- A body or cleanup did an operation. -/
  | acted (a : Action n) (outcome : Outcome)
  /-- A body looked whether its task has been canceled; none if it does not hold the token any more. -/
  | checked (t : Fin n) (canceled : Option Bool)
  /-- A body displayed its token; none if it does not hold it any more. -/
  | displayed (t : Fin n) (canceled : Option Bool)
  deriving DecidableEq

/-- The whole state of a queue with its tasks, those who wait, and the code that runs or could run. -/
structure Machine (n : Nat) where
  /-- The tasks. -/
  tasks : Fin n → Task (Body n) (Cleanup n)
  /-- Whether the token of a task is parked. -/
  parked : Fin n → Bool
  /-- The queue, the head first. -/
  deque : List (Fin n)
  /-- Whether the drain loop runs. -/
  busy : Bool
  /-- What those see who wait for the queue to be idle. -/
  idle : Bool
  /-- The waiter for which the drain loop waits. -/
  turn : Option Nat
  /-- Everybody who ever waited, in the order of coming. -/
  waiters : List (Waiter n)
  /-- The jobs, the next one first. -/
  jobs : List Job
  /-- The running code, the innermost first. -/
  frames : List (Frame n)
  /-- What the last operation returned. -/
  outcome : Outcome
  /-- What has happened, the last first. -/
  events : List (Event n)

namespace Machine

variable {n : Nat}

/-- The machine before anything has happened: all tasks pending, and none of them in the queue. -/
def start (scripts : Fin n → Script n) : Machine n where
  tasks t := .fresh (scripts t).key (scripts t).body
  parked _ := false
  deque := []
  busy := false
  idle := true
  turn := none
  waiters := []
  jobs := []
  frames := []
  outcome := .nothing
  events := []

/-- Changes one task. -/
def setTask (t : Fin n) (x : Task (Body n) (Cleanup n)) (m : Machine n) : Machine n :=
  { m with tasks := fun u => if u = t then x else m.tasks u }

/-- Parks the token of a task or takes it away. -/
def setParked (t : Fin n) (p : Bool) (m : Machine n) : Machine n :=
  { m with parked := fun u => if u = t then p else m.parked u }

/-- Notes what happened. -/
def emit (e : Event n) (m : Machine n) : Machine n := { m with events := e :: m.events }

/-- Puts frames on top of the stack, the first of them topmost. -/
def push (fs : List (Frame n)) (m : Machine n) : Machine n := { m with frames := fs ++ m.frames }

/-- Adds a job at the end of the list. -/
def spawn (j : Job) (m : Machine n) : Machine n := { m with jobs := m.jobs ++ [j] }

/-- Returns from an operation. -/
def ret (o : Outcome) (m : Machine n) : Machine n := { m with outcome := o }

/-- Sets how far a waiter has come. -/
def setPhase (w : Nat) (p : Phase) (m : Machine n) : Machine n :=
  { m with waiters := m.waiters.modify w fun x => { x with phase := p } }

/-- The numbers of those who listen for a goal that satisfies a condition, in the order of coming. -/
def listeners (wanted : Goal n → Bool) (ws : List (Waiter n)) : List Nat :=
  (ws.zipIdx.filter fun (w, _) => w.phase == .listening && wanted w.goal).map (·.2)

/-- Wakes everybody who listens for a goal that satisfies a condition. -/
def wake (wanted : Goal n → Bool) (m : Machine n) : Machine n :=
  { m with
    waiters := m.waiters.map fun w =>
      if w.phase == .listening && wanted w.goal then { w with phase := .woken } else w
    jobs := m.jobs ++ (listeners wanted m.waiters).map .poll }

/-- Wakes everybody who listens for a task to be done. -/
def wakeTask (t : Fin n) (m : Machine n) : Machine n := m.wake fun g => g.task? == some t

/-- Wakes everybody who listens for the queue to be idle. -/
def wakeIdle (m : Machine n) : Machine n := m.wake fun g => g == Goal.idle

/-- Adds somebody who waits, and who has not looked yet. -/
def addWaiter (goal : Goal n) (m : Machine n) : Machine n :=
  { m with waiters := m.waiters ++ [{ goal := goal, phase := .fresh }] }

/-- The work of a task is over: its token is gone. -/
def complete (t : Fin n) (m : Machine n) : Machine n :=
  if (m.tasks t).state.isTerminal then m else (m.setTask t (m.tasks t).complete).wakeTask t

/-- Whether a goal has been reached. -/
def reached (m : Machine n) : Goal n → Bool
  | .turn t => (m.tasks t).done
  | .run t => (m.tasks t).done
  | .completion t => (m.tasks t).done
  | .idle => m.idle

/-- The tasks in the queue with a key, from the head on. -/
def withKey (m : Machine n) (key : DocumentUri) : List (Fin n) := m.deque.filter fun t => (m.tasks t).key == key

/-- Begins an operation. What it has to do beyond the first piece of work is left on the stack. -/
def perform (a : Action n) (m : Machine n) : Machine n :=
  match a with
  | .enqueue t =>
    if (m.tasks t).enqueued then m.ret (.refused (.duplicateEnqueue (m.tasks t).key))
    else (m.setTask t (m.tasks t).markEnqueued).push [.cancelEach (m.withKey (m.tasks t).key), .append t]
  | .cancelKey key => m.push [.cancelEach (m.withKey key)]
  | .cancel t => m.push [.cancelEach [t]]
  | .cancelAll => m.push [.cancelEach m.deque]
  | .finish t =>
    if m.parked t then ((m.setParked t false).complete t).ret (.taken true) else m.ret (.taken false)

/-- Puts a task at the end of the queue, and starts the drain loop if it does not run. -/
def append (t : Fin n) (m : Machine n) : Machine n :=
  let m : Machine n := { m with deque := m.deque ++ [t] }
  let m := (m.emit (.appended t)).ret .enqueued
  if m.busy then m
  else
    let m : Machine n := { m with busy := true, idle := false }
    m.wakeIdle.spawn .drain

/-- The waiter has reached its goal; the drain loop goes on if it was its turn. -/
def settleWaiter (w : Nat) (goal : Goal n) (m : Machine n) : Machine n :=
  match goal with
  | .turn _ => (m.setPhase w .settled).spawn .drain
  | _ => m.setPhase w .settled

/-- The body run for a waiter has failed; the drain loop goes on if it was its turn. -/
def failWaiter (w : Nat) (m : Machine n) : Machine n :=
  match m.waiters[w]? with
  | some { goal := .turn _, .. } => (m.setPhase w .failed).spawn .drain
  | _ => m.setPhase w .failed

/-- Runs one step of the body of a task; its frame has been taken from the stack. -/
def bodyStep (t : Fin n) (w : Nat) (token : Bool) (steps : List (BodyStep n)) (cleanup : Cleanup n) (m : Machine n) :
    Machine n :=
  match steps with
  | [] =>
    let m := if token then m.complete t else m
    (m.emit (.bodyReturned t)).push [.handOver t cleanup, .look w]
  | .park :: steps =>
    if token then (m.setParked t true).push [.body t w false steps cleanup]
    else
      let m := if m.parked t then (m.setParked t false).complete t else m
      m.push [.body t w false steps cleanup]
  | .dropToken :: steps =>
    let m := if token then m.complete t else m
    m.push [.body t w false steps cleanup]
  | .check :: steps =>
    (m.emit (.checked t (if token then some ((m.tasks t).state == .canceled) else none))).push
      [.body t w token steps cleanup]
  | .display :: steps =>
    (m.emit (.displayed t (if token then some ((m.tasks t).state == .canceled) else none))).push
      [.body t w token steps cleanup]
  | .panic :: _ =>
    let m := if token then m.complete t else m
    (m.emit (.bodyFailed t)).failWaiter w
  | .act a :: steps => (m.push [.note a, .body t w token steps cleanup]).perform a

/-- Cancels the next of some tasks. A task that is terminal is passed over. -/
def cancelStep (ts : List (Fin n)) (m : Machine n) : Machine n :=
  match ts with
  | [] => m.ret .nothing
  | t :: ts =>
    if (m.tasks t).state.isTerminal then m.push [.cancelEach ts]
    else
      let (x, cleanup) := (m.tasks t).beginCancel
      let m := (m.setTask t x).push [.resolve t, .cancelEach ts]
      match cleanup with
      | some (some actions) => (m.emit (.cleanupCalled t)).push [.cleanup t actions]
      | _ => m

/-- Lets a waiter look whether its goal has been reached; if not, it listens. -/
def look (w : Nat) (m : Machine n) : Machine n :=
  match m.waiters[w]? with
  | none => m
  | some x => if m.reached x.goal then m.settleWaiter w x.goal else m.setPhase w .listening

/-- The drain loop takes the head of the queue, or ends. -/
def next (m : Machine n) : Machine n :=
  match m.deque with
  | [] =>
    let m : Machine n := { m with busy := false, idle := true }
    m.wakeIdle
  | t :: _ =>
    let w := m.waiters.length
    let m : Machine n := { m with turn := some w }
    (m.addWaiter (.turn t)).spawn (.poll w)

/-- The drain loop removes the head of the queue. -/
def advance (m : Machine n) : Machine n :=
  match m.deque with
  | [] => m.push [.next]
  | t :: ts =>
    let m : Machine n := { m with deque := ts }
    (m.emit (.removed t)).push [.next]

/-- Runs a frame that has been taken from the stack. -/
def runFrame (f : Frame n) (m : Machine n) : Machine n :=
  match f with
  | .body t w token steps cleanup => m.bodyStep t w token steps cleanup
  | .handOver t cleanup =>
    let (x, now) := (m.tasks t).adopt cleanup
    let m := m.setTask t x
    match now with
    | some (some actions) => (m.emit (.cleanupCalled t)).push [.cleanup t actions]
    | _ => m
  | .look w => m.look w
  | .cleanup t [] => m.emit (.cleanupReturned t)
  | .cleanup t (a :: actions) => (m.push [.note a, .cleanup t actions]).perform a
  | .cancelEach ts => m.cancelStep ts
  | .resolve t => (m.setTask t (m.tasks t).resolve).wakeTask t
  | .append t => m.append t
  | .note a => m.emit (.acted a m.outcome)
  | .advance => m.advance
  | .next => m.next

/-- Runs a task for a waiter: its body if it has not started, and in any case a look at the goal. -/
def runTask (t : Fin n) (w : Nat) (m : Machine n) : Machine n :=
  match (m.tasks t).start with
  | (x, some b) => ((m.setTask t x).emit (.bodyCalled t)).push [.body t w true b.steps b.cleanup]
  | (x, none) => (m.setTask t x).push [.look w]

/-- Runs a job that has been taken from the list. -/
def runJob (j : Job) (m : Machine n) : Machine n :=
  match j with
  | .drain =>
    match m.turn with
    | none => m.push [.next]
    | some w =>
      let m : Machine n := { m with turn := none }
      match m.waiters[w]? with
      | some { goal := .turn t, phase := .failed } => m.push [.cancelEach [t], .advance]
      | _ => m.push [.advance]
  | .poll w =>
    match m.waiters[w]? with
    | some { goal := .turn t, phase := .fresh } => m.runTask t w
    | some { goal := .run t, phase := .fresh } => m.runTask t w
    | _ => m.push [.look w]

/-- The next piece of work: the topmost frame, or else the next job. There may be nothing left to do. -/
def step (m : Machine n) : Option (Machine n) :=
  match m.frames with
  | f :: fs =>
    let m : Machine n := { m with frames := fs }
    some (m.runFrame f)
  | [] =>
    match m.jobs with
    | j :: js =>
      let m : Machine n := { m with jobs := js }
      some (m.runJob j)
    | [] => none

/-- Whether nothing can proceed. -/
def isQuiet (m : Machine n) : Bool := m.frames.isEmpty && m.jobs.isEmpty

/-- The number of operations and steps in a script. -/
def bodySize (b : Body n) : Nat := b.steps.length + (b.cleanup.getD []).length + 1

/-- The number of operations and steps that a frame still holds. -/
def frameSize : Frame n → Nat
  | .body _ _ _ steps cleanup => steps.length + (cleanup.getD []).length + 1
  | .handOver _ cleanup => (cleanup.getD []).length + 1
  | .cleanup _ actions => actions.length + 1
  | .cancelEach ts => ts.length + 1
  | _ => 1

/-- The numbers of a list taken together. -/
def total (ns : List Nat) : Nat := ns.foldr (fun n m => n + m) 0

/-- All that a machine still holds: scripts that have not been run, frames, jobs, those who wait, and tasks. -/
def size (m : Machine n) : Nat :=
  total ((List.finRange n).map fun t =>
    ((m.tasks t).body.map bodySize).getD 0 + (((m.tasks t).cleanup.join).getD []).length + 2) +
  total (m.frames.map frameSize) + m.jobs.length + m.waiters.length + 1

/-- A bound on the steps that a machine can do. Each operation a script holds cancels at most every task, each task
passes through the queue once, and each time the queue turns idle it wakes everybody who waits for that. -/
def bound (m : Machine n) : Nat := 64 * m.size * m.size

/-- Runs the code that is running to its end, at most `fuel` frames of it. -/
def unwindWith : Nat → Machine n → Machine n
  | 0, m => m
  | fuel + 1, m =>
    match m.frames with
    | [] => m
    | f :: fs =>
      let m : Machine n := { m with frames := fs }
      unwindWith fuel (m.runFrame f)

/-- Runs the code that is running to its end; the jobs stay. -/
def unwind (m : Machine n) : Machine n := unwindWith m.bound m

/-- Runs everything that can proceed, at most `fuel` pieces of work. -/
def settleWith : Nat → Machine n → Machine n
  | 0, m => m
  | fuel + 1, m =>
    match m.step with
    | none => m
    | some m => settleWith fuel m

/-- Runs everything until nothing can proceed. -/
def settle (m : Machine n) : Machine n := settleWith m.bound m

/-- Does an operation from outside, to its end; what it makes possible is not run yet. -/
def act (a : Action n) (m : Machine n) : Machine n := (m.perform a).unwind

/-- Tries to put a task into the queue where nothing could run it: nothing changes. -/
def enqueueOutside (_t : Fin n) (m : Machine n) : Machine n × Outcome := (m, .refused .noRuntime)

/-- Somebody begins to wait for a goal. -/
def await (goal : Goal n) (m : Machine n) : Machine n := (m.addWaiter goal).spawn (.poll m.waiters.length)

/-- How often the body of a task has been called. -/
def bodyCalls (m : Machine n) (t : Fin n) : Nat := m.events.countP fun e => e == .bodyCalled t

/-- How often the cleanup of a task has been called. -/
def cleanupCalls (m : Machine n) (t : Fin n) : Nat := m.events.countP fun e => e == .cleanupCalled t

/-- What the parked token of a task says about cancellation; none if no token is parked. -/
def parkedCanceled (m : Machine n) (t : Fin n) : Option Bool :=
  if m.parked t then some ((m.tasks t).state == .canceled) else none

end Machine

end ElixirLint.Queue
