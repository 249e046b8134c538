import ElixirLint.Diagnostic
import ElixirLint.Linter
import ElixirLint.Surroundings
import ElixirLint.Task

/-!
# The lint service

The service lints documents one after the other and publishes what it finds. Every document handed to it becomes a run:
a task in a queue, whose body starts a job that drives the linter. A newer run for a document, or clearing the document,
cancels the run; its job is torn down the next time it would go on, and with it the command it waits for.

All that happens is done by jobs in a first-in first-out list: the loop that drains the queue, the turn that it gives to
the run at the head, and the jobs of the runs. Operations from outside only change the state and add jobs; `settle` does
all the jobs there are. A job goes on until it has to wait: a run waits for a command that hangs, and for the outside
while that takes its time over what it has been told.

Main definitions: `Service`, `Service.execute`, `Service.clear`, `Service.release`, `Service.step` and
`Service.settle`.
-/

namespace ElixirLint

/-- How important a message is. -/
inductive MessageLevel
  | error
  | warning
  | info
  deriving DecidableEq, Repr

/-- What a service tells the outside. -/
inductive Notice
  /-- The diagnostics of a document are these. -/
  | publish (uri : DocumentUri) (diagnostics : List Diagnostic)
  /-- A document has no diagnostics any more. -/
  | clear (uri : DocumentUri)
  /-- A message for the user. -/
  | notify (level : MessageLevel) (message : String)
  deriving DecidableEq, Repr

/-- All that a run needs to know, as it was when the document was handed in. -/
structure Assignment where
  /-- The linter. -/
  linter : Linter
  /-- The document in its project. -/
  target : LintTarget
  /-- The severities of issues. -/
  severities : SeverityMap
  deriving DecidableEq, Repr

/-- How far the job of a run has come. -/
inductive RunPhase
  /-- The body of the task has not been called. -/
  | unstarted
  /-- The job has not done anything yet. -/
  | ready (a : Assignment)
  /-- The job waits for a command that hangs. -/
  | calling (a : Assignment) (stage : Stage) (hang : Nat)
  /-- The linter is done, and the job waits for the outside before it tells what is left. -/
  | telling (a : Assignment) (left : List Notice)
  /-- The job is over. -/
  | over
  deriving DecidableEq, Repr

/-- A run: a task whose cleanup tears its job down. -/
structure Run where
  /-- The task in the queue. -/
  task : Task Assignment Unit
  /-- How far its job has come. -/
  phase : RunPhase
  /-- Whether the job is to be torn down. -/
  aborted : Bool

/-- How far a command that hangs has come. -/
inductive HangPhase
  | held
  | released
  | gone
  deriving DecidableEq, Repr

/-- A command that hangs. -/
structure Hang where
  /-- The run that waits for it. -/
  run : Nat
  /-- What it comes to when it is let go. -/
  reply : Reply
  /-- How far it has come. -/
  phase : HangPhase
  deriving DecidableEq, Repr

/-- Work that could be done. -/
inductive ServiceJob
  /-- The loop that drains the queue goes on. -/
  | drain
  /-- The run at the head of the queue is started, or looked at again. -/
  | turn (run : Nat)
  /-- The job of a run goes on, or is torn down. -/
  | lint (run : Nat)
  deriving DecidableEq, Repr

/-- The state of the service. -/
structure Service where
  /-- The configuration for runs to come. -/
  config : Config
  /-- The workspace folders. -/
  folders : List Path
  /-- The documents that may have diagnostics or a run, the first handed in first. -/
  tracked : List DocumentUri
  /-- The warnings that have been shown. -/
  notified : List String
  /-- All runs that were ever queued, in order. -/
  runs : List Run
  /-- The runs in the queue, the head first. -/
  deque : List Nat
  /-- Whether the loop drains the queue. -/
  busy : Bool
  /-- The run whose turn it is. -/
  turn : Option Nat
  /-- Whether the turn waits for its run to be done. -/
  listening : Bool
  /-- The work that could be done, the next first. -/
  jobs : List ServiceJob
  /-- The replies that commands will come to. -/
  script : List Reply
  /-- The commands that were started, the last first. -/
  calls : List Command
  /-- The commands that hang or hung, in the order in which they were started. -/
  hangs : List Hang
  /-- How many commands were torn down while they hung. -/
  killed : Nat
  /-- Whether the outside takes its time over what runs will tell it; it does not after that. -/
  delays : List Bool
  /-- What was told to the outside, the last first. -/
  notices : List Notice

/-- What came of handing in a document. -/
inductive ExecuteOutcome
  /-- It is not to be linted. -/
  | ignored
  /-- It is linted by a new run. -/
  | queued (run : Nat)
  /-- The queue refused it. -/
  | refused (error : QueueError)
  deriving DecidableEq, Repr

namespace Service

/-- The service before anything has happened. -/
def start (c : Config) (script : List Reply) (delays : List Bool := []) : Service where
  config := c
  folders := []
  tracked := []
  notified := []
  runs := []
  deque := []
  busy := false
  turn := none
  listening := false
  jobs := []
  script := script
  calls := []
  hangs := []
  killed := 0
  delays := delays
  notices := []

/-! ### Small changes -/

/-- Adds a job at the end of the list, unless it is in the list already. -/
def schedule (j : ServiceJob) (s : Service) : Service :=
  if s.jobs.contains j then s else { s with jobs := s.jobs ++ [j] }

/-- Tells something to the outside. -/
def emit (n : Notice) (s : Service) : Service := { s with notices := n :: s.notices }

/-- Changes one run. -/
def modifyRun (i : Nat) (f : Run → Run) (s : Service) : Service := { s with runs := s.runs.modify i f }

/-- Sets how far the job of a run has come. -/
def setPhase (i : Nat) (p : RunPhase) (s : Service) : Service := s.modifyRun i fun r => { r with phase := p }

/-- Sets how far a command that hangs has come. -/
def setHang (n : Nat) (p : HangPhase) (s : Service) : Service :=
  { s with hangs := s.hangs.modify n fun h => { h with phase := p } }

/-- The turn looks again if it waits for a run. -/
def wake (i : Nat) (s : Service) : Service :=
  if s.turn = some i ∧ s.listening then
    let s : Service := { s with listening := false }
    s.schedule (.turn i)
  else s

/-- Adds a document to those that may have diagnostics. -/
def track (uri : DocumentUri) (s : Service) : Service :=
  if s.tracked.contains uri then s else { s with tracked := s.tracked ++ [uri] }

/-- The work of a run is over. -/
def complete (i : Nat) (s : Service) : Service :=
  match s.runs[i]? with
  | none => s
  | some r =>
    if r.task.state.isTerminal then s else (s.modifyRun i fun r => { r with task := r.task.complete }).wake i

/-- Cancels a run: its job is to be torn down, and then the run counts as done. -/
def cancelRun (i : Nat) (s : Service) : Service :=
  match s.runs[i]? with
  | none => s
  | some r =>
    if r.task.state.isTerminal then s
    else
      let (task, cleanup) := r.task.beginCancel
      let s := s.modifyRun i fun r => { r with task := task }
      let s :=
        match cleanup with
        | some () => (s.modifyRun i fun r => { r with aborted := true }).schedule (.lint i)
        | none => s
      (s.modifyRun i fun r => { r with task := r.task.resolve }).wake i

/-- Cancels some runs in turn. -/
def cancelEach (is : List Nat) (s : Service) : Service := is.foldl (fun s i => s.cancelRun i) s

/-- The runs in the queue for a document. -/
def runsFor (s : Service) (uri : DocumentUri) : List Nat :=
  s.deque.filter fun i => (s.runs[i]?.map fun r => r.task.key) == some uri

/-- Puts a new run at the end of the queue and starts the loop if it does not drain. Runs for the same document are
canceled first. -/
def enqueue (a : Assignment) (s : Service) : Service :=
  let uri := a.target.document.uri
  let i := s.runs.length
  let run : Run := ⟨(Task.fresh uri a).markEnqueued, .unstarted, false⟩
  let s : Service := { s with runs := s.runs ++ [run] }
  let s := s.cancelEach (s.runsFor uri)
  let s : Service := { s with deque := s.deque ++ [i] }
  if s.busy then s
  else
    let s : Service := { s with busy := true }
    s.schedule .drain

/-! ### Operations -/

/-- What is to be linted when a document is handed in: only files of a project in the right language that hold
something. -/
def target? (env : Surroundings) (s : Service) (d : Document) : Option LintTarget :=
  if !d.isElixir || !d.uri.isFile || d.text == "" then none
  else
    match d.uri.filePath? with
    | none => none
    | some file =>
      let layout := ProjectLayout.discover env.tree file (Project.workspaceFor file s.folders)
      if layout.isMixProject then some ⟨d, file, layout⟩ else none

/-- What a run for a target needs to know. -/
def assignment (env : Surroundings) (s : Service) (target : LintTarget) : Assignment :=
  ⟨.ofConfig env.tree s.config env.search, target, .ofRefactorAsHint s.config.refactorAsHint⟩

/-- Hands in a document. -/
def execute (env : Surroundings) (d : Document) (s : Service) : Service × ExecuteOutcome :=
  match s.target? env d with
  | none => (s, .ignored)
  | some target =>
    let s := s.track d.uri
    (s.enqueue (s.assignment env target), .queued s.runs.length)

/-- Hands in a document where nothing could run the queue. -/
def executeOutside (env : Surroundings) (d : Document) (s : Service) : Service × ExecuteOutcome :=
  match s.target? env d with
  | none => (s, .ignored)
  | some _ => (s.track d.uri, .refused .noRuntime)

/-- Cancels the runs for a file and removes its diagnostics. -/
def clear (uri : DocumentUri) (s : Service) : Service :=
  if !uri.isFile then s
  else
    let s := s.cancelEach (s.runsFor uri)
    let s : Service := { s with tracked := s.tracked.filter (· ≠ uri) }
    s.emit (.clear uri)

/-- Clears all documents that may have diagnostics. -/
def clearAll (s : Service) : Service := s.tracked.foldl (fun s uri => s.clear uri) s

/-- Takes a new configuration for runs to come. Warnings may be shown again. -/
def configure (c : Config) (s : Service) : Service := { s with config := c, notified := [] }

/-- Takes new workspace folders. -/
def setFolders (folders : List Path) (s : Service) : Service := { s with folders := folders }

/-- Cancels all runs; diagnostics stay. -/
def shutdown (s : Service) : Service := s.cancelEach s.deque

/-- Lets a command go that hangs; whether there was one. -/
def release (n : Nat) (s : Service) : Service × Bool :=
  match s.hangs[n]? with
  | some h => if h.phase = .held then ((s.setHang n .released).schedule (.lint h.run), true) else (s, false)
  | none => (s, false)

/-- The outside has taken in what a run has told it, and the run goes on. -/
def accept (i : Nat) (s : Service) : Service :=
  match s.runs[i]? with
  | some r =>
    match r.phase with
    | .telling _ _ => s.schedule (.lint i)
    | _ => s
  | none => s

/-! ### Jobs -/

/-- The diagnostics of a report; none if the file is not covered. -/
def diagnostics (a : Assignment) (report : LintReport) : List Diagnostic :=
  match report.findings with
  | some f => Diagnostic.ofIssues f.issues a.target.document.text a.severities
  | none => []

/-- What a run has to tell with the result of its linter. -/
def tidings (a : Assignment) (result : Except LintError LintReport) : List Notice :=
  match result with
  | .error e => if e.isSilent then [] else [.notify .error e.message]
  | .ok report =>
    report.warnings.map (.notify .warning) ++ [.publish a.target.document.uri (diagnostics a report)]

/-- The job of a run is over, and with it the run. -/
def conclude (i : Nat) (s : Service) : Service := (s.setPhase i .over).complete i

/-- Whether a notice is a warning that has been shown. -/
def repeats (s : Service) : Notice → Bool
  | .notify .warning message => s.notified.contains message
  | _ => false

/-- Notes that a warning has been shown. -/
def note (n : Notice) (s : Service) : Service :=
  match n with
  | .notify .warning message => { s with notified := s.notified ++ [message] }
  | _ => s

/-- Whether the outside takes its time over what it has just been told. -/
def pause (s : Service) : Bool × Service := ((s.delays.head?).getD false, { s with delays := s.delays.tail })

/-- Tells what a run has left to tell, until the outside takes its time, and then ends the run. A warning that has been
shown is passed over. -/
def tell (i : Nat) (a : Assignment) (left : List Notice) (s : Service) : Service :=
  match left with
  | [] => s.conclude i
  | n :: left =>
    if s.repeats n then s.tell i a left
    else
      let (waits, s) := ((s.note n).emit n).pause
      if waits then s.setPhase i (.telling a left) else s.tell i a left

/-- Goes on with the result of the linter, which nobody wants if the run has been canceled. -/
def deliver (i : Nat) (a : Assignment) (result : Except LintError LintReport) (s : Service) : Service :=
  match s.runs[i]? with
  | some r => if r.task.state = .canceled then s.conclude i else s.tell i a (tidings a result)
  | none => s

/-- Starts a command; the reply is what it comes to. -/
def issue (env : Surroundings) (c : Command) (s : Service) : Reply × Service :=
  let (reply, script, started) := env.reply c s.script
  (reply, { s with script := script, calls := started ++ s.calls })

/-- Notes that a run waits for a command that hangs. -/
def hold (i : Nat) (a : Assignment) (stage : Stage) (reply : Reply) (s : Service) : Service :=
  let n := s.hangs.length
  let s : Service := { s with hangs := s.hangs ++ [⟨i, reply, .held⟩] }
  s.setPhase i (.calling a stage n)

/-- Goes on with a run whose command has come to something, until it waits or is over. -/
def receive (env : Surroundings) (i : Nat) (a : Assignment) (stage : Stage) (reply : Reply) (s : Service) : Service :=
  match reply with
  | .hang release => s.hold i a stage release
  | .crash => s.conclude i
  | reply =>
    match reply.result? (a.linter.command env.tree a.target stage) with
    | none => s
    | some r =>
      match _h : a.linter.resume env.tree a.target stage r with
      | .ended result => s.deliver i a result
      | .waiting next =>
        let (reply, s) := s.issue env (a.linter.command env.tree a.target next)
        receive env i a next reply s
termination_by Linter.stagesLeft stage
decreasing_by exact Linter.stagesLeft_resume _h

/-- Starts the job of a run. -/
def begin (env : Surroundings) (i : Nat) (a : Assignment) (s : Service) : Service :=
  let stage := a.linter.start env.tree a.target
  let (reply, s) := s.issue env (a.linter.command env.tree a.target stage)
  s.receive env i a stage reply

/-- Tears the job of a run down, and with it the command it waits for. -/
def tearDown (i : Nat) (r : Run) (s : Service) : Service :=
  match r.phase with
  | .calling _ _ n =>
    let s : Service := { s with killed := s.killed + 1 }
    (s.setHang n .gone).conclude i
  | .ready _ => s.conclude i
  | .telling _ _ => s.conclude i
  | _ => s

/-- The job of a run goes on. -/
def lint (env : Surroundings) (i : Nat) (s : Service) : Service :=
  match s.runs[i]? with
  | none => s
  | some r =>
    if r.aborted then s.tearDown i r
    else
      match r.phase with
      | .ready a => s.begin env i a
      | .calling a stage n =>
        match s.hangs[n]? with
        | some h => if h.phase = .released then (s.setHang n .gone).receive env i a stage h.reply else s
        | none => s
      | .telling a left => s.tell i a left
      | _ => s

/-- Starts the run whose turn it is, if it is pending, and looks whether it is done. -/
def takeTurn (i : Nat) (s : Service) : Service :=
  match s.runs[i]? with
  | none => s
  | some r =>
    let (task, body) := r.task.start
    let s :=
      match body with
      | some a =>
        (s.modifyRun i fun r => { r with task := (task.adopt ()).1, phase := .ready a }).schedule (.lint i)
      | none => s
    match s.runs[i]? with
    | some r => if r.task.done then s.schedule .drain else { s with listening := true }
    | none => s

/-- Takes the run that had its turn out of the queue, and gives the next its turn. -/
def drain (s : Service) : Service :=
  let s : Service := if s.turn.isSome then { s with deque := s.deque.tail, turn := none } else s
  match s.deque with
  | [] => { s with busy := false }
  | i :: _ =>
    let s : Service := { s with turn := some i, listening := false }
    s.schedule (.turn i)

/-- Does a job. -/
def runJob (env : Surroundings) (j : ServiceJob) (s : Service) : Service :=
  match j with
  | .drain => s.drain
  | .turn i => s.takeTurn i
  | .lint i => s.lint env i

/-- Does the next job, if there is one. -/
def step (env : Surroundings) (s : Service) : Option Service :=
  match s.jobs with
  | [] => none
  | j :: js =>
    let s : Service := { s with jobs := js }
    some (s.runJob env j)

/-- Does all jobs, at most `fuel` of them. -/
def settleWith (env : Surroundings) : Nat → Service → Service
  | 0, s => s
  | fuel + 1, s =>
    match s.step env with
    | none => s
    | some s => settleWith env fuel s

/-- A bound on the jobs that there are to do: for every run two turns, two steps of its job and one of the loop. -/
def bound (s : Service) : Nat := 8 * (s.runs.length + 1) + s.jobs.length

/-- Does all jobs. -/
def settle (env : Surroundings) (s : Service) : Service := s.settleWith env s.bound

end Service

end ElixirLint
