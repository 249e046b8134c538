import ElixirLint.Uri

/-!
# Tasks

A task is one piece of cancelable work for a document. It has a body that starts the work, and the body leaves a
cleanup behind that stops the work early. A task moves from pending to running and on to finished or canceled, or
from pending straight to canceled; finished and canceled are final. The body is taken out when the task starts or is
canceled, so it cannot run twice; the cleanup is taken out when the task is canceled and dropped when it finishes, so
it cannot run twice either, and never after the work is done. The completion mark is what waiting looks at; canceling
sets it only after the cleanup has run.
-/

namespace ElixirLint

/-- Where a task is in its life. -/
inductive TaskState
  | pending
  | running
  | finished
  | canceled
  deriving DecidableEq, Repr

namespace TaskState

/-- Whether a task is done for good. -/
def isTerminal : TaskState → Bool
  | .finished => true
  | .canceled => true
  | _ => false

/-- A state in messages. -/
def text : TaskState → String
  | .pending => "pending"
  | .running => "running"
  | .finished => "finished"
  | .canceled => "canceled"

/-- A state in displays of the queue. -/
def display : TaskState → String
  | .pending => "Pending"
  | .running => "Running"
  | .finished => "Finished"
  | .canceled => "Canceled"

end TaskState

/-- One piece of cancelable work, with a body of type `β` and a cleanup of type `η`. -/
structure Task (β η : Type) where
  /-- The document the work is for. -/
  key : DocumentUri
  /-- Where the task is in its life. -/
  state : TaskState
  /-- The body, until the task starts or is canceled. -/
  body : Option β
  /-- The cleanup that the body left, while the task runs. -/
  cleanup : Option η
  /-- Whether the task was ever put into a queue. -/
  enqueued : Bool
  /-- Whether those who wait for the task may go on. -/
  done : Bool

namespace Task

variable {β η : Type}

/-- A task that has not started. -/
def fresh (key : DocumentUri) (body : β) : Task β η := ⟨key, .pending, some body, none, false, false⟩

/-- Starts a pending task and hands out its body; a task that is not pending is left alone. -/
def start (t : Task β η) : Task β η × Option β :=
  if t.state = .pending then ({ t with state := .running, body := none }, t.body) else (t, none)

/-- The work is over, well or badly. After a cancel this means nothing. -/
def complete (t : Task β η) : Task β η :=
  if t.state.isTerminal then t else { t with state := .finished, cleanup := none, done := true }

/-- Cancels a task that is not terminal and hands out the cleanup to run before it counts as done. -/
def beginCancel (t : Task β η) : Task β η × Option η :=
  if t.state.isTerminal then (t, none)
  else ({ t with state := .canceled, body := none, cleanup := none }, t.cleanup)

/-- Lets those go on who wait for the task. -/
def resolve (t : Task β η) : Task β η := { t with done := true }

/-- Takes the cleanup that the body has left: kept while the task runs, handed out to be run at once if the task was
canceled meanwhile, and dropped if it is finished. -/
def adopt (cleanup : η) (t : Task β η) : Task β η × Option η :=
  match t.state with
  | .running => ({ t with cleanup := some cleanup }, none)
  | .canceled => (t, some cleanup)
  | _ => (t, none)

/-- Notes that the task has been put into a queue. -/
def markEnqueued (t : Task β η) : Task β η := { t with enqueued := true }

/-- Starting a task touches its state and its body only. -/
@[simp] theorem fields_start (t : Task β η) :
    t.start.1.key = t.key ∧ t.start.1.cleanup = t.cleanup ∧ t.start.1.enqueued = t.enqueued ∧
      t.start.1.done = t.done := by
  unfold start
  split <;> exact ⟨rfl, rfl, rfl, rfl⟩

/-- After a start a task is running if it was pending, and else in the state that it was in. -/
theorem state_start (t : Task β η) : t.start.1.state = if t.state = .pending then .running else t.state := by
  unfold start
  split <;> rfl

/-- A task that is terminal stays as it is when it is completed. -/
theorem complete_of_isTerminal {t : Task β η} (h : t.state.isTerminal = true) : t.complete = t := by
  simp [complete, h]

/-- Completing leaves a task terminal. -/
theorem isTerminal_complete (t : Task β η) : t.complete.state.isTerminal = true := by
  unfold complete
  split
  · assumption
  · rfl

/-- Canceling leaves a task terminal. -/
theorem isTerminal_beginCancel (t : Task β η) : t.beginCancel.1.state.isTerminal = true := by
  unfold beginCancel
  split
  · assumption
  · rfl

end Task

/-- Why a task was not put into the queue. -/
inductive QueueError
  /-- The task has been in a queue before. -/
  | duplicateEnqueue (key : DocumentUri)
  /-- There is nothing that could run the queue. -/
  | noRuntime
  deriving DecidableEq, Repr

/-- The message of a queue error. -/
def QueueError.message : QueueError → String
  | .duplicateEnqueue key => "Task is already enqueued (uri: " ++ key.text ++ ")"
  | .noRuntime => "Task queue requires a running Tokio runtime"

end ElixirLint
