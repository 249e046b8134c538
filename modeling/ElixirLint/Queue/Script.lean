import ElixirLint.Task

/-!
# Scripted tasks

The code of a task body or of a cleanup may do anything, and in particular call back into the queue it runs in. Here
such code is a finite script over the operations there are: the actions of the queue, and what a body can do with the
token that stands for its unfinished work. Tasks are numbered below `n`.
-/

namespace ElixirLint.Queue

/-- An operation on the queue or on one of its tasks. -/
inductive Action (n : Nat)
  /-- Puts a task at the end of the queue, canceling those in it with the same key. -/
  | enqueue (t : Fin n)
  /-- Cancels all tasks in the queue with a key. -/
  | cancelKey (key : DocumentUri)
  /-- Cancels one task, in the queue or not. -/
  | cancel (t : Fin n)
  /-- Cancels all tasks in the queue. -/
  | cancelAll
  /-- Takes the parked token of a task and lets go of it, which reports the work as done. -/
  | finish (t : Fin n)
  deriving DecidableEq

/-- One step of a task body. -/
inductive BodyStep (n : Nat)
  /-- Puts the token where it outlives the body. -/
  | park
  /-- Lets go of the token. -/
  | dropToken
  /-- Looks whether the task has been canceled. -/
  | check
  /-- Displays the token. -/
  | display
  /-- Fails. -/
  | panic
  /-- Does an operation. -/
  | act (a : Action n)
  deriving DecidableEq

/-- What stops the work of a task early: a list of operations, or nothing at all. A cleanup cannot fail: a body has a
step that panics, a cleanup has none and comes to its end whatever its operations answer. The statements about the
queue rest on this; what a cleanup that fails would leave behind is not described. -/
abbrev Cleanup (n : Nat) := Option (List (Action n))

/-- What a task does when it starts, and the cleanup it leaves. -/
structure Body (n : Nat) where
  /-- The steps of the body. -/
  steps : List (BodyStep n)
  /-- The cleanup that the body returns. -/
  cleanup : Cleanup n

/-- A task as it is set up. -/
structure Script (n : Nat) where
  /-- The document the task is for. -/
  key : DocumentUri
  /-- What the task does. -/
  body : Body n

end ElixirLint.Queue
