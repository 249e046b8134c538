import ElixirLint.Queue.Machine

/-!
# Displays of the queue

The texts by which the queue, its tasks, their tokens and their cleanups show up in logs. Tasks are shown under the
names that the caller gives them.
-/

namespace ElixirLint.Queue

variable {n : Nat}

/-- A task in displays. -/
def taskDisplay (name : Fin n → String) (m : Machine n) (t : Fin n) : String :=
  "Task \x7b id: " ++ name t ++ ", key: " ++ (m.tasks t).key.display ++ ", state: " ++ (m.tasks t).state.display ++
    " \x7d"

/-- The queue in displays: its tasks from the head on, and whether it is being drained. -/
def display (name : Fin n → String) (m : Machine n) : String :=
  "TaskQueue \x7b tasks: [" ++ ", ".intercalate (m.deque.map (taskDisplay name m)) ++ "], busy: " ++
    toString m.busy ++ " \x7d"

/-- A token in displays. -/
def tokenDisplay (name : String) (canceled : Bool) : String :=
  "TaskToken \x7b task: " ++ name ++ ", canceled: " ++ toString canceled ++ " \x7d"

/-- A token that may be gone, in displays. -/
def optionalTokenDisplay (name : String) : Option Bool → String
  | some canceled => "Some(" ++ tokenDisplay name canceled ++ ")"
  | none => "None"

/-- A cleanup in displays: whether there is anything to run. -/
def cleanupDisplay (c : Cleanup n) : String := "CancelHandle \x7b armed: " ++ toString c.isSome ++ " \x7d"

end ElixirLint.Queue
