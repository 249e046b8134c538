import ElixirLint.Command

/-!
# Scripted replies

What the commands of a rehearsed session come to, in the order in which they are issued. A script that has run out
goes on with commands that succeed and print nothing.
-/

namespace ElixirLint

/-- What one command comes to. -/
inductive Reply
  /-- The process ends. -/
  | finished (process : Finished)
  /-- The command cannot be run. -/
  | failed (why : ExecFailure)
  /-- Whoever runs the command crashes. -/
  | crash
  /-- The process goes on until it is let go, and then comes to something. -/
  | hang (release : Reply)
  deriving DecidableEq, Inhabited, Repr

namespace Reply

/-- The process succeeds and prints nothing. -/
def silence : Reply := .finished ⟨some 0, "", ""⟩

/-- The first reply of a script, and the script behind it. -/
def next : List Reply → Reply × List Reply
  | [] => (silence, [])
  | r :: rs => (r, rs)

/-- A reply in which statuses are seen in another way. -/
def mapStatus (seen : Int → Int) : Reply → Reply
  | .finished p => .finished { p with status := p.status.map seen }
  | .failed why => .failed why
  | .crash => .crash
  | .hang release => .hang (release.mapStatus seen)

/-- What a command has come to by now; none if it still goes on or there is nobody left to hear of it. -/
def result? (c : Command) : Reply → Option (Except ExecError Finished)
  | .finished p => some (.ok p)
  | .failed why => some (.error ⟨c.program.display, why⟩)
  | .crash => none
  | .hang _ => none

end Reply

end ElixirLint
