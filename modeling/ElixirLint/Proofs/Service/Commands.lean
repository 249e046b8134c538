import ElixirLint.Proofs.Service.Queueing
import ElixirLint.Proofs.Service.Record

/-!
# What the service asks for

A job of a run asks for commands one after the other, until one hangs or there are no more. `asked` lists them, each
with the service at that moment. Only jobs start commands, and only those that are asked for.

Main results: `calls_runJob`.
-/

namespace ElixirLint.Service

variable {s : Service} {env : Surroundings}

/-- The commands that a run asks for in one go behind a command that has come to something, each with the service at
that moment. -/
def askedFrom (env : Surroundings) (a : Assignment) (stage : Stage) (reply : Reply) (s : Service) :
    List (Service × Command) :=
  match reply.result? (a.linter.command env.tree a.target stage) with
  | none => []
  | some r =>
    match _h : a.linter.resume env.tree a.target stage r with
    | .ended _ => []
    | .waiting next =>
      let c := a.linter.command env.tree a.target next
      (s, c) :: askedFrom env a next (s.issue env c).1 (s.issue env c).2
termination_by Linter.stagesLeft stage
decreasing_by exact Linter.stagesLeft_resume _h

/-- The commands that a job asks for, each with the service at that moment. -/
def asked (env : Surroundings) (j : ServiceJob) (s : Service) : List (Service × Command) :=
  match j with
  | .lint i =>
    match s.runs[i]? with
    | none => []
    | some r =>
      if r.aborted then []
      else
        match r.phase with
        | .ready a =>
          let stage := a.linter.start env.tree a.target
          let c := a.linter.command env.tree a.target stage
          (s, c) :: askedFrom env a stage (s.issue env c).1 (s.issue env c).2
        | .calling a stage n =>
          match s.hangs[n]? with
          | some h => if h.phase = .released then askedFrom env a stage h.reply (s.setHang n .gone) else []
          | none => []
        | _ => []
  | _ => []

/-- The commands that are started of those that are asked for, the last first. -/
def started (env : Surroundings) (asked : List (Service × Command)) : List Command :=
  asked.reverse.flatMap fun (s, c) => (env.reply c s.script).2.2

/-- The command that was asked for first was started first. -/
theorem started_cons (s : Service) (c : Command) (ps : List (Service × Command)) :
    started env ps ++ (s.issue env c).2.calls = started env ((s, c) :: ps) ++ s.calls := by
  simp [started, issue]

theorem calls_tell (i : Nat) (a : Assignment) (left : List Notice) (s : Service) :
    (s.tell i a left).calls = s.calls := by
  induction left generalizing s with
  | nil => exact calls_of_onRecord (onRecord_conclude i s)
  | cons n left ih =>
    have same : ((s.note n).emit n).pause.2.calls = s.calls := by
      cases n with
      | notify level message => cases level <;> rfl
      | _ => rfl
    unfold tell
    by_cases hr : s.repeats n = true
    · rw [if_pos hr]
      exact ih s
    rw [if_neg hr]
    by_cases hw : ((s.note n).emit n).pause.1 = true
    · simp only [hw, if_true]
      exact same
    · simp only [hw]
      exact (ih _).trans same

theorem calls_deliver (i : Nat) (a : Assignment) (result : Except LintError LintReport) (s : Service) :
    (s.deliver i a result).calls = s.calls := by
  unfold deliver
  split
  · split
    · exact calls_of_onRecord (onRecord_conclude i s)
    · exact calls_tell ..
  · rfl

/-- The commands that a run starts in one go are among those that it asks for. -/
theorem calls_receive (env : Surroundings) (i : Nat) (a : Assignment) (stage : Stage) (reply : Reply) (s : Service) :
    (s.receive env i a stage reply).calls = started env (askedFrom env a stage reply s) ++ s.calls := by
  fun_induction receive env i a stage reply s with
  | case1 stage s reply =>
    rw [askedFrom]
    rfl
  | case2 stage s =>
    rw [askedFrom]
    exact calls_of_onRecord (onRecord_conclude i s)
  | case3 stage s reply hang crash none =>
    rw [askedFrom, none]
    rfl
  | case4 stage s reply _ _ c hc result ended =>
    rw [askedFrom]
    simp only [hc]
    split
    · exact calls_deliver ..
    · rename_i waiting
      rw [ended] at waiting
      cases waiting
  | case5 stage s reply _ _ c hc next waiting reply' s' hs ih =>
    rw [askedFrom]
    simp only [hc]
    split
    · rename_i ended
      rw [ended] at waiting
      cases waiting
    · rename_i next' waiting'
      obtain rfl := Progress.waiting.inj (waiting.symm.trans waiting')
      obtain rfl : (s.issue env (a.linter.command env.tree a.target next)).1 = reply' := congrArg Prod.fst hs
      obtain rfl : (s.issue env (a.linter.command env.tree a.target next)).2 = s' := congrArg Prod.snd hs
      rw [ih, started_cons]

/-- The commands that a job starts are among those that it asks for. -/
theorem calls_runJob (env : Surroundings) (j : ServiceJob) (s : Service) :
    (s.runJob env j).calls = started env (asked env j s) ++ s.calls := by
  cases j with
  | drain => exact calls_of_onRecord (onRecord_drain s)
  | turn i => exact calls_of_onRecord (onRecord_takeTurn i s)
  | lint i =>
    change (s.lint env i).calls = _
    unfold lint
    simp only [asked]
    rcases s.runs[i]? with _ | ⟨task, phase, aborted⟩
    · rfl
    cases aborted with
    | true =>
      cases phase with
      | calling a stage n => exact (calls_of_onRecord (onRecord_conclude ..)).trans rfl
      | ready | telling => exact calls_of_onRecord (onRecord_conclude ..)
      | unstarted | «over» => rfl
    | false =>
      cases phase with
      | ready a => exact (calls_receive ..).trans (started_cons ..)
      | calling a stage n =>
        simp only
        rcases s.hangs[n]? with _ | h
        · rfl
        · by_cases hr : h.phase = .released
          · simp only [hr, if_true]
            exact calls_receive ..
          · simp only [hr, if_false]
            rfl
      | telling a left => exact calls_tell ..
      | unstarted | «over» => rfl

end ElixirLint.Service
