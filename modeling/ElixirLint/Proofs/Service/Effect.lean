import ElixirLint.Proofs.Service.Verdict

/-!
# What the service does to its runs

Work on a run changes that run and what has been told, and may wake the turn that waits for it. The queue, the settings
and the documents that are tracked stay as they are (`Keeps`). `Alters` says so, with what becomes of the run and what
it tells.

Main results: `alters_tell`, `alters_conclude`, `alters_receive`.
-/

namespace ElixirLint

/-- Whether a job belongs to the loop that drains the queue. -/
def ServiceJob.isLoop : ServiceJob → Bool
  | .lint _ => false
  | _ => true

namespace Run

/-- Whether a run is done for good. -/
def isOver (r : Run) : Bool := r.task.state.isTerminal

/-- A run that has been canceled: one that was not done counts as done, and its job, if it has one, is to be torn
down. -/
def cancel (r : Run) : Run :=
  if r.isOver then r
  else { r with task := r.task.beginCancel.1.resolve, aborted := r.aborted || r.task.beginCancel.2.isSome }

/-- A run that has had its turn: one that waited has a job now. -/
def start (r : Run) : Run :=
  match r.task.start.2 with
  | some a => { r with task := (r.task.start.1.adopt ()).1, phase := .ready a }
  | none => r

/-- A run whose job is over. -/
def finish (r : Run) : Run := { r with task := r.task.complete, phase := .over }

/-- What work on a run leaves it as, with the results that are there then and as many publications: its job is over or
at work. -/
inductive Leaves (a : Assignment) (r : Run) (rs : List CommandResult) (p : Nat) : Run → Prop
  | ended (h : p ≤ 1) : Leaves a r rs p r.finish
  | works {phase : RunPhase} (h : a.Works rs p phase) : Leaves a r rs p { r with phase := phase }

theorem isOver_cancel (r : Run) : r.cancel.isOver = true := by
  unfold cancel isOver
  split
  · assumption
  · exact Task.isTerminal_beginCancel r.task

/-- A run that is done is not canceled. -/
theorem cancel_of_isOver {r : Run} (h : r.isOver = true) : r.cancel = r := if_pos h

theorem isOver_finish (r : Run) : r.finish.isOver = true := Task.isTerminal_complete r.task

theorem key_cancel (r : Run) : r.cancel.task.key = r.task.key := by
  unfold cancel Task.beginCancel
  split
  · rfl
  · split <;> rfl

end Run

namespace Service

variable {s s' s₁ : Service} {i k : Nat} {r r' : Run} {a : Assignment} {rs : List CommandResult} {p : Nat}
  {told : List Notice} {env : Surroundings} {j : ServiceJob}

/-- In how many places the loop is: the jobs with which it goes on, and the turn that waits. -/
def places (s : Service) : Nat := s.jobs.countP ServiceJob.isLoop + s.listening.toNat

/-- A change that leaves the queue alone, but may wake the turn. -/
structure Spares (s s' : Service) : Prop where
  deque : s'.deque = s.deque
  busy : s'.busy = s.busy
  turn : s'.turn = s.turn
  loops : ∀ j ∈ s'.jobs, j.isLoop = true → j ∈ s.jobs ∨ ∃ i, j = .turn i ∧ s.turn = some i
  places : s'.places ≤ s.places

/-- A change that leaves the settings and the documents alone as well. -/
structure Keeps (s s' : Service) : Prop extends Spares s s' where
  config : s'.config = s.config
  folders : s'.folders = s.folders
  tracked : s'.tracked = s.tracked

/-- What leaves the queue, the loop and the jobs as they are, spares the queue. -/
theorem Spares.of_eq (hd : s'.deque = s.deque) (hb : s'.busy = s.busy) (ht : s'.turn = s.turn)
    (hj : s'.jobs = s.jobs) (hl : s'.listening = s.listening) : Spares s s' :=
  ⟨hd, hb, ht, fun _ h _ => Or.inl (hj ▸ h), Nat.le_of_eq (by rw [Service.places, Service.places, hj, hl])⟩

theorem Spares.trans (h : Spares s s₁) (h' : Spares s₁ s') : Spares s s' where
  deque := h'.deque.trans h.deque
  busy := h'.busy.trans h.busy
  turn := h'.turn.trans h.turn
  loops j hj hl := by
    rcases h'.loops j hj hl with hj | ⟨i, rfl, hi⟩
    · exact h.loops j hj hl
    · exact Or.inr ⟨i, rfl, h.turn ▸ hi⟩
  places := Nat.le_trans h'.places h.places

theorem Keeps.trans (h : Keeps s s₁) (h' : Keeps s₁ s') : Keeps s s' where
  toSpares := h.toSpares.trans h'.toSpares
  config := h'.config.trans h.config
  folders := h'.folders.trans h.folders
  tracked := h'.tracked.trans h.tracked

/-- All that is not the queue's, a setting or a document may change. -/
theorem keeps_with (s : Service) (notified : List String) (runs : List Run) (script : List Reply)
    (calls : List Command) (hangs : List Hang) (killed : Nat) (delays : List Bool) (notices : List Notice) :
    Keeps s { s with
      notified := notified, runs := runs, script := script, calls := calls, hangs := hangs, killed := killed,
      delays := delays, notices := notices } :=
  ⟨.of_eq rfl rfl rfl rfl rfl, rfl, rfl, rfl⟩

theorem Keeps.refl (s : Service) : Keeps s s := keeps_with ..

theorem jobs_schedule (j : ServiceJob) (s : Service) :
    (s.schedule j).jobs = if s.jobs.contains j then s.jobs else s.jobs ++ [j] := by
  unfold schedule
  split <;> rfl

theorem mem_jobs_schedule {j' : ServiceJob} : j' ∈ (s.schedule j).jobs ↔ j' ∈ s.jobs ∨ j' = j := by
  rw [jobs_schedule]
  split
  · rename_i h
    rw [List.contains_iff_mem] at h
    constructor
    · exact Or.inl
    · rintro (h' | rfl)
      · exact h'
      · exact h
  · simp

/-- A job that is added is one more place at most. -/
theorem places_schedule_le (j : ServiceJob) (s : Service) :
    (s.schedule j).places ≤ s.places + [j].countP ServiceJob.isLoop := by
  unfold schedule places
  split
  · omega
  · simp only [List.countP_append]
    omega

/-- Adding a job changes nothing but the jobs. -/
theorem schedule_eq (j : ServiceJob) (s : Service) : s.schedule j = { s with jobs := (s.schedule j).jobs } := by
  unfold schedule
  split <;> rfl

theorem keeps_schedule_lint (i : Nat) (s : Service) : Keeps s (s.schedule (.lint i)) := by
  have places := places_schedule_le (.lint i) s
  rw [schedule_eq] at places ⊢
  refine ⟨⟨rfl, rfl, rfl, ?_, by simpa [ServiceJob.isLoop] using places⟩, rfl, rfl, rfl⟩
  intro j hj hl
  rcases mem_jobs_schedule.mp hj with hj | rfl
  · exact Or.inl hj
  · cases hl

theorem keeps_wake (i : Nat) (s : Service) : Keeps s (s.wake i) := by
  unfold wake
  split
  · rename_i h
    have places := places_schedule_le (.turn i) { s with listening := false }
    rw [schedule_eq] at places ⊢
    refine ⟨⟨rfl, rfl, rfl, ?_, ?_⟩, rfl, rfl, rfl⟩
    · intro j hj _
      rcases mem_jobs_schedule.mp hj with hj | rfl
      · exact Or.inl hj
      · exact Or.inr ⟨i, rfl, h.1⟩
    · simpa [Service.places, ServiceJob.isLoop, h.2] using places
  · exact .refl s

theorem runs_wake (i : Nat) (s : Service) : (s.wake i).runs = s.runs := by
  unfold wake
  split
  · rw [schedule_eq]
  · rfl

theorem notices_wake (i : Nat) (s : Service) : (s.wake i).notices = s.notices := by
  unfold wake
  split
  · rw [schedule_eq]
  · rfl

/-! ## Work on one run -/

/-- Work on the run `i` that leaves it as `r` and tells something. -/
structure Alters (i : Nat) (r : Run) (told : List Notice) (s s' : Service) : Prop extends Keeps s s' where
  runs : s'.runs = s.runs.set i r
  notices : s'.notices = told ++ s.notices

theorem Alters.trans {told' : List Notice} (h : Alters i r told s s₁) (h' : Alters i r' told' s₁ s') :
    Alters i r' (told' ++ told) s s' where
  toKeeps := h.toKeeps.trans h'.toKeeps
  runs := by rw [h'.runs, h.runs, List.set_set]
  notices := by rw [h'.notices, h.notices, List.append_assoc]

/-- The run is as the work has left it. -/
theorem Alters.at (h : Alters i r told s s') (hi : s.runs[i]? = some r') : s'.runs[i]? = some r := by
  rw [h.runs, List.getElem?_set_self (List.getElem?_eq_some_iff.mp hi).1]

/-- A run that stays as it is. -/
theorem Alters.same (h : Keeps s s') (hi : s.runs[i]? = some r) (hr : s'.runs = s.runs)
    (hn : s'.notices = told ++ s.notices) : Alters i r told s s' where
  toKeeps := h
  runs := by
    obtain ⟨h, rfl⟩ := List.getElem?_eq_some_iff.mp hi
    rw [hr, List.set_getElem_self]
  notices := hn

theorem modify_eq_set {f : Run → Run} {l : List Run} (h : l[i]? = some r) : l.modify i f = l.set i (f r) := by
  refine List.ext_getElem? fun k => ?_
  by_cases hk : i = k
  · subst hk
    rw [List.getElem?_modify_eq, h, List.getElem?_set_self (List.getElem?_eq_some_iff.mp h).1]
    rfl
  · rw [List.getElem?_modify_ne _ _ hk, List.getElem?_set_ne hk]

theorem alters_modifyRun {f : Run → Run} (hi : s.runs[i]? = some r) : Alters i (f r) [] s (s.modifyRun i f) where
  toKeeps := keeps_with ..
  runs := modify_eq_set hi
  notices := rfl

theorem alters_setPhase (phase : RunPhase) (hi : s.runs[i]? = some r) :
    Alters i { r with phase := phase } [] s (s.setPhase i phase) :=
  alters_modifyRun (f := fun r => { r with phase := phase }) hi

theorem alters_schedule_lint (hi : s.runs[i]? = some r) : Alters i r [] s (s.schedule (.lint i)) :=
  .same (keeps_schedule_lint i s) hi (by rw [schedule_eq]) (by rw [schedule_eq]; rfl)

theorem alters_wake (hi : s.runs[i]? = some r) : Alters i r [] s (s.wake i) :=
  .same (keeps_wake i s) hi (runs_wake i s) (notices_wake i s)

theorem alters_complete (hi : s.runs[i]? = some r) :
    Alters i { r with task := r.task.complete } [] s (s.complete i) := by
  unfold complete
  rw [hi]
  by_cases ht : r.task.state.isTerminal = true
  · simp only [ht, if_true, Task.complete_of_isTerminal ht]
    exact .same (.refl s) hi rfl rfl
  · simp only [if_neg ht]
    have done := alters_modifyRun (f := fun r => { r with task := r.task.complete }) hi
    exact done.trans (alters_wake (done.at hi))

/-- A run whose job is over is done. -/
theorem alters_conclude (hi : s.runs[i]? = some r) : Alters i r.finish [] s (s.conclude i) := by
  have ended := alters_setPhase .over hi
  exact ended.trans (alters_complete (ended.at hi))

/-- What a run tells changes nothing but what is known to have been told. -/
theorem keeps_told (n : Notice) (s : Service) : Keeps s ((s.note n).emit n).pause.2 := by
  cases n with
  | notify level message => cases level <;> exact keeps_with ..
  | _ => exact keeps_with ..

theorem runs_told (n : Notice) (s : Service) : ((s.note n).emit n).pause.2.runs = s.runs := by
  cases n with
  | notify level message => cases level <;> rfl
  | _ => rfl

theorem notices_told (n : Notice) (s : Service) : ((s.note n).emit n).pause.2.notices = n :: s.notices := by
  cases n with
  | notify level message => cases level <;> rfl
  | _ => rfl

/-- A run tells what it owes, until it waits or is over. -/
theorem alters_tell {left : List Notice} (hi : s.runs[i]? = some r) (h : a.Owes rs p left) :
    ∃ told r', Alters i r' told s (s.tell i a left) ∧ (∀ n ∈ told, a.Permits rs n) ∧
      r.Leaves a rs (p + told.countP Notice.isPublish) r' := by
  induction left generalizing s p with
  | nil => exact ⟨[], r.finish, alters_conclude hi, by simp, .ended (by simpa using h.once)⟩
  | cons n left ih =>
    unfold tell
    by_cases hn : s.repeats n = true
    · rw [if_pos hn]
      exact ih hi h.skip
    rw [if_neg hn]
    obtain ⟨permitted, rest⟩ := h.tell
    have first : Alters i r [n] s ((s.note n).emit n).pause.2 :=
      .same (keeps_told n s) hi (runs_told n s) (notices_told n s)
    by_cases hw : ((s.note n).emit n).pause.1 = true
    · refine ⟨[n], { r with phase := .telling a left }, ?_, by simpa using permitted, .works (.telling rest)⟩
      simp only [hw, if_true]
      exact first.trans (alters_setPhase _ (first.at hi))
    · obtain ⟨told, r', later, permits, leaves⟩ := ih (first.at hi) rest
      refine ⟨told ++ [n], r', ?_, ?_, ?_⟩
      · simp only [hw]
        exact first.trans later
      · intro m hm
        rcases List.mem_append.mp hm with hm | hm
        · exact permits m hm
        · rwa [List.mem_singleton.mp hm]
      · rw [List.countP_append]
        rwa [Nat.add_assoc, Nat.add_comm ([n].countP _)] at leaves

/-- A run that nobody has canceled goes on to tell what its linter leads to. -/
theorem deliver_eq (hi : s.runs[i]? = some r) (hr : r.task.state ≠ .canceled)
    (result : Except LintError LintReport) : s.deliver i a result = s.tell i a (tidings a result) := by
  unfold deliver
  rw [hi]
  exact if_neg hr

/-! ## Commands -/

/-- The results that a run gets in one go, from a command that has come to something until it waits or is over. -/
def heardFrom (env : Surroundings) (a : Assignment) (stage : Stage) (reply : Reply) (script : List Reply) :
    List CommandResult :=
  match reply.result? (a.linter.command env.tree a.target stage) with
  | none => []
  | some r =>
    match _h : a.linter.resume env.tree a.target stage r with
    | .ended _ => [r]
    | .waiting next =>
      let (reply, script, _) := env.reply (a.linter.command env.tree a.target next) script
      r :: heardFrom env a next reply script
termination_by Linter.stagesLeft stage
decreasing_by exact Linter.stagesLeft_resume _h

/-- A run whose linter ends with a result has heard that result last. -/
theorem heardFrom_ended {stage : Stage} {reply : Reply} {script : List Reply} {c : CommandResult}
    {result : Except LintError LintReport} (hc : reply.result? (a.linter.command env.tree a.target stage) = some c)
    (hr : a.linter.resume env.tree a.target stage c = .ended result) : heardFrom env a stage reply script = [c] := by
  rw [heardFrom]
  simp only [hc]
  split
  · rfl
  · rename_i waiting
    rw [hr] at waiting
    cases waiting

/-- A run whose linter goes on hears what the next command comes to. -/
theorem heardFrom_waiting {stage next : Stage} {reply : Reply} {script : List Reply} {c : CommandResult}
    (hc : reply.result? (a.linter.command env.tree a.target stage) = some c)
    (hr : a.linter.resume env.tree a.target stage c = .waiting next) :
    heardFrom env a stage reply script =
      c :: heardFrom env a next (env.reply (a.linter.command env.tree a.target next) script).1
        (env.reply (a.linter.command env.tree a.target next) script).2.1 := by
  rw [heardFrom]
  simp only [hc]
  split
  · rename_i ended
    rw [hr] at ended
    cases ended
  · rename_i waiting
    rw [hr] at waiting
    cases waiting
    rfl

/-- The results that the run of a job gets when the job is done. -/
def heard (env : Surroundings) (j : ServiceJob) (s : Service) : List CommandResult :=
  match j with
  | .lint i =>
    match s.runs[i]? with
    | none => []
    | some r =>
      if r.aborted then []
      else
        match r.phase with
        | .ready a =>
          let stage := a.linter.start env.tree a.target
          let (reply, script, _) := env.reply (a.linter.command env.tree a.target stage) s.script
          heardFrom env a stage reply script
        | .calling a stage n =>
          match s.hangs[n]? with
          | some h => if h.phase = .released then heardFrom env a stage h.reply s.script else []
          | none => []
        | _ => []
  | _ => []

/-- Starting a command leaves the run alone. -/
theorem alters_issue (env : Surroundings) (c : Command) (hi : s.runs[i]? = some r) :
    Alters i r [] s (s.issue env c).2 :=
  .same (keeps_with ..) hi rfl rfl

/-- A run whose command hangs waits for that command. -/
theorem alters_hold (stage : Stage) (reply : Reply) (hi : s.runs[i]? = some r) :
    Alters i { r with phase := .calling a stage s.hangs.length } [] s (s.hold i a stage reply) := by
  have held : Alters i r [] s { s with hangs := s.hangs ++ [⟨i, reply, .held⟩] } := .same (keeps_with ..) hi rfl rfl
  exact held.trans (alters_setPhase _ (held.at hi))

/-- A run that is not canceled goes on with its commands, until it waits or is over. What it gets from them, and that
alone, decides what it tells. -/
theorem alters_receive {stage : Stage} {reply : Reply} (hi : s.runs[i]? = some r) (hr : r.task.state ≠ .canceled)
    (h : a.Awaits stage rs) :
    ∃ told r', Alters i r' told s (s.receive env i a stage reply) ∧
      (∀ n ∈ told, a.Permits (rs ++ heardFrom env a stage reply s.script) n) ∧
      r.Leaves a (rs ++ heardFrom env a stage reply s.script) (told.countP Notice.isPublish) r' := by
  fun_induction receive env i a stage reply s generalizing rs with
  | case1 stage s reply =>
    rw [heardFrom]
    simp only [Reply.result?, List.append_nil]
    exact ⟨[], _, alters_hold stage reply hi, by simp, .works (.calling h rfl)⟩
  | case2 stage s =>
    exact ⟨[], r.finish, alters_conclude hi, by simp, .ended (by simp)⟩
  | case3 stage s reply hang crash hn => cases reply <;> simp_all [Reply.result?]
  | case4 stage s reply _ _ c hc result ended =>
    rw [deliver_eq hi hr, heardFrom_ended hc ended]
    simpa using alters_tell hi (h.owes ended)
  | case5 stage s reply _ _ c hc next waiting reply' s' hs ih =>
    have issued : Alters i r [] s s' := by
      have issued := alters_issue env (a.linter.command env.tree a.target next) hi
      rwa [hs] at issued
    have heard : heardFrom env a stage reply s.script = c :: heardFrom env a next reply' s'.script := by
      rw [heardFrom_waiting hc waiting]
      simp only [issue] at hs
      cases hs
      rfl
    obtain ⟨told, r', alters, permits, leaves⟩ := ih (issued.at hi) (h.resume waiting)
    rw [heard, List.append_cons]
    exact ⟨told, r', by simpa using issued.trans alters, permits, leaves⟩

end Service

end ElixirLint
