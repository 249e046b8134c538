import ElixirLint.Proofs.Service.InOrder

/-!
# One job at a time

The loop goes on only when nobody has a job, and then gives the next run one. The job of the run at work goes on until
it is over or waits (`Yields`); that of a run that has been canceled is torn down. So one run at most has a job at any
time, and no command is asked for while another is outstanding.

Main results: `Orderly.step`, `InOrder.orderly`, `Orderly.asked`.
-/

namespace ElixirLint.Service

variable {s s' s₁ : Service} {i k n : Nat} {r r' : Run} {a : Assignment} {phase : RunPhase}
  {env : Surroundings} {c : Config} {script : List Reply} {delays : List Bool} {js : List ServiceJob} {stage : Stage}
  {reply : Reply}

/-! ## The loop goes on -/

/-- When the loop goes on, nobody has a job. -/
theorem Employs.nobody_of_loop {j : ServiceJob} (e : Employs delays s) (hj : s.jobs = j :: js) (hl : j.isLoop = true) :
    (∀ (k : Nat) (r : Run), s.runs[k]? = some r → r.phase.isOpen = false) ∧ (∀ n, ¬s.Outstanding n) ∧
      s.listening = false := by
  cases e with
  | nobody idle calm quiet => exact ⟨idle, calm, quiet⟩
  | worker work =>
    rw [work.loop j (hj ▸ .head js)] at hl
    cases hl
  | leaver _ _ _ _ _ leads =>
    rw [Leads, hj, List.takeWhile_cons_of_neg (by simp [hl])] at leads
    cases leads

/-- The loop goes on while nobody has a job. -/
theorem orderly_schedule (idle : ∀ (k : Nat) (r : Run), s.runs[k]? = some r → r.phase.isOpen = false)
    (calm : ∀ n, ¬s.Outstanding n) (quiet : s.listening = false) (hd : s.delays <:+ delays) {j : ServiceJob}
    (hl : j.isLoop = true) : Orderly delays (s.schedule j) where
  employs := Employs.schedule (.nobody idle calm quiet) fun listens => by cases quiet.symm.trans listens
  placed _ := one_le_places (mem_jobs_schedule.mpr (Or.inr rfl)) hl
  delays := delays_schedule j s ▸ hd

/-- The loop that drains the queue keeps the service orderly. -/
theorem Orderly.drain (o : Orderly delays s) (hj : s.jobs = .drain :: js) :
    Orderly delays ({ s with jobs := js } : Service).drain := by
  obtain ⟨idle, calm, quiet⟩ := o.employs.nobody_of_loop hj rfl
  rcases drain_cases { s with jobs := js } with ⟨-, result⟩ | ⟨i, is, -, result⟩
  · rw [result]
    exact ⟨.nobody idle calm quiet, nofun, o.delays⟩
  · rw [result]
    refine orderly_schedule ?_ ?_ ?_ ?_ ?_
    exacts [idle, calm, rfl, o.delays, rfl]

/-- A run that waits gets a job, and the loop waits for the run. -/
theorem takeTurn_of_waits
    (hi : s.runs[i]? = some ⟨⟨a.target.document.uri, .pending, some a, none, true, false⟩, .unstarted, false⟩) :
    s.takeTurn i =
      { ({ s with runs := s.runs.set i (.working a (.ready a)) } : Service).schedule (.lint i) with listening := true } := by
  have found : (({ s with runs := s.runs.set i (.working a (.ready a)) } : Service).schedule (.lint i)).runs[i]? =
      some (.working a (.ready a)) := by
    rw [runs_schedule, List.getElem?_set_self (List.getElem?_eq_some_iff.mp hi).1]
  unfold takeTurn
  simp only [hi]
  simp only [Task.start, if_true, modifyRun_eq hi]
  simp only [Task.adopt]
  split
  · rename_i r hr
    obtain rfl := Option.some.inj (found.symm.trans hr)
    rfl
  · rename_i none
    cases found.symm.trans none

/-- The turn of a run that is done goes straight back to the loop. -/
theorem takeTurn_of_isOver (hi : s.runs[i]? = some r) (ended : r.isOver = true) (done : r.task.done = true) :
    s.takeTurn i = s.schedule .drain := by
  have started : r.task.start = (r.task, none) := by
    refine if_neg fun pending => ?_
    rw [Run.isOver, pending] at ended
    cases ended
  unfold takeTurn
  simp only [hi, started, done, if_true]

/-- A job at work has begun and is not over. -/
theorem isOpen_of_works {rs : List CommandResult} {p : Nat} (h : a.Works rs p phase) : phase.isOpen = true := by
  cases h <;> rfl

/-- Where nobody has a job, the run whose turn it is gets one, and the loop waits for that run. -/
theorem orderly_begin (idle : ∀ (k : Nat) (r : Run), s.runs[k]? = some r → r.phase.isOpen = false)
    (calm : ∀ n, ¬s.Outstanding n) (hd : s.delays <:+ delays) (bound : i < s.runs.length) (turn : s.turn = some i)
    (busy : s.busy = true) (nowhere : ∀ j ∈ s.jobs, j.isLoop = false) (a : Assignment) :
    Orderly delays
      { ({ s with runs := s.runs.set i (.working a (.ready a)) } : Service).schedule (.lint i) with listening := true } := by
  let s₁ : Service := { s with runs := s.runs.set i (.working a (.ready a)) }
  have run : (s₁.schedule (.lint i)).runs[i]? = some (.working a (.ready a)) := by
    rw [runs_schedule, List.getElem?_set_self bound]
  have nobody : s.Alone i := fun k r hk begun => by cases (idle k r hk).symm.trans begun
  have alone : (s₁.schedule (.lint i)).Alone i := fun k r hk begun =>
    nobody.set _ k r (runs_schedule (.lint i) s₁ ▸ hk) begun
  have loop : ∀ j ∈ (s₁.schedule (.lint i)).jobs, j.isLoop = false := by
    intro j hj
    rcases mem_jobs_schedule.mp hj with hj | rfl
    · exact nowhere j hj
    · rfl
  have outstanding : ∀ n, ¬(s₁.schedule (.lint i)).Outstanding n := by
    intro n
    rw [Outstanding, hangs_schedule]
    exact calm n
  have work : AtWork { s₁.schedule (.lint i) with listening := true } i a (.ready a) :=
    ⟨run, alone, by simpa using turn, rfl, loop, by simpa using busy⟩
  have employs : Employs delays { s₁.schedule (.lint i) with listening := true } :=
    .worker work rfl (.of_calm outstanding rfl) (mem_jobs_schedule.mpr (Or.inr rfl))
  exact ⟨employs, fun _ => by simp [places], by simpa using hd⟩

/-- The turn gives the run at the head of the queue a job, or passes on if that run is done. -/
theorem Orderly.turn (o : Orderly delays s) (hs : Sound s) (hq : Queues s) (hj : s.jobs = .turn i :: js) :
    Orderly delays (({ s with jobs := js } : Service).takeTurn i) := by
  obtain ⟨idle, calm, quiet⟩ := o.employs.nobody_of_loop hj rfl
  have mem : .turn i ∈ s.jobs := hj ▸ .head js
  have turn := hq.turns i mem
  obtain ⟨busy, nowhere⟩ := hq.without_loop mem rfl
  have jobs : s.without (.turn i) = { s with jobs := js } := by simp [without, hj]
  rw [jobs] at nowhere
  have bound := hs.bound i (List.mem_of_mem_head? (hq.head i turn))
  obtain ⟨r, hi⟩ : ∃ r, s.runs[i]? = some r := ⟨_, List.getElem?_eq_getElem bound⟩
  obtain ⟨a, rs, p, stands⟩ := hs.stands i r hi
  have looked (ended : r.isOver = true) : Orderly delays (({ s with jobs := js } : Service).takeTurn i) := by
    rw [takeTurn_of_isOver (s := { s with jobs := js }) hi ended (stands.done.trans ended)]
    refine orderly_schedule ?_ ?_ ?_ ?_ ?_
    exacts [idle, calm, quiet, o.delays, rfl]
  cases stands with
  | works h | halts h => cases (isOpen_of_works h).symm.trans (idle i _ hi)
  | finished | canceled => exact looked rfl
  | waits =>
    rw [takeTurn_of_waits (s := { s with jobs := js }) hi]
    exact orderly_begin (s := { s with jobs := js }) idle calm o.delays bound turn busy (none_of_places nowhere).1 a

/-! ## The job of a run goes on -/

/-- A change to scripts, commands that were started and notices only. -/
structure Aside (s s' : Service) : Prop extends Alike s s' where
  same : s'.runs = s.runs
  deque : s'.deque = s.deque

theorem Aside.refl (s : Service) : Aside s s := ⟨.refl s, rfl, rfl⟩

theorem Aside.trans (h : Aside s s₁) (h' : Aside s₁ s') : Aside s s' :=
  ⟨h.toAlike.trans h'.toAlike, h'.same.trans h.same, h'.deque.trans h.deque⟩

/-- Warnings, scripts, commands and notices are not what matters, and moments of delay are used up. -/
theorem aside_with (s : Service) (notified : List String) (script : List Reply) (calls : List Command)
    (notices : List Notice) {delays : List Bool} (hd : delays <:+ s.delays) :
    Aside s { s with notified := notified, script := script, calls := calls, notices := notices, delays := delays } :=
  ⟨⟨fun _ _ _ => .rfl, rfl, rfl, rfl, rfl, rfl, hd⟩, rfl, rfl⟩

/-- How the job of the run `i` leaves the service: over, waiting for a command, or waiting for the outside. -/
inductive Yields (i : Nat) (a : Assignment) (s : Service) : Service → Prop
  | ended {s₁ : Service} (h : Aside s s₁) : Yields i a s (s₁.conclude i)
  | hangs {s₁ : Service} {stage : Stage} {reply : Reply} (h : Aside s s₁) : Yields i a s (s₁.hold i a stage reply)
  | waits {s₁ : Service} {left : List Notice} (h : Aside s s₁) (hd : true ∈ s.delays) :
      Yields i a s (s₁.setPhase i (.telling a left))

/-- Where a job leaves off does not depend on what it did aside. -/
theorem Yields.of_aside (h : Aside s s₁) (y : Yields i a s₁ s') : Yields i a s s' := by
  cases y with
  | ended h' => exact .ended (h.trans h')
  | hangs h' => exact .hangs (h.trans h')
  | waits h' hd => exact .waits (h.trans h') (h.delays.subset hd)

/-- Telling something is done aside. -/
theorem aside_told (n : Notice) (s : Service) : Aside s ((s.note n).emit n).pause.2 := by
  have shorter : s.delays.tail <:+ s.delays := List.tail_suffix _
  cases n with
  | notify level message => cases level <;> exact aside_with s _ s.script s.calls _ shorter
  | publish | clear => exact aside_with s s.notified s.script s.calls _ shorter

/-- A run that tells what it has to tell is over with it or waits for the outside. -/
theorem yields_tell (i : Nat) (a : Assignment) (left : List Notice) (s : Service) :
    Yields i a s (s.tell i a left) := by
  induction left generalizing s with
  | nil => exact .ended (.refl s)
  | cons n left ih =>
    unfold tell
    by_cases hr : s.repeats n = true
    · rw [if_pos hr]
      exact ih s
    rw [if_neg hr]
    by_cases hw : ((s.note n).emit n).pause.1 = true
    · simp only [hw, if_true]
      exact .waits (aside_told n s) (mem_delays_of_pause hw)
    · simp only [hw]
      exact .of_aside (aside_told n s) (ih _)

/-- Starting a command is done aside. -/
theorem aside_issue (env : Surroundings) (c : Command) (s : Service) : Aside s (s.issue env c).2 :=
  aside_with s s.notified _ _ s.notices (List.suffix_refl _)

/-- A run that has a command's reply goes on asking for commands and telling, and leaves the service in one of these ways. -/
theorem yields_receive (env : Surroundings) (hi : s.runs[i]? = some r) :
    Yields i a s (s.receive env i a stage reply) := by
  fun_induction receive env i a stage reply s with
  | case1 stage s reply => exact .hangs (.refl s)
  | case2 stage s => exact .ended (.refl s)
  | case3 stage s reply hang crash none => cases reply <;> simp_all [Reply.result?]
  | case4 stage s reply _ _ c hc result ended =>
    unfold deliver
    rw [hi]
    simp only
    split
    · exact .ended (.refl s)
    · exact yields_tell ..
  | case5 stage s reply _ _ c hc next waiting reply' s' hs ih =>
    have issued : Aside s s' := by
      have issued := aside_issue env (a.linter.command env.tree a.target next) s
      rwa [hs] at issued
    exact .of_aside issued (ih (issued.same ▸ hi))

/-- A run that is not done and whose job is over is done, and wakes the turn. -/
theorem conclude_eq_wake (hi : s.runs[i]? = some r) (live : r.isOver = false) :
    s.conclude i = ({ s with runs := s.runs.set i r.finish } : Service).wake i := by
  have found : (s.setPhase i .over).runs[i]? = some { r with phase := .over } := (alters_setPhase .over hi).at hi
  have terminal : r.task.state.isTerminal = false := live
  unfold conclude complete
  rw [found]
  simp only [terminal, Bool.false_eq_true, if_false]
  rw [setPhase, modifyRun_modifyRun, modifyRun_eq hi]
  rfl

/-- Concluding a run that is done only closes its job. -/
theorem conclude_of_isOver (hi : s.runs[i]? = some r) (ended : r.isOver = true) :
    s.conclude i = { s with runs := s.runs.set i { r with phase := .over } } := by
  have found : (s.setPhase i .over).runs[i]? = some { r with phase := .over } := (alters_setPhase .over hi).at hi
  have terminal : r.task.state.isTerminal = true := ended
  unfold conclude complete
  rw [found]
  simp only [terminal, if_true]
  exact modifyRun_eq hi _

/-- The run with the only job is replaced by one whose job is over. -/
theorem Alone.idle_set (alone : s.Alone i) (hr : r.phase.isOpen = false) (hi : i < s.runs.length) :
    ∀ (k : Nat) (r' : Run), (s.runs.set i r)[k]? = some r' → r'.phase.isOpen = false := by
  intro k r' hk
  by_cases hki : i = k
  · subst hki
    rw [List.getElem?_set_self hi] at hk
    cases hk
    exact hr
  · rw [List.getElem?_set_ne hki] at hk
    rcases Bool.eq_false_or_eq_true r'.phase.isOpen with begun | closed
    · exact absurd (alone k r' hk begun).symm hki
    · exact closed

theorem AtWork.lt (w : s.AtWork i a phase) : i < s.runs.length := (List.getElem?_eq_some_iff.mp w.run).1

/-- The run at work is at work in another phase. -/
theorem AtWork.set (w : s.AtWork i a phase) (phase' : RunPhase) (hangs : List Hang) :
    AtWork { s with runs := s.runs.set i (.working a phase'), hangs := hangs } i a phase' where
  run := List.getElem?_set_self w.lt
  alone := w.alone.set _
  turn := w.turn
  listens := w.listens
  loop := w.loop
  busy := w.busy

/-- When the job of the run at work is over, the loop looks at the run. -/
theorem AtWork.conclude_eq (w : s.AtWork i a phase) :
    s.conclude i =
      ({ s with runs := s.runs.set i (Run.working a phase).finish, listening := false } : Service).schedule (.turn i) := by
  rw [conclude_eq_wake w.run rfl]
  exact wake_of_turn w.turn w.listens

theorem AtWork.setPhase_eq (w : s.AtWork i a phase) (phase' : RunPhase) :
    s.setPhase i phase' = { s with runs := s.runs.set i (.working a phase') } :=
  modifyRun_eq w.run fun r => { r with phase := phase' }

/-- A run that is at work and whose command hangs waits for the last of the commands that hang. -/
theorem AtWork.hold_eq (w : s.AtWork i a phase) (b : Assignment) (stage : Stage) (reply : Reply) :
    s.hold i b stage reply = { s with
      runs := s.runs.set i (.working a (.calling b stage s.hangs.length)), hangs := s.hangs ++ [⟨i, reply, .held⟩] } :=
  modifyRun_eq (s := { s with hangs := s.hangs ++ [⟨i, reply, .held⟩] }) w.run
    fun r => { r with phase := .calling b stage s.hangs.length }

/-- Where no command is outstanding, one that hangs is the only one. -/
theorem tends_hold (calm : ∀ n, ¬s.Outstanding n) (runs : List Run) (b : Assignment) :
    Tends { s with runs := runs, hangs := s.hangs ++ [⟨i, reply, .held⟩] } i (.calling b stage s.hangs.length) := by
  let s₁ : Service := { s with runs := runs, hangs := s.hangs ++ [⟨i, reply, .held⟩] }
  have hung : s₁.hangs[s.hangs.length]? = some ⟨i, reply, .held⟩ := by simp [s₁]
  have only : ∀ n, s₁.Outstanding n ↔ n = s.hangs.length := by
    intro n
    constructor
    · rintro ⟨h, hn, hp⟩
      rcases Nat.lt_or_ge n s.hangs.length with lt | ge
      · rw [List.getElem?_append_left lt] at hn
        exact absurd ⟨h, hn, hp⟩ (calm n)
      · have bound := (List.getElem?_eq_some_iff.mp hn).1
        simp only [s₁, List.length_append, List.length_singleton] at bound
        omega
    · rintro rfl
      exact ⟨_, hung, nofun⟩
  refine ⟨fun n => (only n).trans ?_, fun n h ho hn => ?_⟩
  · simp [RunPhase.hang?, eq_comm]
  · obtain rfl := (only n).mp ho
    obtain rfl := Option.some.inj (hung.symm.trans hn)
    rfl

/-- The job of the run at work leaves the service in order. -/
theorem AtWork.yields (w : s.AtWork i a phase) (begun : phase.isOpen = true) (calm : ∀ n, ¬s.Outstanding n)
    (hd : s.delays <:+ delays) {b : Assignment} (y : Yields i b s s') : Orderly delays s' := by
  have aside {s₁ : Service} (h : Aside s s₁) : s₁.AtWork i a phase ∧ (∀ n, ¬s₁.Outstanding n) ∧
      s₁.delays <:+ delays ∧ (s₁.busy = true → 1 ≤ s₁.places) := by
    have w₁ := w.of_alike begun h.toAlike
    refine ⟨w₁, fun n ho => calm n ((h.toAlike.outstanding n).mp ho), h.delays.trans hd, fun _ => ?_⟩
    simp [places, w₁.listens]
  cases y with
  | @ended s₁ h =>
    obtain ⟨w₁, calm₁, hd₁, -⟩ := aside h
    rw [w₁.conclude_eq]
    refine orderly_schedule ?_ ?_ ?_ ?_ ?_
    exacts [w₁.alone.idle_set (r := (Run.working a phase).finish) rfl w₁.lt, calm₁, rfl, hd₁, rfl]
  | @hangs s₁ stage reply h =>
    obtain ⟨w₁, calm₁, hd₁, placed⟩ := aside h
    rw [w₁.hold_eq]
    refine ⟨.worker (w₁.set (.calling b stage s₁.hangs.length) _) rfl (tends_hold calm₁ _ b) ?_, placed, hd₁⟩
    intro h hn hr
    have held : h = ⟨i, reply, .held⟩ := by simpa using hn.symm
    rw [held] at hr
    cases hr
  | @waits s₁ left h late =>
    obtain ⟨w₁, calm₁, hd₁, placed⟩ := aside h
    rw [w₁.setPhase_eq]
    have tends : Tends { s₁ with runs := s₁.runs.set i (.working a (.telling b left)) } i (.telling b left) :=
      .of_calm calm₁ rfl
    exact ⟨.worker (w₁.set (.telling b left) s₁.hangs) rfl tends (hd.subset late), placed, hd₁⟩

/-- A job that waits for no command leaves none outstanding. -/
theorem Tends.calm (t : s.Tends i phase) (h : phase.hang? = none) (n : Nat) : ¬s.Outstanding n := by
  rw [t.only, h]
  exact nofun

/-- The command that the job waits for is the only one that is outstanding, until it is gone. -/
theorem Tends.gone (t : s.Tends i (.calling a stage n)) (m : Nat) : ¬(s.setHang n .gone).Outstanding m := by
  rintro ⟨h, hm, hp⟩
  rw [getElem?_setHang, Option.map_eq_some_iff] at hm
  obtain ⟨h', hm, rfl⟩ := hm
  by_cases same : n = m
  · simp [same] at hp
  · rw [if_neg same] at hp
    exact same (Option.some.inj ((t.only m).mp ⟨h', hm, hp⟩))

/-- Where no run has a job that could go on, nothing is done. -/
theorem lint_of_closed (env : Surroundings) (h : ∀ r, s.runs[i]? = some r → r.phase.isOpen = false) :
    s.lint env i = s := by
  rcases hi : s.runs[i]? with _ | ⟨task, phase, aborted⟩
  · exact lint_of_none hi
  · have closed := h _ hi
    unfold lint
    rw [hi]
    cases phase with
    | unstarted | «over» => cases aborted <;> rfl
    | ready | calling | telling => cases closed

/-- A job of a run that cannot go on is taken out of the list. -/
theorem Employs.skip (e : Employs delays s) (hj : s.jobs = .lint i :: js)
    (h : ∀ r, s.runs[i]? = some r → r.phase.isOpen = false) : Employs delays { s with jobs := js } := by
  have other {k : Nat} {r : Run} (hk : s.runs[k]? = some r) (begun : r.phase.isOpen = true) : i ≠ k := by
    rintro rfl
    rw [h r hk] at begun
    cases begun
  cases e with
  | nobody idle calm quiet => exact .nobody idle calm quiet
  | @worker k a phase work begun tends due =>
    have ne := other work.run begun
    have kept : .lint k ∈ s.jobs → .lint k ∈ js := by
      rw [hj]
      simp [Ne.symm ne]
    refine .worker ⟨work.run, work.alone, work.turn, work.listens, fun j hm => work.loop j (hj ▸ .tail _ hm),
      work.busy⟩ begun ⟨tends.only, tends.mine⟩ ?_
    cases phase with
    | ready => exact kept due
    | calling => exact fun hang hn hr => kept (due hang hn hr)
    | telling => exact due
    | unstarted | «over» => trivial
  | @leaver k a phase run begun alone tends quiet leads =>
    have ne := other run begun
    refine .leaver run begun alone ⟨tends.only, tends.mine⟩ quiet ?_
    rw [Leads, hj, List.takeWhile_cons_of_pos rfl] at leads
    exact (List.mem_cons.mp leads).resolve_left (by simp [Ne.symm ne])

/-- What the next job does to the service, if it is the job of the run `i`. -/
inductive Continues (delays : List Bool) (i : Nat) (s : Service) : Service → Prop
  /-- The run has no job that could go on. -/
  | rests (e : Employs delays s) : Continues delays i s s
  /-- The run is at work, and the command that it waited for is gone. -/
  | works {a b : Assignment} {phase : RunPhase} {hangs : List Hang} {s' : Service}
      (work : AtWork { s with hangs := hangs } i a phase) (begun : phase.isOpen = true)
      (calm : ∀ n, ¬Outstanding { s with hangs := hangs } n) (y : Yields i b { s with hangs := hangs } s') :
      Continues delays i s s'
  /-- The run has been canceled, and its job is torn down with the command that it waited for. -/
  | leaves {a : Assignment} {phase : RunPhase} {hangs : List Hang} {killed : Nat}
      (run : s.runs[i]? = some (Run.working a phase).cancel) (alone : s.Alone i)
      (calm : ∀ n, ¬Outstanding { s with hangs := hangs } n) (quiet : s.listening = false) :
      Continues delays i s { s with
        runs := s.runs.set i { (Run.working a phase).cancel with phase := .over }, hangs := hangs, killed := killed }

/-- However the job of a run goes on, the service is orderly behind it. -/
theorem Continues.orderly (h : Continues delays i s s') (placed : s.busy = true → 1 ≤ s.places)
    (hd : s.delays <:+ delays) : Orderly delays s' := by
  cases h with
  | rests e => exact ⟨e, placed, hd⟩
  | works work begun calm y => exact work.yields begun calm hd y
  | leaves run alone calm quiet =>
    exact ⟨.nobody (alone.idle_set rfl (List.getElem?_eq_some_iff.mp run).1) calm quiet, placed, hd⟩

/-- The job of the run at work goes on, unless it waits for a command that has not been let go. -/
theorem AtWork.continues (w : s.AtWork i a phase) (begun : phase.isOpen = true) (tends : s.Tends i phase)
    (env : Surroundings) : Continues delays i s (s.lint env i) := by
  unfold Service.lint
  rw [w.run]
  cases phase with
  | unstarted | «over» => cases begun
  | ready b =>
    let c := b.linter.command env.tree b.target (b.linter.start env.tree b.target)
    exact .works w begun (tends.calm rfl)
      (.of_aside (aside_issue env c s) (yields_receive env w.run))
  | telling b left => exact .works w begun (tends.calm rfl) (yields_tell ..)
  | calling b stage n =>
    obtain ⟨h, hn, -⟩ := (tends.only n).mpr rfl
    simp only [Run.working, Bool.false_eq_true, if_false, hn]
    split
    · have work : (s.setHang n .gone).AtWork i a (.calling b stage n) :=
        ⟨w.run, w.alone, w.turn, w.listens, w.loop, w.busy⟩
      exact .works work begun tends.gone (yields_receive env work.run)
    · rename_i held
      refine .rests (.worker w begun tends fun h' hn' hr => ?_)
      obtain rfl := Option.some.inj (hn.symm.trans hn')
      exact absurd hr held

/-- The job of a run that has been canceled is torn down. -/
theorem continues_canceled (run : s.runs[i]? = some (Run.working a phase).cancel) (begun : phase.isOpen = true)
    (alone : s.Alone i) (tends : s.Tends i phase) (quiet : s.listening = false) (env : Surroundings) :
    Continues delays i s (s.lint env i) := by
  unfold Service.lint
  rw [run]
  cases phase with
  | unstarted | «over» => cases begun
  | ready | telling =>
    change Continues delays i s (s.conclude i)
    rw [conclude_of_isOver run rfl]
    exact .leaves run alone (tends.calm rfl) quiet
  | calling b stage n =>
    change Continues delays i s (conclude i (setHang n .gone { s with killed := s.killed + 1 }))
    rw [conclude_of_isOver (s := setHang n .gone { s with killed := s.killed + 1 }) run rfl]
    exact .leaves run alone tends.gone quiet

/-- The next job goes on if it is the job of a run. -/
theorem Employs.continues (e : Employs delays s) (hj : s.jobs = .lint i :: js) (env : Surroundings) :
    Continues delays i { s with jobs := js } (({ s with jobs := js } : Service).lint env i) := by
  have skip (closed : ∀ r, s.runs[i]? = some r → r.phase.isOpen = false) :
      Continues delays i { s with jobs := js } (({ s with jobs := js } : Service).lint env i) := by
    rw [lint_of_closed (s := { s with jobs := js }) env closed]
    exact .rests (e.skip hj closed)
  have others {k : Nat} (alone : s.Alone k) (ne : k ≠ i) (r : Run) (hi : s.runs[i]? = some r) :
      r.phase.isOpen = false := by
    rcases Bool.eq_false_or_eq_true r.phase.isOpen with begun | closed
    · exact absurd (alone i r hi begun).symm ne
    · exact closed
  cases e with
  | nobody idle => exact skip (idle i)
  | @worker k a phase work begun tends =>
    by_cases same : k = i
    · subst same
      have work₁ : AtWork { s with jobs := js } k a phase := ⟨work.run, work.alone, work.turn, work.listens,
        fun j hm => work.loop j (hj ▸ .tail _ hm), work.busy⟩
      exact work₁.continues begun ⟨tends.only, tends.mine⟩ env
    · exact skip (others work.alone same)
  | @leaver k a phase run begun alone tends quiet =>
    by_cases same : k = i
    · subst same
      exact continues_canceled (s := { s with jobs := js }) run begun alone ⟨tends.only, tends.mine⟩ quiet env
    · exact skip (others alone same)

/-- The job of a run keeps the service orderly. -/
theorem Orderly.lint (o : Orderly delays s) (hj : s.jobs = .lint i :: js) (env : Surroundings) :
    Orderly delays (({ s with jobs := js } : Service).lint env i) := by
  refine (o.employs.continues hj env).orderly (fun hb => ?_) o.delays
  have same : ({ s with jobs := js } : Service).places = s.places := by
    simp [places, hj, ServiceJob.isLoop]
  rw [same]
  exact o.placed hb

/-- Doing the next job leaves one job at most. -/
theorem Orderly.step (o : Orderly delays s) (hs : Sound s) (hq : Queues s) (h : s.step env = some s') :
    Orderly delays s' := by
  unfold Service.step at h
  rcases hj : s.jobs with _ | ⟨j, js⟩
  · rw [hj] at h
    cases h
  · rw [hj] at h
    obtain rfl := Option.some.inj h
    cases j with
    | drain => exact o.drain hj
    | turn i => exact o.turn hs hq hj
    | lint i => exact o.lint hj env

/-- A service that does its jobs first in, first out, has one job of a run at most that has begun and is not over. -/
theorem InOrder.orderly (h : InOrder c script delays s) : Orderly delays s := by
  induction h with
  | start =>
    refine ⟨.nobody ?_ ?_ rfl, nofun, List.suffix_refl _⟩
    · simp [Service.start]
    · simp [Outstanding, Service.start]
  | call _ hd hc ih => exact ih.call hd hc
  | step h hs ih =>
    obtain ⟨es, history⟩ := h.history
    exact ih.step history.sound history.queues hs

/-! ## Commands -/

/-- Two commands are never outstanding. -/
theorem Employs.outstanding_eq {m : Nat} (e : Employs delays s) (hn : s.Outstanding n) (hm : s.Outstanding m) :
    n = m := by
  cases e with
  | nobody _ calm => exact absurd hn (calm n)
  | worker _ _ tends | leaver _ _ _ tends =>
    exact Option.some.inj (((tends.only n).mp hn).symm.trans ((tends.only m).mp hm))

/-- The only command that is outstanding is the one that a job waits for which has begun and is not over. -/
theorem Employs.tends (e : Employs delays s) (hi : s.runs[i]? = some r) (begun : r.phase.isOpen = true) :
    s.Tends i r.phase := by
  cases e with
  | nobody idle =>
    rw [idle i r hi] at begun
    cases begun
  | worker work _ tends =>
    obtain rfl := work.alone i r hi begun
    obtain rfl := Option.some.inj (hi.symm.trans work.run)
    exact tends
  | leaver run _ alone tends =>
    obtain rfl := alone i r hi begun
    obtain rfl := Option.some.inj (hi.symm.trans run)
    exact tends

/-- While a run asks for its commands one by one, none is outstanding. -/
theorem calm_of_askedFrom {p : Service × Command} (calm : ∀ n, ¬s.Outstanding n)
    (hp : p ∈ askedFrom env a stage reply s) (n : Nat) : ¬p.1.Outstanding n := by
  fun_induction askedFrom env a stage reply s with
  | case1 | case2 => cases hp
  | case3 stage reply s r hr next hn c ih =>
    rcases List.mem_cons.mp hp with rfl | hp
    · exact calm n
    · exact ih calm hp

/-- While a command is outstanding, none is asked for. -/
theorem Orderly.asked {j : ServiceJob} {p : Service × Command} (o : Orderly delays s) (hj : s.jobs = j :: js)
    (hp : p ∈ asked env j { s with jobs := js }) (n : Nat) : ¬p.1.Outstanding n := by
  cases j with
  | drain | turn i => cases hp
  | lint i =>
    simp only [Service.asked] at hp
    rcases hi : s.runs[i]? with _ | ⟨task, phase, aborted⟩
    · rw [hi] at hp
      cases hp
    rw [hi] at hp
    cases aborted with
    | true => cases hp
    | false =>
      have tends := fun begun => o.employs.tends hi begun
      cases phase with
      | unstarted | «over» | telling => cases hp
      | ready a =>
        have calm := (tends rfl).calm rfl
        rcases List.mem_cons.mp hp with rfl | hp
        · exact calm n
        · exact calm_of_askedFrom (s := (issue env _ { s with jobs := js }).2) calm hp n
      | calling a stage m =>
        simp only [Bool.false_eq_true, if_false] at hp
        rcases hm : s.hangs[m]? with _ | h
        · rw [hm] at hp
          cases hp
        · rw [hm] at hp
          simp only at hp
          split at hp
          · exact calm_of_askedFrom (s := setHang m .gone { s with jobs := js }) (tends rfl).gone hp n
          · cases hp

end ElixirLint.Service
