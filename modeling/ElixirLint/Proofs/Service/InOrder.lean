import ElixirLint.Proofs.Agreement.Unhindered
import ElixirLint.Proofs.Service.Commands
import Mathlib.Data.List.TakeWhile

/-!
# Whose turn it is

The service does its jobs first in, first out, and whatever is called comes between two of them (`InOrder`). Then one
run at most has a job that has begun and is not over, and so one command at most hangs. Either the loop waits for that
run; or the run has been canceled, and its job is torn down before the loop goes on, since canceling puts that job in
front of the turn that looks at the run. `Employs` lists these.

Main definitions: `InOrder`, `Employs`, `Orderly`. Main results: `Orderly.cancelRun`, `Orderly.call`.
-/

namespace ElixirLint

/-- Whether a job has begun and is not over. -/
def RunPhase.isOpen : RunPhase → Bool
  | .unstarted => false
  | .over => false
  | _ => true

/-- The command that a job waits for. -/
def RunPhase.hang? : RunPhase → Option Nat
  | .calling _ _ n => some n
  | _ => none

namespace Service

variable {s s' s₁ : Service} {i k n : Nat} {r r' : Run} {a : Assignment} {phase : RunPhase} {d : Deed}
  {env : Surroundings} {c : Config} {script : List Reply} {delays : List Bool}

/-- What can become of a service that does its jobs first in, first out, whatever is called between two jobs. -/
inductive InOrder (c : Config) (script : List Reply) (delays : List Bool) : Service → Prop
  | start : InOrder c script delays (.start c script delays)
  | call {d : Deed} {s s' : Service} (h : InOrder c script delays s) (hd : Does s d s')
      (hc : ∀ j rs, d ≠ .worked j rs) : InOrder c script delays s'
  | step {env : Surroundings} {s s' : Service} (h : InOrder c script delays s) (hs : s.step env = some s') :
      InOrder c script delays s'

/-- Doing the jobs in order is one of the histories. -/
theorem InOrder.history (h : InOrder c script delays s) : ∃ es, History c script delays es s := by
  induction h with
  | start => exact ⟨[], .start⟩
  | call _ hd _ ih =>
    obtain ⟨es, history⟩ := ih
    obtain ⟨told, next⟩ := history.extend hd
    exact ⟨_, next⟩
  | step _ hs ih =>
    obtain ⟨es, history⟩ := ih
    obtain ⟨d, hd⟩ := Does.of_step hs
    obtain ⟨told, next⟩ := history.extend hd
    exact ⟨_, next⟩

/-- Doing jobs one after another is doing them in order. -/
theorem InOrder.settleWith (h : InOrder c script delays s) (env : Surroundings) (fuel : Nat) :
    InOrder c script delays (s.settleWith env fuel) := by
  induction fuel generalizing s with
  | zero => exact h
  | succ fuel ih =>
    unfold Service.settleWith
    rcases hs : s.step env with _ | s'
    · exact h
    · exact ih (h.step hs)

/-- So is doing all of them. -/
theorem InOrder.settle (h : InOrder c script delays s) (env : Surroundings) :
    InOrder c script delays (s.settle env) :=
  h.settleWith env s.bound

/-! ## Who has a job -/

/-- A command that hangs, let go or not, and has not been taken up or torn down. -/
def Outstanding (s : Service) (n : Nat) : Prop := ∃ h, s.hangs[n]? = some h ∧ h.phase ≠ .gone

/-- The only command that is outstanding is the one that the job of the run `i` waits for, if it waits for one. -/
structure Tends (s : Service) (i : Nat) (phase : RunPhase) : Prop where
  only : ∀ n, s.Outstanding n ↔ phase.hang? = some n
  mine : ∀ n h, s.Outstanding n → s.hangs[n]? = some h → h.run = i

/-- A job that can go on is in the list; one that waits for the outside does so because the outside takes its time. -/
def Due (delays : List Bool) (s : Service) (i : Nat) : RunPhase → Prop
  | .ready _ => .lint i ∈ s.jobs
  | .calling _ _ n => ∀ h, s.hangs[n]? = some h → h.phase = .released → .lint i ∈ s.jobs
  | .telling _ _ => true ∈ delays
  | _ => True

/-- Nobody but the run `i` has a job that has begun and is not over. -/
def Alone (s : Service) (i : Nat) : Prop :=
  ∀ (k : Nat) (r : Run), s.runs[k]? = some r → r.phase.isOpen = true → k = i

/-- The run `i` for `a` is at work, nobody else is, and the loop waits for it. -/
structure AtWork (s : Service) (i : Nat) (a : Assignment) (phase : RunPhase) : Prop where
  run : s.runs[i]? = some (.working a phase)
  alone : s.Alone i
  turn : s.turn = some i
  listens : s.listening = true
  loop : ∀ j ∈ s.jobs, j.isLoop = false
  busy : s.busy = true

/-- Whether a job is in the list before any with which the loop goes on. -/
def Leads (s : Service) (j : ServiceJob) : Prop := j ∈ s.jobs.takeWhile fun j => !j.isLoop

/-- Who has a job that has begun and is not over. -/
inductive Employs (delays : List Bool) (s : Service) : Prop
  | nobody (idle : ∀ (k : Nat) (r : Run), s.runs[k]? = some r → r.phase.isOpen = false)
      (calm : ∀ n, ¬s.Outstanding n) (quiet : s.listening = false)
  /-- The run whose turn it is. -/
  | worker {i : Nat} {a : Assignment} {phase : RunPhase} (work : s.AtWork i a phase) (begun : phase.isOpen = true)
      (tends : s.Tends i phase) (due : s.Due delays i phase)
  /-- A run that has been canceled. -/
  | leaver {i : Nat} {a : Assignment} {phase : RunPhase} (run : s.runs[i]? = some (Run.working a phase).cancel)
      (begun : phase.isOpen = true) (alone : s.Alone i) (tends : s.Tends i phase) (quiet : s.listening = false)
      (leads : s.Leads (.lint i))

/-- One run at most has a job, and a loop that drains the queue is somewhere. -/
structure Orderly (delays : List Bool) (s : Service) : Prop where
  employs : Employs delays s
  placed : s.busy = true → 1 ≤ s.places
  delays : s.delays <:+ delays

/-! ## Changes that do not matter -/

/-- A change that does not matter to the loop, to commands and to jobs that have begun and are not over. -/
structure Alike (s s' : Service) : Prop where
  runs : ∀ (k : Nat) (r : Run), r.phase.isOpen = true → (s'.runs[k]? = some r ↔ s.runs[k]? = some r)
  hangs : s'.hangs = s.hangs
  jobs : s'.jobs = s.jobs
  turn : s'.turn = s.turn
  listening : s'.listening = s.listening
  busy : s'.busy = s.busy
  delays : s'.delays <:+ s.delays

/-- Only the runs whose jobs have begun and are not over matter. -/
theorem Alike.of_runs {runs : List Run}
    (h : ∀ (k : Nat) (r : Run), r.phase.isOpen = true → (runs[k]? = some r ↔ s.runs[k]? = some r)) :
    Alike s { s with runs := runs } :=
  ⟨h, rfl, rfl, rfl, rfl, rfl, List.suffix_refl _⟩

theorem Alike.refl (s : Service) : Alike s s := .of_runs fun _ _ _ => .rfl

theorem Alike.trans (h : Alike s s₁) (h' : Alike s₁ s') : Alike s s' where
  runs k r hr := (h'.runs k r hr).trans (h.runs k r hr)
  hangs := h'.hangs.trans h.hangs
  jobs := h'.jobs.trans h.jobs
  turn := h'.turn.trans h.turn
  listening := h'.listening.trans h.listening
  busy := h'.busy.trans h.busy
  delays := h'.delays.trans h.delays

/-- A run without such a job is replaced by another. -/
theorem Alike.set (hk : s.runs[k]? = some r) (hr : r.phase.isOpen = false) (hr' : r'.phase.isOpen = false) :
    Alike s { s with runs := s.runs.set k r' } := by
  refine .of_runs fun m q hq => ?_
  by_cases hm : k = m
  · subst hm
    rw [List.getElem?_set_self (List.getElem?_eq_some_iff.mp hk).1, hk]
    constructor
    · rintro ⟨⟩
      rw [hr'] at hq
      cases hq
    · rintro ⟨⟩
      rw [hr] at hq
      cases hq
  · rw [List.getElem?_set_ne hm]

/-- A run without such a job is added. -/
theorem Alike.append {new : Run} (hn : new.phase.isOpen = false) : Alike s { s with runs := s.runs ++ [new] } := by
  refine .of_runs fun m q hq => ?_
  rw [List.getElem?_append]
  split
  · rfl
  · rename_i hm
    rw [List.getElem?_eq_none_iff.mpr (Nat.le_of_not_lt hm), List.getElem?_singleton]
    split
    · constructor
      · rintro ⟨⟩
        rw [hn] at hq
        cases hq
      · exact nofun
    · exact .rfl

theorem Alike.outstanding (h : Alike s s') (n : Nat) : s'.Outstanding n ↔ s.Outstanding n := by
  unfold Outstanding
  rw [h.hangs]

/-- A run is still alone with its job. -/
theorem Alone.of_alike (alone : s.Alone i) (h : Alike s s') : s'.Alone i :=
  fun k r hk hr => alone k r ((h.runs k r hr).mp hk) hr

/-- The only run with a job is replaced. -/
theorem Alone.set (alone : s.Alone i) (r : Run) (k : Nat) (r' : Run) (hk : (s.runs.set i r)[k]? = some r')
    (begun : r'.phase.isOpen = true) : k = i := by
  by_cases hki : i = k
  · exact hki.symm
  · rw [List.getElem?_set_ne hki] at hk
    exact alone k r' hk begun

/-- A run is still at work if its job has begun and is not over. -/
theorem AtWork.of_alike (w : s.AtWork i a phase) (begun : phase.isOpen = true) (h : Alike s s') :
    s'.AtWork i a phase where
  run := (h.runs i _ begun).mpr w.run
  alone := w.alone.of_alike h
  turn := h.turn ▸ w.turn
  listens := h.listening ▸ w.listens
  loop := h.jobs ▸ w.loop
  busy := h.busy ▸ w.busy

/-- Where no command is outstanding, a job waits for none. -/
theorem Tends.of_calm (calm : ∀ n, ¬s.Outstanding n) (h : phase.hang? = none) : s.Tends i phase where
  only n := by
    rw [h]
    exact ⟨fun ho => absurd ho (calm n), fun hn => by cases hn⟩
  mine n _ ho := absurd ho (calm n)

/-- A job still waits for the only command that is outstanding. -/
theorem Tends.of_alike (t : s.Tends i phase) (h : Alike s s') : s'.Tends i phase where
  only n := (h.outstanding n).trans (t.only n)
  mine n hang ho hn := t.mine n hang ((h.outstanding n).mp ho) (h.hangs ▸ hn)

/-- The same run has a job, if any has one. -/
theorem Employs.of_alike (e : Employs delays s) (h : Alike s s') : Employs delays s' := by
  cases e with
  | nobody idle calm quiet =>
    refine .nobody (fun k r hk => ?_) (fun n ho => calm n ((h.outstanding n).mp ho)) (h.listening ▸ quiet)
    rcases Bool.eq_false_or_eq_true r.phase.isOpen with begun | closed
    · exact idle k r ((h.runs k r begun).mp hk)
    · exact closed
  | @worker i a phase work begun tends due =>
    refine .worker (work.of_alike begun h) begun (tends.of_alike h) ?_
    unfold Due at due ⊢
    rw [h.jobs, h.hangs]
    exact due
  | @leaver i a phase run begun alone tends quiet leads =>
    refine .leaver ((h.runs i _ begun).mpr run) begun (alone.of_alike h) (tends.of_alike h) (h.listening ▸ quiet) ?_
    unfold Leads
    rw [h.jobs]
    exact leads

/-- The service is as orderly as before. -/
theorem Orderly.of_alike (o : Orderly delays s) (h : Alike s s') : Orderly delays s' where
  employs := o.employs.of_alike h
  placed hb := by
    rw [places, h.jobs, h.listening]
    exact o.placed (h.busy ▸ hb)
  delays := h.delays.trans o.delays

/-! ## More jobs -/

section

variable (j : ServiceJob) (s : Service)

@[simp]
theorem runs_schedule : (s.schedule j).runs = s.runs := by rw [schedule_eq]

@[simp]
theorem hangs_schedule : (s.schedule j).hangs = s.hangs := by rw [schedule_eq]

@[simp]
theorem turn_schedule : (s.schedule j).turn = s.turn := by rw [schedule_eq]

@[simp]
theorem listening_schedule : (s.schedule j).listening = s.listening := by rw [schedule_eq]

@[simp]
theorem busy_schedule : (s.schedule j).busy = s.busy := by rw [schedule_eq]

@[simp]
theorem delays_schedule : (s.schedule j).delays = s.delays := by rw [schedule_eq]

end

theorem one_le_places {j : ServiceJob} (hj : j ∈ s.jobs) (hl : j.isLoop = true) : 1 ≤ s.places := by
  have one := List.countP_pos_iff.mpr ⟨j, hj, hl⟩
  unfold places
  omega

/-- Another job leaves the places of the loop as they are, or adds one. -/
theorem places_le_schedule (j : ServiceJob) (s : Service) : s.places ≤ (s.schedule j).places := by
  unfold schedule places
  split
  · exact Nat.le_refl _
  · simp only [List.countP_append]
    omega

/-- A new job comes behind those that lead. -/
theorem Leads.schedule {j' : ServiceJob} (h : s.Leads j') (j : ServiceJob) : (s.schedule j).Leads j' := by
  unfold Leads at h ⊢
  rw [jobs_schedule]
  split
  · exact h
  · rw [List.takeWhile_append]
    split
    · exact List.mem_append_left _ (List.takeWhile_sublist _ |>.subset h)
    · exact h

/-- A new job holds no other one up. -/
theorem Due.schedule (h : s.Due delays i phase) (j : ServiceJob) : (s.schedule j).Due delays i phase := by
  have more : ∀ {j'}, j' ∈ s.jobs → j' ∈ (s.schedule j).jobs := fun hj => mem_jobs_schedule.mpr (Or.inl hj)
  cases phase with
  | ready a => exact more h
  | calling a stage n => exact fun hang hn hr => more (h hang (hangs_schedule j s ▸ hn) hr)
  | telling a left => exact h
  | unstarted | «over» => trivial

/-- A job is added that is not the loop's, or while the loop waits for nobody. -/
theorem Employs.schedule (e : Employs delays s) {j : ServiceJob} (hj : s.listening = true → j.isLoop = false) :
    Employs delays (s.schedule j) := by
  cases e with
  | nobody idle calm quiet =>
    rw [schedule_eq]
    exact .nobody idle calm quiet
  | @worker i a phase work begun tends due =>
    have loop : ∀ j' ∈ (s.schedule j).jobs, j'.isLoop = false := by
      intro j' hj'
      rcases mem_jobs_schedule.mp hj' with hj' | rfl
      · exact work.loop j' hj'
      · exact hj work.listens
    have due := due.schedule j
    rw [schedule_eq] at loop due ⊢
    exact .worker ⟨work.run, work.alone, work.turn, work.listens, loop, work.busy⟩ begun ⟨tends.only, tends.mine⟩ due
  | @leaver i a phase run begun alone tends quiet leads =>
    have leads := leads.schedule j
    rw [schedule_eq] at leads ⊢
    exact .leaver run begun alone ⟨tends.only, tends.mine⟩ quiet leads

/-- A new job keeps the service orderly, if it is none of a loop that waits for a turn. -/
theorem Orderly.schedule (o : Orderly delays s) {j : ServiceJob} (hj : s.listening = true → j.isLoop = false) :
    Orderly delays (s.schedule j) where
  employs := o.employs.schedule hj
  placed hb := Nat.le_trans (o.placed (busy_schedule j s ▸ hb)) (places_le_schedule j s)
  delays := delays_schedule j s ▸ o.delays

/-! ## Canceling -/

theorem modifyRun_schedule (f : Run → Run) (j : ServiceJob) (s : Service) :
    (s.schedule j).modifyRun i f = (s.modifyRun i f).schedule j := by
  unfold schedule modifyRun
  simp only
  split <;> rfl

theorem modifyRun_modifyRun (f g : Run → Run) (s : Service) :
    (s.modifyRun i f).modifyRun i g = s.modifyRun i (g ∘ f) := by
  simp only [modifyRun, List.modify_modify_eq]

/-- A change of a run that is there puts the changed run in its place. -/
theorem modifyRun_eq (hi : s.runs[i]? = some r) (f : Run → Run) :
    s.modifyRun i f = { s with runs := s.runs.set i (f r) } := by
  rw [modifyRun, modify_eq_set hi]

/-- Canceling a run that is not done puts its job into the list, if it has one, and then wakes the turn. -/
theorem cancelRun_eq_wake (hi : s.runs[i]? = some r) (live : r.isOver = false) :
    s.cancelRun i =
      (let s : Service := { s with runs := s.runs.set i r.cancel }
       if r.task.beginCancel.2.isSome then s.schedule (.lint i) else s).wake i := by
  have cancel : r.cancel =
      { r with task := r.task.beginCancel.1.resolve, aborted := r.aborted || r.task.beginCancel.2.isSome } :=
    if_neg (by simp [live])
  rw [cancelRun_eq hi live, cancel]
  by_cases hc : r.task.beginCancel.2.isSome = true
  · simp only [hc, if_true, Bool.or_true, modifyRun_schedule, modifyRun_modifyRun]
    rw [modifyRun_eq hi]
    rfl
  · simp only [hc, Bool.false_eq_true, if_false, Bool.or_false, modifyRun_modifyRun]
    rw [modifyRun_eq hi]
    rfl

/-- A run that is done cannot be canceled. -/
theorem cancelRun_of_isOver (hi : s.runs[i]? = some r) (ended : r.isOver = true) : s.cancelRun i = s := by
  unfold cancelRun
  rw [hi]
  exact if_pos ended

theorem wake_of_turn (ht : s.turn = some i) (hl : s.listening = true) :
    s.wake i = ({ s with listening := false } : Service).schedule (.turn i) :=
  if_pos ⟨ht, hl⟩

/-- The loop waits only for a run that is at work. -/
theorem Employs.wake_eq (e : Employs delays s) (hk : s.runs[k]? = some r) (hr : r.phase.isOpen = false) :
    s.wake k = s := by
  refine if_neg fun ⟨ht, hl⟩ => ?_
  cases e with
  | nobody _ _ quiet | leaver _ _ _ _ quiet =>
    rw [quiet] at hl
    cases hl
  | worker work begun =>
    obtain rfl := Option.some.inj (ht.symm.trans work.turn)
    obtain rfl := Option.some.inj (hk.symm.trans work.run)
    rw [show (Run.working _ _).phase.isOpen = _ from begun] at hr
    cases hr

/-- The job of the run at work is torn down before the turn looks at the run. -/
theorem Orderly.cancel_worker (o : Orderly delays s) (w : s.AtWork i a phase) (begun : phase.isOpen = true)
    (tends : s.Tends i phase) : Orderly delays (s.cancelRun i) := by
  let s₁ : Service := ({ s with runs := s.runs.set i (Run.working a phase).cancel } : Service).schedule (.lint i)
  let s₂ : Service := { s₁ with listening := false }
  have turn : s₁.turn = some i := by simp [s₁, w.turn]
  have listens : s₁.listening = true := by simp [s₁, w.listens]
  have result : s.cancelRun i = s₂.schedule (.turn i) := by
    rw [cancelRun_eq_wake w.run rfl]
    exact wake_of_turn turn listens
  have jobs : ∀ j, j ∈ s₂.jobs ↔ j ∈ s.jobs ∨ j = .lint i := fun j =>
    mem_jobs_schedule (s := { s with runs := s.runs.set i (Run.working a phase).cancel })
  have runs : s₂.runs = s.runs.set i (Run.working a phase).cancel := by simp [s₂, s₁]
  have run : s₂.runs[i]? = some (Run.working a phase).cancel := by
    rw [runs, List.getElem?_set_self (List.getElem?_eq_some_iff.mp w.run).1]
  have alone : s₂.Alone i := fun k r hk begun => w.alone.set _ k r (runs ▸ hk) begun
  have hangs : s₂.hangs = s.hangs := by simp [s₂, s₁]
  have tends₂ : s₂.Tends i phase := by
    have same : ∀ n, s₂.Outstanding n ↔ s.Outstanding n := fun n => by rw [Outstanding, hangs, Outstanding]
    exact ⟨fun n => (same n).trans (tends.only n), fun n h ho hn => tends.mine n h ((same n).mp ho) (hangs ▸ hn)⟩
  -- While the loop waits it has no job in the list, so the job of the run is before any that it will have.
  have leads : s₂.Leads (.lint i) := by
    have all : s₂.jobs.takeWhile (fun j => !j.isLoop) = s₂.jobs := by
      refine List.takeWhile_eq_self_iff.mpr fun j hj => ?_
      rcases (jobs j).mp hj with hj | rfl
      · rw [w.loop j hj]
        rfl
      · rfl
    rw [Leads, all]
    exact (jobs _).mpr (Or.inr rfl)
  have employs : Employs delays s₂ := .leaver run begun alone tends₂ rfl leads
  rw [result]
  refine ⟨employs.schedule nofun, fun _ => one_le_places (mem_jobs_schedule.mpr (Or.inr rfl)) rfl, ?_⟩
  simpa [s₂, s₁] using o.delays

/-- A run that is canceled leaves at most one job: its own, if it is the run at work. -/
theorem Orderly.cancelRun (o : Orderly delays s) (k : Nat) : Orderly delays (s.cancelRun k) := by
  rcases hk : s.runs[k]? with _ | r
  · rw [cancelRun_of_none hk]
    exact o
  rcases Bool.eq_false_or_eq_true r.isOver with ended | live
  · rw [cancelRun_of_isOver hk ended]
    exact o
  rcases Bool.eq_false_or_eq_true r.phase.isOpen with begun | closed
  · cases o.employs with
    | nobody idle =>
      rw [idle k r hk] at begun
      cases begun
    | worker work begun' tends =>
      obtain rfl := work.alone k r hk begun
      exact o.cancel_worker work begun' tends
    | leaver run _ alone =>
      obtain rfl := alone k r hk begun
      obtain rfl := Option.some.inj (hk.symm.trans run)
      cases live
  -- A run that has not begun is done at once, and the loop does not wait for it.
  · have closed' : r.cancel.phase.isOpen = false := by
      rw [Run.cancel, if_neg (by simp [live])]
      exact closed
    have set := o.of_alike (.set hk closed closed')
    have found : ({ s with runs := s.runs.set k r.cancel } : Service).runs[k]? = some r.cancel :=
      List.getElem?_set_self (List.getElem?_eq_some_iff.mp hk).1
    rw [cancelRun_eq_wake hk live]
    simp only
    split
    · have scheduled := set.schedule (j := .lint k) fun _ => rfl
      rw [scheduled.employs.wake_eq (r := r.cancel) (by simpa using found) closed']
      exact scheduled
    · rw [set.employs.wake_eq found closed']
      exact set

/-- Canceling runs keeps the service orderly. -/
theorem Orderly.cancelEach (o : Orderly delays s) (is : List Nat) : Orderly delays (s.cancelEach is) := by
  induction is generalizing s with
  | nil => exact o
  | cons i is ih => exact ih (o.cancelRun i)

/-! ## Calls -/

/-- A document that is tracked makes no difference to the order. -/
theorem Orderly.track (o : Orderly delays s) (uri : DocumentUri) : Orderly delays (s.track uri) := by
  rw [track_eq]
  exact o.of_alike ⟨fun _ _ _ => .rfl, rfl, rfl, rfl, rfl, rfl, List.suffix_refl _⟩

/-- A loop that has ended starts again; it waits for nobody. -/
theorem Orderly.start_loop (o : Orderly delays s) (hb : s.busy = false) :
    Orderly delays (({ s with busy := true } : Service).schedule .drain) := by
  have employs : Employs delays { s with busy := true } ∧ s.listening = false := by
    cases o.employs with
    | nobody idle calm quiet => exact ⟨.nobody idle calm quiet, quiet⟩
    | worker work =>
      rw [work.busy] at hb
      cases hb
    | leaver run begun alone tends quiet leads =>
      exact ⟨.leaver run begun alone ⟨tends.only, tends.mine⟩ quiet leads, quiet⟩
  refine ⟨employs.1.schedule fun hl => ?_, fun _ => one_le_places (mem_jobs_schedule.mpr (Or.inr rfl)) rfl, ?_⟩
  · cases employs.2.symm.trans hl
  · simpa using o.delays

/-- A run is added, those before it for the same document are canceled, and a loop that has ended starts again. -/
theorem Orderly.enqueue (o : Orderly delays s) (a : Assignment) : Orderly delays (s.enqueue a) := by
  let new : Run := ⟨(Task.fresh a.target.document.uri a).markEnqueued, .unstarted, false⟩
  let s₁ : Service := { s with runs := s.runs ++ [new] }
  let s₂ := s₁.cancelEach (s₁.runsFor a.target.document.uri)
  let s₃ : Service := { s₂ with deque := s₂.deque ++ [s.runs.length] }
  have added : Orderly delays s₁ := o.of_alike (.append rfl)
  have queued : Orderly delays s₃ :=
    (added.cancelEach _).of_alike ⟨fun _ _ _ => .rfl, rfl, rfl, rfl, rfl, rfl, List.suffix_refl _⟩
  have result : s.enqueue a = if s₃.busy then s₃ else ({ s₃ with busy := true } : Service).schedule .drain := rfl
  rw [result]
  split
  · exact queued
  · rename_i hb
    exact queued.start_loop (by simpa using hb)

/-- Clearing a document keeps the service orderly. -/
theorem Orderly.clear (o : Orderly delays s) (uri : DocumentUri) : Orderly delays (s.clear uri) := by
  unfold Service.clear
  split
  · exact o
  · exact (o.cancelEach _).of_alike ⟨fun _ _ _ => .rfl, rfl, rfl, rfl, rfl, rfl, List.suffix_refl _⟩

/-- A command that hangs changes its phase, and no other one does. -/
theorem getElem?_setHang (n m : Nat) (p : HangPhase) (s : Service) :
    (s.setHang n p).hangs[m]? = (s.hangs[m]?).map fun h => if n = m then { h with phase := p } else h := by
  simp only [setHang, List.getElem?_modify, Option.map_eq_map]

/-- A command that was outstanding and is let go is still outstanding. -/
theorem Tends.released (t : s.Tends i phase) {h : Hang} (hn : s.hangs[n]? = some h) (hp : h.phase = .held) :
    (s.setHang n .released).Tends i phase := by
  have same : ∀ m, (s.setHang n .released).Outstanding m ↔ s.Outstanding m := by
    intro m
    unfold Outstanding
    rw [getElem?_setHang]
    by_cases hm : n = m
    · subst hm
      simp [hn, hp]
    · simp [hm]
  refine ⟨fun m => (same m).trans (t.only m), fun m h' ho hm => ?_⟩
  rw [getElem?_setHang, Option.map_eq_some_iff] at hm
  obtain ⟨h'', hm, rfl⟩ := hm
  have mine := t.mine m h'' ((same m).mp ho) hm
  split <;> exact mine

/-- A command that hangs is let go, and the job that waits for it is in the list. -/
theorem Orderly.let_go (o : Orderly delays s) {h : Hang} (hn : s.hangs[n]? = some h) (hp : h.phase = .held)
    (hj : .lint h.run ∈ s.jobs) : Orderly delays (s.setHang n .released) := by
  have outstanding : s.Outstanding n := ⟨h, hn, by simp [hp]⟩
  refine ⟨?_, o.placed, o.delays⟩
  cases o.employs with
  | nobody _ calm => exact absurd outstanding (calm n)
  | @worker i a phase work begun tends due =>
    refine .worker ⟨work.run, work.alone, work.turn, work.listens, work.loop, work.busy⟩ begun (tends.released hn hp) ?_
    have mine := tends.mine n h outstanding hn
    have calling := (tends.only n).mp outstanding
    cases phase with
    | calling a stage m => exact fun _ _ _ => mine ▸ hj
    | unstarted | ready | telling | «over» => cases calling
  | @leaver i a phase run begun alone tends quiet leads =>
    exact .leaver run begun alone (tends.released hn hp) quiet leads

/-- A command that is let go keeps the service orderly: its run gets a job. -/
theorem Orderly.release (o : Orderly delays s) (n : Nat) : Orderly delays (s.release n).1 := by
  unfold Service.release
  split
  · rename_i h hn
    split
    · rename_i hp
      -- The order makes no difference; put into the list first, the job is there when the command is let go.
      have commutes : (s.setHang n .released).schedule (.lint h.run) =
          (s.schedule (.lint h.run)).setHang n .released := by
        unfold Service.schedule setHang
        simp only
        split <;> rfl
      have scheduled := o.schedule (j := .lint h.run) fun _ => rfl
      simp only [commutes]
      exact scheduled.let_go (by simpa using hn) hp (mem_jobs_schedule.mpr (Or.inr rfl))
    · exact o
  · exact o

/-- The outside that takes a notice keeps the service orderly: its run gets a job. -/
theorem Orderly.accept (o : Orderly delays s) (i : Nat) : Orderly delays (s.accept i) := by
  unfold Service.accept
  split
  · split
    · exact o.schedule fun _ => rfl
    · exact o
  · exact o

/-- Whatever is called leaves one job at most. -/
theorem Orderly.call (o : Orderly delays s) (h : Does s d s') (hd : ∀ j rs, d ≠ .worked j rs) :
    Orderly delays s' := by
  cases h with
  | execute env doc =>
    unfold Service.execute
    split
    · exact o
    · exact (o.track _).enqueue _
  | executeOutside env doc =>
    unfold Service.executeOutside
    split
    · exact o
    · exact o.track _
  | clear u => exact o.clear u
  | @clearAll us _ perm =>
    clear perm
    induction us generalizing s with
    | nil => exact o
    | cons u us ih => exact ih (o.clear u)
  | configure | setFolders => exact o.of_alike ⟨fun _ _ _ => .rfl, rfl, rfl, rfl, rfl, rfl, List.suffix_refl _⟩
  | shutdown => exact o.cancelEach _
  | cancel i => exact o.cancelRun i
  | release n => exact o.release n
  | accept i => exact o.accept i
  | work env => exact absurd rfl (hd _ _)

end Service

end ElixirLint
