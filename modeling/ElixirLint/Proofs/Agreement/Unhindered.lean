import ElixirLint.Proofs.Agreement.Ending
import ElixirLint.Proofs.Service.Queueing
import ElixirLint.Proofs.Service.Record

/-!
# Runs that nobody disturbs

Left to itself, the service does its jobs in any order, commands that hang are let go, and the outside takes in what it
is told (`Unhindered`). However that goes, a run comes to one ending: that of a run in one go with the replies to come.
`Ahead` says for every point at which the job of a run may wait what is left of that ending; doing any job keeps it.

Main results: `advances_lint`, `OnTheWay.unhindered`, `ends_as_in_one_go`.
-/

namespace ElixirLint

namespace Run

/-- A run for `a` whose job is at work. -/
def working (a : Assignment) (phase : RunPhase) : Run :=
  ⟨⟨a.target.document.uri, .running, none, some (), true, false⟩, phase, false⟩

/-- Nothing is left to do for a run, not even to tear it down. -/
structure Rests (r : Run) : Prop where
  isOver : r.isOver = true
  phase : r.phase = .unstarted ∨ r.phase = .over

/-- A turn changes nothing about a run that is done. -/
theorem start_of_isOver {r : Run} (h : r.isOver = true) : r.start = r := by
  have started : r.task.state ≠ .pending := by
    intro pending
    simp [isOver, pending, TaskState.isTerminal] at h
  simp [start, Task.start, started]

end Run

namespace Service

variable {s s' s₁ s₀ : Service} {i k n : Nat} {r r' : Run} {a : Assignment} {env : Surroundings}
  {e : Ending} {before left : List Notice}

/-- What becomes of the service when nobody disturbs it. -/
inductive Unhindered (env : Surroundings) (s₀ : Service) : Service → Prop
  | start : Unhindered env s₀ s₀
  | work {s : Service} {j : ServiceJob} (h : Unhindered env s₀ s) (hj : j ∈ s.jobs) :
      Unhindered env s₀ ((s.without j).runJob env j)
  | release {s : Service} (n : Nat) (h : Unhindered env s₀ s) : Unhindered env s₀ (s.release n).1
  | accept {s : Service} (i : Nat) (h : Unhindered env s₀ s) : Unhindered env s₀ (s.accept i)

/-! ## Commands and notices -/

/-- What the service knows of its commands and what it has told. -/
structure Outlook where
  /-- The replies to come as the command line would get them, and the commands that were started. -/
  rehearsal : Rehearsal
  /-- The commands that hang or hung, as runs and what their commands come to. -/
  hanging : List (Nat × Reply)
  /-- What was told to the outside, the last first. -/
  notices : List Notice

/-- What the service knows and has told. -/
def outlook (s : Service) : Outlook :=
  ⟨⟨s.script.map Reply.settled, s.calls⟩, s.hangs.map fun h => (h.run, h.reply), s.notices⟩

@[simp]
theorem outlook_setPhase (i : Nat) (p : RunPhase) (s : Service) : (s.setPhase i p).outlook = s.outlook := rfl

/-- The queue, its loop and the ends of runs do not matter to what the service knows. -/
theorem outlook_of_onRecord (h : s'.onRecord = s.onRecord) : s'.outlook = s.outlook :=
  show s'.onRecord.outlook = s.onRecord.outlook by rw [h]

@[simp]
theorem outlook_conclude (i : Nat) (s : Service) : (s.conclude i).outlook = s.outlook :=
  outlook_of_onRecord (onRecord_conclude i s)

@[simp]
theorem outlook_takeTurn (i : Nat) (s : Service) : (s.takeTurn i).outlook = s.outlook :=
  outlook_of_onRecord (onRecord_takeTurn i s)

@[simp]
theorem outlook_setHang (n : Nat) (p : HangPhase) (s : Service) : (s.setHang n p).outlook = s.outlook := by
  have same : (s.hangs.modify n fun h => { h with phase := p }).map (fun h => (h.run, h.reply)) =
      s.hangs.map fun h => (h.run, h.reply) := by
    refine List.ext_getElem? fun k => ?_
    simp only [List.getElem?_map, List.getElem?_modify]
    split <;> simp [Function.comp_def]
  unfold outlook setHang
  simp only [same]

/-- Letting it go does not either. -/
@[simp]
theorem outlook_release (n : Nat) (s : Service) : (s.release n).1.outlook = s.outlook := by
  unfold release
  split
  · split
    · exact (outlook_of_onRecord (onRecord_schedule ..)).trans (outlook_setHang ..)
    · rfl
  · rfl

/-- What the outside is told. -/
theorem outlook_told (n : Notice) (s : Service) :
    ((s.note n).emit n).pause.2.outlook = { s.outlook with notices := n :: s.notices } := by
  cases n with
  | notify level message => cases level <;> rfl
  | _ => rfl

/-- A command that hangs is one more. -/
theorem outlook_hold (i : Nat) (a : Assignment) (stage : Stage) (reply : Reply) (s : Service) :
    (s.hold i a stage reply).outlook = { s.outlook with hanging := s.outlook.hanging ++ [(i, reply)] } := by
  simp [hold, outlook, setPhase, modifyRun]

/-! ## What is ahead of a run -/

/-- All commands of a run for `a` have come to something, and what it has told since `before` publishes, with what it
has left to tell, what its ending leads to. -/
structure Tells (a : Assignment) (e : Ending) (before left : List Notice) (o : Outlook) : Prop where
  publishes : ∃ told, o.notices = told ++ before ∧ published (told.reverse ++ left) = published (tidings a e.1)
  rest : o.rehearsal = e.2

variable {o : Outlook}

/-- A notice that is told is left no more. -/
theorem Tells.tell {n : Notice} (h : Tells a e before (n :: left) o) :
    Tells a e before left { o with notices := n :: o.notices } := by
  obtain ⟨told, hn, hp⟩ := h.publishes
  exact ⟨⟨n :: told, by simp [hn], by simpa using hp⟩, h.rest⟩

/-- A notice that publishes nothing may be passed over. -/
theorem Tells.skip {n : Notice} (h : Tells a e before (n :: left) o) (hn : n.isPublish = false) :
    Tells a e before left o := by
  obtain ⟨told, hs, hp⟩ := h.publishes
  exact ⟨⟨told, hs, by simpa [published, hn] using hp⟩, h.rest⟩

/-- Whoever has nothing left to tell has published what the command line shows, and that once at most. -/
theorem Tells.shown (h : Tells a e before [] o) :
    ∃ told, o.notices = told ++ before ∧
      published told =
        ((Cli.LintVerdict.ofResult a.target a.severities e.1).diagnostics?.map
          (Notice.publish a.target.document.uri)).toList := by
  obtain ⟨told, hn, hp⟩ := h.publishes
  refine ⟨told, hn, ?_⟩
  rw [List.append_nil, published_tidings, published, List.filter_reverse, List.reverse_eq_iff] at hp
  rw [published, hp]
  cases (Cli.LintVerdict.ofResult a.target a.severities e.1).diagnostics? <;> rfl

/-- Where the run `i` for `a` stands on the way to its ending `e`, where `before` had been told when it was queued. -/
inductive Ahead (env : Surroundings) (i : Nat) (a : Assignment) (e : Ending) (before : List Notice) (o : Outlook) :
    Run → Prop
  /-- It waits in the queue. -/
  | waits (hn : o.notices = before) (h : a.ending env (a.linter.start env.tree a.target) o.rehearsal = e) :
      Ahead env i a e before o ⟨⟨a.target.document.uri, .pending, some a, none, true, false⟩, .unstarted, false⟩
  /-- Its job has not done anything yet. -/
  | ready (hn : o.notices = before) (h : a.ending env (a.linter.start env.tree a.target) o.rehearsal = e) :
      Ahead env i a e before o (.working a (.ready a))
  /-- It waits for a command that hangs. -/
  | calling {stage : Stage} {n : Nat} {reply : Reply} (hn : o.notices = before) (hh : o.hanging[n]? = some (i, reply))
      (h : a.endingAfter env stage reply o.rehearsal = e) : Ahead env i a e before o (.working a (.calling a stage n))
  /-- It waits for the outside. -/
  | telling {left : List Notice} (h : Tells a e before left o) : Ahead env i a e before o (.working a (.telling a left))
  /-- Its job has come to its end. -/
  | ended (h : Tells a e before [] o) :
      Ahead env i a e before o ⟨⟨a.target.document.uri, .finished, none, none, true, true⟩, .over, false⟩

/-- A run that has its turn starts if it waited, and is left alone otherwise. -/
theorem Ahead.start (h : Ahead env i a e before o r) : Ahead env i a e before o r.start := by
  cases h with
  | waits hn h => exact .ready hn h
  | ready hn h => exact .ready hn h
  | calling hn hh h => exact .calling hn hh h
  | telling h => exact .telling h
  | ended h => exact .ended h

/-- A run that is done has nothing left to tell. -/
theorem Ahead.tells (h : Ahead env i a e before o r) (done : r.isOver = true) : Tells a e before [] o := by
  cases h with
  | ended h => exact h
  | waits | ready | calling | telling => cases done

/-- Work on the run `i` that leaves it on its way. -/
def Advances (env : Surroundings) (i : Nat) (a : Assignment) (e : Ending) (before : List Notice) (s s' : Service) :
    Prop :=
  ∃ told r', Alters i r' told s s' ∧ Ahead env i a e before s'.outlook r'

/-- Work that tells nothing can be done before a run advances. -/
theorem Advances.of_alters {told : List Notice} (h : Alters i r told s s₁) (h' : Advances env i a e before s₁ s') :
    Advances env i a e before s s' := by
  obtain ⟨told', r', alters, ahead⟩ := h'
  exact ⟨_, r', h.trans alters, ahead⟩

section

variable {phase : RunPhase} {stage : Stage} {reply : Reply}

/-- A run that has told all it had to tell is concluded. -/
theorem advances_conclude (hi : s.runs[i]? = some (.working a phase)) (h : Tells a e before [] s.outlook) :
    Advances env i a e before s (s.conclude i) :=
  ⟨[], _, alters_conclude hi, .ended (by rwa [outlook_conclude])⟩

/-- A run that has something left tells it. -/
theorem advances_tell (hi : s.runs[i]? = some (.working a phase)) (h : Tells a e before left s.outlook) :
    Advances env i a e before s (s.tell i a left) := by
  induction left generalizing s with
  | nil => exact advances_conclude hi h
  | cons n left ih =>
    unfold tell
    by_cases hr : s.repeats n = true
    · have warning : n.isPublish = false := by
        cases n <;> simp_all [repeats, Notice.isPublish]
      rw [if_pos hr]
      exact ih hi (h.skip warning)
    rw [if_neg hr]
    have first : Alters i (.working a phase) [n] s ((s.note n).emit n).pause.2 :=
      .same (keeps_told n s) hi (runs_told n s) (notices_told n s)
    have rest : Tells a e before left ((s.note n).emit n).pause.2.outlook := by
      rw [outlook_told]
      exact h.tell
    by_cases hw : ((s.note n).emit n).pause.1 = true
    · simp only [hw, if_true]
      exact .of_alters first ⟨[], _, alters_setPhase _ (first.at hi), .telling (by rwa [outlook_setPhase])⟩
    · simp only [hw]
      exact .of_alters first (ih (first.at hi) rest)

/-- The next command of a run is the one that the run in one go starts. -/
theorem ending_issue (env : Surroundings) (a : Assignment) (stage : Stage) (s : Service) :
    a.ending env stage s.outlook.rehearsal =
      a.endingAfter env stage (s.issue env (a.linter.command env.tree a.target stage)).1
        (s.issue env (a.linter.command env.tree a.target stage)).2.outlook.rehearsal :=
  a.ending_eq env stage s.script s.calls

/-- A run whose command has come to something goes on the way of the run in one go. -/
theorem advances_receive (hi : s.runs[i]? = some (.working a phase)) (hn : s.notices = before)
    (h : a.endingAfter env stage reply s.outlook.rehearsal = e) :
    Advances env i a e before s (s.receive env i a stage reply) := by
  fun_induction receive env i a stage reply s with
  | case1 stage s reply =>
    have hung : (s.hold i a stage reply).outlook.hanging[s.hangs.length]? = some (i, reply) := by
      rw [outlook_hold]
      simp [outlook]
    refine ⟨[], _, alters_hold stage reply hi, .calling ?_ hung ?_⟩
    · rw [outlook_hold]
      exact hn
    · rw [outlook_hold]
      exact h
  | case2 stage s =>
    rw [Assignment.endingAfter_crash] at h
    subst h
    exact advances_conclude hi ⟨⟨[], hn, rfl⟩, rfl⟩
  | case3 stage s reply hang crash none => cases reply <;> simp_all [Reply.result?]
  | case4 stage s reply _ _ c hc result ended =>
    rw [Assignment.endingAfter_ended hc ended] at h
    subst h
    rw [deliver_eq hi (by simp [Run.working])]
    exact advances_tell hi ⟨⟨[], hn, rfl⟩, rfl⟩
  | case5 stage s reply _ _ c hc next waiting reply' s' hs ih =>
    rw [Assignment.endingAfter_waiting hc waiting, ending_issue, hs] at h
    have issued : Alters i (.working a phase) [] s s' := by
      have issued := alters_issue env (a.linter.command env.tree a.target next) hi
      rwa [hs] at issued
    exact .of_alters issued (ih (issued.at hi) (issued.notices.trans hn) h)

end

/-- The job of a run goes on the way of the run in one go. -/
theorem advances_lint (hi : s.runs[i]? = some r) (h : Ahead env i a e before s.outlook r) :
    Advances env i a e before s (s.lint env i) := by
  have idle (h : Ahead env i a e before s.outlook r) : Advances env i a e before s s :=
    ⟨[], r, .same (.refl s) hi rfl rfl, h⟩
  unfold lint
  rw [hi]
  cases h with
  | waits hn h => exact idle (.waits hn h)
  | ready hn h =>
    rw [ending_issue] at h
    have issued := alters_issue env (a.linter.command env.tree a.target (a.linter.start env.tree a.target)) hi
    exact .of_alters issued (advances_receive (issued.at hi) (issued.notices.trans hn) h)
  | @calling stage n reply hn hh h =>
    obtain ⟨hang, hg, same⟩ : ∃ hang, s.hangs[n]? = some hang ∧ (hang.run, hang.reply) = (i, reply) := by
      simpa [outlook] using hh
    have replies : hang.reply = reply := (Prod.mk.inj same).2
    simp only [Run.working, hg]
    by_cases hl : hang.phase = .released
    · simp only [hl, if_true]
      have gone : Alters i (.working a (.calling a stage n)) [] s (s.setHang n .gone) :=
        .same (keeps_with ..) hi rfl rfl
      exact .of_alters gone (advances_receive hi hn (by rwa [outlook_setHang, replies]))
    · simp only [hl, if_false]
      exact idle (.calling hn hh h)
  | telling h => exact advances_tell hi h
  | ended h => exact idle (.ended h)

/-! ## The other runs -/

/-- The run `i` is on its way to its ending, and nothing is left to do for any other run. -/
structure OnTheWay (env : Surroundings) (i : Nat) (a : Assignment) (e : Ending) (before : List Notice) (s : Service) :
    Prop where
  own : ∃ r, s.runs[i]? = some r ∧ Ahead env i a e before s.outlook r
  others : ∀ (k : Nat) (r : Run), k ≠ i → s.runs[k]? = some r → r.Rests

/-- A run that rests does nothing in its job. -/
theorem lint_of_rests (hk : s.runs[k]? = some r) (h : r.Rests) : s.lint env k = s := by
  unfold lint
  rw [hk]
  by_cases aborted : r.aborted = true
  · rcases h.phase with phase | phase <;> simp [aborted, tearDown, phase]
  · rcases h.phase with phase | phase <;> simp [aborted, phase]

namespace OnTheWay

/-- A run is on its way as long as it and what the service knows stay the same. -/
theorem congr (h : OnTheWay env i a e before s) (hr : s'.runs = s.runs) (ho : s'.outlook = s.outlook) :
    OnTheWay env i a e before s' :=
  ⟨by rw [hr, ho]; exact h.own, by rw [hr]; exact h.others⟩

/-- A job of a run brings the run `i` on, or does nothing. -/
theorem lint (h : OnTheWay env i a e before s) (k : Nat) : OnTheWay env i a e before (s.lint env k) := by
  by_cases hk : k = i
  · subst hk
    obtain ⟨r, hi, ahead⟩ := h.own
    obtain ⟨told, r', alters, ahead'⟩ := advances_lint hi ahead
    refine ⟨⟨r', alters.at hi, ahead'⟩, fun k' r hne hk' => h.others k' r hne ?_⟩
    rwa [alters.runs, List.getElem?_set_ne (Ne.symm hne)] at hk'
  · rcases hr : s.runs[k]? with _ | r
    · rwa [lint_of_none hr]
    · rwa [lint_of_rests hr (h.others k r hk hr)]

/-- A turn starts the run `i`, or no run. -/
theorem takeTurn (h : OnTheWay env i a e before s) (k : Nat) : OnTheWay env i a e before (s.takeTurn k) := by
  rcases hr : s.runs[k]? with _ | r
  · rwa [takeTurn_of_none hr]
  have runs := runs_takeTurn hr
  by_cases hk : k = i
  · subst hk
    obtain ⟨r', hi, ahead⟩ := h.own
    cases hr.symm.trans hi
    refine ⟨⟨r.start, ?_, by simpa using ahead.start⟩, fun k' r hne hk' => h.others k' r hne ?_⟩
    · rw [runs, List.getElem?_set_self (List.getElem?_eq_some_iff.mp hi).1]
    · rwa [runs, List.getElem?_set_ne (Ne.symm hne)] at hk'
  · refine h.congr ?_ (outlook_takeTurn ..)
    obtain ⟨lt, rfl⟩ := List.getElem?_eq_some_iff.mp hr
    rw [runs, Run.start_of_isOver (h.others k _ hk hr).isOver, List.set_getElem_self]

/-- Whatever the service does while nobody disturbs it, the run stays on its way. -/
theorem unhindered (h : OnTheWay env i a e before s₀) (hu : Unhindered env s₀ s) : OnTheWay env i a e before s := by
  induction hu with
  | start => exact h
  | @work s j _ hj ih =>
    have without : OnTheWay env i a e before (s.without j) := ih.congr rfl rfl
    cases j with
    | drain => exact without.congr (fields_drain _).1 (outlook_of_onRecord (onRecord_drain _))
    | turn k => exact without.takeTurn k
    | lint k => exact without.lint k
  | @release s n _ ih => exact ih.congr (keeps_release n s).2.1 (outlook_release n s)
  | @accept s k _ ih => exact ih.congr (keeps_accept k s).2.1 (outlook_of_onRecord (onRecord_accept k s))

end OnTheWay

/-! ## Handing in a document -/

/-- The service has nothing to do: the loop has ended, and no run has a job at work. -/
structure Idle (s : Service) : Prop where
  busy : s.busy = false
  runs : ∀ r ∈ s.runs, r.phase = .unstarted ∨ r.phase = .over

variable {c : Config} {script : List Reply} {delays : List Bool} {es : List Event} {d : Document} {target : LintTarget}

/-- A service that has nothing to do has done with all runs. -/
theorem Idle.rests (idle : s.Idle) (h : History c script delays es s) (hk : s.runs[k]? = some r) : r.Rests where
  isOver := by
    refine (Bool.eq_false_or_eq_true r.isOver).elim id fun live => ?_
    have queued := h.queues.waits k r hk live
    rw [(h.queues.idle idle.busy).1] at queued
    cases queued
  phase := idle.runs r (List.mem_of_getElem? hk)

/-- A document that is handed in where there is nothing to do is linted as in one go. -/
theorem onTheWay_execute (h : History c script delays es s) (idle : s.Idle) (ht : s.target? env d = some target)
    (ha : s.assignment env target = a) :
    OnTheWay env s.runs.length a (a.ending env (a.linter.start env.tree a.target) s.outlook.rehearsal) s.notices
      (s.execute env d).1 := by
  have queued := h.sound.enqueues a d.uri
  have runs : (s.track d.uri).runs = s.runs := by rw [track_eq]
  have added := queued.added
  have length := queued.length
  have others := queued.others
  rw [runs] at added length others
  rw [execute_eq ht, ha]
  refine ⟨⟨_, added, .waits ?_ ?_⟩, fun k r hne hk => ?_⟩
  · rw [outlook_of_onRecord ((onRecord_enqueue ..).trans (onRecord_track ..))]
    rfl
  · rw [outlook_of_onRecord ((onRecord_enqueue ..).trans (onRecord_track ..))]
  · have lt : k < s.runs.length := by
      have lt : k < ((s.track d.uri).enqueue a).runs.length := (List.getElem?_eq_some_iff.mp hk).1
      omega
    have old := List.getElem?_eq_getElem lt
    have rests := idle.rests h old
    have same := others k _ old
    rw [Run.cancel_of_isOver rests.isOver, ite_self] at same
    cases hk.symm.trans same
    exact rests

/-- A document that was handed in where there was nothing to do, and whose run is done, was linted as in one go. -/
theorem ends_as_in_one_go (h : History c script delays es s) (idle : s.Idle) (ht : s.target? env d = some target)
    (ha : s.assignment env target = a) (he : a.ending env (a.linter.start env.tree a.target) s.outlook.rehearsal = e)
    (hu : Unhindered env (s.execute env d).1 s') (hi : s'.runs[s.runs.length]? = some r) (done : r.isOver = true) :
    Tells a e s.notices [] s'.outlook := by
  subst he
  obtain ⟨r', hi', ahead⟩ := ((onTheWay_execute h idle ht ha).unhindered hu).own
  cases hi.symm.trans hi'
  exact ahead.tells done

end Service

end ElixirLint
