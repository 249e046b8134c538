import Mathlib.Data.List.Induction
import Mathlib.Data.List.Nodup
import ElixirLint.Proofs.Service.Queueing
import ElixirLint.Proofs.Service.Record

/-!
# What runs say

A run whose linter is done has its tidings to tell. It tells them in order, passes over the warnings that have been
shown, and may wait for the outside on the way; what it has left then (`Run.left`) it tells when it goes on, unless it
is canceled. Either way what is known to have been shown is in the end what all of the tidings amount to (`heed`),
however often the run has waited. Only the run that has its turn has anything to tell.

Main results: `voices_tell`, `speaks_lint`, `History.serial`.
-/

namespace ElixirLint

/-- The text of a warning. -/
def Notice.warning? : Notice → Option String
  | .notify .warning message => some message
  | _ => none

/-- The texts of the warnings among some notices. -/
def Notice.warnings (ns : List Notice) : List String := ns.filterMap Notice.warning?

@[simp]
theorem Notice.warnings_append (ns ns' : List Notice) : warnings (ns ++ ns') = warnings ns ++ warnings ns' :=
  List.filterMap_append

@[simp]
theorem Notice.warnings_map_notify (ws : List String) : warnings (ws.map (.notify .warning)) = ws := by
  simp [warnings, List.filterMap_map, Function.comp_def, warning?]

/-- The warnings of a run are those of its report; if it fails it has none. -/
theorem Notice.warnings_tidings (a : Assignment) (result : Except LintError LintReport) :
    warnings (Service.tidings a result) = result.toOption.elim [] (·.warnings) := by
  cases result with
  | error e =>
    simp only [Service.tidings]
    split <;> rfl
  | ok report =>
    rw [Service.tidings, warnings_append, warnings_map_notify]
    exact List.append_nil _

/-- What the linter comes to that waits at a stage, if these are the results that it still needs. -/
def Linter.outcomeFrom (l : Linter) (t : FileTree) (target : LintTarget) (stage : Stage) :
    List CommandResult → Option (Except LintError LintReport)
  | [] => none
  | c :: cs =>
    match l.resume t target stage c with
    | .ended result => some result
    | .waiting next => l.outcomeFrom t target next cs

/-- Whether the linter of a run is done. -/
def RunPhase.isSpent : RunPhase → Bool
  | .telling _ _ | .over => true
  | _ => false

/-- What a run has left to tell that nobody has canceled. -/
def Run.left (r : Run) : List Notice :=
  match r.phase with
  | .telling _ left => if r.task.state = .running then left else []
  | _ => []

namespace Run

variable {r : Run}

/-- A run that is not running has nothing left to tell. -/
theorem left_of_not_running (h : r.task.state ≠ .running) : r.left = [] := by
  unfold left
  split
  · exact if_neg h
  · rfl

/-- A run whose linter is not done has nothing to tell yet. -/
theorem left_of_not_spent (h : r.phase.isSpent = false) : r.left = [] := by
  unfold left
  split
  · rename_i telling
    rw [telling] at h
    cases h
  · rfl

/-- A run that is done has nothing left to tell. -/
theorem left_of_isOver (h : r.isOver = true) : r.left = [] := by
  refine left_of_not_running fun running => ?_
  rw [isOver, running] at h
  cases h

end Run

namespace Service

variable {s s' s₁ : Service} {i k : Nat} {r r' : Run} {a : Assignment} {rs : List CommandResult} {p : Nat}
  {told left due : List Notice} {n : Notice} {env : Surroundings}
  {d : Deed} {j : ServiceJob}

/-! ## Warnings that have been shown -/

/-- The warnings that have been shown when it was the turn of `w`. -/
def remember (seen : List String) (w : String) : List String := if w ∈ seen then seen else seen ++ [w]

/-- The warnings that have been shown when all of these notices are told. -/
def heed (seen : List String) (ns : List Notice) : List String := (Notice.warnings ns).foldl remember seen

@[simp]
theorem heed_nil (seen : List String) : heed seen [] = seen := rfl

/-- What is told later is added later. -/
@[simp]
theorem heed_append (seen : List String) (ns ns' : List Notice) : heed seen (ns ++ ns') = heed (heed seen ns) ns' := by
  simp [heed]

/-- What has been shown are the different warnings that there were, in order of their first occurrences. -/
theorem foldl_remember (ws : List String) : ws.foldl remember [] = ws.eraseDups := by
  induction ws using List.reverseRecOn with
  | nil => rfl
  | append_singleton ws w ih =>
    rw [List.foldl_append, ih, List.eraseDups_append]
    by_cases h : w ∈ ws <;> simp [remember, List.removeAll, List.eraseDups_cons, h]

/-- No warning is remembered twice. -/
theorem nodup_foldl_remember {seen : List String} (h : seen.Nodup) (ws : List String) :
    (ws.foldl remember seen).Nodup := by
  induction ws generalizing seen with
  | nil => exact h
  | cons w ws ih =>
    refine ih ?_
    unfold remember
    split
    · exact h
    · rename_i new
      rw [List.nodup_append]
      refine ⟨h, List.nodup_singleton w, fun v hv w' hw same => new ?_⟩
      rwa [← List.mem_singleton.mp hw, ← same]

/-- A warning that was shown is not remembered again. -/
theorem heed_of_repeats (h : s.repeats n = true) : heed s.notified [n] = s.notified := by
  cases n with
  | notify level message =>
    cases level with
    | warning =>
      have shown : message ∈ s.notified := by simpa [repeats] using h
      exact if_pos shown
    | error | info => rfl
  | publish | clear => rfl

/-- What a notice is shown as when it is told. -/
theorem notified_told (n : Notice) (s : Service) :
    ((s.note n).emit n).pause.2.notified = s.notified ++ Notice.warnings [n] := by
  cases n with
  | notify level message =>
    cases level with
    | warning => rfl
    | error | info => exact (List.append_nil _).symm
  | publish | clear => exact (List.append_nil _).symm

/-- Any other notice is remembered as telling it does. -/
theorem heed_of_new (h : s.repeats n ≠ true) : heed s.notified [n] = ((s.note n).emit n).pause.2.notified := by
  rw [notified_told]
  cases n with
  | notify level message =>
    cases level with
    | warning =>
      have new : message ∉ s.notified := by simpa [repeats] using h
      exact if_neg new
    | error | info => exact (List.append_nil _).symm
  | publish | clear => exact (List.append_nil _).symm

/-! ## Telling -/

/-- The run `i`, with `due` to tell, leaves off as `r'`: it has told all of it in order, except for warnings that had
been shown and for what it has left. -/
structure Voices (i : Nat) (due : List Notice) (r' : Run) (told : List Notice) (s s' : Service) : Prop
    extends Alters i r' told s s' where
  order : (told.reverse ++ r'.left).Sublist due
  notified : s'.notified = s.notified ++ Notice.warnings told.reverse
  heeded : heed s'.notified r'.left = heed s.notified due
  delays : s'.delays <:+ s.delays

/-- A run that has told nothing has all left. -/
theorem Voices.of_alters (h : Alters i r' [] s s') (hushed : Hushed s s') : Voices i r'.left r' [] s s' where
  toAlters := h
  order := .refl _
  notified := by simp [hushed.notified, Notice.warnings]
  heeded := by rw [hushed.notified]
  delays := hushed.delays ▸ List.suffix_refl _

/-- Work that nothing is heard of may come first. -/
theorem Voices.after (h : Alters i r [] s s₁) (hushed : Hushed s s₁) (h' : Voices i due r' told s₁ s') :
    Voices i due r' told s s' where
  toAlters := by simpa using h.trans h'.toAlters
  order := h'.order
  notified := hushed.notified ▸ h'.notified
  heeded := hushed.notified ▸ h'.heeded
  delays := hushed.delays ▸ h'.delays

/-- A run that is concluded has nothing to tell. -/
theorem voices_conclude (hi : s.runs[i]? = some r) : Voices i [] r.finish [] s (s.conclude i) := by
  have ended := Voices.of_alters (alters_conclude hi) (.of_onRecord (onRecord_conclude i s))
  rwa [Run.left_of_isOver r.isOver_finish] at ended

/-- A run tells what it has to tell, until it waits or is over. -/
theorem voices_tell (hi : s.runs[i]? = some r) (hr : r.task.state = .running) (a : Assignment) (due : List Notice) :
    ∃ told r', Voices i due r' told s (s.tell i a due) ∧ r'.phase.isSpent = true ∧
      (r'.left ≠ [] → true ∈ s.delays) := by
  induction due generalizing s with
  | nil => exact ⟨[], r.finish, voices_conclude hi, rfl, fun left => absurd (Run.left_of_isOver r.isOver_finish) left⟩
  | cons n due ih =>
    have split : heed s.notified (n :: due) = heed (heed s.notified [n]) due := heed_append s.notified [n] due
    unfold tell
    by_cases hn : s.repeats n = true
    · rw [if_pos hn]
      obtain ⟨told, r', voiced, rest⟩ := ih hi
      rw [heed_of_repeats hn] at split
      exact ⟨told, r', { voiced with order := voiced.order.cons n, heeded := voiced.heeded.trans split.symm }, rest⟩
    rw [if_neg hn]
    rw [heed_of_new hn] at split
    have first : Alters i r [n] s ((s.note n).emit n).pause.2 :=
      .same (keeps_told n s) hi (runs_told n s) (notices_told n s)
    have shown := notified_told n s
    have later : ((s.note n).emit n).pause.2.delays <:+ s.delays := delays_told n s ▸ List.tail_suffix _
    by_cases hw : ((s.note n).emit n).pause.1 = true
    · simp only [hw, if_true]
      have left : Run.left { r with phase := .telling a due } = due := if_pos hr
      refine ⟨[n], { r with phase := .telling a due }, ?_, rfl, fun _ => mem_delays_of_pause hw⟩
      refine ⟨first.trans (alters_setPhase _ (first.at hi)), ?_, shown, ?_, later⟩
      · rw [left]
        exact .refl _
      · rw [left, split]
        rfl
    · simp only [hw]
      obtain ⟨told, r', voiced, spent, waits⟩ := ih (first.at hi)
      refine ⟨told ++ [n], r', ⟨first.trans voiced.toAlters, ?_, ?_, voiced.heeded.trans split.symm,
        voiced.delays.trans later⟩, spent, fun left => later.subset (waits left)⟩
      · simpa using voiced.order.cons_cons n
      · change (((s.note n).emit n).pause.2.tell i a due).notified = _
        rw [voiced.notified, shown, List.append_assoc, ← Notice.warnings_append, List.reverse_append]
        rfl

/-- A run that is not canceled goes on with its commands. When its linter is done it has its tidings to tell. -/
theorem voices_receive {stage : Stage} {reply : Reply} (hi : s.runs[i]? = some r) (hr : r.task.state = .running) :
    let outcome := a.linter.outcomeFrom env.tree a.target stage (heardFrom env a stage reply s.script)
    ∃ told r', Voices i (outcome.elim [] (tidings a)) r' told s (s.receive env i a stage reply) ∧
      (outcome.isSome = true → r'.phase.isSpent = true) ∧ (r'.left ≠ [] → true ∈ s.delays) := by
  fun_induction receive env i a stage reply s with
  | case1 stage s reply =>
    rw [heardFrom]
    refine ⟨[], _, .of_alters (alters_hold stage reply hi) ⟨rfl, rfl⟩, fun ended => ?_, fun left => absurd rfl left⟩
    exact absurd ended Bool.false_ne_true
  | case2 stage s =>
    rw [heardFrom]
    refine ⟨[], _, voices_conclude hi, fun ended => ?_, fun left => absurd (Run.left_of_isOver r.isOver_finish) left⟩
    exact absurd ended Bool.false_ne_true
  | case3 stage s reply hang crash hn => cases reply <;> simp_all [Reply.result?]
  | case4 stage s reply _ _ c hc result ended =>
    have uncanceled : r.task.state ≠ .canceled := by simp [hr]
    obtain ⟨told, r', voiced, spent, waits⟩ := voices_tell hi hr a (tidings a result)
    rw [deliver_eq hi uncanceled, heardFrom_ended hc ended]
    simp only [Linter.outcomeFrom, ended]
    exact ⟨told, r', voiced, fun _ => spent, waits⟩
  | case5 stage s reply _ _ c hc next waiting reply' s' hs ih =>
    have issued : Alters i r [] s s' ∧ Hushed s s' := by
      have issued := alters_issue env (a.linter.command env.tree a.target next) hi
      rw [hs] at issued
      exact ⟨issued, by cases hs; exact ⟨rfl, rfl⟩⟩
    have heard : heardFrom env a stage reply s.script = c :: heardFrom env a next reply' s'.script := by
      rw [heardFrom_waiting hc waiting]
      simp only [issue] at hs
      cases hs
      rfl
    obtain ⟨told, r', voiced, spent, waits⟩ := ih (issued.1.at hi)
    rw [heard]
    simp only [Linter.outcomeFrom, waiting]
    exact ⟨told, r', voiced.after issued.1 issued.2, spent, fun left => issued.2.delays ▸ waits left⟩

/-! ## The jobs of runs -/

/-- What the linter of a run comes to in a job, if it is done then and nobody has canceled the run. -/
def outcome? (env : Surroundings) (j : ServiceJob) (s : Service) : Option (Assignment × Except LintError LintReport) :=
  match j with
  | .lint i =>
    match s.runs[i]? with
    | some r =>
      if r.task.state = .running then
        match r.phase with
        | .ready a =>
          let stage := a.linter.start env.tree a.target
          (a.linter.outcomeFrom env.tree a.target stage (heard env j s)).map (a, ·)
        | .calling a stage _ => (a.linter.outcomeFrom env.tree a.target stage (heard env j s)).map (a, ·)
        | _ => none
      else none
    | none => none
  | _ => none

/-- What a run has to tell when its linter is done in a job. -/
def news (env : Surroundings) (j : ServiceJob) (s : Service) : List Notice :=
  (outcome? env j s).elim [] fun (a, result) => tidings a result

/-- The report with which a linter is done in a job. -/
def report? (env : Surroundings) (j : ServiceJob) (s : Service) : Option LintReport :=
  (outcome? env j s).bind fun (_, result) => result.toOption

/-- The warnings in the news of a run are those of its report. -/
theorem warnings_news (env : Surroundings) (j : ServiceJob) (s : Service) :
    Notice.warnings (news env j s) = (report? env j s).elim [] (·.warnings) := by
  unfold news report?
  rcases outcome? env j s with _ | ⟨a, result⟩
  · rfl
  · exact Notice.warnings_tidings a result

/-- A run whose linter is done comes to nothing more. -/
theorem outcome?_of_spent (hi : s.runs[i]? = some r) (h : r.phase.isSpent = true) :
    outcome? env (.lint i) s = none := by
  obtain ⟨task, phase, aborted⟩ := r
  cases phase <;> simp_all [outcome?, RunPhase.isSpent]

/-- Only a run that is running has an outcome. -/
theorem outcome?_of_not_running (hi : s.runs[i]? = some r) (h : r.task.state ≠ .running) :
    outcome? env (.lint i) s = none := by
  simp [outcome?, hi, h]

theorem news_of_none (h : outcome? env j s = none) : news env j s = [] := by rw [news, h]; rfl

/-- What the job of the run `i` does to that run: it tells what the run has left and its news. It does not start the
run; when the linter is done, it stays so; and something is left only where the outside takes its time. -/
structure Speaks (env : Surroundings) (i : Nat) (r r' : Run) (told : List Notice) (s s' : Service) : Prop
    extends Voices i (r.left ++ news env (.lint i) s) r' told s s' where
  started : r'.task.state = .running → r.task.state = .running
  spent : r.phase.isSpent = true ∨ (outcome? env (.lint i) s).isSome = true → r'.phase.isSpent = true
  waits : r.left = [] → r'.left ≠ [] → true ∈ s.delays

/-- A job that does nothing and has no outcome leaves the run as it is. -/
theorem Speaks.idle (hi : s.runs[i]? = some r) (h : outcome? env (.lint i) s = none) : Speaks env i r r [] s s where
  toVoices := by
    rw [news_of_none h, List.append_nil]
    exact .of_alters (.same (.refl s) hi rfl rfl) ⟨rfl, rfl⟩
  started := id
  spent := by simp [h]
  waits none left := absurd none left

/-- A run that is torn down tells nothing. -/
theorem speaks_tearDown (hi : s.runs[i]? = some r) (h : Run.Stands a rs p r) (ha : r.aborted = true) :
    ∃ r', Speaks env i r r' [] s (s.tearDown i r) := by
  have ended {s₁ : Service} (halted : r.task.state = .canceled) (hs : Alters i r [] s s₁) (hushed : Hushed s s₁) :
      ∃ r', Speaks env i r r' [] s (s₁.conclude i) := by
    have none : outcome? env (.lint i) s = none := outcome?_of_not_running hi (by simp [halted])
    have left : r.left = [] := Run.left_of_not_running (by simp [halted])
    have stopped : r.finish.task.state ≠ .running := by simp [Run.finish, Task.complete, halted, TaskState.isTerminal]
    refine ⟨r.finish, ?_, fun running => absurd running stopped, fun _ => rfl, fun _ owed => ?_⟩
    · rw [news_of_none none, left]
      exact (voices_conclude (hs.at hi)).after hs hushed
    · exact absurd (Run.left_of_isOver r.isOver_finish) owed
  cases h with
  | waits | works | finished => cases ha
  | halts h =>
    cases h with
    | ready | telling => exact ended rfl (.same (.refl s) hi rfl rfl) ⟨rfl, rfl⟩
    | calling => exact ended rfl (.same (keeps_with ..) hi rfl rfl) ⟨rfl, rfl⟩
  | canceled hp hphase =>
    rcases hphase with rfl | rfl <;> exact ⟨_, .idle hi (outcome?_of_not_running hi (by simp))⟩

/-- The job of a run whose command has come to something goes on from there. -/
theorem speaks_receive {stage : Stage} {reply : Reply} (hi : s.runs[i]? = some r) (hr : r.task.state = .running)
    (hp : r.phase.isSpent = false) (hs : Alters i r [] s s₁) (hushed : Hushed s s₁)
    (ho : outcome? env (.lint i) s =
      (a.linter.outcomeFrom env.tree a.target stage (heardFrom env a stage reply s₁.script)).map (a, ·)) :
    ∃ told r', Speaks env i r r' told s (s₁.receive env i a stage reply) := by
  obtain ⟨told, r', voiced, spent, waits⟩ := voices_receive (hs.at hi) hr
  refine ⟨told, r', ?_, fun _ => hr, ?_, fun _ left => hushed.delays ▸ waits left⟩
  · rw [Run.left_of_not_spent hp, news, ho, Option.elim_map, List.nil_append]
    exact voiced.after hs hushed
  · simpa [hp, ho] using spent

/-- The job of a run goes on, or is torn down. -/
theorem speaks_lint (env : Surroundings) (hi : s.runs[i]? = some r) (h : Run.Stands a rs p r) :
    ∃ told r', Speaks env i r r' told s (s.lint env i) := by
  have idle (h : outcome? env (.lint i) s = none) : ∃ told r', Speaks env i r r' told s s := ⟨[], r, .idle hi h⟩
  unfold lint
  rw [hi]
  by_cases ha : r.aborted = true
  · simp only [ha, if_true]
    exact ⟨[], speaks_tearDown hi h ha⟩
  simp only [ha]
  cases h with
  | waits hr hp => exact idle (outcome?_of_not_running hi (by simp))
  | halts => simp at ha
  | finished hp => exact idle (outcome?_of_not_running hi (by simp))
  | canceled hp hphase =>
    rcases hphase with rfl | rfl <;> exact idle (outcome?_of_not_running hi (by simp))
  | works h =>
    cases h with
    | ready => exact speaks_receive hi rfl rfl (alters_issue env _ hi) ⟨rfl, rfl⟩ (by simp [outcome?, heard, hi]; rfl)
    | @calling stage n hr hp =>
      simp only
      rcases hn : s.hangs[n]? with _ | hang
      · exact idle (by simp [outcome?, heard, hi, hn, Linter.outcomeFrom])
      · by_cases hl : hang.phase = .released
        · simp only [hl, if_true]
          exact speaks_receive hi rfl rfl (.same (keeps_with ..) hi rfl rfl) ⟨rfl, rfl⟩
            (by simp [outcome?, heard, hi, hn, hl]; rfl)
        · simp only [hl, if_false]
          exact idle (by simp [outcome?, heard, hi, hn, hl, Linter.outcomeFrom])
    | @telling left owes =>
      obtain ⟨told, r', voiced, spent, waits⟩ := voices_tell hi rfl a left
      refine ⟨told, r', ?_, fun _ => rfl, fun _ => spent, fun _ => waits⟩
      rw [news_of_none (outcome?_of_spent hi rfl), List.append_nil]
      exact voiced

/-- Where the notices stay, nothing is told. -/
theorem told_eq_nil (ht : s'.notices = told ++ s.notices) (same : s'.notices = s.notices) : told = [] :=
  List.append_cancel_right (ht.symm.trans (same.trans (List.nil_append _).symm))

/-- A job without a run does nothing. -/
theorem runJob_lint_of_none (hi : s.runs[i]? = none) :
    (s.without (.lint i)).runJob env (.lint i) = s.without (.lint i) :=
  lint_of_none (s := s.without (.lint i)) hi

/-- What is told when the job of a run is done is what the run tells. -/
theorem Sound.speaks (hs : Sound s) (env : Surroundings) (hi : s.runs[i]? = some r)
    (ht : ((s.without (.lint i)).runJob env (.lint i)).notices = told ++ s.notices) :
    ∃ r', Speaks env i r r' told (s.without (.lint i)) ((s.without (.lint i)).runJob env (.lint i)) := by
  obtain ⟨a, rs, p, stands⟩ := hs.stands i r hi
  obtain ⟨told', r', speaks⟩ := speaks_lint env (s := s.without (.lint i)) hi stands
  obtain rfl : told' = told := List.append_cancel_right (speaks.notices.symm.trans ht)
  exact ⟨r', speaks⟩

/-- A run that is not at work tells nothing and has no news. -/
theorem Speaks.mute (speaks : Speaks env i r r' told s s') (hi : s.runs[i]? = some r) (idle : r.task.state ≠ .running) :
    told = [] ∧ news env (.lint i) s = [] := by
  have none : news env (.lint i) s = [] := news_of_none (outcome?_of_not_running hi idle)
  have order := speaks.order
  rw [Run.left_of_not_running idle, none, List.append_nil] at order
  exact ⟨by simpa using (List.append_eq_nil_iff.mp (List.sublist_nil.mp order)).1, none⟩

/-! ## Turns -/

/-- A run that is at work has its turn. -/
def Serial (s : Service) : Prop :=
  ∀ (k : Nat) (r : Run), s.runs[k]? = some r → r.task.state = .running → s.turn = some k

theorem turn_takeTurn (i : Nat) (s : Service) : (s.takeTurn i).turn = s.turn := by
  rcases hi : s.runs[i]? with _ | r
  · rw [takeTurn_of_none hi]
  · obtain ⟨s₁, alters, h⟩ := takeTurn_spec hi
    rw [h]
    split
    · rw [schedule_eq]
      exact alters.turn
    · exact alters.turn

/-- When the loop goes on, no run is at work. -/
theorem Serial.nobody (h : Serial s) (hq : Queues s) (hj : .drain ∈ s.jobs) (hk : s.runs[k]? = some r) :
    r.task.state ≠ .running := by
  intro running
  have ended := hq.drains hj k r (h k r hk running) hk
  rw [Run.isOver, running] at ended
  cases ended

/-- A run after a call, if there is one: it is new, or was there before and has at most been canceled. -/
inductive Called (s : Service) (k : Nat) : Option Run → Prop
  | absent (hk : s.runs[k]? = none) : Called s k none
  | added (hk : s.runs[k]? = none) {r : Run} (pending : r.task.state = .pending) : Called s k (some r)
  | kept {r : Run} (hk : s.runs[k]? = some r) : Called s k (some r)
  | canceled {r : Run} (hk : s.runs[k]? = some r) : Called s k (some r.cancel)

/-- A call starts no run. -/
theorem Called.running (h : Called s k (some r)) (hr : r.task.state = .running) : s.runs[k]? = some r := by
  cases h with
  | added _ pending => cases pending.symm.trans hr
  | kept hk => exact hk
  | @canceled r =>
    have ended := r.isOver_cancel
    rw [Run.isOver, hr] at ended
    cases ended

/-- Canceling some runs leaves each of them as it was or canceled. -/
theorem Called.ite (hk : s.runs[k]? = some r) (is : List Nat) : Called s k (some (if k ∈ is then r.cancel else r)) := by
  split
  · exact .canceled hk
  · exact .kept hk

/-- A call keeps the turn and starts no run. -/
theorem Moves.called (hm : Moves s d s') (hs : Sound s) (quiet : ∀ j rs, d ≠ .worked j rs) :
    s'.turn = s.turn ∧ ∀ k, Called s k s'.runs[k]? := by
  cases hm with
  | call drops =>
    refine ⟨drops.turn, fun k => ?_⟩
    rw [drops.runs]
    rcases hk : s.runs[k]? with _ | r
    · exact .absent hk
    · exact .ite hk _
  | @queue doc env target ht =>
    have queued := hs.enqueues (s.assignment env target) doc.uri
    have turn := queued.turn
    have length := queued.length
    have added := queued.added
    have others := queued.others
    rw [track_eq doc.uri s] at turn length added others
    rw [track_eq]
    refine ⟨turn, fun k => ?_⟩
    rcases Nat.lt_trichotomy k s.runs.length with lt | rfl | gt
    · have old := List.getElem?_eq_getElem lt
      rw [others k _ old]
      exact .ite old _
    · rw [added]
      exact .added (List.getElem?_eq_none_iff.mpr (Nat.le_refl _)) rfl
    · rw [List.getElem?_eq_none_iff.mpr (by rw [length]; exact gt)]
      exact .absent (List.getElem?_eq_none_iff.mpr (Nat.le_of_lt gt))
  | drain | turn | lint => exact absurd rfl (quiet _ _)

/-- Only a turn gives a run work. -/
theorem Moves.serial (hm : Moves s d s') (hs : Sound s) (hq : Queues s) (h : Serial s) : Serial s' := by
  intro k r' hk running
  have called (quiet : ∀ j rs, d ≠ .worked j rs) : s'.turn = some k := by
    obtain ⟨turn, runs⟩ := hm.called hs quiet
    rw [turn]
    have before := runs k
    rw [hk] at before
    exact h k r' (before.running running) running
  cases hm with
  | call drops _ _ _ quiet => exact called quiet
  | queue => exact called (by simp)
  | drain hj =>
    rw [(fields_drain _).1] at hk
    exact absurd running (h.nobody hq hj hk)
  | @turn i hj =>
    rw [turn_takeTurn]
    rcases hi : s.runs[i]? with _ | r
    · rw [takeTurn_of_none (s := s.without (.turn i)) hi] at hk
      exact h k r' hk running
    rw [runs_takeTurn (s := s.without (.turn i)) hi] at hk
    by_cases hik : i = k
    · exact hik ▸ hq.turns i hj
    · rw [List.getElem?_set_ne hik] at hk
      exact h k r' hk running
  | @lint i env hj =>
    rcases hi : s.runs[i]? with _ | r
    · rw [lint_of_none (s := s.without (.lint i)) hi] at hk ⊢
      exact h k r' hk running
    obtain ⟨a, rs, p, stands⟩ := hs.stands i r hi
    obtain ⟨told, r'', spoken⟩ := speaks_lint env (s := s.without (.lint i)) hi stands
    refine spoken.turn.trans ?_
    by_cases hik : i = k
    · subst hik
      obtain rfl := Option.some.inj (hk.symm.trans (spoken.at hi))
      exact h i r hi (spoken.started running)
    · rw [spoken.runs, List.getElem?_set_ne hik] at hk
      exact h k r' hk running

variable {c : Config} {script : List Reply} {delays : List Bool} {es : List Event}

/-- In every history a run that is at work has its turn. -/
theorem History.serial (h : History c script delays es s) : Serial s := by
  induction h with
  | start => simp [Serial, Service.start]
  | next h hd _ ih => exact hd.moves.serial (History.sound h) (History.queues h) ih

/-! ## Calls -/

/-- A call shows no warning. -/
theorem Moves.unvoiced (hm : Moves s d s') (hs : Sound s) (quiet : ∀ j rs, d ≠ .worked j rs)
    (ht : s'.notices = told ++ s.notices) : Notice.warnings told = [] := by
  cases hm with
  | call drops =>
    rw [List.append_cancel_right (ht.symm.trans drops.notices)]
    simp [Notice.warnings, Notice.warning?]
  | @queue doc =>
    obtain rfl := told_eq_nil ht ((hs.enqueues _ doc.uri).notices.trans (by rw [track_eq]))
    rfl
  | drain | turn | lint => exact absurd rfl (quiet _ _)

end Service

end ElixirLint
