import ElixirLint.Proofs.Service.Chronicle

/-!
# Warnings are shown once

A warning is shown once for each configuration: between two changes of the configuration the warnings that are shown are
the different warnings of the reports with which runs complete meanwhile, in order of their first occurrences.

The service remembers what it has shown since the configuration changed last. One run at most has something left to tell
(`pending`), and what has been shown, together with what is pending, is always what the reports so far amount to
(`Tally`).

Main results: `Chronicle.tally`, `Chronicle.warns_once`.
-/

namespace ElixirLint.Service

variable {s s' : Service} {d : Deed} {i k : Nat} {r r' : Run} {told due : List Notice} {env : Surroundings} {c : Config}
  {script : List Reply} {delays : List Bool} {es later between earlier : List Entry} {e : Entry}

/-! ## What is pending -/

/-- What the run that has its turn has left to tell. -/
def pending (s : Service) : List Notice := ((s.turn.bind (s.runs[·]?)).map Run.left).getD []

theorem pending_of_turn (ht : s.turn = some k) (hk : s.runs[k]? = some r) : s.pending = r.left := by
  simp [pending, ht, hk]

/-- Nothing is pending where no run has anything left. -/
theorem pending_of_quiet (h : ∀ (k : Nat) (r : Run), s.runs[k]? = some r → r.left = []) : s.pending = [] := by
  unfold pending
  rcases ht : s.turn with _ | k
  · rfl
  · rcases hk : s.runs[k]? with _ | r
    · simp [hk]
    · simp [hk, h k r hk]

/-- What is pending depends on the run with the turn only. -/
theorem pending_congr (ht : s'.turn = s.turn) (hr : ∀ k, s.turn = some k →
    (s'.runs[k]?.map Run.left).getD [] = (s.runs[k]?.map Run.left).getD []) : s'.pending = s.pending := by
  unfold pending
  rw [ht]
  rcases hk : s.turn with _ | k
  · rfl
  · exact hr k hk

/-- A call that disturbs nobody leaves what is pending. -/
theorem Moves.pending_call (hm : Moves s d s') (hs : Sound s) (quiet : ∀ j rs, d ≠ .worked j rs)
    (heard : s.Undisturbed d s') : s'.pending = s.pending := by
  obtain ⟨turn, called⟩ := hm.called hs quiet
  refine pending_congr turn fun k _ => ?_
  have after := called k
  generalize ho : s'.runs[k]? = o at after
  cases after with
  | absent hk => rw [hk]
  | added hk pending =>
    rw [hk]
    exact Run.left_of_not_running (by simp [pending])
  | kept hk => rw [hk]
  | @canceled r hk =>
    rw [hk]
    have gone : r.cancel.left = [] := Run.left_of_isOver r.isOver_cancel
    have none : r.left = [] := by
      by_contra left
      have kept := (heard k r hk left).2
      rw [ho] at kept
      rw [← Option.some.inj kept] at left
      exact left gone
    simp [gone, none]

/-- When the loop goes on, nothing is pending, before and after. -/
theorem pending_drain (h : Serial s) (hq : Queues s) (hj : .drain ∈ s.jobs) :
    s.pending = [] ∧ (s.without .drain).drain.pending = [] := by
  have idle (k : Nat) (r : Run) (hk : s.runs[k]? = some r) : r.left = [] :=
    Run.left_of_not_running (h.nobody hq hj hk)
  refine ⟨pending_of_quiet idle, pending_of_quiet fun k r hk => ?_⟩
  rw [(fields_drain _).1] at hk
  exact idle k r hk

/-- A turn leaves a run what it has left to tell. -/
theorem left_start {a : Assignment} {rs : List CommandResult} {p : Nat} (h : r.Stands a rs p) :
    r.start.left = r.left := by
  cases h <;> rfl

/-- A turn leaves what is pending. -/
theorem pending_turn (hs : Sound s) (i : Nat) : (s.takeTurn i).pending = s.pending := by
  refine pending_congr (turn_takeTurn i s) fun k _ => ?_
  rcases hi : s.runs[i]? with _ | r
  · rw [takeTurn_of_none hi]
  obtain ⟨a, rs, p, stands⟩ := hs.stands i r hi
  rw [runs_takeTurn hi]
  by_cases hik : i = k
  · subst hik
    rw [List.getElem?_set_self (List.getElem?_eq_some_iff.mp hi).1, hi]
    simp [left_start stands]
  · rw [List.getElem?_set_ne hik]

/-- The job of a run tells what is pending and its news, and leaves what it has not told pending. A run that does not
have its turn tells nothing. -/
theorem Speaks.pending (h : Serial s) (hi : s.runs[i]? = some r) (speaks : Speaks env i r r' told s s') :
    heed s'.notified s'.pending = heed s.notified (s.pending ++ news env (.lint i) s) := by
  by_cases ht : s.turn = some i
  · rw [pending_of_turn ht hi, pending_of_turn (speaks.turn.trans ht) (speaks.at hi)]
    exact speaks.heeded
  -- The run has nothing left and no news, so it tells nothing, and another run's turn goes on.
  obtain ⟨mute, news⟩ := speaks.mute hi fun running => ht (h i r hi running)
  have pending : s'.pending = s.pending := pending_congr speaks.turn fun k hk => by
    have ne : i ≠ k := fun same => ht (same ▸ hk)
    rw [speaks.runs, List.getElem?_set_ne ne]
  rw [news, List.append_nil, pending, speaks.notified, mute]
  simp [Notice.warnings]

/-! ## What has been shown -/

/-- The events since the configuration changed last. -/
def epoch (es : List Entry) : List Entry := es.takeWhile fun e => !e.deed.isChange

/-- What the service has shown since the configuration changed last, and what this amounts to when all has been told. -/
structure Tally (es : List Entry) (s : Service) : Prop where
  /-- What the service knows to have been shown has been shown. -/
  shown : s.notified = Entry.warned (epoch es)
  /-- When what is pending has been told, the warnings of all reports have been shown. -/
  owed : heed s.notified s.pending = (Entry.warnings (epoch es)).foldl remember []

/-- An event that tells some of what is due and leaves the rest pending keeps the tally. -/
theorem Tally.next (t : Tally es s) (kept : e.deed.isChange = false)
    (hn : s'.notified = s.notified ++ Notice.warnings e.told.reverse)
    (hp : heed s'.notified s'.pending = heed s.notified (s.pending ++ due))
    (hd : Notice.warnings due = e.report.elim [] (·.warnings)) : Tally (e :: es) s' := by
  have goes : epoch (e :: es) = e :: epoch es := List.takeWhile_cons_of_pos (by simp [kept])
  constructor
  · rw [goes, Entry.warned_cons, hn, t.shown]
  · rw [goes, Entry.warnings_cons, hp, heed_append, t.owed, heed, hd, List.foldl_append]

/-- An event that shows no warning, and in which no run completes with a report, keeps the tally. -/
theorem Tally.silent (t : Tally es s) (kept : e.deed.isChange = false) (hr : e.report = none)
    (ht : Notice.warnings e.told = []) (hn : s'.notified = s.notified) (hp : s'.pending = s.pending) :
    Tally (e :: es) s' := by
  have reversed : Notice.warnings e.told.reverse = [] := by
    rw [Notice.warnings, List.filterMap_reverse, ← Notice.warnings, ht]
    rfl
  have none : Notice.warnings [] = e.report.elim [] (·.warnings) := by
    rw [hr]
    rfl
  refine t.next kept ?_ ?_ none
  · rw [reversed, hn, List.append_nil]
  · rw [hn, hp, List.append_nil]

/-- A change of the configuration starts a new tally. -/
theorem tally_change (changes : e.deed.isChange = true) (hn : s'.notified = []) (hp : s'.pending = []) :
    Tally (e :: es) s' := by
  have begins : epoch (e :: es) = [] := List.takeWhile_cons_of_neg (by simp [changes])
  constructor
  · rw [begins, hn]
    rfl
  · rw [begins, hn, hp]
    rfl

/-- A job keeps the tally, with the report with which its run completes. -/
theorem Tally.work {j : ServiceJob} (t : Tally es s) (h : History c script delays (es.map (·.toEvent)) s)
    (env : Surroundings) (hj : j ∈ s.jobs) (ht : ((s.without j).runJob env j).notices = told ++ s.notices) :
    Tally (⟨⟨.worked j (heard env j s), told⟩, report? env j s⟩ :: es) ((s.without j).runJob env j) := by
  have silent (same : ((s.without j).runJob env j).onRecord = s.onRecord)
      (pending : ((s.without j).runJob env j).pending = s.pending) (unreported : report? env j s = none) :
      Tally (⟨⟨.worked j (heard env j s), told⟩, report? env j s⟩ :: es) ((s.without j).runJob env j) := by
    obtain rfl := told_eq_nil ht (show ((s.without j).runJob env j).onRecord.notices = s.onRecord.notices by rw [same])
    exact t.silent rfl unreported rfl ((Hushed.of_onRecord same).notified) pending
  cases j with
  | drain =>
    obtain ⟨before, after⟩ := pending_drain h.serial h.queues hj
    exact silent (onRecord_drain _) (after.trans before.symm) rfl
  | turn i => exact silent (onRecord_takeTurn i _) (pending_turn (h.sound.without _) i) rfl
  | lint i =>
    rcases hi : s.runs[i]? with _ | r
    · refine silent ?_ ?_ (by simp [report?, outcome?, hi]) <;> rw [runJob_lint_of_none hi] <;> rfl
    · obtain ⟨r', speaks⟩ := h.sound.speaks env hi ht
      have pending := speaks.pending (s := s.without (.lint i)) h.serial hi
      exact t.next rfl speaks.notified pending (warnings_news env (.lint i) s)

/-- In every chronicle the tally is right. -/
theorem Chronicle.tally (h : Chronicle c script delays es s) : Tally es s := by
  induction h with
  | start => exact ⟨rfl, rfl⟩
  | @call es s s' d told h hd quiet heard ht ih =>
    have pending := hd.moves.pending_call h.history.sound quiet heard
    have shown := hd.notified quiet
    rcases Bool.eq_false_or_eq_true d.isChange with changes | kept
    · have idle : s.pending = [] := pending_of_quiet fun k r hk => by
        by_contra left
        have kept := (heard k r hk left).1
        rw [changes] at kept
        cases kept
      rw [changes] at shown
      exact tally_change changes shown (pending.trans idle)
    · rw [kept] at shown
      exact ih.silent kept rfl (hd.moves.unvoiced h.history.sound quiet ht) shown pending
  | work env h hj ht ih => exact ih.work h.history env hj ht

/-! ## Between changes of the configuration -/

/-- The events `between` two changes of the configuration. The first interval begins when the service starts; the last
goes on until now, if nobody has anything left to tell. -/
structure Interval (later between earlier : List Entry) (s : Service) : Prop where
  steady : ∀ e ∈ between, e.deed.isChange = false
  begins : ∀ e ∈ earlier.head?, e.deed.isChange = true
  ends : ∀ e ∈ later.getLast?, e.deed.isChange = true
  heard : later = [] → ∀ (k : Nat) (r : Run), s.runs[k]? = some r → r.left = []

/-- At the end of an interval its events are those since the configuration changed last. -/
theorem Interval.epoch_eq (h : Interval later between earlier s) : epoch (between ++ earlier) = between := by
  have before : epoch earlier = [] := by
    rcases earlier with _ | ⟨e, earlier⟩
    · rfl
    · exact List.takeWhile_cons_of_neg (by simp [h.begins e rfl])
  have all : ∀ e ∈ between, (!e.deed.isChange) = true := fun e he => by simp [h.steady e he]
  have split : epoch (between ++ earlier) = between ++ epoch earlier := List.takeWhile_append_of_pos all
  rw [split, before, List.append_nil]

/-- When the configuration changes, nothing is pending. -/
theorem Chronicle.heard_out (h : Chronicle c script delays (later ++ es) s)
    (ends : ∀ e ∈ later.getLast?, e.deed.isChange = true)
    (heard : later = [] → ∀ (k : Nat) (r : Run), s.runs[k]? = some r → r.left = []) :
    ∃ s₁, Chronicle c script delays es s₁ ∧ s₁.pending = [] := by
  induction later generalizing s with
  | nil => exact ⟨s, h, pending_of_quiet (heard rfl)⟩
  | cons e later ih =>
    rcases later with _ | ⟨e', later⟩
    · cases h with
      | @call _ s₁ _ d _ h _ _ undisturbed =>
        refine ⟨s₁, h, pending_of_quiet fun k r hk => ?_⟩
        by_contra left
        have changes : d.isChange = true := ends _ rfl
        rw [(undisturbed k r hk left).1] at changes
        cases changes
      | work => cases ends _ rfl
    · rw [List.getLast?_cons_cons] at ends
      cases h with
      | call h | work _ h => exact ih h ends nofun

/-- What a run tells, in all events of its job. -/
structure WarnsFirst (es : List Entry) : Prop where
  /-- It completes with one report at most. -/
  once : (Entry.reports es).length ≤ 1
  /-- It tells warnings of its report, in order, and then one notice at most that is none. -/
  order : ∃ (ws : List String) (rest : List Notice), Entry.notices es = ws.map (.notify .warning) ++ rest ∧
    ws.Sublist (Entry.warnings es) ∧ rest.length ≤ 1 ∧ ∀ n ∈ rest, n.warning? = none
  /-- A run that publishes has completed with a report. -/
  published : ∀ uri diagnostics, .publish uri diagnostics ∈ Entry.notices es → Entry.reports es ≠ []
  /-- A run that tells of its failure never does. -/
  failed : ∀ message, .notify .error message ∈ Entry.notices es → Entry.reports es = []

/-- The tidings of a result, as warnings of its report and what follows them. -/
theorem tidings_eq (a : Assignment) (result : Except LintError LintReport) :
    ∃ rest, tidings a result = (result.toOption.elim [] (·.warnings)).map (.notify .warning) ++ rest ∧
      rest.length ≤ 1 ∧ ∀ n ∈ rest, n.warning? = none := by
  cases result with
  | error e =>
    unfold tidings
    by_cases silent : e.isSilent = true
    · exact ⟨[], by simp [silent, Except.toOption], by simp, by simp⟩
    · exact ⟨[.notify .error e.message], by simp [silent, Except.toOption], by simp, by simp [Notice.warning?]⟩
  | ok report =>
    exact ⟨[.publish a.target.document.uri (diagnostics a report)], rfl, by simp, by simp [Notice.warning?]⟩

/-- Only a result that is a report leads to diagnostics, and only one that is none to an error. -/
theorem toOption_of_mem_tidings {a : Assignment} {result : Except LintError LintReport} {n : Notice}
    (hn : n ∈ tidings a result) :
    (n.isPublish = true → result.toOption.isSome = true) ∧ (∀ message, n = .notify .error message →
      result.toOption = none) := by
  cases result with
  | error e =>
    refine ⟨fun published => ?_, fun _ _ => rfl⟩
    unfold tidings at hn
    split at hn <;> simp_all [Notice.isPublish]
  | ok report =>
    refine ⟨fun _ => rfl, fun message same => ?_⟩
    subst same
    simp [tidings] at hn

/-- What a run has told so far begins with its warnings. -/
theorem Spoken.warnsFirst {o : Option Run} (h : Spoken k es o) : WarnsFirst (Entry.byRun k es) := by
  cases h with
  | silent hn hr => exact ⟨by simp [hr], ⟨[], [], by simp [hn], by simp, by simp, by simp⟩, by simp [hn], by simp [hn]⟩
  | @done r a result hn hr =>
    obtain ⟨rest, due, short, plain⟩ := tidings_eq a result
    have told : (Entry.notices (Entry.byRun k es)).Sublist (tidings a result) :=
      (List.sublist_append_left _ _).trans hn
    have comes {n : Notice} (hn : n ∈ Entry.notices (Entry.byRun k es)) := toOption_of_mem_tidings (told.subset hn)
    have warnings : Entry.warnings (Entry.byRun k es) = result.toOption.elim [] (·.warnings) := by
      rw [Entry.warnings, hr]
      cases result.toOption <;> simp
    rw [due, List.sublist_append_iff] at told
    obtain ⟨first, last, split, warned, followed⟩ := told
    obtain ⟨ws, among, rfl⟩ := List.sublist_map_iff.mp warned
    refine ⟨?_, ⟨ws, last, split, warnings ▸ among, Nat.le_trans followed.length_le short,
      fun n hn => plain n (followed.subset hn)⟩, fun uri diagnostics hn => ?_, fun message hn => ?_⟩
    · rw [hr]
      cases result.toOption <;> simp
    · obtain ⟨report, same⟩ := Option.isSome_iff_exists.mp ((comes hn).1 rfl)
      simp [hr, same]
    · simp [hr, (comes hn).2 message rfl]

/-- An event after `es` is the job of a run at work: nobody has canceled it. -/
def OfLiveRun (c : Config) (script : List Reply) (delays : List Bool) (es : List Entry) (e : Entry) : Prop :=
  ∃ s k r rs, Chronicle c script delays es s ∧ e.deed = .worked (.lint k) rs ∧ s.runs[k]? = some r ∧
    r.task.state = .running

/-- Only a run at work tells anything or completes with a report. -/
theorem Chronicle.live (h : Chronicle c script delays (e :: es) s)
    (he : e.report.isSome = true ∨ Notice.warnings e.told ≠ []) : OfLiveRun c script delays es e := by
  cases h with
  | call h hd quiet _ ht => simp [hd.moves.unvoiced h.history.sound quiet ht] at he
  | @work _ s j told env h hj ht =>
    cases j with
    | drain =>
      obtain rfl := told_eq_nil ht (fields_drain _).2.1
      simp [report?, outcome?, Notice.warnings] at he
    | turn i =>
      obtain rfl := told_eq_nil ht (fields_takeTurn ..).1
      simp [report?, outcome?, Notice.warnings] at he
    | lint i =>
      rcases hi : s.runs[i]? with _ | r
      · rw [runJob_lint_of_none hi] at ht
        obtain rfl := told_eq_nil ht rfl
        simp [report?, outcome?, hi, Notice.warnings] at he
      refine ⟨s, i, r, _, h, rfl, hi, ?_⟩
      by_contra idle
      obtain ⟨r', speaks⟩ := h.history.sound.speaks env hi ht
      obtain ⟨rfl, -⟩ := speaks.mute hi idle
      simp [report?, outcome?_of_not_running hi idle, Notice.warnings] at he

/-- Warnings are shown once for each configuration: between two changes of the configuration, the warnings that are
shown are the different warnings of the reports with which runs complete meanwhile, each once, in order of their first
occurrences. Every run tells warnings of its own report only, and before its diagnostics. A run that fails has no
report, and one that has been canceled neither completes with one nor tells a warning. -/
theorem Chronicle.warns_once (h : Chronicle c script delays (later ++ (between ++ earlier)) s)
    (hi : Interval later between earlier s) :
    Entry.warned between = (Entry.warnings between).eraseDups ∧ (Entry.warned between).Nodup ∧
      (∀ k, WarnsFirst (Entry.byRun k (later ++ (between ++ earlier)))) ∧
      ∀ es' e es, later ++ (between ++ earlier) = es' ++ e :: es →
        e.report.isSome = true ∨ Notice.warnings e.told ≠ [] → OfLiveRun c script delays es e := by
  obtain ⟨s₁, before, nothing⟩ := h.heard_out hi.ends hi.heard
  obtain ⟨shown, owed⟩ := before.tally
  rw [hi.epoch_eq] at shown owed
  have all : Entry.warned between = (Entry.warnings between).foldl remember [] := by
    rw [← shown, ← owed, nothing, heed_nil]
  refine ⟨by rw [all, foldl_remember], ?_, fun k => (h.spoken k).warnsFirst, fun es' e es split he => ?_⟩
  · rw [all]
    exact nodup_foldl_remember .nil _
  · rw [split] at h
    obtain ⟨s₂, upTo⟩ := h.split
    exact upTo.live he

/-! ## A warning that recurs -/

/-- Where no run has anything left, no call disturbs one. -/
theorem undisturbed_of_idle (h : ∀ r ∈ s.runs, r.left = []) (d : Deed) (s' : Service) : s.Undisturbed d s' :=
  fun _ _ hk left => absurd (h _ (List.mem_of_getElem? hk)) left

/-- Taking a notice disturbs nobody. -/
theorem undisturbed_accept (i : Nat) (s : Service) : s.Undisturbed (.accepted i) (s.accept i) :=
  fun _ _ hk _ => ⟨rfl, (keeps_accept i s).2.1 ▸ hk⟩

/-- A document is handed in and queued while nobody has anything left to tell. -/
theorem Chronicle.handed (h : Chronicle c script delays es s) (env : Surroundings) (d : Document) (k : Nat)
    (hk : (s.execute env d).2 = .queued k) (idle : ∀ r ∈ s.runs, r.left = [])
    (ht : (s.execute env d).1.notices = s.notices) :
    Chronicle c script delays (⟨⟨.handed d (.queued k), []⟩, none⟩ :: es) (s.execute env d).1 :=
  .call h (hk ▸ .execute env d s) (by simp) (undisturbed_of_idle idle _ _) ht

/-- The outside has taken in what it was told. -/
theorem Chronicle.accepted (h : Chronicle c script delays es s) (i : Nat) :
    Chronicle c script delays (⟨⟨.accepted i, []⟩, none⟩ :: es) (s.accept i) :=
  .call h (.accept i s) (by simp) (undisturbed_accept i s) (keeps_accept i s).2.2

/-- The entry of a job, with what it tells. -/
def entry (env : Surroundings) (j : ServiceJob) (s : Service) (told : List Notice) : Entry :=
  ⟨⟨.worked j (heard env j s), told⟩, report? env j s⟩

/-- A job is done. -/
theorem Chronicle.worked (h : Chronicle c script delays es s) (env : Surroundings) (j : ServiceJob) (told : List Notice)
    (hj : j ∈ s.jobs) (ht : ((s.without j).runJob env j).notices = told ++ s.notices) :
    Chronicle c script delays (entry env j s told :: es) ((s.without j).runJob env j) :=
  .work env h hj ht

/-- A command that finds nothing and prints a warning. -/
def grumbling : Reply := .finished ⟨some 0, "\x7b\"issues\": []\x7d", "deprecated"⟩

/-- What is shown for it. -/
def grumble : String := "Warning: \"deprecated\""

/-- The run for the draft is about to do its job. -/
def seated : Service :=
  work [.drain, .turn 0] ((Service.start thorough [grumbling, grumbling] [true]).execute project draft).1

/-- The run has shown the warning, and the outside has taken it in. -/
def underway : Service := (work [.lint 0] seated).accept 0

/-- The draft has been handed in again, and its run is about to do its job. -/
def anew : Service := work [.turn 0, .drain, .turn 1] ((work [.lint 0] underway).execute project draft).1

/-- What has happened when both runs have been heard out. -/
def grumbles : List Entry :=
  [entry project (.lint 1) anew [.publish draft.uri []], ⟨⟨.worked (.turn 1) [], []⟩, none⟩,
   ⟨⟨.worked .drain [], []⟩, none⟩, ⟨⟨.worked (.turn 0) [], []⟩, none⟩, ⟨⟨.handed draft (.queued 1), []⟩, none⟩,
   entry project (.lint 0) underway [.publish draft.uri []], ⟨⟨.accepted 0, []⟩, none⟩,
   entry project (.lint 0) seated [.notify .warning grumble], ⟨⟨.worked (.turn 0) [], []⟩, none⟩,
   ⟨⟨.worked .drain [], []⟩, none⟩, ⟨⟨.handed draft (.queued 0), []⟩, none⟩]

/-- The runs of a linter that grumbles make a chronicle. -/
theorem chronicle_grumbles :
    Chronicle thorough [grumbling, grumbling] [true] (⟨⟨.configured hinting, []⟩, none⟩ :: grumbles)
      ((work [.lint 1] anew).configure hinting) := by
  have begun : Chronicle thorough [grumbling, grumbling] [true] [] (.start thorough [grumbling, grumbling] [true]) :=
    .start
  have handed := begun.handed project draft 0 (by decide +kernel) (by decide +kernel) (by decide +kernel)
  have drained := handed.worked project .drain [] (by decide +kernel) (by decide +kernel)
  have started := drained.worked project (.turn 0) [] (by decide +kernel) (by decide +kernel)
  have warned := started.worked project (.lint 0) [.notify .warning grumble] (by decide +kernel) (by decide +kernel)
  have accepted := warned.accepted 0
  have published := accepted.worked project (.lint 0) [.publish draft.uri []] (by decide +kernel) (by decide +kernel)
  have again := published.handed project draft 1 (by decide +kernel) (by decide +kernel) (by decide +kernel)
  have looked := again.worked project (.turn 0) [] (by decide +kernel) (by decide +kernel)
  have passed := looked.worked project .drain [] (by decide +kernel) (by decide +kernel)
  have restarted := passed.worked project (.turn 1) [] (by decide +kernel) (by decide +kernel)
  have repeated := restarted.worked project (.lint 1) [.publish draft.uri []] (by decide +kernel) (by decide +kernel)
  exact .call repeated (.configure hinting _) (by simp) (undisturbed_of_idle (by decide +kernel) _ _) rfl

/-- A command prints the same warning for both runs of a document, and the warning is shown once. -/
theorem warns_once_repeated :
    Interval [⟨⟨.configured hinting, []⟩, none⟩] grumbles [] ((work [.lint 1] anew).configure hinting) ∧
      Entry.warnings grumbles = [grumble, grumble] ∧ Entry.warned grumbles = [grumble] := by
  have chronicle : Chronicle thorough [grumbling, grumbling] [true]
      ([⟨⟨.configured hinting, []⟩, none⟩] ++ (grumbles ++ [])) ((work [.lint 1] anew).configure hinting) :=
    chronicle_grumbles
  have interval : Interval [⟨⟨.configured hinting, []⟩, none⟩] grumbles []
      ((work [.lint 1] anew).configure hinting) :=
    ⟨by simp [grumbles, entry, Deed.isChange], by simp, by simp [Deed.isChange], nofun⟩
  have printed : Entry.warnings grumbles = [grumble, grumble] := by decide +kernel
  refine ⟨interval, printed, ?_⟩
  rw [(chronicle.warns_once interval).1, printed]
  decide

end ElixirLint.Service
