import ElixirLint.Proofs.Service.Speaking

/-!
# Chronicles of the service

A chronicle is a history of the service that notes with every event the report with which a run completes in it. While a
run has something left to tell, the outside hears it out: no call cancels it, and the configuration does not change
(`Undisturbed`). Apart from that, calls and jobs come in any order.

What a run tells in a chronicle is taken in order from the tidings of one result (`Spoken`): warnings of its report come
first, and nothing but the diagnostics or the error after them. A run that fails, or that is canceled before its linter
is done, completes with no report.

Main definitions: `Chronicle`, `Entry.notices`, `Entry.reports`.

Main results: `Chronicle.history`, `Chronicle.spoken`, `History.chronicle`.
-/

namespace ElixirLint.Service

/-- An event, with the report with which a run completes in it, if one does. -/
structure Entry extends Event where
  /-- The report. -/
  report : Option LintReport

/-- A call leaves alone who has something left to tell. -/
def Undisturbed (s : Service) (d : Deed) (s' : Service) : Prop :=
  ∀ (k : Nat) (r : Run), s.runs[k]? = some r → r.left ≠ [] → d.isChange = false ∧ s'.runs[k]? = some r

/-- What can have happened since the service started, with all that is told heard out, and the service after that. -/
inductive Chronicle (c : Config) (script : List Reply) (delays : List Bool) : List Entry → Service → Prop
  | start : Chronicle c script delays [] (Service.start c script delays)
  | call {es : List Entry} {s s' : Service} {d : Deed} {told : List Notice} (h : Chronicle c script delays es s)
      (hd : Does s d s') (quiet : ∀ j rs, d ≠ .worked j rs) (heard : s.Undisturbed d s')
      (ht : s'.notices = told ++ s.notices) : Chronicle c script delays (⟨⟨d, told⟩, none⟩ :: es) s'
  | work {es : List Entry} {s : Service} {j : ServiceJob} {told : List Notice} (env : Surroundings)
      (h : Chronicle c script delays es s) (hj : j ∈ s.jobs)
      (ht : ((s.without j).runJob env j).notices = told ++ s.notices) :
      Chronicle c script delays (⟨⟨.worked j (heard env j s), told⟩, report? env j s⟩ :: es)
        ((s.without j).runJob env j)

namespace Entry

/-- What was told, the first first. -/
def notices (es : List Entry) : List Notice := (es.flatMap fun e => e.told).reverse

/-- The reports of the runs that completed, the first first. -/
def reports (es : List Entry) : List LintReport := (es.filterMap (·.report)).reverse

/-- The warnings that were shown. -/
def warned (es : List Entry) : List String := Notice.warnings (notices es)

/-- The warnings of the reports. -/
def warnings (es : List Entry) : List String := (reports es).flatMap (·.warnings)

/-- The events in which the job of a run went on. -/
def byRun (k : Nat) (es : List Entry) : List Entry :=
  es.filter fun e =>
    match e.deed with
    | .worked (.lint i) _ => i = k
    | _ => false

variable {e : Entry} {es : List Entry}

@[simp]
theorem notices_cons (e : Entry) (es : List Entry) : notices (e :: es) = notices es ++ e.told.reverse := by
  simp [notices]

@[simp]
theorem reports_cons (e : Entry) (es : List Entry) : reports (e :: es) = reports es ++ e.report.toList := by
  cases h : e.report <;> simp [reports, h]

@[simp]
theorem warned_cons (e : Entry) (es : List Entry) : warned (e :: es) = warned es ++ Notice.warnings e.told.reverse := by
  simp [warned]

@[simp]
theorem warnings_cons (e : Entry) (es : List Entry) :
    warnings (e :: es) = warnings es ++ e.report.elim [] (·.warnings) := by
  cases h : e.report <;> simp [warnings, h]

/-- An event of a run's job is one of that run. -/
theorem byRun_cons_self {k : Nat} (h : ∃ rs, e.deed = .worked (.lint k) rs) : byRun k (e :: es) = e :: byRun k es := by
  obtain ⟨rs, deed⟩ := h
  exact List.filter_cons_of_pos (by simp [deed])

/-- Any other event is none. -/
theorem byRun_cons_other {k : Nat} (h : ∀ rs, e.deed ≠ .worked (.lint k) rs) : byRun k (e :: es) = byRun k es := by
  refine List.filter_cons_of_neg fun own => ?_
  split at own
  · rename_i deed
    exact h _ (by simpa [of_decide_eq_true own] using deed)
  · cases own

end Entry

variable {s s' : Service} {d : Deed} {i k : Nat} {r r' : Run} {told : List Notice} {env : Surroundings} {c : Config}
  {script : List Reply} {delays : List Bool} {es es' : List Entry} {e : Entry}

/-- A chronicle is a history. -/
theorem Chronicle.history (h : Chronicle c script delays es s) :
    History c script delays (es.map (·.toEvent)) s := by
  induction h with
  | start => exact .start
  | call _ hd _ _ ht ih => exact .next ih hd ht
  | work env _ hj ht ih => exact ih.worked env _ _ hj ht

/-- A chronicle goes through all states that its events lead to. -/
theorem Chronicle.split (h : Chronicle c script delays (es' ++ es) s) : ∃ s₁, Chronicle c script delays es s₁ := by
  induction es' generalizing s with
  | nil => exact ⟨s, h⟩
  | cons e es' ih =>
    cases h with
    | call h => exact ih h
    | work _ h => exact ih h

/-! ## What a run tells -/

/-- A run after something that its own job does not do: it has no more left to tell, and its linter, if it was done, is
done. -/
structure Stays (r r' : Run) : Prop where
  left : r'.left.Sublist r.left
  spent : r.phase.isSpent = true → r'.phase.isSpent = true

theorem Stays.refl (r : Run) : Stays r r := ⟨.refl _, id⟩

/-- A run that is canceled stays: it has nothing left to tell. -/
theorem stays_cancel (r : Run) : Stays r r.cancel where
  left := by
    rw [Run.left_of_isOver r.isOver_cancel]
    exact List.nil_sublist _
  spent h := by
    unfold Run.cancel
    split <;> exact h

/-- A run whose turn comes stays. -/
theorem stays_start {a : Assignment} {rs : List CommandResult} {p : Nat} (h : r.Stands a rs p) : Stays r r.start := by
  cases h with
  | waits => exact ⟨.refl _, nofun⟩
  | works | halts | finished | canceled => exact .refl _

/-- A run after something that its own job does not do, if it is there: it is new, or it stays. -/
inductive Remains (s : Service) (k : Nat) : Option Run → Prop
  | absent (hk : s.runs[k]? = none) : Remains s k none
  | added (hk : s.runs[k]? = none) {r : Run} (hr : r.left = []) : Remains s k (some r)
  | stays {r r' : Run} (hk : s.runs[k]? = some r) (h : Stays r r') : Remains s k (some r')

theorem remains_self (s : Service) (k : Nat) : Remains s k s.runs[k]? := by
  rcases hk : s.runs[k]? with _ | r
  · exact .absent hk
  · exact .stays hk (.refl r)

/-- After a call a run is new, or it stays. -/
theorem Called.remains {o : Option Run} (h : Called s k o) : Remains s k o := by
  cases h with
  | absent hk => exact .absent hk
  | added hk pending => exact .added hk (Run.left_of_not_running (by simp [pending]))
  | kept hk => exact .stays hk (.refl _)
  | canceled hk => exact .stays hk (stays_cancel _)

/-- Only its own job makes a run tell anything. -/
theorem Moves.remains (hm : Moves s d s') (hs : Sound s) (other : ∀ rs, d ≠ .worked (.lint k) rs) :
    Remains s k s'.runs[k]? := by
  have called (quiet : ∀ j rs, d ≠ .worked j rs) : Remains s k s'.runs[k]? := ((hm.called hs quiet).2 k).remains
  cases hm with
  | call drops _ _ _ quiet => exact called quiet
  | queue => exact called (by simp)
  | drain hj =>
    rw [(fields_drain _).1]
    exact remains_self s k
  | @turn i hj =>
    rcases hi : s.runs[i]? with _ | r
    · rw [takeTurn_of_none (s := s.without (.turn i)) hi]
      exact remains_self s k
    rw [runs_takeTurn (s := s.without (.turn i)) hi]
    by_cases hik : i = k
    · subst hik
      obtain ⟨a, rs, p, stands⟩ := hs.stands i r hi
      rw [runs_without, List.getElem?_set_self (List.getElem?_eq_some_iff.mp hi).1]
      exact .stays hi (stays_start stands)
    · rw [List.getElem?_set_ne hik]
      exact remains_self s k
  | @lint i env hj =>
    have ne : i ≠ k := by
      rintro rfl
      exact other _ rfl
    rcases hi : s.runs[i]? with _ | r
    · rw [lint_of_none (s := s.without (.lint i)) hi]
      exact remains_self s k
    obtain ⟨a, rs, p, stands⟩ := hs.stands i r hi
    obtain ⟨told, r', alters, -⟩ := lints_lint env (s := s.without (.lint i)) hi stands
    rw [alters.runs, List.getElem?_set_ne ne]
    exact remains_self s k

/-- What a run has told in a chronicle, and how it stands: its linter has come to nothing yet, and the run has told
nothing; or it has come to a result, and what the run has told and has left is taken in order from its tidings. -/
inductive Spoken (k : Nat) (es : List Entry) : Option Run → Prop
  | silent {o : Option Run} (hn : Entry.notices (Entry.byRun k es) = []) (hr : Entry.reports (Entry.byRun k es) = [])
      (hl : ∀ r, o = some r → r.left = []) : Spoken k es o
  | done {r : Run} {a : Assignment} {result : Except LintError LintReport}
      (hn : (Entry.notices (Entry.byRun k es) ++ r.left).Sublist (tidings a result))
      (hr : Entry.reports (Entry.byRun k es) = result.toOption.toList) (hp : r.phase.isSpent = true) :
      Spoken k es (some r)

/-- What a run has told stays as it is while its job does nothing. -/
theorem Spoken.remains {o : Option Run} (h : Spoken k es s.runs[k]?) (hr : Remains s k o)
    (other : Entry.byRun k (e :: es) = Entry.byRun k es) : Spoken k (e :: es) o := by
  cases hr with
  | absent hk | added hk =>
    rw [hk] at h
    cases h with
    | silent hn hr hl => exact .silent (other ▸ hn) (other ▸ hr) (by simp_all)
  | stays hk stays =>
    rw [hk] at h
    cases h with
    | silent hn hr hl =>
      refine .silent (other ▸ hn) (other ▸ hr) fun r' same => ?_
      obtain rfl := Option.some.inj same
      have none := stays.left
      rw [hl _ rfl] at none
      exact List.sublist_nil.mp none
    | done hn hr hp => exact .done (other ▸ ((stays.left.append_left _).trans hn)) (other ▸ hr) (stays.spent hp)

/-- A run that is not there tells nothing. -/
theorem Spoken.absent (h : Spoken k es none) (own : Entry.byRun k (e :: es) = e :: Entry.byRun k es)
    (ht : e.told = []) (hr : e.report = none) : Spoken k (e :: es) none := by
  cases h with
  | silent hn never =>
    have notices : Entry.notices (Entry.byRun k (e :: es)) = [] := by simp [own, hn, ht]
    have reports : Entry.reports (Entry.byRun k (e :: es)) = [] := by simp [own, never, hr]
    exact .silent notices reports (by simp)

/-- What a run has told when its job has gone on. -/
theorem Spoken.lint (h : Spoken k es (some r)) (hk : s.runs[k]? = some r)
    (order : (e.told.reverse ++ r'.left).Sublist (r.left ++ news env (.lint k) s))
    (spent : r.phase.isSpent = true ∨ (outcome? env (.lint k) s).isSome = true → r'.phase.isSpent = true)
    (own : Entry.byRun k (e :: es) = e :: Entry.byRun k es) (hr : e.report = report? env (.lint k) s) :
    Spoken k (e :: es) (some r') := by
  have notices : Entry.notices (Entry.byRun k (e :: es)) = Entry.notices (Entry.byRun k es) ++ e.told.reverse := by
    rw [own, Entry.notices_cons]
  have reports : Entry.reports (Entry.byRun k (e :: es)) =
      Entry.reports (Entry.byRun k es) ++ (report? env (.lint k) s).toList := by
    rw [own, Entry.reports_cons, hr]
  cases h with
  | silent none never hl =>
    rw [none, List.nil_append] at notices
    rw [never, List.nil_append] at reports
    rw [hl r rfl, List.nil_append] at order
    rcases ho : outcome? env (.lint k) s with _ | ⟨a, result⟩
    · rw [news_of_none ho] at order
      obtain ⟨told, left⟩ := List.append_eq_nil_iff.mp (List.sublist_nil.mp order)
      refine .silent (notices.trans told) (reports.trans ?_) (by simpa using left)
      rw [report?, ho]
      rfl
    · rw [news, ho] at order
      have told : (Entry.notices (Entry.byRun k (e :: es)) ++ r'.left).Sublist (tidings a result) := by rwa [notices]
      refine .done told (reports.trans ?_) (spent (Or.inr (by rw [ho]; rfl)))
      rw [report?, ho]
      rfl
  | @done _ a result hn hr hp =>
    have none : outcome? env (.lint k) s = none := outcome?_of_spent hk hp
    rw [news_of_none none, List.append_nil] at order
    have told : (Entry.notices (Entry.byRun k (e :: es)) ++ r'.left).Sublist (tidings a result) := by
      rw [notices, List.append_assoc]
      exact (order.append_left _).trans hn
    refine .done told ?_ (spent (Or.inl hp))
    rw [reports, report?, none, hr]
    exact List.append_nil _

/-- What a run has told in a chronicle comes from one result of its linter. -/
theorem Chronicle.spoken (h : Chronicle c script delays es s) (k : Nat) : Spoken k es s.runs[k]? := by
  induction h with
  | start => exact .silent rfl rfl (by simp [Service.start])
  | call h hd quiet _ _ ih =>
    have other := fun rs => quiet (.lint k) rs
    exact ih.remains (hd.moves.remains h.history.sound other) (Entry.byRun_cons_other other)
  | @work es s j told env h hj ht ih =>
    by_cases other : j = .lint k
    · subst other
      let e : Entry := ⟨⟨.worked (.lint k) (heard env (.lint k) s), told⟩, report? env (.lint k) s⟩
      have own : Entry.byRun k (e :: es) = e :: Entry.byRun k es := Entry.byRun_cons_self ⟨_, rfl⟩
      rcases hk : s.runs[k]? with _ | r
      · rw [runJob_lint_of_none hk] at ht ⊢
        rw [hk] at ih
        rw [runs_without, hk]
        exact ih.absent own (told_eq_nil ht rfl) (by simp [report?, outcome?, hk])
      · obtain ⟨r', speaks⟩ := h.history.sound.speaks env hk ht
        have found : ((s.without (.lint k)).runJob env (.lint k)).runs[k]? = some r' := speaks.at hk
        rw [hk] at ih
        rw [found]
        exact ih.lint hk speaks.order speaks.spent own rfl
    · have other : ∀ rs, Deed.worked j (heard env j s) ≠ .worked (.lint k) rs := by simp [other]
      exact ih.remains ((Does.work env hj).moves.remains h.history.sound other) (Entry.byRun_cons_other other)

/-! ## An outside that takes no time -/

/-- Where the outside never takes its time, nobody ever has anything left to tell. -/
theorem Does.heard_out (hd : Does s d s') (hs : Sound s) (never : true ∉ s.delays)
    (idle : ∀ (k : Nat) (r : Run), s.runs[k]? = some r → r.left = []) :
    s'.delays <:+ s.delays ∧ ∀ (k : Nat) (r : Run), s'.runs[k]? = some r → r.left = [] := by
  have others (k : Nat) (other : ∀ rs, d ≠ .worked (.lint k) rs) (r : Run) (hk : s'.runs[k]? = some r) :
      r.left = [] := by
    have remains := hd.moves.remains hs other
    rw [hk] at remains
    cases remains with
    | added _ left => exact left
    | stays hk stays =>
      have none := stays.left
      rw [idle k _ hk] at none
      exact List.sublist_nil.mp none
  have silent (same : s'.onRecord = s.onRecord) : s'.delays <:+ s.delays :=
    (Hushed.of_onRecord same).delays ▸ List.suffix_refl _
  by_cases quiet : ∀ j rs, d ≠ .worked j rs
  · exact ⟨hd.delays quiet ▸ List.suffix_refl _, fun k => others k fun rs => quiet _ rs⟩
  cases hd with
  | @work env j _ hj =>
    cases j with
    | drain => exact ⟨silent (onRecord_drain _), fun k => others k (by simp)⟩
    | turn i => exact ⟨silent (onRecord_takeTurn i _), fun k => others k (by simp)⟩
    | lint i =>
      rcases hi : s.runs[i]? with _ | r
      · rw [runJob_lint_of_none hi]
        exact ⟨List.suffix_refl _, idle⟩
      obtain ⟨a, rs, p, stands⟩ := hs.stands i r hi
      obtain ⟨told, r', speaks⟩ := speaks_lint env (s := s.without (.lint i)) hi stands
      refine ⟨speaks.delays, fun k r'' hk => ?_⟩
      by_cases own : i = k
      · subst own
        obtain rfl := Option.some.inj (hk.symm.trans (speaks.at hi))
        by_contra left
        exact never (speaks.waits (idle i r hi) left)
      · exact others k (by simp [own]) r'' hk
  | _ => exact absurd (by simp) quiet

/-- Where the outside never takes its time, every run tells all it has to tell at once. -/
theorem History.heard_out {es : List Event} (h : History c script delays es s) (never : true ∉ delays) :
    s.delays <:+ delays ∧ ∀ (k : Nat) (r : Run), s.runs[k]? = some r → r.left = [] := by
  induction h with
  | start => exact ⟨List.suffix_refl _, by simp [Service.start]⟩
  | next h hd _ ih =>
    obtain ⟨delays, idle⟩ := hd.heard_out (History.sound h) (fun late => never (ih.1.subset late)) ih.2
    exact ⟨delays.trans ih.1, idle⟩

/-- Where the outside never takes its time, every history is a chronicle. -/
theorem History.chronicle {es : List Event} (h : History c script delays es s) (never : true ∉ delays) :
    ∃ entries, entries.map (·.toEvent) = es ∧ Chronicle c script delays entries s := by
  induction h with
  | start => exact ⟨[], rfl, .start⟩
  | @next es s s' e h hd ht ih =>
    obtain ⟨entries, rfl, chronicle⟩ := ih
    obtain ⟨-, idle⟩ := History.heard_out h never
    by_cases quiet : ∀ j rs, e.deed ≠ .worked j rs
    · have heard : s.Undisturbed e.deed s' := fun k r hk left => absurd (idle k r hk) left
      exact ⟨⟨e, none⟩ :: entries, rfl, .call chronicle hd quiet heard ht⟩
    obtain ⟨deed, told⟩ := e
    cases hd with
    | @work env j _ hj => exact ⟨⟨⟨_, told⟩, report? env j s⟩ :: entries, rfl, .work env chronicle hj ht⟩
    | _ => exact absurd (by simp) quiet

end ElixirLint.Service
