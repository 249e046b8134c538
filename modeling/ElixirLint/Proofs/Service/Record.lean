import ElixirLint.Proofs.Service.History

/-!
# What the service has on record

Settings, commands, what has been told and what is known to have been shown: the queue, its loop and the ends of runs
touch none of it (`onRecord`). So a call starts no command and shows no warning, and only one that changes the
configuration forgets which warnings have been shown.

Main results: `onRecord_drain`, `onRecord_takeTurn`, `onRecord_enqueue`, `Does.calls`, `Does.notified`.
-/

namespace ElixirLint.Service

/-- The service without its runs, its queue, and the documents that it tracks. -/
def onRecord (s : Service) : Service :=
  { s with tracked := [], runs := [], deque := [], busy := false, turn := none, listening := false, jobs := [] }

@[simp]
theorem onRecord_modifyRun (i : Nat) (f : Run → Run) (s : Service) : (s.modifyRun i f).onRecord = s.onRecord := rfl

@[simp]
theorem onRecord_schedule (j : ServiceJob) (s : Service) : (s.schedule j).onRecord = s.onRecord := by
  rw [schedule_eq]
  rfl

@[simp]
theorem onRecord_wake (i : Nat) (s : Service) : (s.wake i).onRecord = s.onRecord := by
  unfold wake
  split
  · exact onRecord_schedule ..
  · rfl

@[simp]
theorem onRecord_complete (i : Nat) (s : Service) : (s.complete i).onRecord = s.onRecord := by
  unfold complete
  split
  · rfl
  · split <;> simp

@[simp]
theorem onRecord_conclude (i : Nat) (s : Service) : (s.conclude i).onRecord = s.onRecord := onRecord_complete ..

@[simp]
theorem onRecord_drain (s : Service) : s.drain.onRecord = s.onRecord := by
  rcases drain_cases s with ⟨-, h⟩ | ⟨i, is, -, h⟩
  · rw [h]
    rfl
  · rw [h]
    exact onRecord_schedule ..

@[simp]
theorem onRecord_takeTurn (i : Nat) (s : Service) : (s.takeTurn i).onRecord = s.onRecord := by
  have listens (s : Service) : ({ s with listening := true } : Service).onRecord = s.onRecord := rfl
  unfold takeTurn
  rcases s.runs[i]? with _ | r
  · rfl
  · rcases hb : r.task.start.2 with _ | a
    all_goals
      simp only [hb]
      split
      · split <;> simp [listens]
      · simp

@[simp]
theorem onRecord_accept (i : Nat) (s : Service) : (s.accept i).onRecord = s.onRecord := by
  unfold accept
  split
  · split <;> simp
  · rfl

@[simp]
theorem onRecord_track (uri : DocumentUri) (s : Service) : (s.track uri).onRecord = s.onRecord := by
  unfold track
  split <;> rfl

@[simp]
theorem onRecord_cancelRun (i : Nat) (s : Service) : (s.cancelRun i).onRecord = s.onRecord := by
  unfold cancelRun
  rcases s.runs[i]? with _ | r
  · rfl
  · simp only
    split
    · rfl
    · cases r.task.beginCancel.2 <;> simp

/-- Canceling runs leaves the record alone: nothing is told and no command is started. -/
@[simp]
theorem onRecord_cancelEach (is : List Nat) (s : Service) : (s.cancelEach is).onRecord = s.onRecord := by
  unfold cancelEach
  induction is generalizing s with
  | nil => rfl
  | cons i is ih => rw [List.foldl_cons, ih, onRecord_cancelRun]

/-- Queuing a run leaves the record alone. -/
@[simp]
theorem onRecord_enqueue (a : Assignment) (s : Service) : (s.enqueue a).onRecord = s.onRecord := by
  unfold enqueue
  simp only
  split
  · exact onRecord_cancelEach ..
  · rw [onRecord_schedule]
    exact onRecord_cancelEach ..

variable {s s' : Service} {d : Deed}

/-- The outside takes its time only where it was to. -/
theorem mem_delays_of_pause {n : Notice} (h : ((s.note n).emit n).pause.1 = true) : true ∈ s.delays := by
  have head : (s.delays.head?).getD false = true := by
    cases n with
    | notify level message => cases level <;> exact h
    | publish | clear => exact h
  rcases hd : s.delays with _ | ⟨b, bs⟩
  · rw [hd] at head
    cases head
  · rw [hd] at head
    exact head ▸ .head bs

/-- What the outside is told costs it one moment. -/
theorem delays_told (n : Notice) (s : Service) : ((s.note n).emit n).pause.2.delays = s.delays.tail := by
  cases n with
  | notify level message => cases level <;> rfl
  | publish | clear => rfl

/-! ## Calls -/

/-- Whether a deed changes the configuration. -/
def Deed.isChange : Deed → Bool
  | .configured _ => true
  | _ => false

theorem calls_of_onRecord (h : s'.onRecord = s.onRecord) : s'.calls = s.calls :=
  show s'.onRecord.calls = s.onRecord.calls by rw [h]

/-- The warnings that have been shown, and the moments at which the outside will take its time, are the same. -/
structure Hushed (s s' : Service) : Prop where
  notified : s'.notified = s.notified
  delays : s'.delays = s.delays

theorem Hushed.trans {s₁ : Service} (h : Hushed s s₁) (h' : Hushed s₁ s') : Hushed s s' :=
  ⟨h'.notified.trans h.notified, h'.delays.trans h.delays⟩

/-- The warnings and the moments of delay are on record. -/
theorem Hushed.of_onRecord (h : s'.onRecord = s.onRecord) : Hushed s s' :=
  ⟨show s'.onRecord.notified = s.onRecord.notified by rw [h], show s'.onRecord.delays = s.onRecord.delays by rw [h]⟩

/-- No command is started either. -/
structure Recalls (s s' : Service) : Prop extends Hushed s s' where
  calls : s'.calls = s.calls

theorem Recalls.refl (s : Service) : Recalls s s := ⟨⟨rfl, rfl⟩, rfl⟩

theorem Recalls.trans {s₁ : Service} (h : Recalls s s₁) (h' : Recalls s₁ s') : Recalls s s' :=
  ⟨h.toHushed.trans h'.toHushed, h'.calls.trans h.calls⟩

/-- Whatever leaves the record alone starts no command and shows no warning. -/
theorem Recalls.of_onRecord (h : s'.onRecord = s.onRecord) : Recalls s s' := ⟨.of_onRecord h, calls_of_onRecord h⟩

/-- Clearing a document publishes, but starts no command and shows no warning. -/
theorem recalls_clear (uri : DocumentUri) (s : Service) : Recalls s (s.clear uri) := by
  unfold Service.clear
  split
  · exact .refl s
  · exact (Recalls.of_onRecord (onRecord_cancelEach (s.runsFor uri) s)).trans ⟨⟨rfl, rfl⟩, rfl⟩

/-- Clearing several documents starts no command and shows no warning. -/
theorem recalls_clearEach (us : List DocumentUri) (s : Service) : Recalls s (us.foldl (fun s u => s.clear u) s) := by
  induction us generalizing s with
  | nil => exact .refl s
  | cons u us ih => exact (recalls_clear u s).trans (ih (s.clear u))

/-- Letting a command go starts none. -/
theorem recalls_release (n : Nat) (s : Service) : Recalls s (s.release n).1 := by
  have released : Recalls s (s.setHang n .released) := ⟨⟨rfl, rfl⟩, rfl⟩
  unfold Service.release
  split
  · split
    · exact released.trans (.of_onRecord (onRecord_schedule ..))
    · exact .refl s
  · exact .refl s

/-- A call that does not change the configuration starts no command and shows no warning. -/
theorem Does.recalls (h : Does s d s') (quiet : ∀ j rs, d ≠ .worked j rs) (kept : d.isChange = false) :
    Recalls s s' := by
  cases h with
  | execute env doc =>
    unfold Service.execute
    split
    · exact .refl s
    · exact .of_onRecord ((onRecord_enqueue ..).trans (onRecord_track ..))
  | executeOutside env doc =>
    unfold Service.executeOutside
    split
    · exact .refl s
    · exact .of_onRecord (onRecord_track ..)
  | clear uri => exact recalls_clear uri s
  | clearAll => exact recalls_clearEach _ s
  | configure => cases kept
  | setFolders => exact ⟨⟨rfl, rfl⟩, rfl⟩
  | shutdown => exact .of_onRecord (onRecord_cancelEach ..)
  | cancel i => exact .of_onRecord (onRecord_cancelRun ..)
  | release n => exact recalls_release n s
  | accept i => exact .of_onRecord (onRecord_accept ..)
  | work env => exact absurd rfl (quiet _ _)

/-- Whatever is called starts no command. -/
theorem Does.calls (h : Does s d s') (quiet : ∀ j rs, d ≠ .worked j rs) : s'.calls = s.calls := by
  rcases Bool.eq_false_or_eq_true d.isChange with changes | kept
  · cases h with
    | configure => rfl
    | _ => cases changes
  · exact (h.recalls quiet kept).calls

/-- A new configuration forgets which warnings have been shown; all other calls leave them alone. -/
theorem Does.notified (h : Does s d s') (quiet : ∀ j rs, d ≠ .worked j rs) :
    s'.notified = if d.isChange then [] else s.notified := by
  rcases Bool.eq_false_or_eq_true d.isChange with changes | kept
  · cases h with
    | configure => rfl
    | _ => cases changes
  · rw [kept]
    exact (h.recalls quiet kept).notified

/-- A call leaves the moments alone at which the outside will take its time. -/
theorem Does.delays (h : Does s d s') (quiet : ∀ j rs, d ≠ .worked j rs) : s'.delays = s.delays := by
  rcases Bool.eq_false_or_eq_true d.isChange with changes | kept
  · cases h with
    | configure => rfl
    | _ => cases changes
  · exact (h.recalls quiet kept).delays

end ElixirLint.Service
