import ElixirLint.Proofs.Service.History

/-!
# Runs that are not done are in the queue

The loop is in one place at most: it has a job that drains the queue or takes a turn, or its turn waits. So it takes a
run out of the queue only when the run is done, and a run that is not done is in the queue, where whoever clears its
document finds it. A document that is handed in cancels the runs before it, so there is one run at most for each
document that is not done.

Main results: `History.queues`.
-/

namespace ElixirLint.Service

variable {s s' : Service} {d : Deed} {i k : Nat} {r : Run} {a : Assignment} {told : List Notice}

/-- The runs are those that were there before, and those that were done are done. -/
def Ages (s s' : Service) : Prop :=
  ∀ (k : Nat) (r' : Run), s'.runs[k]? = some r' →
    ∃ r, s.runs[k]? = some r ∧ r'.task.key = r.task.key ∧ (r.isOver = true → r'.isOver = true)

/-- A run that is not done was not done before. -/
theorem Ages.live {r' : Run} (h : Ages s s') (hk : s'.runs[k]? = some r') (live : r'.isOver = false) :
    ∃ r, s.runs[k]? = some r ∧ r'.task.key = r.task.key ∧ r.isOver = false := by
  obtain ⟨r, hr, key, ends⟩ := h k r' hk
  refine ⟨r, hr, key, Bool.eq_false_iff.mpr fun done => ?_⟩
  rw [ends done] at live
  cases live

/-- The queue holds all runs that are not done, and the loop is in one place at most. -/
structure Queues (s : Service) : Prop where
  /-- A run that is not done is in the queue. -/
  waits : ∀ (k : Nat) (r : Run), s.runs[k]? = some r → r.isOver = false → k ∈ s.deque
  /-- A document has one run at most that is not done. -/
  alone : ∀ (k k' : Nat) (r r' : Run), s.runs[k]? = some r → s.runs[k']? = some r' → r.isOver = false →
    r'.isOver = false → r.task.key = r'.task.key → k = k'
  /-- The run that has its turn is the first in the queue. -/
  head : ∀ i, s.turn = some i → s.deque.head? = some i
  /-- Only the run that has its turn is looked at. -/
  turns : ∀ i, .turn i ∈ s.jobs → s.turn = some i
  /-- The loop goes on only when the run that has its turn is done. -/
  drains : .drain ∈ s.jobs → ∀ (i : Nat) (r : Run), s.turn = some i → s.runs[i]? = some r → r.isOver = true
  /-- The loop is in one place at most. -/
  place : s.places ≤ s.busy.toNat
  /-- A loop that has ended leaves nothing behind. -/
  idle : s.busy = false → s.deque = [] ∧ s.turn = none

namespace Queues

/-- Nothing of this changes when the queue is spared and runs only come to their ends. -/
theorem of_spares (h : Queues s) (hs : Spares s s') (ha : Ages s s') : Queues s' where
  waits k r' hk live := by
    obtain ⟨r, hr, -, before⟩ := ha.live hk live
    rw [hs.deque]
    exact h.waits k r hr before
  alone k k' r₁ r₂ h₁ h₂ live₁ live₂ key := by
    obtain ⟨r, hr, key₁, before₁⟩ := ha.live h₁ live₁
    obtain ⟨r', hr', key₂, before₂⟩ := ha.live h₂ live₂
    exact h.alone k k' r r' hr hr' before₁ before₂ (by rw [← key₁, ← key₂, key])
  head i hi := by
    rw [hs.deque]
    exact h.head i (hs.turn ▸ hi)
  turns i hi := by
    rw [hs.turn]
    rcases hs.loops _ hi rfl with hi | ⟨i', same, hi'⟩
    · exact h.turns i hi
    · cases same
      exact hi'
  drains hj i r' ht hi := by
    obtain ⟨r, hr, -, ends⟩ := ha i r' hi
    rcases hs.loops _ hj rfl with hj | ⟨_, same, _⟩
    · exact ends (h.drains hj i r (hs.turn ▸ ht) hr)
    · cases same
  place := by
    rw [hs.busy]
    exact Nat.le_trans hs.places h.place
  idle hb := by
    rw [hs.deque, hs.turn]
    exact h.idle (hs.busy ▸ hb)

/-- Settings and documents do not matter to the queue. -/
theorem with_settings (h : Queues s) (c : Config) (folders : List Path) (tracked : List DocumentUri) :
    Queues { s with config := c, folders := folders, tracked := tracked } :=
  ⟨h.waits, h.alone, h.head, h.turns, h.drains, h.place, h.idle⟩

/-- Tracking a document leaves the queue in shape. -/
theorem track (h : Queues s) (uri : DocumentUri) : Queues (s.track uri) := by
  rw [track_eq]
  exact h.with_settings ..

/-- Where the loop does a job of its own, it is nowhere else. -/
theorem without_loop {j : ServiceJob} (h : Queues s) (hj : j ∈ s.jobs) (hl : j.isLoop = true) :
    s.busy = true ∧ (s.without j).places = 0 := by
  have count : (s.without j).places + 1 = s.places := by
    have split := (List.perm_cons_erase hj).countP_eq ServiceJob.isLoop
    rw [List.countP_cons_of_pos hl] at split
    simp only [places, without]
    omega
  have place := h.place
  rcases hb : s.busy
  · rw [hb, Bool.toNat_false] at place
    omega
  · rw [hb, Bool.toNat_true] at place
    exact ⟨rfl, by omega⟩

end Queues

/-- A loop that is nowhere has no jobs and does not wait. -/
theorem none_of_places (h : s.places = 0) : (∀ j ∈ s.jobs, j.isLoop = false) ∧ s.listening = false := by
  unfold places at h
  constructor
  · intro j hj
    have none := List.countP_eq_zero.mp (Nat.eq_zero_of_add_eq_zero_right h) j hj
    simpa using none
  · simpa using Nat.eq_zero_of_add_eq_zero_left h

/-- A loop that is nowhere goes on with a job. -/
theorem Queues.schedule {j : ServiceJob} (h : Queues s) (nowhere : s.places = 0) (busy : s.busy = true)
    (ht : ∀ i, j = .turn i → s.turn = some i)
    (hd : j = .drain → ∀ (i : Nat) (r : Run), s.turn = some i → s.runs[i]? = some r → r.isOver = true) :
    Queues (s.schedule j) := by
  have places : (s.schedule j).places ≤ 1 := by
    have one : [j].countP ServiceJob.isLoop ≤ 1 := List.countP_le_length
    have more := places_schedule_le j s
    omega
  rw [schedule_eq] at places ⊢
  refine ⟨h.waits, h.alone, h.head, ?_, ?_, ?_, h.idle⟩
  · intro i hi
    rcases mem_jobs_schedule.mp hi with hi | hi
    · exact h.turns i hi
    · exact ht i hi.symm
  · intro hj
    rcases mem_jobs_schedule.mp hj with hj | hj
    · exact h.drains hj
    · exact hd hj.symm
  · rw [busy]
    exact places

/-- The run that has its turn has been looked at. -/
theorem Queues.turn (h : Queues s) (hs : Sound s) (hj : .turn i ∈ s.jobs)
    (ha : Ages s ((s.without (.turn i)).takeTurn i)) : Queues ((s.without (.turn i)).takeTurn i) := by
  obtain ⟨busy, nowhere⟩ := h.without_loop hj rfl
  rcases hi : s.runs[i]? with _ | r
  · rw [takeTurn_of_none (s := s.without (.turn i)) hi] at ha ⊢
    exact h.of_spares (keeps_without _ s).toSpares ha
  obtain ⟨a, rs, p, stands⟩ := hs.stands i r hi
  obtain ⟨s₁, alters, result⟩ := takeTurn_spec (s := s.without (.turn i)) hi
  have runs : (takeTurn i (s.without (.turn i))).runs = s₁.runs :=
    (runs_takeTurn (s := s.without (.turn i)) hi).trans alters.runs.symm
  have before := h.of_spares ((keeps_without _ s).toSpares.trans alters.toSpares) (by rwa [Ages, ← runs])
  have zero : s₁.places = 0 := Nat.eq_zero_of_le_zero (nowhere ▸ alters.places)
  have busy₁ : s₁.busy = true := alters.busy.trans busy
  have turn₁ : s₁.turn = some i := alters.turn.trans (h.turns i hj)
  rw [result]
  by_cases hd : r.start.task.done = true
  · rw [if_pos hd]
    refine before.schedule zero busy₁ (by simp) fun _ k r' ht hk => ?_
    cases turn₁.symm.trans ht
    cases (alters.at hi).symm.trans hk
    rw [← stands.start.done]
    exact hd
  · rw [if_neg hd]
    refine ⟨before.waits, before.alone, before.head, before.turns, before.drains, ?_, before.idle⟩
    have listens : ({ s₁ with listening := true } : Service).places ≤ s₁.places + 1 := by
      simp only [places, Bool.toNat_true]
      omega
    refine Nat.le_trans listens ?_
    rw [zero, busy₁]
    decide

/-- The run that had its turn is done when the loop goes on, so all that are not are still in the queue. -/
theorem Queues.mem_rest (h : Queues s) (hj : .drain ∈ s.jobs) (hk : s.runs[k]? = some r) (live : r.isOver = false) :
    k ∈ s.rest := by
  have queued := h.waits k r hk live
  unfold rest
  split
  · rename_i ht
    obtain ⟨i, hi⟩ := Option.isSome_iff_exists.mp ht
    have head := h.head i hi
    rcases hd : s.deque with _ | ⟨i', is⟩
    · simp [hd] at head
    · rw [hd] at head queued
      cases head
      rcases List.mem_cons.mp queued with rfl | queued
      · simp [h.drains hj k r hi hk] at live
      · exact queued
  · exact queued

/-- The loop has gone on. -/
theorem Queues.drain (h : Queues s) (hj : .drain ∈ s.jobs) : Queues (s.without .drain).drain := by
  obtain ⟨busy, nowhere⟩ := h.without_loop hj rfl
  obtain ⟨loops, -⟩ := none_of_places nowhere
  have waits : ∀ (k : Nat) (r : Run), s.runs[k]? = some r → r.isOver = false → k ∈ (s.without .drain).rest :=
    fun k r hk live => h.mem_rest hj hk live
  have turns : ∀ i, .turn i ∉ (s.without .drain).jobs := fun i hi => by cases loops _ hi
  have drains : .drain ∉ (s.without .drain).jobs := fun hi => by cases loops _ hi
  rcases drain_cases (s.without .drain) with ⟨hr, result⟩ | ⟨i, is, hr, result⟩
  · rw [hr] at waits
    rw [result]
    exact ⟨waits, h.alone, by simp, fun i hi => absurd hi (turns i), fun hi => absurd hi drains, Nat.le_of_eq nowhere,
      by simp⟩
  · rw [hr] at waits
    let s₁ : Service := { s.without .drain with deque := i :: is, turn := some i, listening := false }
    have zero : s₁.places = 0 := by
      have none : s₁.jobs.countP ServiceJob.isLoop = 0 :=
        List.countP_eq_zero.mpr fun j hj => Bool.eq_false_iff.mp (loops j hj)
      simp only [places, none]
      rfl
    have next : Queues s₁ := ⟨waits, h.alone, fun k hk => hk, fun k hk => absurd hk (turns k),
      fun hk => absurd hk drains, by rw [zero]; exact Nat.zero_le _, fun hb => by cases busy.symm.trans hb⟩
    rw [result]
    exact next.schedule zero busy (fun k hk => by cases hk; rfl) (by simp)

/-- A run that is not done after a document was handed in was there before, for another document, or it is the one that
has been added. -/
theorem Enqueues.live (he : Enqueues a s s') (h : Queues s) (hk : s'.runs[k]? = some r) (live : r.isOver = false) :
    (k = s.runs.length ∧ r.task.key = a.target.document.uri) ∨
      s.runs[k]? = some r ∧ r.task.key ≠ a.target.document.uri := by
  rcases Nat.lt_trichotomy k s.runs.length with lt | rfl | gt
  · right
    have old := List.getElem?_eq_getElem lt
    have now := he.others k _ old
    rw [hk] at now
    by_cases hm : k ∈ s.runsFor a.target.document.uri
    · rw [if_pos hm] at now
      cases now
      simp [Run.isOver_cancel] at live
    · rw [if_neg hm] at now
      cases now
      refine ⟨old, fun key => hm ?_⟩
      exact mem_runsFor.mpr ⟨h.waits k _ old live, _, old, key⟩
  · cases he.added.symm.trans hk
    exact Or.inl ⟨rfl, rfl⟩
  · have lt := (List.getElem?_eq_some_iff.mp hk).1
    rw [he.length] at lt
    omega

/-- A run has been queued: those before it for the same document are done now. -/
theorem Queues.enqueue (h : Queues s) (hs : Sound s) (he : Enqueues a s s') : Queues s' := by
  refine ⟨?_, ?_, ?_, ?_, ?_, ?_, ?_⟩
  · intro k r' hk hl
    rw [he.deque, List.mem_append, List.mem_singleton]
    rcases he.live h hk hl with ⟨rfl, -⟩ | ⟨old, -⟩
    · exact Or.inr rfl
    · exact Or.inl (h.waits k r' old hl)
  · intro k k' r₁ r₂ h₁ h₂ live₁ live₂ key
    rcases he.live h h₁ live₁ with ⟨rfl, key₁⟩ | ⟨old₁, key₁⟩ <;>
      rcases he.live h h₂ live₂ with ⟨rfl, key₂⟩ | ⟨old₂, key₂⟩
    · rfl
    · exact absurd (key.symm.trans key₁) key₂
    · exact absurd (key.trans key₂) key₁
    · exact h.alone k k' r₁ r₂ old₁ old₂ live₁ live₂ key
  · intro i hi
    have head := h.head i (he.turn ▸ hi)
    rw [he.deque, List.head?_append, head]
    rfl
  · intro i hi
    rw [he.turn]
    rcases he.loops _ hi rfl with hi | ⟨i', same, hi'⟩ | ⟨same, -⟩
    · exact h.turns i hi
    · cases same
      exact hi'
    · cases same
  · intro hj i r' ht hi
    rw [he.turn] at ht
    rcases he.loops _ hj rfl with hj | ⟨_, same, _⟩ | ⟨-, hb⟩
    · rcases Bool.eq_false_or_eq_true r'.isOver with done | running
      · exact done
      · rcases he.live h hi running with ⟨rfl, -⟩ | ⟨old, -⟩
        · exact absurd (hs.bound _ (List.mem_of_mem_head? (h.head _ ht))) (Nat.lt_irrefl _)
        · exact h.drains hj i r' ht old
    · cases same
    · rw [(h.idle hb).2] at ht
      cases ht
  · have place := h.place
    have places := he.places
    rw [he.busy]
    cases hb : s.busy
    · simp only [hb, Bool.toNat_false, Bool.not_false, Bool.toNat_true] at place places ⊢
      omega
    · simp only [hb, Bool.toNat_true, Bool.not_true, Bool.toNat_false] at place places ⊢
      omega
  · intro hb
    cases he.busy.symm.trans hb

/-- Runs that are there before and after a deed are the same, and those that were done are done. -/
theorem Moves.ages (hm : Moves s d s') (hs : Sound s) (ht : s'.notices = told ++ s.notices)
    (hl : s'.runs.length = s.runs.length) : Ages s s' := by
  intro k r' hk
  have lt : k < s.runs.length := hl ▸ (List.getElem?_eq_some_iff.mp hk).1
  have old := List.getElem?_eq_getElem lt
  obtain ⟨a, rs, p, stands⟩ := hs.stands k _ old
  obtain ⟨r'', hk', stands', ends⟩ := hm.runs hs ht old stands
  cases hk.symm.trans hk'
  exact ⟨_, old, by rw [stands'.key, stands.key], ends⟩

/-- The queue holds all runs that are not done, whatever is done to the service. -/
theorem Moves.queues (hm : Moves s d s') (hs : Sound s) (ht : s'.notices = told ++ s.notices) (h : Queues s) :
    Queues s' := by
  have ages (hl : ∀ doc k, d ≠ .handed doc (.queued k)) : Ages s s' := by
    rcases hm.length hs with same | ⟨doc, hd, -⟩
    · exact hm.ages hs ht same
    · exact absurd hd (hl doc _)
  cases hm with
  | call drops _ _ _ _ unqueued =>
    refine h.of_spares (Spares.trans ?_ drops.toSpares) (ages unqueued)
    exact .of_eq rfl rfl rfl rfl rfl
  | queue =>
    refine (h.track _).enqueue ?_ (hs.enqueues _ _)
    rw [track_eq]
    exact ⟨hs.stands, hs.bound⟩
  | drain hj => exact h.drain hj
  | turn hj => exact h.turn hs hj (ages (by simp))
  | lint env hj =>
    exact h.of_spares ((keeps_without _ s).toSpares.trans ((hs.without _).keeps_lint ..).1.toSpares) (ages (by simp))

variable {c : Config} {script : List Reply} {delays : List Bool} {es : List Event}

/-- In every history the queue is in shape. -/
theorem History.queues (h : History c script delays es s) : Queues s := by
  induction h with
  | start => constructor <;> simp [Service.start, places]
  | next h hd ht ih => exact hd.moves.queues (History.sound h) ht ih

end ElixirLint.Service
