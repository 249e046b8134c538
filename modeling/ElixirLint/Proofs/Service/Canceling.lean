import ElixirLint.Proofs.Service.Effect

/-!
# What the outside does to the service

Whoever clears documents, or shuts the service down, cancels runs, and may make the service forget documents and tell
that they are clear. `Drops` says which and nothing else. A document that is handed in cancels the runs before it and
adds one (`Enqueues`).

Main results: `drops_cancelEach`, `drops_clear`, `drops_clearAll`, `enqueues_enqueue`.
-/

namespace ElixirLint.Service

variable {s s' s₁ : Service} {i k : Nat} {r : Run} {a : Assignment} {is is' : List Nat} {us us' : List DocumentUri}

/-! ## Canceling -/

/-- What `cancelRun` does, step by step. -/
theorem cancelRun_eq (hi : s.runs[i]? = some r) (ht : r.isOver = false) :
    s.cancelRun i =
      let s := s.modifyRun i fun r' => { r' with task := r.task.beginCancel.1 }
      let s :=
        if r.task.beginCancel.2.isSome then (s.modifyRun i fun r => { r with aborted := true }).schedule (.lint i)
        else s
      (s.modifyRun i fun r => { r with task := r.task.resolve }).wake i := by
  unfold cancelRun
  rw [hi]
  simp only [Run.isOver] at ht
  simp only [ht]
  cases r.task.beginCancel.2 <;> rfl

/-- Canceling a run tells nothing. -/
theorem alters_cancelRun (hi : s.runs[i]? = some r) : Alters i r.cancel [] s (s.cancelRun i) := by
  by_cases ht : r.isOver = true
  · have same : s.cancelRun i = s := by
      unfold cancelRun
      rw [hi]
      exact if_pos ht
    rw [same, Run.cancel_of_isOver ht]
    exact .same (.refl s) hi rfl rfl
  rw [cancelRun_eq hi (by simpa using ht)]
  have begun := alters_modifyRun (f := fun r' => { r' with task := r.task.beginCancel.1 }) hi
  have aborted : Alters i { r with
      task := r.task.beginCancel.1, aborted := r.aborted || r.task.beginCancel.2.isSome } [] s
      (let s := s.modifyRun i fun r' => { r' with task := r.task.beginCancel.1 }
       if r.task.beginCancel.2.isSome then (s.modifyRun i fun r => { r with aborted := true }).schedule (.lint i)
       else s) := by
    by_cases hc : r.task.beginCancel.2.isSome = true
    · simp only [hc, if_true, Bool.or_true]
      have marked := begun.trans (alters_modifyRun (f := fun r => { r with aborted := true }) (begun.at hi))
      exact marked.trans (alters_schedule_lint (marked.at hi))
    · simp only [hc]
      simpa using begun
  have resolved := aborted.trans (alters_modifyRun (f := fun r => { r with task := r.task.resolve }) (aborted.at hi))
  have woken := resolved.trans (alters_wake (resolved.at hi))
  rw [Run.cancel, if_neg ht]
  exact woken

/-- Where there is no run, none is canceled. -/
theorem cancelRun_of_none (hi : s.runs[i]? = none) : s.cancelRun i = s := by
  unfold cancelRun
  rw [hi]

/-- The runs `is` are canceled and the documents `us` cleared in turn. -/
structure Drops (is : List Nat) (us : List DocumentUri) (s s' : Service) : Prop extends Spares s s' where
  config : s'.config = s.config
  folders : s'.folders = s.folders
  tracked : s'.tracked = s.tracked.filter (· ∉ us)
  notices : s'.notices = us.reverse.map .clear ++ s.notices
  runs : ∀ k, s'.runs[k]? = (s.runs[k]?).map fun r => if k ∈ is then r.cancel else r

theorem Drops.refl (s : Service) : Drops [] [] s s where
  toSpares := (Keeps.refl s).toSpares
  config := rfl
  folders := rfl
  tracked := (List.filter_eq_self.mpr (by simp)).symm
  notices := rfl
  runs k := by simp

theorem Drops.trans (h : Drops is us s s₁) (h' : Drops is' us' s₁ s') :
    Drops (is ++ is') (us ++ us') s s' where
  toSpares := h.toSpares.trans h'.toSpares
  config := h'.config.trans h.config
  folders := h'.folders.trans h.folders
  tracked := by
    rw [h'.tracked, h.tracked, List.filter_filter]
    refine List.filter_congr fun u _ => ?_
    simp [Bool.and_comm]
  notices := by
    rw [h'.notices, h.notices]
    simp
  runs k := by
    rw [h'.runs, h.runs, Option.map_map]
    congr 1
    funext r
    by_cases hk : k ∈ is <;> by_cases hk' : k ∈ is' <;> simp [hk, hk', Run.cancel_of_isOver (Run.isOver_cancel r)]

/-- A run is canceled if it is dropped, and else left as it was. -/
theorem Drops.at (h : Drops is us s s') (hk : s.runs[k]? = some r) :
    s'.runs[k]? = some (if k ∈ is then r.cancel else r) := by
  rw [h.runs, hk]
  rfl

theorem Drops.length (h : Drops is us s s') : s'.runs.length = s.runs.length := by
  have same (n : Nat) : s'.runs.length ≤ n ↔ s.runs.length ≤ n := by
    rw [← List.getElem?_eq_none_iff, ← List.getElem?_eq_none_iff, h.runs, Option.map_eq_none_iff]
  exact Nat.le_antisymm ((same _).mpr (Nat.le_refl _)) ((same _).mp (Nat.le_refl _))

/-- Canceling a run drops that run only. -/
theorem drops_cancelRun (i : Nat) (s : Service) : Drops [i] [] s (s.cancelRun i) := by
  rcases hi : s.runs[i]? with _ | r
  · rw [cancelRun_of_none hi]
    refine { Drops.refl s with runs := fun k => ?_ }
    by_cases hk : k = i
    · simp [hk, hi]
    · simp [hk]
  · have alters := alters_cancelRun hi
    have tracked := alters.tracked.trans (Drops.refl s).tracked
    refine ⟨alters.toSpares, alters.config, alters.folders, tracked, alters.notices, fun k => ?_⟩
    by_cases hk : k = i
    · subst hk
      simp [alters.at hi, hi]
    · rw [alters.runs, List.getElem?_set_ne (Ne.symm hk)]
      simp [hk]

/-- Canceling several runs cancels each of them and changes nothing else. -/
theorem drops_cancelEach (is : List Nat) (s : Service) : Drops is [] s (s.cancelEach is) := by
  induction is generalizing s with
  | nil => exact .refl s
  | cons i is ih => exact (drops_cancelRun i s).trans (ih (s.cancelRun i))

/-- Where runs and what was told stay, nothing is dropped. -/
theorem Drops.of_keeps (h : Keeps s s') (hr : s'.runs = s.runs) (hn : s'.notices = s.notices) : Drops [] [] s s' where
  toSpares := h.toSpares
  config := h.config
  folders := h.folders
  tracked := h.tracked.trans (Drops.refl s).tracked
  notices := hn
  runs k := by simp [hr]

/-- Clearing a file cancels its runs. -/
theorem drops_clear {uri : DocumentUri} (s : Service) (hf : uri.isFile = true) :
    Drops (s.runsFor uri) [uri] s (s.clear uri) := by
  have canceled := drops_cancelEach (s.runsFor uri) s
  unfold clear
  rw [if_neg (by simpa using hf)]
  refine ⟨⟨canceled.deque, canceled.busy, canceled.turn, canceled.loops, canceled.places⟩, canceled.config,
    canceled.folders, ?_, ?_, canceled.runs⟩
  · change (s.cancelEach _).tracked.filter (· ≠ uri) = _
    rw [canceled.tracked, List.filter_filter]
    exact List.filter_congr fun u _ => by simp
  · exact congrArg (Notice.clear uri :: ·) canceled.notices

/-- The runs in the queue stay those for a document. -/
theorem Drops.runsFor (h : Drops is us s s') (uri : DocumentUri) : s'.runsFor uri = s.runsFor uri := by
  unfold Service.runsFor
  rw [h.deque]
  refine List.filter_congr fun k _ => ?_
  rw [h.runs, Option.map_map]
  congr 2
  funext r
  by_cases hk : k ∈ is <;> simp [hk, Run.key_cancel]

/-- Clearing several documents cancels the runs of those that are files; the others are left alone. -/
theorem drops_clearEach (us : List DocumentUri) (s : Service) :
    Drops ((us.filter (·.isFile)).flatMap s.runsFor) (us.filter (·.isFile)) s (us.foldl (fun s u => s.clear u) s) := by
  induction us generalizing s with
  | nil => exact .refl s
  | cons u us ih =>
    rw [List.foldl_cons]
    by_cases hf : u.isFile = true
    · have first := drops_clear s hf
      have rest := ih (s.clear u)
      have same : (s.clear u).runsFor = s.runsFor := funext first.runsFor
      rw [same] at rest
      simpa [List.filter_cons_of_pos hf] using first.trans rest
    · have same : s.clear u = s := if_pos (by simpa using hf)
      rw [same, List.filter_cons_of_neg hf]
      exact ih s

/-! ## Handing in -/

/-- A run for `a` is put at the end of the queue, the runs before it for the same document are canceled, and the loop
goes on. -/
structure Enqueues (a : Assignment) (s s' : Service) : Prop where
  config : s'.config = s.config
  folders : s'.folders = s.folders
  tracked : s'.tracked = s.tracked
  notices : s'.notices = s.notices
  deque : s'.deque = s.deque ++ [s.runs.length]
  turn : s'.turn = s.turn
  busy : s'.busy = true
  loops : ∀ j ∈ s'.jobs, j.isLoop = true →
    j ∈ s.jobs ∨ (∃ i, j = .turn i ∧ s.turn = some i) ∨ j = .drain ∧ s.busy = false
  places : s'.places ≤ s.places + (!s.busy).toNat
  length : s'.runs.length = s.runs.length + 1
  added : s'.runs[s.runs.length]? =
    some ⟨⟨a.target.document.uri, .pending, some a, none, true, false⟩, .unstarted, false⟩
  others : ∀ k r, s.runs[k]? = some r →
    s'.runs[k]? = some (if k ∈ s.runsFor a.target.document.uri then r.cancel else r)

/-- The runs in the queue for a document, when a run has been added that is not in the queue yet. -/
theorem mem_runsFor_append {uri : DocumentUri} (h : s.runs[k]? = some r) (new : Run) :
    k ∈ ({ s with runs := s.runs ++ [new] } : Service).runsFor uri ↔ k ∈ s.runsFor uri := by
  have lt := (List.getElem?_eq_some_iff.mp h).1
  simp [runsFor, List.getElem?_append_left lt]

/-- Queuing a run puts it at the end and cancels those before it for the same document. -/
theorem enqueues_enqueue (h : ∀ k ∈ s.deque, k < s.runs.length) : Enqueues a s (s.enqueue a) := by
  let new : Run := ⟨⟨a.target.document.uri, .pending, some a, none, true, false⟩, .unstarted, false⟩
  let s₁ : Service := { s with runs := s.runs ++ [new] }
  let s₂ := s₁.cancelEach (s₁.runsFor a.target.document.uri)
  have canceled : Drops (s₁.runsFor a.target.document.uri) [] s₁ s₂ := drops_cancelEach _ _
  have length : s₂.runs.length = s.runs.length + 1 := by
    rw [canceled.length, List.length_append]
    rfl
  have added : s₂.runs[s.runs.length]? = some new := by
    have fresh : s.runs.length ∉ s₁.runsFor a.target.document.uri := by
      intro hm
      have lt := h _ (List.mem_filter.mp hm).1
      omega
    rw [canceled.at (r := new) (by simp [s₁]), if_neg fresh]
  have others : ∀ k r, s.runs[k]? = some r →
      s₂.runs[k]? = some (if k ∈ s.runsFor a.target.document.uri then r.cancel else r) := by
    intro k r hk
    have lt := (List.getElem?_eq_some_iff.mp hk).1
    rw [canceled.at (r := r) (by simpa [s₁, List.getElem?_append_left lt] using hk)]
    simp only [s₁, mem_runsFor_append hk]
  let s₃ : Service := { s₂ with deque := s₂.deque ++ [s.runs.length] }
  have deque : s₃.deque = s.deque ++ [s.runs.length] := congrArg (· ++ [s.runs.length]) canceled.deque
  have tracked : s₃.tracked = s.tracked := canceled.tracked.trans (Drops.refl s).tracked.symm
  have places : s₃.places ≤ s.places := canceled.places
  have result : s.enqueue a = if s₃.busy then s₃ else ({ s₃ with busy := true } : Service).schedule .drain := rfl
  by_cases hb : s.busy = true
  · have busy : s₃.busy = true := canceled.busy.trans hb
    rw [result, if_pos busy]
    exact ⟨canceled.config, canceled.folders, tracked, canceled.notices, deque, canceled.turn, busy,
      fun j hj hl => (canceled.loops j hj hl).imp_right Or.inl, Nat.le_add_right_of_le places, length, added, others⟩
  · have busy : ¬s₃.busy = true := fun h => hb (canceled.busy.symm.trans h)
    have more := places_schedule_le .drain { s₃ with busy := true }
    rw [result, if_neg busy]
    rw [schedule_eq] at more ⊢
    refine ⟨canceled.config, canceled.folders, tracked, canceled.notices, deque, canceled.turn, rfl, ?_, ?_, length,
      added, others⟩
    · intro j hj hl
      rcases mem_jobs_schedule.mp hj with hj | rfl
      · exact (canceled.loops j hj hl).imp_right Or.inl
      · exact Or.inr (Or.inr ⟨rfl, by simpa using hb⟩)
    · refine Nat.le_trans more (Nat.add_le_add places ?_)
      simp [ServiceJob.isLoop, hb]

end ElixirLint.Service
