import ElixirLint.Proofs.Queue.Order
import Mathlib.Data.List.Chain

/-!
# One live task for each document, and how it fails

Putting a task in cancels those in the queue with the same key first. It finds out which these are when it begins, and
the cleanups that it then runs may put other tasks in. Such a task overtakes the one that is still being put in
(`Overtook`), and if it has the same key, both may be live in the queue at once. There is no other way
(`displaced_iff`): as long as no cleanup puts in a task with the key of a task that is being put in around it, a
document has at most one live task in the queue, the one that was put in last.
-/

namespace ElixirLint.Queue

/-- Which frame may stand right above another one. Above a task that is about to be put in there are the tasks that are
canceled first, above these the task that is about to count as done, and above this its cleanup. -/
def Frame.rests {n : Nat} : Frame n → Frame n → Bool
  | .cancelEach _, .append _ => true
  | _, .append _ => false
  | .resolve _, .cancelEach _ => true
  | _, .cancelEach _ => false
  | .cleanup _ _, .resolve _ => true
  | _, .resolve _ => false
  | _, _ => true

namespace Machine

variable {n : Nat} {scripts : Fin n → Script n} {m m' : Machine n}

/-! ## The shape of the stack -/

/-- Every frame may stand where it stands. -/
def Stacked (fs : List (Frame n)) : Prop := fs.IsChain fun g f => g.rests f = true

/-- What stands on a frame depends on its kind and on the kind of the frame below it only. -/
theorem Stacked.replace {f g : Frame n} {fs : List (Frame n)} (h : Stacked (f :: fs))
    (hg : ∀ k, f.rests k = true → g.rests k = true) : Stacked (g :: fs) := by
  cases fs with
  | nil => exact List.isChain_singleton _
  | cons k fs =>
    obtain ⟨hk, hfs⟩ := List.isChain_cons_cons.mp h
    exact List.isChain_cons_cons.mpr ⟨hg k hk, hfs⟩

/-- A frame may be put on a stack if it may stand above the topmost one. -/
theorem Stacked.cons {f g : Frame n} {fs : List (Frame n)} (h : Stacked (f :: fs)) (hg : g.rests f = true) :
    Stacked (g :: f :: fs) :=
  List.isChain_cons_cons.mpr ⟨hg, h⟩

/-- The frames of an operation stand on the note of what it returned. -/
theorem Stacked.calls {a : Action n} {fs : List (Frame n)} (h : Stacked (.note a :: fs)) (m : Machine n) :
    Stacked (m.calls a ++ .note a :: fs) := by
  cases a with
  | enqueue t =>
    by_cases he : (m.tasks t).enqueued = true
    · simpa [Machine.calls, he] using h
    · simpa [Machine.calls, he] using (h.cons (g := .append t) rfl).cons (g := .cancelEach _) rfl
  | finish t => exact h
  | _ => exact h.cons rfl

/-- A cleanup may be put on a stack if its frame may stand above the topmost one. -/
theorem Stacked.cleanup {f : Frame n} {fs : List (Frame n)} (h : Stacked (f :: fs)) (t : Fin n) (c : Option (Cleanup n))
    (hf : ∀ actions, Frame.rests (.cleanup t actions) f = true) : Stacked (cleanupFrames t c ++ f :: fs) := by
  match c with
  | some (some actions) => exact h.cons (hf actions)
  | some none => exact h
  | none => exact h

/-- The frames that take the place of a frame stand where it stood. -/
theorem stacked_follow {f : Frame n} {fs : List (Frame n)} (h : Stacked (f :: fs)) : Stacked (m.follow f ++ fs) := by
  match f with
  | .body t w token [] c =>
    have look : Stacked (.look w :: fs) := h.replace fun k hk => by cases k <;> first | rfl | cases hk
    exact look.cons rfl
  | .body t w token (.act a :: steps) c =>
    have body : Stacked (.body t w token steps c :: fs) := h.replace fun k hk => by cases k <;> first | rfl | cases hk
    have noted : Stacked (.note a :: .body t w token steps c :: fs) := body.cons rfl
    simpa [follow] using noted.calls m
  | .body t w token (.park :: steps) c | .body t w token (.dropToken :: steps) c
  | .body t w token (.check :: steps) c | .body t w token (.display :: steps) c =>
    exact h.replace fun k hk => by cases k <;> first | rfl | cases hk
  | .cleanup t (a :: actions) =>
    have cleanup : Stacked (.cleanup t actions :: fs) := h.replace fun k hk => by cases k <;> first | rfl | cases hk
    have noted : Stacked (.note a :: .cleanup t actions :: fs) := cleanup.cons rfl
    simpa [follow] using noted.calls m
  | .handOver t c =>
    simp only [follow]
    split
    · cases c with
      | some actions => exact h.replace fun k hk => by cases k <;> first | rfl | cases hk
      | none => exact h.tail
    · exact h.tail
  | .cancelEach (t :: ts) =>
    have pass : Stacked (.cancelEach ts :: fs) := h.replace fun k hk => by cases k <;> first | rfl | cases hk
    simp only [follow]
    split
    · exact pass
    · have resolved : Stacked (.resolve t :: .cancelEach ts :: fs) := pass.cons rfl
      simpa using resolved.cleanup t (m.tasks t).cleanup fun _ => rfl
  | .advance => exact h.replace fun k hk => by cases k <;> first | rfl | cases hk
  | .body t w token (.panic :: steps) c | .cleanup t [] | .cancelEach [] | .look _ | .resolve _ | .append _ | .note _
  | .next => exact h.tail

/-- In every run every frame may stand where it stands. -/
theorem Reachable.stacked (h : Reachable scripts m) : Stacked m.frames := by
  induction h using Reachable.induct with
  | start => exact List.isChain_nil
  | @frame m f fs _ hf ih =>
    rw [hf] at ih
    rw [(frames_runFrame f { m with frames := fs }).1]
    exact stacked_follow ih
  | @job m j js h hf _ ih =>
    cases j with
    | drain =>
      obtain ⟨-, hj⟩ | ⟨w, t, -, -, hj⟩ | ⟨w, -, -, hj⟩ := runJob_drain { m with jobs := js } <;> rw [hj]
      · simp [push, hf, Stacked]
      · simp [push, hf, Stacked, Frame.rests]
      · simp [push, hf, Stacked]
    | poll w =>
      obtain ⟨x, t, -, -, -, -, hj⟩ | ⟨hj, -⟩ := runJob_poll (m := { m with jobs := js }) h.body_of_pending w <;> rw [hj]
      · simp [hf, Stacked]
      · simp [push, hf, Stacked]
  | @perform m a _ hf _ =>
    have noted : Stacked (m.calls a ++ .note a :: []) := Stacked.calls (List.isChain_singleton _) m
    rw [(fields_perform a m).2.2.2.2.1, hf, List.append_nil]
    exact (List.isChain_append.mp noted).1
  | await goal _ _ _ ih => exact ih

/-- On a frame that a task to be put in cannot stand on stands another one, as the stack goes on to that task. -/
theorem Stacked.above {pre post : List (Frame n)} {u : Fin n} {f : Frame n}
    (h : Stacked (.append u :: pre ++ f :: post)) (hf : (Frame.append u).rests f = false) :
    ∃ pre' g, pre = pre' ++ [g] ∧ g.rests f = true := by
  obtain rfl | ⟨pre', g, hpre⟩ := List.eq_nil_or_concat pre
  · have hu := (List.isChain_cons_cons.mp h).1
    rw [hf] at hu
    cases hu
  · have hsplit : Stacked ((.append u :: pre') ++ g :: f :: post) := by simpa [hpre] using h
    exact ⟨pre', g, by simp [hpre], (List.isChain_append_cons_cons.mp hsplit).2.1⟩

/-- Between two tasks that are both about to be put in a cleanup is being run. -/
theorem Stacked.cleanup_between {pre post : List (Frame n)} {u t : Fin n}
    (h : Stacked (.append u :: pre ++ .append t :: post)) : ∃ v actions, .cleanup v actions ∈ pre := by
  obtain ⟨pre₁, g₁, rfl, h₁⟩ := h.above rfl
  obtain ⟨ts, rfl⟩ : ∃ ts, g₁ = .cancelEach ts := by cases g₁ <;> first | exact ⟨_, rfl⟩ | cases h₁
  have hs₁ : Stacked (.append u :: pre₁ ++ .cancelEach ts :: .append t :: post) := by simpa using h
  obtain ⟨pre₂, g₂, rfl, h₂⟩ := hs₁.above rfl
  obtain ⟨v, rfl⟩ : ∃ v, g₂ = .resolve v := by cases g₂ <;> first | exact ⟨_, rfl⟩ | cases h₂
  have hs₂ : Stacked (.append u :: pre₂ ++ .resolve v :: .cancelEach ts :: .append t :: post) := by simpa using hs₁
  obtain ⟨pre₃, g₃, rfl, h₃⟩ := hs₂.above rfl
  obtain ⟨w, actions, rfl⟩ : ∃ w actions, g₃ = .cleanup w actions := by
    cases g₃ <;> first | exact ⟨_, _, rfl⟩ | cases h₃
  exact ⟨w, actions, by simp⟩

/-! ## Overtaking -/

/-- The task is in the queue and not terminal. -/
def Live (m : Machine n) (t : Fin n) : Prop := t ∈ m.deque ∧ (m.tasks t).state.isTerminal = false

/-- For every key at most one task in the queue is live. -/
def Displaced (m : Machine n) : Prop :=
  ∀ u t, m.Live u → m.Live t → (m.tasks u).key = (m.tasks t).key → u = t

/-- Earlier in the run the first task was put in by a cleanup that ran while the second one was being put in. -/
def Overtook (scripts : Fin n → Script n) (m : Machine n) (u t : Fin n) : Prop :=
  ∃ m₀ pre post, Reachable scripts m₀ ∧ Later m₀ m ∧ m₀.frames = .append u :: pre ++ .append t :: post ∧
    ∃ v actions, .cleanup v actions ∈ pre

/-- What was overtaken stays overtaken. -/
theorem Overtook.later {u t : Fin n} (h : Overtook scripts m u t) (hl : Later m m') : Overtook scripts m' u t := by
  obtain ⟨m₀, pre, post, hm₀, hl₀, hf, hc⟩ := h
  exact ⟨m₀, pre, post, hm₀, hl₀.trans hl, hf, hc⟩

/-- A live task was not terminal before. -/
theorem not_terminal_of_ages (h : m.Ages m') {t : Fin n} (ht : (m'.tasks t).state.isTerminal = false) :
    (m.tasks t).state.isTerminal = false := by
  by_contra hn
  rw [(h t).isTerminal (by simpa using hn)] at ht
  cases ht

/-- The operation that puts a task in first cancels those in the queue with its key. -/
theorem targeted_calls {a : Action n} {t u : Fin n} {fs pre post : List (Frame n)} (h : .append t ∈ m.calls a)
    (hf : m.calls a ++ fs = pre ++ .append t :: post) (hu : u ∈ m.deque) (hk : (m.tasks u).key = (m.tasks t).key) :
    Targeted pre u := by
  obtain ⟨ts, ht⟩ | ⟨v, hv, rfl, he⟩ := mem_calls h
  · cases ht
  · obtain rfl := Frame.append.inj hv
    have hsplit : [.cancelEach (m.withKey (m.tasks t).key)] ++ (.append t :: fs) = pre ++ .append t :: post := by
      simpa [calls, he] using hf
    obtain ⟨mid, rfl, -⟩ := split_of_not_mem hsplit (by simp)
    refine Targeted.append_right ⟨_, List.mem_singleton.mpr rfl, ?_⟩
    simp [Frame.targets, withKey, hu, hk]

/-- A frame leads to a task being put in only through an operation. -/
theorem calls_of_append_mem_follow {f : Frame n} {t : Fin n} (h : .append t ∈ m.follow f) :
    ∃ a rest, m.follow f = m.calls a ++ rest ∧ .append t ∈ m.calls a := by
  match f with
  | .body v w token (.act a :: steps) c =>
    refine ⟨a, _, rfl, ?_⟩
    simpa [follow] using h
  | .cleanup v (a :: actions) =>
    refine ⟨a, _, rfl, ?_⟩
    simpa [follow] using h
  | .body v w token [] c | .body v w token (.panic :: steps) c | .body v w token (.park :: steps) c
  | .body v w token (.dropToken :: steps) c | .body v w token (.check :: steps) c
  | .body v w token (.display :: steps) c | .cleanup v [] | .cancelEach [] | .look _ | .resolve _ | .append _ | .note _
  | .next | .advance => simp [follow] at h
  | .handOver v c =>
    simp only [follow] at h
    split at h
    · obtain ⟨actions, -, hf⟩ := mem_cleanupFrames h
      cases hf
    · cases h
  | .cancelEach (v :: ts) =>
    simp only [follow] at h
    split at h
    · simp at h
    · simp only [List.mem_append, List.mem_cons, reduceCtorEq, List.not_mem_nil, or_false] at h
      obtain ⟨actions, -, hf⟩ := mem_cleanupFrames h
      cases hf

/-- Only the frame that puts a task in brings it into the queue. -/
theorem append_of_mem_deque {f : Frame n} {u : Fin n} (hm : u ∈ (m.runFrame f).deque) (hn : u ∉ m.deque) :
    f = .append u := by
  rw [deque_runFrame] at hm
  cases f with
  | append v =>
    obtain hm | hm := List.mem_append.mp hm
    · exact absurd hm hn
    · rw [List.mem_singleton.mp hm]
  | advance => exact absurd (List.mem_of_mem_tail hm) hn
  | _ => exact absurd hm hn

/-- No job puts a task in by itself. -/
theorem Reachable.not_append_job (h : Reachable scripts m) (hf : m.frames = []) (j : Job) (js : List Job) (t : Fin n) :
    .append t ∉ (runJob j { m with jobs := js }).frames := by
  intro hm
  obtain ⟨w, x, v, -, -, -, -, -, hj⟩ | ⟨gs, hgs, hjob, -, -, -⟩ :=
    runJob_cases (m := { m with jobs := js }) h.body_of_pending j
  · rw [hj] at hm
    simp [hf] at hm
  · rw [hjob, hf, List.append_nil] at hm
    cases hgs _ hm

/-- In every run the tasks in the queue with the key of a task that is about to be put in are still to be canceled
before that, or are terminal, or have overtaken it. -/
theorem Reachable.appending (h : Reachable scripts m) {pre post : List (Frame n)} {t u : Fin n}
    (hf : m.frames = pre ++ .append t :: post) (hu : m.Live u) (hk : (m.tasks u).key = (m.tasks t).key) :
    Targeted pre u ∨ Overtook scripts m u t := by
  induction h using Reachable.induct generalizing pre post with
  | start => simp [Machine.start] at hf
  | @frame m f fs h hframes ih =>
    have hages := (changes_runFrame f { m with frames := fs }).ages
    have hlater : Later m (runFrame f { m with frames := fs }) := (Later.refl m).snoc (.work (step_of_frames hframes))
    have hk' : (m.tasks u).key = (m.tasks t).key := (hages u).key.symm.trans (hk.trans (hages t).key)
    have hterm : (m.tasks u).state.isTerminal = false := not_terminal_of_ages hages hu.2
    rw [(frames_runFrame f { m with frames := fs }).1] at hf
    by_cases hmem : .append t ∈ follow { m with frames := fs } f
    · -- The operation that puts the task in begins here.
      obtain ⟨a, rest, hfollow, hcalls⟩ := calls_of_append_mem_follow hmem
      rw [hfollow, List.append_assoc] at hf
      have hd : u ∈ m.deque := by
        by_contra hn
        obtain rfl := append_of_mem_deque hu.1 hn
        simp [follow] at hmem
      exact Or.inl (targeted_calls hcalls hf hd hk')
    · obtain ⟨mid, rfl, hfs⟩ := split_of_not_mem hf hmem
      replace hfs : fs = mid ++ .append t :: post := hfs
      have hold : m.frames = (f :: mid) ++ .append t :: post := by rw [hframes, hfs]; rfl
      by_cases hd : u ∈ m.deque
      · obtain ht | ho := ih hold ⟨hd, hterm⟩ hk'
        · obtain hs | ht := targeted_runFrame (m := { m with frames := fs }) ht
          · rw [hu.2] at hs
            cases hs
          · exact Or.inl ht
        · exact Or.inr (ho.later hlater)
      · -- The other task is put in now, and it overtakes.
        obtain rfl := append_of_mem_deque hu.1 hd
        have hs := h.stacked
        rw [hold] at hs
        exact Or.inr ⟨m, mid, post, h, hlater, hold, Stacked.cleanup_between hs⟩
  | @job m j js h hframes _ _ => exact absurd (by simp [hf]) (h.not_append_job hframes j js t)
  | @perform m a h hframes ih =>
    left
    have hages := ages_perform a m
    have hk' : (m.tasks u).key = (m.tasks t).key := (hages u).key.symm.trans (hk.trans (hages t).key)
    rw [(fields_perform a m).2.2.2.2.1, hframes] at hf
    have hmem : .append t ∈ m.calls a := by
      have := congrArg (Frame.append t ∈ ·) hf
      simpa using this
    exact targeted_calls hmem hf (by simpa using hu.1) hk'
  | @await m goal h hframes _ ih =>
    rw [frames_await, hframes] at hf
    simp at hf

/-- No task overtakes itself. -/
theorem Overtook.ne {u t : Fin n} (h : Overtook scripts m u t) : u ≠ t := by
  rintro rfl
  obtain ⟨m₀, pre, post, hm₀, -, hf, -⟩ := h
  have hcount := hm₀.count_entries u
  have hle := Bool.toNat_le (m₀.tasks u).enqueued
  rw [hf, List.count_append, List.count_cons_self, List.count_cons_self] at hcount
  omega

/-- Of two tasks in the queue with the same key that are both live the first has overtaken the second. -/
def Overtaken (scripts : Fin n → Script n) (m : Machine n) (u t : Fin n) : Prop :=
  (m.tasks u).key = (m.tasks t).key → (m.tasks u).state.isTerminal = false → (m.tasks t).state.isTerminal = false →
    Overtook scripts m u t

/-- Of two tasks that stay live together the first has overtaken the second for good. -/
theorem Overtaken.later {u t : Fin n} (h : Overtaken scripts m u t) (hl : Later m m') : Overtaken scripts m' u t := by
  intro hk hu ht
  have hages := hl.ages
  refine Overtook.later (h ?_ (not_terminal_of_ages hages hu) (not_terminal_of_ages hages ht)) hl
  exact (hages u).key.symm.trans (hk.trans (hages t).key)

/-- In every run the live tasks of a document that stand in the queue before another one have overtaken it. -/
theorem Reachable.overtaken (h : Reachable scripts m) : m.deque.Pairwise (Overtaken scripts m) := by
  induction h using Reachable.induct with
  | start => exact List.Pairwise.nil
  | @frame m f fs h hf ih =>
    have hlater : Later m (runFrame f { m with frames := fs }) := (Later.refl m).snoc (.work (step_of_frames hf))
    have hold : m.deque.Pairwise (Overtaken scripts (runFrame f { m with frames := fs })) :=
      ih.imp fun ho => ho.later hlater
    rw [deque_runFrame]
    cases f with
    | append t =>
      refine List.pairwise_append.mpr ⟨hold, List.pairwise_singleton _ _, fun u hu v hv => ?_⟩
      obtain rfl := List.mem_singleton.mp hv
      -- Nothing is left to be canceled before the task that is put in now.
      intro hk hlive _
      have hages := hlater.ages
      have hk' : (m.tasks u).key = (m.tasks v).key := (hages u).key.symm.trans (hk.trans (hages v).key)
      have hsplit : m.frames = [] ++ .append v :: fs := hf
      obtain ⟨g, hg, -⟩ | ho := h.appending hsplit ⟨hu, not_terminal_of_ages hages hlive⟩ hk'
      · cases hg
      · exact ho.later hlater
    | advance => exact hold.tail
    | _ => exact hold
  | @job m j js h hf hj ih =>
    have hlater : Later m (runJob j { m with jobs := js }) := (Later.refl m).snoc (.work (step_of_jobs hf hj))
    rw [(fields_runJob j { m with jobs := js }).1]
    exact ih.imp fun ho => ho.later hlater
  | @perform m a h hf ih =>
    have hlater : Later m (m.perform a) := (Later.refl m).snoc (.perform a hf)
    rw [(fields_perform a m).1]
    exact ih.imp fun ho => ho.later hlater
  | @await m goal h hf hg ih =>
    have hlater : Later m (m.await goal) := (Later.refl m).snoc (.await goal hf hg)
    exact ih.imp fun ho => ho.later hlater

/-- For every key at most one task in the queue is live, exactly as long as no live task in the queue has overtaken
another one with its key: put in by a cleanup that ran while the other one was being put in. -/
theorem displaced_iff (h : Reachable scripts m) :
    m.Displaced ↔
      ∀ u t, m.Live u → m.Live t → (m.tasks u).key = (m.tasks t).key → ¬Overtook scripts m u t := by
  constructor
  · intro hd u t hu ht hk ho
    exact ho.ne (hd u t hu ht hk)
  · intro hn u t hu ht hk
    have hpairs := List.pairwise_iff_getElem.mp h.overtaken
    obtain ⟨i, hi, rfl⟩ := List.getElem_of_mem hu.1
    obtain ⟨j, hj, rfl⟩ := List.getElem_of_mem ht.1
    obtain hlt | rfl | hlt := Nat.lt_trichotomy i j
    · exact absurd (hpairs i j hi hj hlt hk hu.2 ht.2) (hn _ _ hu ht hk)
    · rfl
    · exact absurd (hpairs j i hj hi hlt hk.symm ht.2 hu.2) (hn _ _ ht hu hk.symm)

/-- Three tasks for one document: the cleanup of the first one puts the last one in. -/
def reentrant : Fin 3 → Script 3
  | 0 => ⟨⟨"file:///a"⟩, ⟨[.park], some [.enqueue 2]⟩⟩
  | _ => ⟨⟨"file:///a"⟩, ⟨[.park], some []⟩⟩

/-- The first task runs, and putting the second one in cancels it. -/
def overtaking : Machine 3 := ((start reentrant).act (.enqueue 0)).settle.act (.enqueue 1)

theorem reachable_overtaking : Reachable reentrant overtaking := by
  have started := (reachable_start reentrant).act rfl (.enqueue 0)
  exact started.settle.act (by decide) (.enqueue 1)

/-- Both of the tasks that were put in are live. -/
theorem live_overtaking : overtaking.Live 1 ∧ overtaking.Live 2 :=
  ⟨⟨by decide, by decide⟩, ⟨by decide, by decide⟩⟩

/-- While nothing is in progress two tasks of a document may both be live in the queue. -/
theorem not_always_displaced :
    ¬∀ (scripts : Fin 3 → Script 3) (m : Machine 3), Reachable scripts m → m.frames = [] → m.Displaced := by
  intro h
  have hd := h reentrant overtaking reachable_overtaking (by decide)
  have he := hd 1 2 live_overtaking.1 live_overtaking.2
    ((reachable_overtaking.key 1).trans (reachable_overtaking.key 2).symm)
  cases he

/-- The task that the cleanup puts in has overtaken the one around it. -/
theorem displaced_iff_reentrant :
    Reachable reentrant overtaking ∧ ∃ u t, overtaking.Live u ∧ overtaking.Live t ∧ Overtook reentrant overtaking u t := by
  refine ⟨reachable_overtaking, ?_⟩
  by_contra hn
  have hd := (displaced_iff reachable_overtaking).mpr fun u t hu ht _ ho => hn ⟨u, t, hu, ht, ho⟩
  have he := hd 1 2 live_overtaking.1 live_overtaking.2
    ((reachable_overtaking.key 1).trans (reachable_overtaking.key 2).symm)
  cases he

end Machine

end ElixirLint.Queue
