import ElixirLint.Proofs.Service.Queueing

/-!
# Clearing all documents

The service keeps track of documents that may have a run or diagnostics. `Tracks` says that it misses none: a document
with a run that is not done is tracked, and so is one for which the outside shows diagnostics. Clearing a document ends
its runs and takes its diagnostics away as it is forgotten, so that after all that are tracked have been cleared
nothing goes on and nothing is shown, and there is nothing left to clear.

Clearing all documents takes its time, as the outside may take its time over each: runs may go on and publish between
the clears. `clears_all` is about that; that all is cleared in one go is a case of it.

Main results: `History.tracks`, `clears_all`.
-/

namespace ElixirLint

/-- Whether a notice takes diagnostics away. -/
def Notice.isClear : Notice → Bool
  | .clear _ => true
  | _ => false

namespace Service

variable {s s' : Service} {d : Deed} {k : Nat} {r : Run} {a : Assignment} {told ns : List Notice} {uri : DocumentUri}
  {us : List DocumentUri}

/-- Whether the outside shows diagnostics of a document: the last that it was told about them is what they are. What it
was told comes the last first. -/
def shows (uri : DocumentUri) : List Notice → Bool
  | [] => false
  | .publish u _ :: ns => decide (u = uri) || shows uri ns
  | .clear u :: ns => decide (u ≠ uri) && shows uri ns
  | .notify _ _ :: ns => shows uri ns

/-- What is shown after something was told was shown before, or has just been published. -/
theorem shows_append (h : shows uri (told ++ ns) = true) : shows uri ns = true ∨ ∃ ds, .publish uri ds ∈ told := by
  induction told with
  | nil => exact Or.inl h
  | cons n told ih =>
    cases n with
    | publish u ds =>
      simp only [List.cons_append, shows, Bool.or_eq_true, decide_eq_true_eq] at h
      rcases h with rfl | h
      · exact Or.inr ⟨ds, .head _⟩
      · exact (ih h).imp_right fun ⟨ds, hd⟩ => ⟨ds, .tail _ hd⟩
    | clear u =>
      simp only [List.cons_append, shows, Bool.and_eq_true] at h
      exact (ih h.2).imp_right fun ⟨ds, hd⟩ => ⟨ds, .tail _ hd⟩
    | notify => exact (ih h).imp_right fun ⟨ds, hd⟩ => ⟨ds, .tail _ hd⟩

/-- What is shown after documents were cleared was shown before, and is not of one of them. -/
theorem shows_clears (h : shows uri (us.map .clear ++ ns) = true) : uri ∉ us ∧ shows uri ns = true := by
  induction us with
  | nil => exact ⟨List.not_mem_nil, h⟩
  | cons u us ih =>
    simp only [List.map_cons, List.cons_append, shows, Bool.and_eq_true, decide_eq_true_eq] at h
    obtain ⟨none, before⟩ := ih h.2
    exact ⟨fun hm => (List.mem_cons.mp hm).elim (fun same => h.1 same.symm) none, before⟩

/-! ## What is tracked -/

/-- The documents that are tracked are files, each once, and no document is missed that has a run which is not done, or
of which diagnostics are shown. -/
structure Tracks (s : Service) : Prop where
  files : ∀ u ∈ s.tracked, u.isFile = true
  distinct : s.tracked.Nodup
  running : ∀ (k : Nat) (r : Run), s.runs[k]? = some r → r.isOver = false → r.task.key ∈ s.tracked
  shown : ∀ uri, shows uri s.notices = true → uri ∈ s.tracked

theorem mem_track {u : DocumentUri} : u ∈ (s.track uri).tracked ↔ u ∈ s.tracked ∨ u = uri := by
  unfold track
  split
  · rename_i h
    rw [List.contains_iff_mem] at h
    constructor
    · exact Or.inl
    · rintro (h' | rfl)
      · exact h'
      · exact h
  · simp

/-- A file is tracked once. -/
theorem Tracks.track (h : Tracks s) (hf : uri.isFile = true) : Tracks (s.track uri) := by
  have more : ∀ u ∈ s.tracked, u ∈ (s.track uri).tracked := fun u hu => mem_track.mpr (Or.inl hu)
  constructor
  · intro u hu
    rcases mem_track.mp hu with hu | rfl
    · exact h.files u hu
    · exact hf
  · unfold Service.track
    split
    · exact h.distinct
    · rename_i hn
      rw [List.contains_iff_mem] at hn
      refine List.nodup_append.mpr ⟨h.distinct, by simp, fun u hu v hv same => hn ?_⟩
      rwa [← List.mem_singleton.mp hv, ← same]
  · intro k r hk live
    rw [track_eq] at hk
    exact more _ (h.running k r hk live)
  · intro u hu
    rw [track_eq] at hu
    exact more u (h.shown u hu)

/-- Work on runs that leaves the documents alone, and publishes only for runs that are not done. -/
theorem Tracks.of_ages (h : Tracks s) (ha : Ages s s') (ht : s'.tracked = s.tracked)
    (hn : s'.notices = told ++ s.notices) (hp : ∀ uri ds, .publish uri ds ∈ told → uri ∈ s.tracked) : Tracks s' where
  files := by
    rw [ht]
    exact h.files
  distinct := by
    rw [ht]
    exact h.distinct
  running k r' hk live := by
    obtain ⟨r, hr, key, before⟩ := ha.live hk live
    rw [ht, key]
    exact h.running k r hr before
  shown uri hs := by
    rw [hn] at hs
    rw [ht]
    rcases shows_append hs with hs | ⟨ds, hd⟩
    · exact h.shown uri hs
    · exact hp uri ds hd

/-- Canceling runs and clearing documents forgets only documents whose runs have been canceled. -/
theorem Tracks.drops {is : List Nat} (h : Tracks s) (hd : Drops is us s s') (hq : Queues s)
    (hu : ∀ u ∈ us, ∀ k ∈ s.runsFor u, k ∈ is) : Tracks s' := by
  have kept {u : DocumentUri} (hm : u ∈ s.tracked) (hn : u ∉ us) : u ∈ s'.tracked := by
    rw [hd.tracked]
    exact List.mem_filter.mpr ⟨hm, by simpa using hn⟩
  constructor
  · intro u hm
    rw [hd.tracked] at hm
    exact h.files u (List.mem_filter.mp hm).1
  · rw [hd.tracked]
    exact h.distinct.filter _
  · intro k r' hk live
    rw [hd.runs, Option.map_eq_some_iff] at hk
    obtain ⟨r, hr, rfl⟩ := hk
    by_cases hm : k ∈ is
    · rw [if_pos hm, Run.isOver_cancel] at live
      cases live
    · rw [if_neg hm] at live ⊢
      refine kept (h.running k r hr live) fun hc => hm (hu _ hc k ?_)
      exact mem_runsFor.mpr ⟨hq.waits k r hr live, r, hr, rfl⟩
  · intro u hs
    rw [hd.notices] at hs
    obtain ⟨hn, before⟩ := shows_clears hs
    exact kept (h.shown u before) (by simpa using hn)

/-- What is published is about a document that is tracked. -/
theorem Moves.publishes_tracked (hm : Moves s d s') (hs : Sound s) (ht : s'.notices = told ++ s.notices)
    (h : Tracks s) : ∀ uri ds, .publish uri ds ∈ told → uri ∈ s.tracked := by
  intro uri ds hd
  obtain ⟨i, heard, r, -, hi, live, permits⟩ := hm.publishes hs ht hd rfl
  obtain ⟨a, rs, p, stands⟩ := hs.stands i r hi
  have tracked := h.running i r hi live
  rw [stands.key] at tracked
  cases permits a rs p stands
  exact tracked

/-- No document is missed, whatever is done to the service. -/
theorem Moves.tracks (hm : Moves s d s') (hs : Sound s) (hq : Queues s) (ht : s'.notices = told ++ s.notices)
    (h : Tracks s) : Tracks s' := by
  have publishes := hm.publishes_tracked hs ht h
  have work (hl : ∀ doc k, d ≠ .handed doc (.queued k)) (same : s'.tracked = s.tracked) : Tracks s' := by
    rcases hm.length hs with length | ⟨doc, hd, -⟩
    · exact h.of_ages (hm.ages hs ht length) same ht publishes
    · exact absurd hd (hl doc _)
  cases hm with
  | call drops htr hu =>
    refine Tracks.drops ?_ drops (hq.with_settings ..) hu
    rcases htr with rfl | ⟨uri, hf, rfl⟩
    · exact ⟨h.files, h.distinct, h.running, h.shown⟩
    · have before := h.track hf
      rw [track_eq] at before
      exact ⟨before.files, before.distinct, before.running, before.shown⟩
  | @queue doc env target htgt =>
    obtain ⟨same, file⟩ := target?_spec htgt
    have before := h.track file
    have queued := hs.enqueues (s.assignment env target) doc.uri
    constructor
    · rw [queued.tracked]
      exact before.files
    · rw [queued.tracked]
      exact before.distinct
    · intro k r hk live
      rw [queued.tracked]
      rcases queued.live (hq.track _) hk live with ⟨-, key⟩ | ⟨old, -⟩
      · rw [key]
        exact mem_track.mpr (Or.inr (congrArg Document.uri same))
      · exact before.running k r old live
    · rw [queued.notices, queued.tracked]
      exact before.shown
  | drain hj => exact work (by simp) (fields_drain _).2.2.2
  | turn hj => exact work (by simp) (fields_takeTurn ..).2.2.1
  | lint env hj => exact work (by simp) ((hs.without _).keeps_lint ..).1.tracked

variable {c : Config} {script : List Reply} {delays : List Bool} {es es' : List Event}

/-- At any time, every document with a run that is not done, or with diagnostics that are shown, is tracked. -/
theorem History.tracks (h : History c script delays es s) : Tracks s := by
  induction h with
  | start => constructor <;> simp [Service.start, shows]
  | next h hd ht ih => exact hd.moves.tracks (History.sound h) (History.queues h) ht ih

/-! ## Clearing all -/

/-- Whether a deed is a call to the service, and not the work that follows on one. -/
def Deed.isCall : Deed → Bool
  | .canceled _ => false
  | .released _ => false
  | .accepted _ => false
  | .worked _ _ => false
  | _ => true

/-- The events in a history that are calls, the last first. -/
def callsIn (es : List Event) : List Event := es.filter fun e => e.deed.isCall

/-- Nothing is left to clear: no document is tracked, no run goes on and no diagnostics are shown. -/
structure Blank (s : Service) : Prop where
  untracked : s.tracked = []
  settled : ∀ (k : Nat) (r : Run), s.runs[k]? = some r → r.isOver = true
  hidden : ∀ uri, shows uri s.notices = false

/-- Where nothing is left to clear, clearing all does nothing. -/
theorem Blank.clearAll_eq (h : Blank s) : s.clearAll = s := by
  unfold clearAll
  rw [h.untracked]
  rfl

/-- A service that misses no document and tracks none has nothing left to clear. -/
theorem Tracks.blank (h : Tracks s) (ht : s.tracked = []) : Blank s where
  untracked := ht
  settled k r hk := by
    rcases Bool.eq_false_or_eq_true r.isOver with done | live
    · exact done
    · have tracked := h.running k r hk live
      rw [ht] at tracked
      cases tracked
  hidden uri := by
    rcases Bool.eq_false_or_eq_true (shows uri s.notices) with shown | hidden
    · have tracked := h.shown uri shown
      rw [ht] at tracked
      cases tracked
    · exact hidden

/-- A file that is cleared is tracked no more, and the outside is told that it is clear. -/
theorem Does.clears {u : DocumentUri} (hd : Does s (.cleared u) s') (hf : u.isFile = true) :
    s'.tracked = s.tracked.filter (fun v => decide (v ≠ u)) ∧ s'.notices = .clear u :: s.notices := by
  cases hd with
  | clear =>
    have drops := drops_clear s hf
    exact ⟨drops.tracked.trans (List.filter_congr fun v _ => by simp), drops.notices⟩

/-- What is no call forgets no document, and tells of none that it is clear. -/
theorem Does.clears_none (hd : Does s d s') (hc : d.isCall = false) (hs : Sound s)
    (ht : s'.notices = told ++ s.notices) : s'.tracked = s.tracked ∧ ∀ n ∈ told, n.isClear = false := by
  have silent (h : s'.notices = s.notices) : ∀ n ∈ told, n.isClear = false := by
    have none : told = [] := List.append_cancel_right (ht.symm.trans h)
    simp [none]
  cases hd with
  | execute | executeOutside | clear | clearAll | configure | setFolders | shutdown => cases hc
  | cancel i =>
    have drops := drops_cancelRun i s
    exact ⟨drops.tracked.trans (Drops.refl s).tracked.symm, silent drops.notices⟩
  | release n =>
    obtain ⟨keeps, -, notices⟩ := keeps_release n s
    exact ⟨keeps.tracked, silent notices⟩
  | accept i =>
    obtain ⟨keeps, -, notices⟩ := keeps_accept i s
    exact ⟨keeps.tracked, silent notices⟩
  | @work env j _ hj =>
    cases j with
    | drain => exact ⟨(fields_drain _).2.2.2, silent (fields_drain _).2.1⟩
    | turn i => exact ⟨(fields_takeTurn ..).2.2.1, silent (fields_takeTurn ..).1⟩
    | lint i =>
      refine ⟨((hs.without _).keeps_lint env i).1.tracked, ?_⟩
      rcases hi : s.runs[i]? with _ | r
      · have same : (s.without (.lint i)).runJob env (.lint i) = s.without (.lint i) := lint_of_none hi
        refine silent ?_
        rw [same, notices_without]
      · obtain ⟨a, rs, p, stands⟩ := hs.stands i r hi
        obtain ⟨told', r', alters, permits, -⟩ := lints_lint env (s := s.without (.lint i)) hi stands
        have same : told' = told := List.append_cancel_right (alters.notices.symm.trans ht)
        subst same
        intro n hn
        cases permits n hn <;> rfl

/-- Where the only calls clear files, those files are tracked no more, each call has told that its file is clear and
nothing else, and nobody else has told such a thing. -/
theorem Follows.clears (h : Follows s es s') (hs : Sound s) (hf : ∀ u ∈ us, u.isFile = true)
    (hc : (callsIn es).map Event.deed = us.map .cleared) :
    s'.tracked = s.tracked.filter (fun u => decide (u ∉ us)) ∧
      callsIn es = us.map (fun u => ⟨.cleared u, [.clear u]⟩) ∧
      ∀ e ∈ es, e.deed.isCall = false → ∀ n ∈ e.told, n.isClear = false := by
  induction h generalizing us with
  | start =>
    obtain rfl : us = [] := by simpa [callsIn] using hc.symm
    exact ⟨(Drops.refl s).tracked, rfl, by simp⟩
  | @next es s₁ s₂ e h hd ht ih =>
    have sound := Follows.sound h hs
    by_cases hcall : e.deed.isCall = true
    · have split : callsIn (e :: es) = e :: callsIn es := List.filter_cons_of_pos hcall
      rw [split] at hc ⊢
      rcases us with _ | ⟨u, us⟩
      · cases hc
      obtain ⟨deed, hc⟩ := List.cons.inj hc
      obtain ⟨tracked, calls, others⟩ := ih (fun v hv => hf v (.tail _ hv)) hc
      rw [deed] at hd
      obtain ⟨untracked, notices⟩ := hd.clears (hf u (.head _))
      have told : e.told = [.clear u] := List.append_cancel_right (ht.symm.trans notices)
      refine ⟨?_, ?_, ?_⟩
      · rw [untracked, tracked, List.filter_filter]
        exact List.filter_congr fun v _ => by simp
      · rw [calls, List.map_cons, ← told, ← deed]
      · intro e' he' hcall'
        rcases List.mem_cons.mp he' with rfl | he'
        · rw [hcall] at hcall'
          cases hcall'
        · exact others e' he' hcall'
    · have split : callsIn (e :: es) = callsIn es := List.filter_cons_of_neg hcall
      rw [split] at hc ⊢
      obtain ⟨tracked, calls, others⟩ := ih hf hc
      obtain ⟨same, none⟩ := hd.clears_none (Bool.eq_false_iff.mpr hcall) sound ht
      refine ⟨same.trans tracked, calls, ?_⟩
      intro e' he' hcall'
      rcases List.mem_cons.mp he' with rfl | he'
      · exact none
      · exact others e' he' hcall'

/-- Clearing all documents leaves nothing behind.

1. At any time every document with a run that is not done is tracked.
2. So is every document of which the outside shows diagnostics.
3. Documents are tracked once. When all that are tracked have been cleared one after the other, in any order, with no
   other call in between but whatever work of the runs, nothing is tracked, no run goes on and nothing is shown. Each of
   the calls has told that its document is clear and nothing else, and the runs have told no such thing.
4. When all are cleared in one go, nothing else is told, and doing so again does and tells nothing. -/
theorem clears_all (h : History c script delays es s) :
    (∀ (k : Nat) (r : Run), s.runs[k]? = some r → r.isOver = false → r.task.key ∈ s.tracked) ∧
    (∀ uri, shows uri s.notices = true → uri ∈ s.tracked) ∧
    (s.tracked.Nodup ∧ ∀ (us : List DocumentUri) (es' : List Event) (s' : Service), us.Perm s.tracked →
      Follows s es' s' → (callsIn es').map Event.deed = us.map .cleared →
        Blank s' ∧ callsIn es' = us.map (fun u => ⟨.cleared u, [.clear u]⟩) ∧
          (∀ e ∈ es', e.deed.isCall = false → ∀ n ∈ e.told, n.isClear = false) ∧ s'.clearAll = s') ∧
    (Blank s.clearAll ∧ s.clearAll.notices = s.tracked.reverse.map .clear ++ s.notices ∧
      s.clearAll.clearAll = s.clearAll) := by
  have tracks := h.tracks
  refine ⟨tracks.running, tracks.shown, ⟨tracks.distinct, ?_⟩, ?_⟩
  · intro us es' s' perm follows hc
    obtain ⟨tracked, calls, others⟩ :=
      follows.clears h.sound (fun u hu => tracks.files u (perm.mem_iff.mp hu)) hc
    have none : s'.tracked = [] := by
      rw [tracked, List.filter_eq_nil_iff]
      intro u hu
      simpa using perm.mem_iff.mpr hu
    have blank := (History.tracks (Follows.trans h follows)).blank none
    exact ⟨blank, calls, others, blank.clearAll_eq⟩
  · have drops := drops_clearEach s.tracked s
    rw [List.filter_eq_self.mpr tracks.files] at drops
    have none : s.clearAll.tracked = [] := by
      rw [show s.clearAll.tracked = _ from drops.tracked, List.filter_eq_nil_iff]
      simp
    have done := Follows.next (e := ⟨.clearedAll, _⟩) h (.clearAll (.refl _)) drops.notices
    have blank := (History.tracks done).blank none
    exact ⟨blank, drops.notices, blank.clearAll_eq⟩

/-- Another document. -/
def other : Document := ⟨⟨"file:///p/b.ex"⟩, Document.elixir, "y"⟩

/-- One document has diagnostics, and another has a run. -/
def both : Service := ((work [.lint 1] ready).execute project other).1

/-- Diagnostics that are shown and a run that is not done are cleared together. -/
theorem clears_all_both :
    History thorough [finding] [] (⟨.handed other (.queued 2), []⟩ :: revisions) both ∧
      shows draft.uri both.notices = true ∧ both.runs[2]?.map Run.isOver = some false ∧ Blank both.clearAll ∧
      both.clearAll.notices = [.clear other.uri, .clear draft.uri, .publish draft.uri [hint]] := by
  have history := history_revisions.handed project other 2 (by decide +kernel) (by decide +kernel)
  obtain ⟨-, -, -, blank, notices, -⟩ := clears_all history
  exact ⟨history, by decide +kernel, by decide +kernel, blank, notices.trans (by decide +kernel)⟩

end Service

end ElixirLint
