import ElixirLint.Proofs.Service.Clearing

/-!
# No stale diagnostics

What is published is never out of date: it comes from the run that was queued last for its document, with no call since
that would have made it obsolete, and it is the verdict on what the commands of that run came to, for the text and the
configuration with which the run was queued. However calls, commands that come to something and jobs follow on each
other, a run that has been made obsolete is done, and a run that is done tells nothing.

Main results: `History.origin`, `no_stale_diagnostics`.
-/

namespace ElixirLint.Service

variable {s s' s₀ : Service} {d : Deed} {doc : Document} {e : Event} {i k : Nat} {r r' : Run} {a : Assignment}
  {told : List Notice} {uri : DocumentUri} {c : Config} {script : List Reply} {delays : List Bool}
  {es es' since before : List Event}

/-- A run was queued with the assignment `a` when `doc` was handed in; the events `before` had happened by then, and the
events `since` after that. -/
structure Origin (c : Config) (script : List Reply) (delays : List Bool) (k : Nat) (doc : Document) (a : Assignment)
    (since before es : List Event) : Prop where
  split : ∃ told, es = since ++ ⟨.handed doc (.queued k), told⟩ :: before
  assigned : ∃ env s₀ target, History c script delays before s₀ ∧ s₀.target? env doc = some target ∧
    a = s₀.assignment env target

namespace Origin

/-- What happens later does not change where a run comes from. -/
theorem cons (h : Origin c script delays k doc a since before es) (e : Event) :
    Origin c script delays k doc a (e :: since) before (e :: es) where
  split := by
    obtain ⟨told, rfl⟩ := h.split
    exact ⟨told, rfl⟩
  assigned := h.assigned

/-- The run is for the document that was handed in. -/
theorem document (h : Origin c script delays k doc a since before es) : a.target.document = doc := by
  obtain ⟨env, s₀, target, -, ht, rfl⟩ := h.assigned
  exact (target?_spec ht).1

/-- The run keeps the configuration that was current when it was queued, and ranks issues by it. -/
theorem config (h : Origin c script delays k doc a since before es) :
    a.linter.config = currentConfig c before ∧
      a.severities = .ofRefactorAsHint (currentConfig c before).refactorAsHint := by
  obtain ⟨env, s₀, target, history, -, rfl⟩ := h.assigned
  rw [← history.config_eq]
  exact ⟨rfl, rfl⟩

end Origin

/-- A deed that makes a run obsolete ends it. -/
theorem Moves.supersedes (hm : Moves s d s') (hs : Sound s) (hq : Queues s) (ht : Tracks s) (hk : s.runs[k]? = some r)
    (live : r.isOver = false) (hd : d.Supersedes r.task.key) (hk' : s'.runs[k]? = some r') : r'.isOver = true := by
  cases hm with
  | call drops _ _ hr =>
    have tracked := ht.running k r hk live
    have queued := mem_runsFor.mpr ⟨hq.waits k r hk live, r, hk, rfl⟩
    have canceled := drops.at hk
    rw [if_pos (hr _ hd tracked (ht.files _ tracked) k queued)] at canceled
    cases hk'.symm.trans canceled
    exact r.isOver_cancel
  | @queue doc env target htgt =>
    have queued := hs.enqueues (s.assignment env target) doc.uri
    have canceled := queued.others k r (by rw [track_eq]; exact hk)
    rw [if_pos] at canceled
    · cases hk'.symm.trans canceled
      exact r.isOver_cancel
    · rw [track_eq]
      have key : r.task.key = (s.assignment env target).target.document.uri :=
        (hd : doc.uri = r.task.key).symm.trans (congrArg Document.uri (target?_spec htgt).1.symm)
      exact mem_runsFor.mpr ⟨hq.waits k r hk live, r, hk, key⟩
  | drain | turn | lint => exact hd.elim

/-- Every run was queued once, and stands where its results and publications have led it; while it is not done, nothing
has made it obsolete. -/
theorem History.origin (h : History c script delays es s) (hk : s.runs[k]? = some r) :
    ∃ doc a since before, Origin c script delays k doc a since before es ∧
      r.Stands a (results k es) (publications k es) ∧
      (r.isOver = false → ∀ e ∈ since, ¬e.deed.Supersedes doc.uri) := by
  induction h generalizing r with
  | start => simp [Service.start] at hk
  | @next es s s' e h hd ht ih =>
    have sound := History.sound h
    rcases hn : s.runs[k]? with _ | r₀
    · obtain ⟨length, doc, env, target, deed, htgt, stands⟩ := hd.moves.added sound hk hn
      obtain ⟨heard, published⟩ := hd.moves.absent ht hn
      obtain ⟨none, never⟩ := History.absent h (Nat.le_of_eq length.symm)
      refine ⟨doc, s.assignment env target, [], es, ⟨⟨e.told, ?_⟩, env, s, target, h, htgt, rfl⟩, ?_, by simp⟩
      · rw [List.nil_append, ← deed]
      · rw [results, publications, none, never, heard, published]
        exact stands
    · obtain ⟨doc, a, since, before, origin, stands, fresh⟩ := ih hn
      obtain ⟨r', hk', stands', ends⟩ := hd.moves.runs sound ht hn stands
      cases hk.symm.trans hk'
      refine ⟨doc, a, e :: since, before, origin.cons e, stands', fun live e' he' hsup => ?_⟩
      have live₀ : r₀.isOver = false := Bool.eq_false_iff.mpr fun done => by simp [ends done] at live
      rcases List.mem_cons.mp he' with rfl | he'
      · have key : r₀.task.key = doc.uri := by rw [stands.key, origin.document]
        have done := hd.moves.supersedes sound (History.queues h) (History.tracks h) hn live₀ (key ▸ hsup) hk
        rw [live] at done
        cases done
      · exact fresh live₀ e' he' hsup

/-! ## Publications -/

theorem publications_append (k : Nat) (es es' : List Event) :
    publications k (es' ++ es) = publications k es + publications k es' := by
  induction es' with
  | nil => rfl
  | cons e es' ih =>
    simp only [List.cons_append, publications, ih]
    omega

/-- A run publishes once at most. -/
theorem History.publications_le (h : History c script delays es s) (k : Nat) : publications k es ≤ 1 := by
  rcases hk : s.runs[k]? with _ | r
  · rw [(h.absent (List.getElem?_eq_none_iff.mp hk)).2]
    exact Nat.zero_le _
  · obtain ⟨doc, a, since, before, -, stands, -⟩ := h.origin hk
    exact stands.publications_le

/-- A history goes through all states that its events lead to. -/
theorem Follows.split (h : Follows s₀ (es' ++ es) s) : ∃ s₁, Follows s₀ es s₁ ∧ Follows s₁ es' s := by
  induction es' generalizing s with
  | nil => exact ⟨s, h, .start⟩
  | cons e es' ih =>
    cases h with
    | next h hd ht =>
      obtain ⟨s₁, first, rest⟩ := ih h
      exact ⟨s₁, first, .next rest hd ht⟩

/-- Diagnostics that the event `e` of the history `es` publishes, after what happened `earlier`, are fresh.

They come from the job of a run. That run was queued when a document with this URI was handed in; since then no
document with this URI was queued, and neither was this document cleared, nor all documents, nor the service shut down;
where other things happen while all documents are being cleared, this document is cleared when its turn comes. In the
whole history the run publishes this once. Its linter works with the text that was handed in and the
configuration that was current then; what is published is the verdict on the results of its own commands: the issues in
that text, ranked as that configuration says, and none if the file is excluded. -/
def Fresh (c : Config) (script : List Reply) (delays : List Bool) (es : List Event) (e : Event) (earlier : List Event)
    (uri : DocumentUri) (ds : List Diagnostic) : Prop :=
  ∃ i heard doc a since before findings, e.deed = .worked (.lint i) heard ∧
    Origin c script delays i doc a since before earlier ∧ doc.uri = uri ∧ (∀ e ∈ since, ¬e.deed.Supersedes uri) ∧
    publications i es = 1 ∧ a.target.document = doc ∧ a.linter.config = currentConfig c before ∧
    a.Verdict (results i (e :: earlier)) findings ∧
    ds = match findings with
      | some f => Diagnostic.ofIssues f.issues doc.text (.ofRefactorAsHint (currentConfig c before).refactorAsHint)
      | none => []

/-- Diagnostics that are published are never stale, and at any time there is one run at most for each document that is
not done. -/
theorem no_stale_diagnostics (h : History c script delays es s) :
    (∀ (later earlier : List Event) (e : Event) (uri : DocumentUri) (ds : List Diagnostic),
      es = later ++ e :: earlier → .publish uri ds ∈ e.told → Fresh c script delays es e earlier uri ds) ∧
    (∀ (k k' : Nat) (r r' : Run), s.runs[k]? = some r → s.runs[k']? = some r' → r.isOver = false →
      r'.isOver = false → r.task.key = r'.task.key → k = k') := by
  refine ⟨?_, h.queues.alone⟩
  rintro later earlier e uri ds rfl hp
  obtain ⟨s₁, first, -⟩ := Follows.split h
  cases first with
  | @next _ s₂ _ _ first hd ht =>
    obtain ⟨i, heard, r, deed, hi, live, permits⟩ := hd.moves.publishes (History.sound first) ht hp rfl
    obtain ⟨doc, a, since, before, origin, stands, fresh⟩ := History.origin first hi
    have own : results i (e :: earlier) = results i earlier ++ heard := by
      simp [results, deed, Deed.heardBy]
    have once : publications i (later ++ e :: earlier) = 1 := by
      have most := h.publications_le i
      have published : 0 < e.publishedBy i := by
        simp only [Event.publishedBy, deed, if_true]
        exact List.countP_pos_iff.mpr ⟨_, hp, rfl⟩
      rw [publications_append, publications] at most ⊢
      omega
    have permitted := permits a _ _ stands
    rw [← own] at permitted
    have document := origin.document
    obtain ⟨config, severities⟩ := origin.config
    cases permitted with
    | @publish findings verdict =>
      refine ⟨i, heard, doc, a, since, before, findings, deed, origin, by rw [document], ?_, once, document, config,
        verdict, ?_⟩
      · rw [document]
        exact fresh live
      · cases findings with
        | some f => rw [Assignment.shown, document, severities]
        | none => rfl

/-- The diagnostics of a document that was handed in again, with another configuration, are those of the revision. -/
theorem no_stale_diagnostics_revision :
    History thorough [finding] [] revisions (work [.lint 1] ready) ∧
      Fresh thorough [finding] [] revisions
        ⟨.worked (.lint 1) (heard project (.lint 1) ready), [.publish revision.uri [hint]]⟩ revisions.tail revision.uri
        [hint] :=
  ⟨history_revisions, (no_stale_diagnostics history_revisions).1 [] _ _ _ _ rfl (.head _)⟩

end ElixirLint.Service
