import ElixirLint.Proofs.Session.History

/-!
# Closed documents stay clean

A document that is closed has no run that goes on, and the editor shows no diagnostics of it. The session hands in open
documents only, and the service tracks nothing else (`Clean`): when a document is closed it is cleared at the same time,
so whatever its runs are about to do, they are over. So nothing is published for it before it is opened again.

Main results: `History.clean`, `closed_stay_clean`.
-/

namespace ElixirLint.Session

variable {s s' : Session} {d : Deed} {env : Surroundings} {doc : Document} {uri : DocumentUri} {e : EditorEvent}
  {ns : List Notice}

/-! ## Only open documents are tracked -/

/-- The service is steady, and tracks documents only that are open. -/
structure Clean (s : Session) : Prop where
  steady : s.service.Steady
  opened : ∀ u ∈ s.service.tracked, s.IsOpen u

namespace Clean

/-- Changes of the settings of a service, or messages of it, track nothing. -/
theorem of_service {documents : List Document} {folders : List Folder} {service : Service}
    (h : Clean s) (hd : documents = s.documents) (hs : service.Steady) (ht : service.tracked = s.service.tracked) :
    Clean ⟨documents, folders, service⟩ := by
  subst hd
  exact ⟨hs, fun u hu => h.opened u (ht ▸ hu)⟩

/-- A change of folders keeps a session clean. -/
theorem changeFolders (h : Clean s) (added removed : List Folder) : Clean (s.changeFolders added removed) := by
  obtain ⟨folders, paths, hs⟩ := changeFolders_eq added removed s
  rw [hs]
  exact h.of_service rfl ((Service.Does.setFolders paths _).steady h.steady) rfl

theorem tell (h : Clean s) (level : MessageLevel) (message : String) : Clean (s.tell level message) :=
  h.of_service rfl (h.steady.notify level message) rfl

/-- Settings, valid or not, keep a session clean. -/
theorem takeSettings (h : Clean s) (settings : Json) : Clean (s.takeSettings settings).1 := by
  rcases takeSettings_eq settings s with ⟨c, hs⟩ | ⟨message, hs⟩
  · rw [hs]
    exact h.of_service rfl ((Service.Does.configure c _).steady h.steady) rfl
  · rw [hs]
    exact h.tell .error message

theorem setText (h : Clean s) (uri : DocumentUri) (text : String) : Clean (s.setText uri text) :=
  ⟨h.steady, fun u hu => (isOpen_setText text).mpr (h.opened u hu)⟩

/-- A document that is closed is forgotten by the service. -/
theorem close (h : Clean s) (uri : DocumentUri) : Clean { s.drop uri with service := s.service.clear uri } where
  steady := (Service.Does.clear uri _).steady h.steady
  opened u hu := by
    obtain ⟨tracked, other⟩ := Service.mem_tracked_clear h.steady hu
    exact isOpen_drop.mpr ⟨h.opened u tracked, other⟩

theorem insert (h : Clean s) (doc : Document) : Clean (s.insert doc) :=
  ⟨h.steady, fun u hu => isOpen_insert.mpr (Or.inl (h.opened u hu))⟩

/-- An event keeps the session clean, and asks to lint open documents only. -/
theorem update (h : Clean s) (e : EditorEvent) :
    Clean (s.update e).1 ∧ ∀ doc ∈ (s.update e).2, (s.update e).1.IsOpen doc.uri := by
  have nothing (s : Session) : ∀ doc ∈ ([] : List Document), s.IsOpen doc.uri :=
    fun _ hd => absurd hd List.not_mem_nil
  cases e with
  | ready => exact ⟨h.tell .info _, nothing _⟩
  | opened doc =>
    refine ⟨h.insert doc, fun doc' hd => ?_⟩
    obtain rfl := List.mem_singleton.mp hd
    exact isOpen_insert.mpr (Or.inr rfl)
  | changed uri texts =>
    simp only [Session.update]
    split
    · exact ⟨h.setText uri _, nothing _⟩
    · exact ⟨h, nothing _⟩
  | saved uri text =>
    refine ⟨?_, fun doc hd => ⟨doc, ?_, rfl⟩⟩
    · cases text with
      | none => exact h
      | some text => exact h.setText uri text
    · exact List.mem_of_find?_eq_some (Option.mem_toList.mp hd)
  | closed uri => exact ⟨h.close uri, nothing _⟩
  | configured settings =>
    refine ⟨h.takeSettings settings, fun doc hd => ⟨doc, ?_, rfl⟩⟩
    simp only [Session.update] at hd
    split at hd
    · exact hd
    · cases hd
  | foldersChanged added removed => exact ⟨h.changeFolders added removed, nothing _⟩

/-- Handing in open documents keeps the session clean. -/
theorem lints (h : Clean s) (env : Surroundings) {ds : List Document} (hd : ∀ doc ∈ ds, s.IsOpen doc.uri) :
    Clean (ds.foldl (lint env) s) := by
  induction ds generalizing s with
  | nil => exact h
  | cons doc ds ih =>
    have handed : Clean (s.lint env doc) := by
      refine ⟨(Service.Does.execute env doc _).steady h.steady, fun u hu => ?_⟩
      rcases (h.steady.handed env doc).2 u hu with hu | rfl
      · exact h.opened u hu
      · exact hd doc (.head _)
    exact ih handed fun doc' hm => hd doc' (.tail _ hm)

end Clean

/-- A session stays clean, whatever happens in it. -/
theorem Does.clean (hd : Does s d s') (h : Clean s) : Clean s' := by
  cases hd with
  | enter folders settings =>
    unfold opening
    cases settings with
    | none => exact h.changeFolders folders []
    | some settings => exact (h.changeFolders folders []).takeSettings settings
  | handle env e perm =>
    obtain ⟨clean, opened⟩ := h.update e
    exact clean.lints env fun doc hm => opened doc (perm.mem_iff.mp hm)
  | leave =>
    have tracked := (Service.drops_cancelEach s.service.deque s.service).tracked
    exact h.of_service rfl ((Service.Does.shutdown _).steady h.steady)
      (tracked.trans (Service.Drops.refl s.service).tracked.symm)
  | serve does call =>
    obtain ⟨told, ht⟩ := does.moves.grows h.steady.sound
    exact h.of_service rfl (does.steady h.steady) (does.clears_none call h.steady.sound ht).1

/-! ## What is told about documents -/

/-- The diagnostics that the editor was told last for a document, when it was told the last first. -/
def diagnosticsOf (uri : DocumentUri) : List Notice → List Diagnostic
  | [] => []
  | .publish u ds :: ns => if u = uri then ds else diagnosticsOf uri ns
  | .clear u :: ns => if u = uri then [] else diagnosticsOf uri ns
  | .notify _ _ :: ns => diagnosticsOf uri ns

/-- Where there are diagnostics, they are shown. -/
theorem shows_of_diagnosticsOf (h : diagnosticsOf uri ns ≠ []) : Service.shows uri ns = true := by
  induction ns with
  | nil => exact absurd rfl h
  | cons n ns ih =>
    cases n with
    | publish u ds =>
      by_cases same : u = uri
      · simp [Service.shows, same]
      · simp only [diagnosticsOf, if_neg same] at h
        simp [Service.shows, ih h]
    | clear u =>
      by_cases same : u = uri
      · simp [diagnosticsOf, same] at h
      · simp only [diagnosticsOf, if_neg same] at h
        simp [Service.shows, same, ih h]
    | notify level message => exact ih h

/-- An event tells nothing about documents, but that one is clear which is closed. -/
theorem Readies.tells {t t' : Service} (h : Readies t e t') :
    ∃ told, t'.notices = told ++ t.notices ∧
      ∀ n ∈ told, ∀ uri, n.uri? = some uri → n = .clear uri ∧ e = .closed uri := by
  cases e with
  | ready =>
    obtain ⟨message, rfl⟩ := h
    exact ⟨[_], rfl, by simp [Notice.uri?]⟩
  | closed u =>
    rw [show t' = t.clear u from h]
    rcases Bool.eq_false_or_eq_true u.isFile with hf | hf
    · exact ⟨[.clear u], ((Service.Does.clear u t).clears hf).2, by simp [Notice.uri?]⟩
    · exact ⟨[], congrArg Service.notices (Service.clear_of_not_isFile hf), nofun⟩
  | configured settings =>
    simp only [Readies] at h
    split at h
    · exact ⟨[], by rw [h]; rfl, nofun⟩
    · exact ⟨[_], congrArg Service.notices h, by simp [Notice.uri?]⟩
  | foldersChanged added removed =>
    obtain ⟨folders, rfl⟩ := h
    exact ⟨[], rfl, nofun⟩
  | _ => exact ⟨[], congrArg Service.notices h, nofun⟩

/-- Handing in documents tells nothing. -/
theorem notices_lints (h : Clean s) (env : Surroundings) {ds : List Document} (hd : ∀ doc ∈ ds, s.IsOpen doc.uri) :
    (ds.foldl (lint env) s).service.notices = s.service.notices := by
  induction ds generalizing s with
  | nil => rfl
  | cons doc ds ih =>
    have first : Clean ([doc].foldl (lint env) s) :=
      h.lints env fun d hm => hd d (List.mem_singleton.mp hm ▸ .head _)
    have rest := ih first fun d hm => hd d (.tail _ hm)
    exact rest.trans (h.steady.handed env doc).1

/-- Whatever is told about a document is that it is clear, as it is closed, or is about a document that is open. -/
theorem Does.tells (hd : Does s d s') (h : Clean s) :
    ∃ told, s'.service.notices = told ++ s.service.notices ∧
      ∀ n ∈ told, ∀ uri, n.uri? = some uri → (n = .clear uri ∧ d = .handled (.closed uri)) ∨ s.IsOpen uri := by
  cases hd with
  | enter folders settings =>
    obtain ⟨folders', paths, service, hs, rfl | ⟨c, rfl⟩ | ⟨message, rfl⟩⟩ := opening_eq folders settings s
    · exact ⟨[], by rw [hs]; rfl, nofun⟩
    · exact ⟨[], by rw [hs]; rfl, nofun⟩
    · exact ⟨[.notify .error message], by rw [hs]; rfl, by simp [Notice.uri?]⟩
  | handle env e perm =>
    obtain ⟨clean, opened⟩ := h.update e
    obtain ⟨told, ht, closing⟩ := (readies_update e s).tells
    refine ⟨told, (notices_lints clean env fun doc hm => opened doc (perm.mem_iff.mp hm)).trans ht, ?_⟩
    intro n hn uri hu
    obtain ⟨rfl, rfl⟩ := closing n hn uri hu
    exact Or.inl ⟨rfl, rfl⟩
  | leave => exact ⟨[], (Service.drops_cancelEach s.service.deque s.service).notices, nofun⟩
  | serve does call =>
    obtain ⟨told, ht⟩ := does.moves.grows h.steady.sound
    refine ⟨told, ht, fun n hn uri hu => Or.inr ?_⟩
    cases n with
    | publish u ds =>
      cases hu
      exact h.opened uri (does.moves.publishes_tracked h.steady.sound ht h.steady.tracks uri ds hn)
    | clear u =>
      have none := (does.clears_none call h.steady.sound ht).2 _ hn
      cases none
    | notify => cases hu

/-! ## Histories -/

variable {c : Config} {script : List Reply} {delays : List Bool} {es later earlier : List Event} {told : List Notice}

/-- At any time the session is clean. -/
theorem History.clean (h : History c script delays es s) : Clean s := by
  induction h with
  | start => exact ⟨Service.steady_start c script delays, by simp [Service.start]⟩
  | next h hd ht ih => exact hd.clean ih

/-- A document that has been closed and not been opened again is not open. -/
theorem History.not_isOpen (h : History c script delays (later ++ ⟨.handled (.closed uri), told⟩ :: earlier) s)
    (hl : ∀ e ∈ later, ¬e.deed.Opens uri) : ¬s.IsOpen uri := by
  induction later generalizing s with
  | nil =>
    cases h with
    | next h hd ht => exact fun opened => (hd.isOpen opened).2 rfl
  | cons e later ih =>
    cases h with
    | next h hd ht =>
      intro opened
      rcases (hd.isOpen opened).1 with before | now
      · exact ih h (fun e' he' => hl e' (.tail _ he')) before
      · exact hl e (.head _) now

/-- Closed documents stay clean, whatever the editor does and however the runs go on meanwhile.

1. A document with a run that is not done is open.
2. A document is open if the diagnostics that the editor was told for it last are not empty.
3. Between closing a document and opening it again nothing is published for it. If anything is told about it at all, then
   that it is clear, as it is closed once more. -/
theorem closed_stay_clean (h : History c script delays es s) :
    (∀ (k : Nat) (r : Run), s.service.runs[k]? = some r → r.isOver = false → s.IsOpen r.task.key) ∧
    (∀ uri, diagnosticsOf uri s.service.notices ≠ [] → s.IsOpen uri) ∧
    (∀ (later earlier : List Event) (e : Event) (uri : DocumentUri), es = later ++ e :: earlier →
      e.deed = .handled (.closed uri) → (∀ e' ∈ later, ¬e'.deed.Opens uri) →
        ∀ e' ∈ later, ∀ n ∈ e'.told, n.uri? = some uri → n = .clear uri ∧ e'.deed = .handled (.closed uri)) := by
  have clean := h.clean
  refine ⟨?_, ?_, ?_⟩
  · intro k r hk live
    exact clean.opened _ (clean.steady.tracks.running k r hk live)
  · intro uri hu
    exact clean.opened uri (clean.steady.tracks.shown uri (shows_of_diagnosticsOf hu))
  · rintro later earlier ⟨deed, told⟩ uri rfl closed unopened e' he' n hn hu
    obtain rfl : deed = .handled (.closed uri) := closed
    -- The event comes right after a part of the history in which the document is closed.
    obtain ⟨after, before, rfl⟩ := List.append_of_mem he'
    rw [List.append_assoc] at h
    obtain ⟨s₁, first⟩ := h.split
    cases first with
    | next first hd ht =>
      have closed := first.not_isOpen fun e he => unopened e (List.mem_append_right _ (.tail _ he))
      obtain ⟨told', ht', tells⟩ := hd.tells first.clean
      obtain rfl := List.append_cancel_right (ht.symm.trans ht')
      exact (tells n hn uri hu).resolve_right closed

/-- A history goes on with whatever happens next. -/
theorem History.goesOn (h : History c script delays es s) (hd : Does s d s') :
    ∃ told, History c script delays (⟨d, told⟩ :: es) s' := by
  obtain ⟨told, ht, -⟩ := hd.tells h.clean
  exact ⟨told, .next h hd ht⟩

/-- Some jobs are done, as far as they are there when their turn comes. -/
def work (env : Surroundings) : List ServiceJob → Session → Session
  | [], s => s
  | j :: js, s =>
    if j ∈ s.service.jobs then work env js { s with service := (s.service.without j).runJob env j } else s

/-- Jobs open and close no documents. -/
theorem History.worked (h : History c script delays es s) (env : Surroundings) (js : List ServiceJob) :
    ∃ es', (∀ e ∈ es', ∃ w, e.deed = .served w) ∧ History c script delays (es' ++ es) (s.work env js) := by
  induction js generalizing s es with
  | nil => exact ⟨[], nofun, h⟩
  | cons j js ih =>
    unfold work
    split
    · rename_i hj
      obtain ⟨told, first⟩ := h.goesOn (.serve (.work env hj) rfl)
      obtain ⟨es', served, rest⟩ := ih first
      refine ⟨es' ++ [_], ?_, by rw [List.append_assoc]; exact rest⟩
      intro e he
      rcases List.mem_append.mp he with he | he
      · exact served e he
      · rw [List.mem_singleton.mp he]
        exact ⟨_, rfl⟩
    · exact ⟨[], nofun, h⟩

/-! ## A session -/

open Service (project hinting revision finding hint)

/-- A document has been opened, and its diagnostics have been published. -/
def published : Session :=
  (handle project (.opened revision) ⟨[], [], .start hinting [finding, .hang finding] []⟩).work project
    [.drain, .turn 0, .lint 0]

/-- The document has been saved, and while a command for it hangs it is closed. -/
def busy : Session :=
  (published.handle project (.saved revision.uri none)).work project [.turn 0, .drain, .turn 1, .lint 1]

/-- The session in which diagnostics are published has a history. -/
theorem history_published : ∃ es, History hinting [finding, .hang finding] [] es published := by
  obtain ⟨told, opened⟩ := History.goesOn .start (.of_handle project (.opened revision) _)
  obtain ⟨es, -, h⟩ := opened.worked project [.drain, .turn 0, .lint 0]
  exact ⟨_, h⟩

/-- The session in which a run is at work has a history. -/
theorem history_busy : ∃ es, History hinting [finding, .hang finding] [] es busy := by
  obtain ⟨es, before⟩ := history_published
  obtain ⟨told, saved⟩ := before.goesOn (.of_handle project (.saved revision.uri none) _)
  obtain ⟨es', -, h⟩ := saved.worked project [.turn 0, .drain, .turn 1, .lint 1]
  exact ⟨_, h⟩

/-- The diagnostics of a document that is open are shown, and taken away when it is closed while it is linted again. The
command that hangs then is given up, and saving the document starts no other: nothing more is published. -/
theorem closed_stay_clean_saved :
    (∃ es, History hinting [finding, .hang finding] [] es published) ∧
      diagnosticsOf revision.uri published.service.notices = [hint] ∧ published.IsOpen revision.uri ∧
      (∃ r, busy.service.runs[1]? = some r ∧ r.isOver = false) ∧ busy.IsOpen revision.uri ∧
      ∃ told later earlier,
        History hinting [finding, .hang finding] []
          (later ++ ⟨.handled (.closed revision.uri), told⟩ :: earlier)
          (((busy.handle project (.closed revision.uri)).work project [.lint 1]).handle project
            (.saved revision.uri none)) ∧
        ∀ e ∈ later, ∀ n ∈ e.told, n.uri? ≠ some revision.uri := by
  obtain ⟨es, before⟩ := history_published
  obtain ⟨es', during⟩ := history_busy
  obtain ⟨told, shut⟩ := during.goesOn (.of_handle project (.closed revision.uri) _)
  obtain ⟨es'', served, given⟩ := shut.worked project [.lint 1]
  obtain ⟨told', saved⟩ := given.goesOn (.of_handle project (.saved revision.uri none) _)
  have shown : diagnosticsOf revision.uri published.service.notices = [hint] := by decide +kernel
  have hanging : ∃ r, busy.service.runs[1]? = some r ∧ r.isOver = false ∧ r.task.key = revision.uri := by
    have h : (busy.service.runs[1]?.map fun r => (r.isOver, r.task.key)) = some (false, revision.uri) := by decide +kernel
    obtain ⟨r, hr, same⟩ := Option.map_eq_some_iff.mp h
    exact ⟨r, hr, congrArg Prod.fst same, congrArg Prod.snd same⟩
  obtain ⟨r, hr, live, key⟩ := hanging
  refine ⟨⟨es, before⟩, shown, (closed_stay_clean before).2.1 _ (by simp [shown]), ⟨r, hr, live⟩,
    key ▸ (closed_stay_clean during).1 1 r hr live, told, ⟨_, told'⟩ :: es'', es', saved, ?_⟩
  intro e he n hn hu
  have unopened : ∀ e ∈ ⟨.handled (.saved revision.uri none), told'⟩ :: es'', ¬e.deed.Opens revision.uri := by
    intro e he
    rcases List.mem_cons.mp he with rfl | he
    · simp [Deed.Opens]
    · obtain ⟨w, hw⟩ := served e he
      simp [hw, Deed.Opens]
  obtain ⟨-, deed⟩ := (closed_stay_clean saved).2.2 (⟨_, told'⟩ :: es'') es' _ revision.uri rfl rfl unopened e he n hn hu
  rcases List.mem_cons.mp he with rfl | he
  · cases deed
  · obtain ⟨w, hw⟩ := served e he
    rw [hw] at deed
    cases deed

end ElixirLint.Session
