import ElixirLint.Proofs.Service.Clearing
import ElixirLint.Session

/-!
# Histories of a session

A history is all that has happened in a session since it started, the last first: what the editor has done, and what the
lint service has done by itself meanwhile, in any order. An event of the editor is dealt with in one go, but the
documents that are linted because of it may be handed in in any order. The service may be used as a whole
(`Service.Steady`) between any two events.

Main definitions: `Deed`, `Does`, `History`, `Readies`.
-/

namespace ElixirLint

/-- The document that a notice is about, if it is about one. -/
def Notice.uri? : Notice → Option DocumentUri
  | .publish uri _ => some uri
  | .clear uri => some uri
  | .notify _ _ => none

namespace Service

variable {s s' : Service} {d : Deed} {env : Surroundings} {doc : Document} {uri : DocumentUri}

/-! ## The service in a session -/

/-- All runs stand somewhere, the queue is in order, and no document is missed. -/
structure Steady (s : Service) : Prop where
  sound : Sound s
  queues : Queues s
  tracks : Tracks s

/-- A session begins without runs that could have gone astray. -/
theorem steady_start (c : Config) (script : List Reply) (delays : List Bool) : Steady (.start c script delays) :=
  have begun : History c script delays [] (.start c script delays) := .start
  ⟨begun.sound, begun.queues, begun.tracks⟩

/-- Whatever is done to the service keeps it steady. -/
theorem Does.steady (hd : Does s d s') (h : Steady s) : Steady s' := by
  obtain ⟨told, ht⟩ := hd.moves.grows h.sound
  exact ⟨hd.moves.sound h.sound ht, hd.moves.queues h.sound ht h.queues, hd.moves.tracks h.sound h.queues ht h.tracks⟩

/-- A message for the user does not matter to the service. -/
theorem Steady.notify (h : Steady s) (level : MessageLevel) (message : String) :
    Steady (s.emit (.notify level message)) where
  sound := ⟨h.sound.stands, h.sound.bound⟩
  queues := ⟨h.queues.waits, h.queues.alone, h.queues.head, h.queues.turns, h.queues.drains, h.queues.place,
    h.queues.idle⟩
  tracks := ⟨h.tracks.files, h.tracks.distinct, h.tracks.running, h.tracks.shown⟩

/-- Handing in a document tells nothing, and tracks no other document. -/
theorem Steady.handed (h : Steady s) (env : Surroundings) (doc : Document) :
    (s.execute env doc).1.notices = s.notices ∧
      ∀ u ∈ (s.execute env doc).1.tracked, u ∈ s.tracked ∨ u = doc.uri := by
  unfold execute
  rcases s.target? env doc with _ | target
  · exact ⟨rfl, fun u hu => Or.inl hu⟩
  · have queued := h.sound.enqueues ((s.track doc.uri).assignment env target) doc.uri
    constructor
    · refine queued.notices.trans ?_
      rw [track_eq]
    · intro u hu
      rw [queued.tracked] at hu
      exact mem_track.mp hu

/-- Clearing a document that is no file does nothing. -/
theorem clear_of_not_isFile (hf : uri.isFile = false) : s.clear uri = s := if_pos (by simp [hf])

/-- Clearing a document forgets it if it is tracked, and no other one. -/
theorem mem_tracked_clear (h : Steady s) {u : DocumentUri} (hu : u ∈ (s.clear uri).tracked) :
    u ∈ s.tracked ∧ u ≠ uri := by
  rcases Bool.eq_false_or_eq_true uri.isFile with hf | hf
  · rw [((Does.clear uri s).clears hf).1, List.mem_filter] at hu
    exact ⟨hu.1, by simpa using hu.2⟩
  · rw [clear_of_not_isFile hf] at hu
    refine ⟨hu, ?_⟩
    rintro rfl
    have file := h.tracks.files u hu
    rw [hf] at file
    cases file

end Service

namespace Session

/-! ## What happens in a session -/

/-- What happens in a session. -/
inductive Deed
  /-- The editor opens the session. -/
  | entered (folders : List Folder) (settings : Option Json)
  /-- Something happens in the editor. -/
  | handled (e : EditorEvent)
  /-- The editor is about to end the session. -/
  | left
  /-- The service goes on, or something that its runs wait for happens. -/
  | served (d : Service.Deed)

/-- A deed, with what is told to the editor meanwhile, the last first. -/
structure Event where
  /-- The deed. -/
  deed : Deed
  /-- What is told. -/
  told : List Notice

/-- What a deed makes of a session. Documents that are linted because of an event are handed in in any order. -/
inductive Does : Session → Deed → Session → Prop
  | enter (folders : List Folder) (settings : Option Json) (s : Session) :
      Does s (.entered folders settings) (s.opening folders settings)
  | handle (env : Surroundings) (e : EditorEvent) {s : Session} {ds : List Document} (h : ds.Perm (s.update e).2) :
      Does s (.handled e) (ds.foldl (lint env) (s.update e).1)
  | leave (s : Session) : Does s .left s.shutdown
  | serve {d : Service.Deed} {s : Session} {service : Service} (h : Service.Does s.service d service)
      (hc : d.isCall = false) : Does s (.served d) { s with service := service }

/-- What can have happened since a session started, the last first, and the session as it is after that. -/
inductive History (c : Config) (script : List Reply) (delays : List Bool) : List Event → Session → Prop
  | start : History c script delays [] ⟨[], [], .start c script delays⟩
  | next {es : List Event} {s s' : Session} {e : Event} (h : History c script delays es s) (hd : Does s e.deed s')
      (ht : s'.service.notices = e.told ++ s.service.notices) : History c script delays (e :: es) s'

/-- Handling an event as the session does is one way to deal with it. -/
theorem Does.of_handle (env : Surroundings) (e : EditorEvent) (s : Session) : Does s (.handled e) (s.handle env e) :=
  .handle env e (.refl _)

/-! ## Documents that are open -/

/-- A document is open in a session. -/
def IsOpen (s : Session) (uri : DocumentUri) : Prop := ∃ d ∈ s.documents, d.uri = uri

/-- Whether a deed opens a document. -/
def Deed.Opens (uri : DocumentUri) : Deed → Prop
  | .handled (.opened d) => d.uri = uri
  | _ => False

variable {s s' : Session} {d : Deed} {env : Surroundings} {doc : Document} {uri u : DocumentUri} {e : EditorEvent}

/-- Closing a document closes that one only. -/
theorem isOpen_drop : (s.drop uri).IsOpen u ↔ s.IsOpen u ∧ u ≠ uri := by
  simp only [IsOpen, drop, List.mem_filter, decide_eq_true_eq]
  constructor
  · rintro ⟨d, ⟨hd, hn⟩, rfl⟩
    exact ⟨⟨d, hd, rfl⟩, hn⟩
  · rintro ⟨⟨d, hd, rfl⟩, hn⟩
    exact ⟨d, ⟨hd, hn⟩, rfl⟩

/-- Opening a document opens that one only. -/
theorem isOpen_insert : (s.insert doc).IsOpen u ↔ s.IsOpen u ∨ u = doc.uri := by
  have split : (s.insert doc).IsOpen u ↔ (s.drop doc.uri).IsOpen u ∨ doc.uri = u := by
    simp only [IsOpen, insert, List.mem_append, List.mem_singleton]
    constructor
    · rintro ⟨d, hd | rfl, same⟩
      · exact Or.inl ⟨d, hd, same⟩
      · exact Or.inr same
    · rintro (⟨d, hd, same⟩ | same)
      · exact ⟨d, Or.inl hd, same⟩
      · exact ⟨doc, Or.inr rfl, same⟩
  rw [split, isOpen_drop]
  by_cases same : u = doc.uri
  · simp [same]
  · simp [same, Ne.symm same]

theorem isOpen_setText (text : String) : (s.setText uri text).IsOpen u ↔ s.IsOpen u := by
  have same (d : Document) : (if d.uri = uri then { d with text := text } else d).uri = d.uri := by
    split <;> rfl
  simp only [IsOpen, setText, List.mem_map]
  constructor
  · rintro ⟨-, ⟨d, hd, rfl⟩, rfl⟩
    exact ⟨d, hd, (same d).symm⟩
  · rintro ⟨d, hd, rfl⟩
    exact ⟨_, ⟨d, hd, rfl⟩, same d⟩

/-- Folders are no documents, and no matter to the runs of the service. -/
theorem changeFolders_eq (added removed : List Folder) (s : Session) :
    ∃ folders paths, s.changeFolders added removed = ⟨s.documents, folders, s.service.setFolders paths⟩ := by
  have removing (fs : List Folder) (s : Session) :
      (fs.foldl removeFolder s).documents = s.documents ∧ (fs.foldl removeFolder s).service = s.service := by
    induction fs generalizing s with
    | nil => exact ⟨rfl, rfl⟩
    | cons f fs ih => exact ih (s.removeFolder f)
  have adding (fs : List Folder) (s : Session) :
      (fs.foldl addFolder s).documents = s.documents ∧ (fs.foldl addFolder s).service = s.service := by
    induction fs generalizing s with
    | nil => exact ⟨rfl, rfl⟩
    | cons f fs ih => exact ih (s.addFolder f)
  obtain ⟨documents, service⟩ := adding added (removed.foldl removeFolder s)
  obtain ⟨documents', service'⟩ := removing removed s
  let folders := (added.foldl addFolder (removed.foldl removeFolder s)).folders
  refine ⟨folders, folders.map (·.path), ?_⟩
  simp only [changeFolders, documents, documents', service, service', folders]

/-- Settings change the configuration, or are complained about. -/
theorem takeSettings_eq (settings : Json) (s : Session) :
    (∃ c, (s.takeSettings settings).1 = { s with service := s.service.configure c }) ∨
      ∃ message, (s.takeSettings settings).1 = s.tell .error message := by
  unfold takeSettings
  split
  · exact Or.inl ⟨_, rfl⟩
  · exact Or.inr ⟨_, rfl⟩

/-- New settings open and close no documents. -/
theorem documents_configured (settings : Json) (s : Session) :
    (s.update (.configured settings)).1.documents = s.documents := by
  rcases takeSettings_eq settings s with ⟨c, hs⟩ | ⟨message, hs⟩
  · simp only [update, hs]
  · simp only [update, hs, tell]

/-- A change of folders opens and closes none either. -/
theorem documents_foldersChanged (added removed : List Folder) (s : Session) :
    (s.update (.foldersChanged added removed)).1.documents = s.documents := by
  obtain ⟨folders, paths, hs⟩ := changeFolders_eq added removed s
  simp only [update, hs]

/-- Opening the session is nothing to the documents: the service gets folders and settings, or a complaint about these. -/
theorem opening_eq (folders : List Folder) (settings : Option Json) (s : Session) :
    ∃ folders' paths service, s.opening folders settings = ⟨s.documents, folders', service⟩ ∧
      (service = s.service.setFolders paths ∨ (∃ c, service = (s.service.setFolders paths).configure c) ∨
        ∃ message, service = (s.service.setFolders paths).emit (.notify .error message)) := by
  obtain ⟨folders', paths, hs⟩ := changeFolders_eq folders [] s
  unfold opening
  rw [hs]
  cases settings with
  | none => exact ⟨folders', paths, _, rfl, Or.inl rfl⟩
  | some settings =>
    rcases takeSettings_eq settings ⟨s.documents, folders', s.service.setFolders paths⟩ with ⟨c, taken⟩ | ⟨message, told⟩
    · exact ⟨folders', paths, _, taken, Or.inr (Or.inl ⟨c, rfl⟩)⟩
    · exact ⟨folders', paths, _, told, Or.inr (Or.inr ⟨message, rfl⟩)⟩

/-- A document that is open after an event was open before, or the event has opened it; one that has been closed is not
open. -/
theorem isOpen_update (h : (s.update e).1.IsOpen u) :
    (s.IsOpen u ∨ (Deed.handled e).Opens u) ∧ e ≠ .closed u := by
  cases e with
  | ready => exact ⟨Or.inl h, by simp⟩
  | opened d => exact ⟨(isOpen_insert.mp h).imp_right Eq.symm, by simp⟩
  | changed uri texts =>
    simp only [update] at h
    split at h
    · exact ⟨Or.inl ((isOpen_setText _).mp h), by simp⟩
    · exact ⟨Or.inl h, by simp⟩
  | saved uri text =>
    cases text with
    | none => exact ⟨Or.inl h, by simp⟩
    | some text => exact ⟨Or.inl ((isOpen_setText _).mp h), by simp⟩
  | closed uri =>
    obtain ⟨before, other⟩ := isOpen_drop.mp (show (s.drop uri).IsOpen u from h)
    exact ⟨Or.inl before, by simpa using Ne.symm other⟩
  | configured settings =>
    rw [IsOpen, documents_configured] at h
    exact ⟨Or.inl h, by simp⟩
  | foldersChanged added removed =>
    rw [IsOpen, documents_foldersChanged] at h
    exact ⟨Or.inl h, by simp⟩

/-- Handing in documents opens and closes none. -/
theorem documents_lints (env : Surroundings) (ds : List Document) (s : Session) :
    (ds.foldl (lint env) s).documents = s.documents := by
  induction ds generalizing s with
  | nil => rfl
  | cons d ds ih => exact ih (s.lint env d)

/-- A document that is open was open before, or has just been opened; one that has just been closed is not open. -/
theorem Does.isOpen (hd : Does s d s') (h : s'.IsOpen u) : (s.IsOpen u ∨ d.Opens u) ∧ d ≠ .handled (.closed u) := by
  cases hd with
  | enter folders settings =>
    obtain ⟨folders', paths, service, hs, -⟩ := opening_eq folders settings s
    rw [hs] at h
    exact ⟨Or.inl h, by simp⟩
  | handle env e perm =>
    have opened : (s.update e).1.IsOpen u := by
      unfold IsOpen at h
      rwa [documents_lints] at h
    exact (isOpen_update opened).imp_right fun other => by simpa using other
  | leave => exact ⟨Or.inl h, by simp⟩
  | serve => exact ⟨Or.inl h, by simp⟩

/-! ## What an event is to the service -/

/-- What an event is to the service before any document is handed to it. Most events are nothing to it. -/
def Readies (s : Service) (e : EditorEvent) (s' : Service) : Prop :=
  match e with
  | .ready => ∃ message, s' = s.emit (.notify .info message)
  | .closed uri => s' = s.clear uri
  | .configured settings =>
    match Config.ofSettings settings with
    | .ok c => s' = s.configure c
    | .error err => s' = s.emit (.notify .error ("Invalid Credo settings: " ++ err.message))
  | .foldersChanged _ _ => ∃ folders, s' = s.setFolders folders
  | _ => s' = s

/-- Valid settings configure the service, and all open documents are to be linted. -/
theorem update_of_valid {settings : Json} {c : Config} (h : Config.ofSettings settings = .ok c) (s : Session) :
    s.update (.configured settings) = ({ s with service := s.service.configure c }, s.documents) := by
  simp [update, takeSettings, h]

/-- Invalid settings tell what is wrong with them, and nothing is to be linted. -/
theorem update_of_invalid {settings : Json} {err : SettingsError} (h : Config.ofSettings settings = .error err)
    (s : Session) :
    s.update (.configured settings) = (s.tell .error ("Invalid Credo settings: " ++ err.message), []) := by
  simp [update, takeSettings, h]

/-- What an event does to the service by itself. -/
theorem readies_update (e : EditorEvent) (s : Session) : Readies s.service e (s.update e).1.service := by
  cases e with
  | ready => exact ⟨_, rfl⟩
  | changed uri texts => cases ht : texts.getLast? <;> simp [Readies, update, ht, setText]
  | saved uri text => cases text <;> rfl
  | configured settings =>
    cases hs : Config.ofSettings settings with
    | ok c => simp [Readies, hs, update_of_valid hs]
    | error err => simp [Readies, hs, update_of_invalid hs, tell]
  | foldersChanged added removed =>
    obtain ⟨folders, paths, hs⟩ := changeFolders_eq added removed s
    exact ⟨paths, by simp [update, hs]⟩
  | _ => rfl

/-! ## Histories go on -/

variable {c : Config} {script : List Reply} {delays : List Bool} {es es' : List Event}

/-- A history goes through all states that its events lead to. -/
theorem History.split (h : History c script delays (es' ++ es) s) : ∃ s₁, History c script delays es s₁ := by
  induction es' generalizing s with
  | nil => exact ⟨s, h⟩
  | cons e es' ih =>
    cases h with
    | next h hd ht => exact ih h

end Session

end ElixirLint
