import ElixirLint.Proofs.Session.Closing
import Mathlib.Data.List.Nodup

/-!
# Every lint sees the latest text

What the session holds is what the editor has said last: a document is open from the last time it was opened until it
is closed, in the language in which it was opened, and with the text that came last for it (`Latest`). One lemma says
what a deed makes of the documents (`Does.after`), another one that the last things said go on in the same way
(`latest_cons`). The documents that an event asks for are taken from those that are open after it (`mem_asked`), its
settings are in force by then (`Readies.config`), and the service takes these documents in turn (`History.hands`).

Main definitions: `Latest`, `inForce`, `Hands`. Main result: `lints_latest`.
-/

namespace ElixirLint.Session

variable {s s' : Session} {d : Deed} {ds : List Deed} {env : Surroundings} {doc : Document} {uri : DocumentUri}
  {e : EditorEvent}

/-! ## Specification -/

/-- The text that a deed supplies for a document that is open already. -/
def Deed.supplies? (uri : DocumentUri) : Deed → Option String
  | .handled (.changed u texts) => if u = uri then texts.getLast? else none
  | .handled (.saved u text) => if u = uri then text else none
  | _ => none

/-- A document is as the deeds of the editor, the last first, have left it: it has not been closed since it was opened
last, has been opened in this language, and this text was supplied last for it. -/
def Latest (ds : List Deed) (doc : Document) : Prop :=
  ∃ later first earlier, ds = later ++ .handled (.opened first) :: earlier ∧ first.uri = doc.uri ∧
    (∀ d ∈ later, ¬d.Opens doc.uri ∧ d ≠ .handled (.closed doc.uri)) ∧ first.languageId = doc.languageId ∧
    (later.findSome? (Deed.supplies? doc.uri)).getD first.text = doc.text

/-- The configuration after a deed. -/
def Deed.config (c : Config) : Deed → Config
  | .entered _ (some settings) | .handled (.configured settings) => (Config.ofSettings settings).toOption.getD c
  | _ => c

/-- The configuration in force after deeds, the last first, from the one at the start: the last one that was valid. -/
def inForce (c : Config) : List Deed → Config
  | [] => c
  | d :: ds => d.config (inForce c ds)

/-- A deed asks to lint a document that is open: it is opened or saved, or there are new valid settings. -/
def Deed.Asks : Deed → Document → Prop
  | .handled (.opened first), doc => first.uri = doc.uri
  | .handled (.saved uri _), doc => uri = doc.uri
  | .handled (.configured settings), _ => ∃ c, Config.ofSettings settings = .ok c
  | _, _ => False

/-- The service when documents have been handed to it one after the other. -/
def executeAll (env : Surroundings) (docs : List Document) (s : Service) : Service :=
  docs.foldl (fun s doc => (s.execute env doc).1) s

/-- Because of an event that comes after some deeds, documents are handed to a service that is ready for them. -/
structure Hands (env : Surroundings) (c : Config) (ds : List Deed) (e : EditorEvent) (ready : Service)
    (docs : List Document) (s' : Service) : Prop where
  /-- The service takes them in turn, and nothing else happens to it. -/
  received : s' = executeAll env docs ready
  /-- Whenever it takes the next one, the configuration after the event is in force. -/
  current : ∀ taken, taken <+: docs → (executeAll env taken ready).config = inForce c (.handled e :: ds)
  /-- No document is handed over twice. -/
  once : (docs.map (·.uri)).Nodup
  /-- They are those that the event asks for, as it has left them. -/
  asked : ∀ doc, doc ∈ docs ↔ Latest (.handled e :: ds) doc ∧ (Deed.handled e).Asks doc

/-! ## What the service receives -/

/-- Linting documents is to hand them to the service. -/
theorem service_lints (env : Surroundings) (docs : List Document) (s : Session) :
    (docs.foldl (lint env) s).service = executeAll env docs s.service := by
  induction docs generalizing s with
  | nil => rfl
  | cons doc docs ih => exact ih (s.lint env doc)

/-- Taking documents does not change the configuration. -/
theorem config_executeAll (docs : List Document) {s : Service} (h : s.Steady) :
    (executeAll env docs s).config = s.config := by
  induction docs generalizing s with
  | nil => rfl
  | cons doc docs ih =>
    have taken := Service.Does.execute env doc s
    exact (ih (taken.steady h)).trans (taken.moves.config h.sound)

/-! ## What the editor has said last -/

/-- The documents that are open after a deed, from those that were open before. -/
def Deed.After (d : Deed) (before : Document → Prop) (doc : Document) : Prop :=
  d = .handled (.opened doc) ∨
    ¬d.Opens doc.uri ∧ d ≠ .handled (.closed doc.uri) ∧
      ∃ text, before { doc with text := text } ∧ (d.supplies? doc.uri).getD text = doc.text

/-- The latest texts after a deed are those before it, but for what the deed brought. -/
theorem latest_cons : Latest (d :: ds) doc ↔ d.After (Latest ds) doc := by
  constructor
  · rintro ⟨later, first, earlier, whole, uri, quiet, language, text⟩
    cases later with
    | nil =>
      obtain ⟨rfl, rfl⟩ := List.cons.inj whole
      left
      cases first
      cases doc
      simp_all
    | cons e later =>
      obtain ⟨rfl, rfl⟩ := List.cons.inj whole
      refine Or.inr ⟨(quiet _ (.head _)).1, (quiet _ (.head _)).2,
        (later.findSome? (Deed.supplies? doc.uri)).getD first.text, ?_, ?_⟩
      · exact ⟨later, first, earlier, rfl, uri, fun d hd => quiet d (.tail _ hd), language, rfl⟩
      · rw [← text, List.findSome?_cons]
        cases d.supplies? doc.uri <;> rfl
  · rintro (rfl | ⟨unopened, unclosed, old, ⟨later, first, earlier, rfl, uri, quiet, language, text⟩, new⟩)
    · exact ⟨[], doc, ds, rfl, rfl, nofun, rfl, rfl⟩
    · refine ⟨d :: later, first, earlier, rfl, uri, ?_, language, ?_⟩
      · exact List.forall_mem_cons.mpr ⟨⟨unopened, unclosed⟩, quiet⟩
      · rw [← new, List.findSome?_cons]
        cases hd : d.supplies? doc.uri with
        | none => exact text
        | some t => rfl

/-- Nothing has been said at first. -/
theorem not_latest_nil : ¬Latest [] doc := by
  rintro ⟨later, first, earlier, whole, -⟩
  cases later <;> cases whole

/-! ## What the session holds -/

/-- A document that is opened takes the place of the one with its URI. -/
theorem mem_insert {first : Document} :
    doc ∈ (s.insert first).documents ↔ first = doc ∨ first.uri ≠ doc.uri ∧ doc ∈ s.documents := by
  simp only [insert, drop, List.mem_append, List.mem_filter, List.mem_singleton, decide_eq_true_eq]
  constructor
  · rintro (⟨there, other⟩ | rfl)
    · exact Or.inr ⟨Ne.symm other, there⟩
    · exact Or.inl rfl
  · rintro (rfl | ⟨other, there⟩)
    · exact Or.inr rfl
    · exact Or.inl ⟨there, Ne.symm other⟩

/-- A text that is set is that of the document with the URI; the other ones stay as they are. -/
theorem mem_setText {text : String} :
    doc ∈ (s.setText uri text).documents ↔
      ∃ old, { doc with text := old } ∈ s.documents ∧ (if uri = doc.uri then text else old) = doc.text := by
  simp only [setText, List.mem_map]
  constructor
  · rintro ⟨before, there, rfl⟩
    refine ⟨before.text, ?_, ?_⟩
    · split <;> exact there
    · by_cases same : before.uri = uri
      · simp [same]
      · simp [same, Ne.symm same]
  · rintro ⟨old, there, new⟩
    refine ⟨_, there, ?_⟩
    obtain ⟨u, language, current⟩ := doc
    by_cases same : u = uri
    · simp_all
    · simp_all [Ne.symm same]

/-- A deed that says nothing about documents leaves them as they are. -/
theorem after_of_silent {before : Document → Prop} (hn : d.supplies? doc.uri = none) (ho : ¬d.Opens doc.uri)
    (hc : d ≠ .handled (.closed doc.uri)) : d.After before doc ↔ before doc := by
  have other : d ≠ .handled (.opened doc) := by
    rintro rfl
    exact ho rfl
  simp [Deed.After, hn, ho, hc, other]

/-- What an event makes of the documents that are open. -/
theorem mem_update : doc ∈ (s.update e).1.documents ↔ (Deed.handled e).After (· ∈ s.documents) doc := by
  cases e with
  | ready => exact (after_of_silent rfl (by simp [Deed.Opens]) (by simp)).symm
  | opened first =>
    refine mem_insert.trans ?_
    simp [Deed.After, Deed.Opens, Deed.supplies?]
  | changed uri texts =>
    simp only [update]
    cases ht : texts.getLast? with
    | none =>
      refine (after_of_silent ?_ (by simp [Deed.Opens]) (by simp)).symm
      simp [Deed.supplies?, ht]
    | some text =>
      refine mem_setText.trans ?_
      by_cases same : uri = doc.uri <;> simp [Deed.After, Deed.Opens, Deed.supplies?, ht, same]
  | saved uri text =>
    cases text with
    | none =>
      refine (after_of_silent ?_ (by simp [Deed.Opens]) (by simp)).symm
      simp [Deed.supplies?]
    | some text =>
      refine mem_setText.trans ?_
      by_cases same : uri = doc.uri <;> simp [Deed.After, Deed.Opens, Deed.supplies?, same]
  | closed uri =>
    simp only [update, drop, List.mem_filter]
    by_cases same : uri = doc.uri
    · simp [Deed.After, same]
    · rw [after_of_silent rfl (by simp [Deed.Opens]) (by simpa using same)]
      simp [Ne.symm same]
  | configured settings =>
    rw [documents_configured]
    exact (after_of_silent rfl (by simp [Deed.Opens]) (by simp)).symm
  | foldersChanged added removed =>
    rw [documents_foldersChanged]
    exact (after_of_silent rfl (by simp [Deed.Opens]) (by simp)).symm

/-- Opening the session opens no documents. -/
theorem documents_opening (folders : List Folder) (settings : Option Json) (s : Session) :
    (s.opening folders settings).documents = s.documents := by
  obtain ⟨folders', paths, service, hs, -⟩ := opening_eq folders settings s
  rw [hs]

/-- What a deed makes of the documents that are open. -/
theorem Does.after (hd : Does s d s') : doc ∈ s'.documents ↔ d.After (· ∈ s.documents) doc := by
  cases hd with
  | enter folders settings =>
    rw [documents_opening]
    exact (after_of_silent rfl (by simp [Deed.Opens]) (by simp)).symm
  | handle env e perm =>
    rw [documents_lints]
    exact mem_update
  | leave => exact (after_of_silent rfl (by simp [Deed.Opens]) (by simp)).symm
  | serve => exact (after_of_silent rfl (by simp [Deed.Opens]) (by simp)).symm

/-- No two documents that are open have one URI. -/
def Distinct (s : Session) : Prop := (s.documents.map (·.uri)).Nodup

/-- Closing a document leaves no two with one URI. -/
theorem Distinct.drop (h : Distinct s) (uri : DocumentUri) : Distinct (s.drop uri) :=
  List.Nodup.sublist (List.filter_sublist.map _) h

theorem Distinct.insert (h : Distinct s) (first : Document) : Distinct (s.insert first) := by
  have front := h.drop first.uri
  simp only [Distinct, Session.insert, List.map_append, List.map_cons, List.map_nil]
  refine List.nodup_append.mpr ⟨front, by simp, ?_⟩
  intro u hu v hv same
  obtain ⟨old, there, rfl⟩ := List.mem_map.mp hu
  rw [List.mem_singleton.mp hv] at same
  simp [Session.drop, same] at there

theorem Distinct.setText (h : Distinct s) (uri : DocumentUri) (text : String) : Distinct (s.setText uri text) := by
  have same : (s.setText uri text).documents.map (·.uri) = s.documents.map (·.uri) := by
    simp only [Session.setText, List.map_map]
    refine List.map_congr_left fun d _ => ?_
    simp only [Function.comp_apply]
    split <;> rfl
  rwa [Distinct, same]

theorem Distinct.update (h : Distinct s) (e : EditorEvent) : Distinct (s.update e).1 := by
  cases e with
  | ready => exact h
  | opened first => exact h.insert first
  | changed uri texts =>
    simp only [Session.update]
    split
    · exact h.setText uri _
    · exact h
  | saved uri text =>
    cases text with
    | none => exact h
    | some text => exact h.setText uri text
  | closed uri => exact h.drop uri
  | configured settings =>
    rw [Distinct, documents_configured]
    exact h
  | foldersChanged added removed =>
    rw [Distinct, documents_foldersChanged]
    exact h

/-- Whatever happens in a session leaves no two open documents with one URI. -/
theorem Does.distinct (hd : Does s d s') (h : Distinct s) : Distinct s' := by
  cases hd with
  | enter folders settings =>
    rw [Distinct, documents_opening]
    exact h
  | handle env e perm =>
    rw [Distinct, documents_lints]
    exact h.update e
  | leave => exact h
  | serve => exact h

/-! ## What is asked for -/

/-- The open document with a URI is the only one. -/
theorem Distinct.mem_find? (h : Distinct s) :
    doc ∈ (s.find? uri).toList ↔ doc ∈ s.documents ∧ uri = doc.uri := by
  rw [Option.mem_toList]
  constructor
  · intro found
    have same : doc.uri = uri := by simpa using List.find?_some found
    exact ⟨List.mem_of_find?_eq_some found, same.symm⟩
  · rintro ⟨there, rfl⟩
    cases found : s.find? doc.uri with
    | none =>
      have none := List.find?_eq_none.mp found doc there
      simp at none
    | some other =>
      have same : other.uri = doc.uri := by simpa using List.find?_some found
      rw [List.inj_on_of_nodup_map h (List.mem_of_find?_eq_some found) there same]

/-- An event asks to lint one open document, all open ones or none, each of them once and as it is after the event. -/
theorem mem_asked (h : Distinct s) (e : EditorEvent) :
    ((s.update e).2.map (·.uri)).Nodup ∧
      ∀ doc, doc ∈ (s.update e).2 ↔ doc ∈ (s.update e).1.documents ∧ (Deed.handled e).Asks doc := by
  have after := h.update e
  cases e with
  | opened first =>
    refine ⟨by simp [update], fun doc => ?_⟩
    simp only [update, List.mem_singleton, mem_insert, Deed.Asks]
    constructor
    · rintro rfl
      exact ⟨Or.inl rfl, rfl⟩
    · rintro ⟨rfl | ⟨other, -⟩, same⟩
      · rfl
      · exact absurd same other
  | saved uri text =>
    have held : (s.update (.saved uri text)).2 = ((s.update (.saved uri text)).1.find? uri).toList := by
      cases text <;> rfl
    rw [held]
    refine ⟨?_, fun doc => after.mem_find?⟩
    cases (s.update (.saved uri text)).1.find? uri <;> simp
  | configured settings =>
    cases hs : Config.ofSettings settings with
    | ok c =>
      rw [update_of_valid hs] at after ⊢
      exact ⟨after, by simp [Deed.Asks, hs]⟩
    | error err =>
      rw [update_of_invalid hs]
      simp [Deed.Asks, hs]
  | changed uri texts =>
    cases ht : texts.getLast? <;> simp [update, ht, Deed.Asks]
  | _ => simp [update, Deed.Asks]

/-! ## Which configuration is in force -/

/-- Settings that are valid are taken, and others are not. -/
theorem config_takeSettings (settings : Json) (s : Session) :
    (s.takeSettings settings).1.service.config = (Config.ofSettings settings).toOption.getD s.service.config := by
  unfold takeSettings
  cases Config.ofSettings settings <;> rfl

/-- Settings are in force as soon as the service is ready, before it takes any document. -/
theorem Readies.config {t t' : Service} (h : Readies t e t') (steady : t.Steady) :
    t'.config = (Deed.handled e).config t.config := by
  cases e with
  | ready =>
    obtain ⟨message, rfl⟩ := h
    rfl
  | closed uri =>
    rw [show t' = t.clear uri from h]
    exact (Service.Does.clear uri t).moves.config steady.sound
  | configured settings =>
    simp only [Readies] at h
    simp only [Deed.config]
    cases hs : Config.ofSettings settings with
    | ok c =>
      rw [hs] at h
      rw [h]
      rfl
    | error err =>
      rw [hs] at h
      rw [h]
      rfl
  | foldersChanged added removed =>
    obtain ⟨folders, rfl⟩ := h
    rfl
  | _ => exact congrArg Service.config h

/-- What a deed makes of the configuration. -/
theorem Does.config (hd : Does s d s') (h : Clean s) : s'.service.config = d.config s.service.config := by
  cases hd with
  | enter folders settings =>
    obtain ⟨folders', paths, hs⟩ := changeFolders_eq folders [] s
    simp only [opening, hs]
    cases settings with
    | none => rfl
    | some settings => exact config_takeSettings settings _
  | handle env e perm =>
    rw [service_lints, config_executeAll _ (h.update e).1.steady]
    exact (readies_update e s).config h.steady
  | leave => exact (Service.Does.shutdown _).moves.config h.steady.sound
  | serve does call =>
    refine (does.moves.config h.steady.sound).trans ?_
    cases does <;> first | rfl | cases call

/-- A run is queued by an event of the editor only. -/
theorem Does.length_runs (hd : Does s d s') (h : Clean s) (hn : ∀ e, d ≠ .handled e) :
    s'.service.runs.length = s.service.runs.length := by
  cases hd with
  | enter folders settings =>
    obtain ⟨folders', paths, service, hs, rfl | ⟨c, rfl⟩ | ⟨message, rfl⟩⟩ := opening_eq folders settings s
    all_goals rw [hs]; rfl
  | handle env e perm => exact absurd rfl (hn e)
  | leave => exact (Service.drops_cancelEach s.service.deque s.service).length
  | serve does call =>
    rcases does.moves.length h.steady.sound with same | ⟨doc, handed, -⟩
    · exact same
    · rw [handed] at call
      cases call

/-- Settings that are not valid are told to the user, and nothing else comes of them. -/
theorem Does.of_invalid {settings : Json} {err : SettingsError} (hd : Does s (.handled (.configured settings)) s')
    (h : Config.ofSettings settings = .error err) :
    s' = s.tell .error ("Invalid Credo settings: " ++ err.message) := by
  cases hd with
  | handle env e perm =>
    rw [update_of_invalid h] at perm ⊢
    rw [perm.eq_nil]
    rfl

/-! ## Histories -/

variable {c : Config} {script : List Reply} {delays : List Bool} {es : List Event}

/-- In every history the documents that are open are as the editor has left them last. -/
theorem History.mem_documents (h : History c script delays es s) :
    doc ∈ s.documents ↔ Latest (es.map (·.deed)) doc := by
  induction h generalizing doc with
  | start => exact iff_of_false List.not_mem_nil not_latest_nil
  | next h hd ht ih =>
    have before : (fun doc => doc ∈ _) = Latest _ := funext fun _ => propext ih
    rw [hd.after, before, List.map_cons, latest_cons]

/-- In every history no two open documents have one URI. -/
theorem History.distinct (h : History c script delays es s) : Distinct s := by
  induction h with
  | start => exact List.nodup_nil
  | next h hd ht ih => exact hd.distinct ih

/-- In every history the configuration of the service is the one in force. -/
theorem History.config_eq (h : History c script delays es s) :
    s.service.config = inForce c (es.map (·.deed)) := by
  induction h with
  | start => rfl
  | next h hd ht ih =>
    rw [hd.config h.clean, ih]
    rfl

/-- In every history an event hands to the service what it has to, in any order. -/
theorem History.hands (h : History c script delays es s) (env : Surroundings) (e : EditorEvent) {docs : List Document}
    (perm : docs.Perm (s.update e).2) :
    Hands env c (es.map (·.deed)) e (s.update e).1.service docs (docs.foldl (lint env) (s.update e).1).service := by
  obtain ⟨once, asked⟩ := mem_asked h.distinct e
  obtain ⟨told, next⟩ := h.goesOn (.handle env e perm)
  refine ⟨service_lints env docs _, fun taken _ => ?_, (perm.map (·.uri)).nodup_iff.mpr once, fun doc => ?_⟩
  · rw [config_executeAll taken (h.clean.update e).1.steady, (readies_update e s).config h.clean.steady, h.config_eq]
    rfl
  · rw [perm.mem_iff, asked, ← documents_lints env docs, next.mem_documents]
    rfl

/-- Every lint sees the latest text. In every history of a session:

1. The documents that are open are exactly those that the deeds of the editor have left open, each with its language and
   the last text that was supplied for it, and no two of them have one URI.
2. The configuration of the service is the last valid one.
3. Whatever the editor does next, the service takes the documents that the event asks for, each of them once and nothing
   besides: the document that is opened, the one that is saved if it is open, or all open ones if there are new valid
   settings. They are as the deeds have left them, this one included, and the configuration after it is in force by
   then. So it is however they are ordered.
4. By nothing else a run is queued.
5. Settings that are not valid are told to the user. Nothing else changes, and no document is handed over. -/
theorem lints_latest (h : History c script delays es s) :
    ((∀ doc, doc ∈ s.documents ↔ Latest (es.map (·.deed)) doc) ∧ (s.documents.map (·.uri)).Nodup) ∧
    s.service.config = inForce c (es.map (·.deed)) ∧
    (∀ env e, Readies s.service e (s.update e).1.service ∧
      (∃ docs, Hands env c (es.map (·.deed)) e (s.update e).1.service docs (s.handle env e).service) ∧
      ∀ docs, docs.Perm (s.update e).2 →
        Hands env c (es.map (·.deed)) e (s.update e).1.service docs
          (docs.foldl (lint env) (s.update e).1).service) ∧
    (∀ d s', Does s d s' → (∀ e, d ≠ .handled e) → s'.service.runs.length = s.service.runs.length) ∧
    (∀ settings err s', Config.ofSettings settings = .error err → Does s (.handled (.configured settings)) s' →
      s' = { s with
        service := { s.service with
          notices := .notify .error ("Invalid Credo settings: " ++ err.message) :: s.service.notices } }) := by
  refine ⟨⟨fun _ => h.mem_documents, h.distinct⟩, h.config_eq, ?_, ?_, ?_⟩
  · intro env e
    refine ⟨readies_update e s, ⟨_, h.hands env e (.refl _)⟩, ?_⟩
    intro docs perm
    exact h.hands env e perm
  · intro d s' does other
    exact does.length_runs h.clean other
  · intro settings err s' invalid does
    exact does.of_invalid invalid

/-! ## A session -/

open Service (project hinting revision finding)

/-- A document has been opened, and its text has changed twice at once. -/
def typed : Session :=
  (handle project (.opened revision) ⟨[], [], .start hinting [finding] []⟩).handle project
    (.changed revision.uri ["x =", "x = 2"])

/-- The session in which a document is typed has a history. -/
theorem history_typed : ∃ es, History hinting [finding] [] es typed := by
  obtain ⟨told, opened⟩ := History.goesOn .start (.of_handle project (.opened revision) _)
  obtain ⟨told', changed⟩ := opened.goesOn (.of_handle project (.changed revision.uri ["x =", "x = 2"]) _)
  exact ⟨_, changed⟩

/-- With new settings the service takes the document once, with its last text and under the new configuration, and a run
for it waits. Settings that are not valid are told only. -/
theorem lints_latest_typed :
    (∃ es, History hinting [finding] [] es typed) ∧
      (typed.handle project (.configured .null)).service =
        executeAll project [{ revision with text := "x = 2" }] (typed.service.configure .default) ∧
      (((typed.handle project (.configured .null)).service.runs[1]?).bind (·.task.body)).map (·.target.document) =
        some { revision with text := "x = 2" } ∧
      ∃ err, Config.ofSettings (.int 0) = .error err ∧
        (typed.handle project (.configured (.int 0))).service = { typed.service with
          notices := [.notify .error ("Invalid Credo settings: " ++ err.message)] } := by
  obtain ⟨es, history⟩ := history_typed
  obtain ⟨⟨held, -⟩, -, handed, -, invalid⟩ := lints_latest history
  have documents : typed.documents = [{ revision with text := "x = 2" }] := by decide +kernel
  have valid : Config.ofSettings .null = .ok Config.default := rfl
  obtain ⟨ready, ⟨docs, hands⟩, -⟩ := handed project (.configured .null)
  have only : ∀ doc, doc ∈ docs ↔ doc = { revision with text := "x = 2" } := by
    intro doc
    rw [hands.asked, latest_cons, after_of_silent rfl (by simp [Deed.Opens]) (by simp), ← held, documents]
    simp [Deed.Asks, valid]
  have single : docs = [{ revision with text := "x = 2" }] := by
    have distinct : docs.Nodup := List.Nodup.of_map Document.uri hands.once
    exact List.perm_singleton.mp ((List.perm_ext_iff_of_nodup distinct (by simp)).mpr (by simpa using only))
  have configured : (typed.update (.configured .null)).1.service = typed.service.configure .default := by
    simpa [Readies, valid] using ready
  obtain ⟨err, rejected⟩ : ∃ err, Config.ofSettings (.int 0) = .error err := by
    cases h : Config.ofSettings (.int 0) with
    | error err => exact ⟨err, rfl⟩
    | ok c =>
      have none : (Config.ofSettings (.int 0)).toOption = none := by decide +kernel
      rw [h] at none
      cases none
  refine ⟨⟨es, history⟩, ?_, by decide +kernel, err, rejected, ?_⟩
  · rw [← configured, ← single]
    exact hands.received
  · have silent : typed.service.notices = [] := by decide +kernel
    rw [invalid _ _ _ rejected (.of_handle project _ typed), silent]

end ElixirLint.Session
