import ElixirLint.Proofs.Queue.Effect
import ElixirLint.Proofs.Queue.Run

/-!
# The life of a task

Running code changes a task in six ways only (`Task.Change`), and a job besides that starts a pending task
(`tasks_runJob`). What no move takes back is `Task.Evolves`: the key of a task, a terminal state, having started, the
completion mark, and having been enqueued. Every move lets every task evolve (`Move.ages`), and so does a run of any
length (`Later.ages`). In particular finished and canceled are final.
-/

namespace ElixirLint

namespace Task

variable {β η : Type} {x y z : Task β η}

/-- What code that may keep some cleanups and may cancel may make of a task in one piece of work. -/
inductive Change (keeps : η → Prop) (cancels : Prop) : Task β η → Task β η → Prop
  | none (x : Task β η) : Change keeps cancels x x
  | complete {x : Task β η} (h : x.state.isTerminal = false) : Change keeps cancels x x.complete
  | cancel {x : Task β η} (hc : cancels) (h : x.state.isTerminal = false) : Change keeps cancels x x.beginCancel.1
  | resolve (x : Task β η) : Change keeps cancels x x.resolve
  | keep {x : Task β η} {c : η} (hk : keeps c) (h : x.state = .running) :
      Change keeps cancels x { x with cleanup := some c }
  | markEnqueued {x : Task β η} (h : x.enqueued = false) : Change keeps cancels x x.markEnqueued

variable {keeps : η → Prop} {cancels : Prop}

/-- Completing changes a task, or nothing if the task is terminal. -/
theorem change_complete (x : Task β η) : Change keeps cancels x x.complete := by
  by_cases h : x.state.isTerminal = true
  · rw [complete_of_isTerminal h]
    exact .none x
  · exact .complete (by simpa using h)

/-- The second task may be what has become of the first one. -/
structure Evolves (x x' : Task β η) : Prop where
  key : x'.key = x.key
  state_of_terminal : x.state.isTerminal = true → x'.state = x.state
  pending_of_pending : x'.state = .pending → x.state = .pending
  done : x.done = true → x'.done = true
  enqueued : x.enqueued = true → x'.enqueued = true

theorem Evolves.refl (x : Task β η) : x.Evolves x := ⟨rfl, fun _ => rfl, id, id, id⟩

theorem Evolves.trans (h : x.Evolves y) (h' : y.Evolves z) : x.Evolves z where
  key := h'.key.trans h.key
  state_of_terminal ht := by
    have hy := h.state_of_terminal ht
    rw [← hy] at ht ⊢
    exact h'.state_of_terminal ht
  pending_of_pending hp := h.pending_of_pending (h'.pending_of_pending hp)
  done hd := h'.done (h.done hd)
  enqueued he := h'.enqueued (h.enqueued he)

/-- A task that has become terminal stays so. -/
theorem Evolves.isTerminal (h : x.Evolves y) (ht : x.state.isTerminal = true) : y.state.isTerminal = true := by
  rw [h.state_of_terminal ht]
  exact ht

/-- A piece of work makes a task evolve. -/
theorem Change.evolves (h : Change keeps cancels x y) : x.Evolves y := by
  cases h with
  | none => exact .refl x
  | complete h =>
    constructor <;> simp [Task.complete, h]
  | cancel _ h =>
    constructor <;> simp [Task.beginCancel, h]
  | resolve => exact ⟨rfl, fun _ => rfl, id, fun _ => rfl, id⟩
  | keep _ h => exact ⟨rfl, fun _ => rfl, id, id, id⟩
  | markEnqueued h => exact ⟨rfl, fun _ => rfl, id, id, fun _ => rfl⟩

/-- Running code starts no task. -/
theorem Change.running (h : Change keeps cancels x y) (hr : y.state = .running) : x.state = .running := by
  cases h with
  | complete h => simp [Task.complete, h] at hr
  | cancel _ h => simp [Task.beginCancel, h] at hr
  | _ => exact hr

/-- Running code leaves the body of a task that is still pending alone. -/
theorem Change.body_of_pending (h : Change keeps cancels x y) (hp : y.state = .pending) : y.body = x.body := by
  cases h with
  | complete h => simp [Task.complete, h] at hp
  | cancel _ h => simp [Task.beginCancel, h] at hp
  | _ => rfl

theorem evolves_start (x : Task β η) : x.Evolves x.start.1 := by
  unfold start
  split
  · rename_i h
    constructor <;> simp [h, TaskState.isTerminal]
  · exact .refl x

end Task

namespace Queue

namespace Machine

variable {n : Nat} {m m' m'' : Machine n}

/-- Every task of the second machine is what one piece of running code may make of it that keeps some cleanups and
cancels some tasks. -/
def Changes (keeps : Fin n → Cleanup n → Prop) (cancels : Fin n → Prop) (m m' : Machine n) : Prop :=
  ∀ t, Task.Change (keeps t) (cancels t) (m.tasks t) (m'.tasks t)

variable {keeps : Fin n → Cleanup n → Prop} {cancels : Fin n → Prop}

/-- Tasks that are left alone are not changed. -/
theorem Changes.of_eq (h : m'.tasks = m.tasks) : Changes keeps cancels m m' := fun t => by rw [h]; exact .none _

/-- If only one task changes, it is enough to know how. -/
theorem Changes.single (t : Fin n) {x : Task (Body n) (Cleanup n)} (h : Task.Change (keeps t) (cancels t) (m.tasks t) x)
    (hm : m'.tasks = fun u => if u = t then x else m.tasks u) : Changes keeps cancels m m' := by
  intro u
  rw [hm]
  by_cases hu : u = t
  · subst hu
    simpa using h
  · simp only [hu, if_false]
    exact .none _

theorem changes_perform (a : Action n) (m : Machine n) : Changes keeps cancels m (m.perform a) := by
  cases a with
  | enqueue t =>
    by_cases h : (m.tasks t).enqueued = true
    · exact .of_eq (by simp [perform, h, ret])
    · exact .single t (.markEnqueued (by simpa using h)) (by simp [perform, h, setTask, push])
  | finish t =>
    by_cases h : m.parked t = true
    · exact .single t (Task.change_complete _) (by simp [perform, h, ret, tasks_complete, setParked])
    · exact .of_eq (by simp [perform, h, ret])
  | _ => exact .of_eq rfl

/-- A step of a body completes its task or does an operation. -/
theorem changes_bodyStep (t : Fin n) (w : Nat) (token : Bool) (steps : List (BodyStep n)) (c : Cleanup n)
    (m : Machine n) : Changes keeps cancels m (m.bodyStep t w token steps c) := by
  have release : Changes keeps cancels m (if token then m.complete t else m) := by
    split
    · exact .single t (Task.change_complete _) (tasks_complete t m)
    · exact .of_eq rfl
  match steps with
  | [] => exact release
  | .dropToken :: _ => exact release
  | .panic :: _ => simpa [bodyStep, emit, Changes] using release
  | .check :: _ => exact .of_eq rfl
  | .display :: _ => exact .of_eq rfl
  | .act a :: steps => exact changes_perform a (m.push [.note a, .body t w token steps c])
  | .park :: _ =>
    by_cases ht : token = true
    · exact .of_eq (by simp [bodyStep, ht, setParked, push])
    · by_cases hp : m.parked t = true
      · exact .single t (Task.change_complete _) (by simp [bodyStep, ht, hp, setParked, push, tasks_complete])
      · exact .of_eq (by simp [bodyStep, ht, hp, push])

/-- Canceling the next of some tasks changes that task only. -/
theorem changes_cancelStep (ts : List (Fin n)) (m : Machine n) :
    Changes keeps (fun t => ∃ ts', Frame.cancelEach ts = .cancelEach (t :: ts')) m (m.cancelStep ts) := by
  cases ts with
  | nil => exact .of_eq rfl
  | cons t ts =>
    rw [cancelStep_cons]
    split
    · exact .of_eq rfl
    · rename_i h
      exact .single t (.cancel ⟨ts, rfl⟩ (by simpa using h)) (by simp [setTask, push])

/-- Running code keeps the cleanup that is handed over, and cancels the task whose turn it is to be canceled. -/
theorem changes_runFrame (f : Frame n) (m : Machine n) :
    Changes (fun t c => f = .handOver t c) (fun t => ∃ ts, f = .cancelEach (t :: ts)) m (m.runFrame f) := by
  cases f with
  | body t w token steps c => exact changes_bodyStep t w token steps c m
  | handOver t c =>
    rw [runFrame_handOver]
    split
    · rename_i h
      exact .single t (.keep rfl h) rfl
    · split
      · exact .of_eq (by simp)
      · exact .of_eq rfl
  | look w => exact .of_eq (by simp [runFrame])
  | cleanup t actions =>
    cases actions with
    | nil => exact .of_eq rfl
    | cons a actions => exact changes_perform a (m.push [.note a, .cleanup t actions])
  | cancelEach ts => exact changes_cancelStep ts m
  | resolve t => exact .single t (.resolve _) rfl
  | append t => exact .of_eq (by simp [runFrame])
  | note a => exact .of_eq rfl
  | advance => exact .of_eq (by simp [runFrame])
  | next => exact .of_eq (by simp [runFrame])

theorem tasks_runTask (t : Fin n) (w : Nat) (m : Machine n) :
    (m.runTask t w).tasks = fun u => if u = t then (m.tasks t).start.1 else m.tasks u := by
  unfold runTask
  split <;> simp_all [setTask, push, emit]

/-- A job starts at most one task, and only a pending one. -/
theorem tasks_runJob (j : Job) (m : Machine n) :
    (m.runJob j).tasks = m.tasks ∨
      ∃ t, (m.runJob j).tasks = fun u => if u = t then (m.tasks t).start.1 else m.tasks u := by
  cases j with
  | drain =>
    left
    simp only [runJob]
    split
    · rfl
    · split <;> rfl
  | poll w =>
    simp only [runJob]
    split
    · exact Or.inr ⟨_, tasks_runTask _ w m⟩
    · exact Or.inr ⟨_, tasks_runTask _ w m⟩
    · exact Or.inl rfl

/-! ## Along a run -/

/-- Every task of the second machine is what has become of it since the first one. -/
def Ages (m m' : Machine n) : Prop := ∀ t, (m.tasks t).Evolves (m'.tasks t)

/-- Under a piece of work all tasks evolve. -/
theorem Changes.ages (h : Changes keeps cancels m m') : m.Ages m' := fun t => (h t).evolves

theorem ages_runJob (j : Job) (m : Machine n) : m.Ages (m.runJob j) := by
  intro u
  obtain h | ⟨t, h⟩ := tasks_runJob j m
  · rw [h]
    exact .refl _
  · rw [h]
    by_cases hu : u = t
    · subst hu
      simpa using Task.evolves_start _
    · simpa [hu] using Task.Evolves.refl _

/-- Under an operation all tasks evolve. -/
theorem ages_perform (a : Action n) (m : Machine n) : m.Ages (m.perform a) :=
  Changes.ages (changes_perform a m : Changes (fun _ _ => False) (fun _ => False) m _)

/-- An operation starts no task. -/
theorem running_perform {a : Action n} {t : Fin n} (h : ((m.perform a).tasks t).state = .running) :
    (m.tasks t).state = .running :=
  have change : Changes (fun _ _ => False) (fun _ => False) m (m.perform a) := changes_perform a m
  (change t).running h

/-- Every move lets every task evolve. -/
theorem Move.ages (h : Move m m') : m.Ages m' := by
  cases h with
  | work h =>
    obtain ⟨f, fs, -, rfl⟩ | ⟨-, j, js, -, rfl⟩ := step_cases h
    · exact (changes_runFrame f { m with frames := fs }).ages
    · exact ages_runJob j { m with jobs := js }
  | perform a => exact ages_perform a m
  | await goal => exact fun t => .refl _

/-- A run lets every task evolve. -/
theorem Later.ages (h : Later m m') : m.Ages m' := by
  induction h with
  | refl => exact fun t => .refl _
  | tail _ move ih => exact fun t => (ih t).trans (move.ages t)

/-- A task keeps the key it was set up with. -/
theorem Reachable.key {scripts : Fin n → Script n} (h : Reachable scripts m) (t : Fin n) :
    (m.tasks t).key = (scripts t).key :=
  (Later.ages h t).key

/-- A task that has not started still has its body. -/
theorem Reachable.body_of_pending {scripts : Fin n → Script n} (h : Reachable scripts m) (t : Fin n)
    (hp : (m.tasks t).state = .pending) : (m.tasks t).body = some (scripts t).body := by
  induction h using Reachable.induct with
  | start => rfl
  | @frame m f fs _ _ ih =>
    have change := changes_runFrame f { m with frames := fs } t
    rw [change.body_of_pending hp]
    exact ih (change.evolves.pending_of_pending hp)
  | @job m j js _ _ _ ih =>
    obtain ht | ⟨u, ht⟩ := tasks_runJob j { m with jobs := js }
    · rw [ht] at hp ⊢
      exact ih hp
    · have hu : t ≠ u := by
        rintro rfl
        by_cases hs : (m.tasks t).state = .pending <;> simp [ht, Task.state_start, hs] at hp
      simp only [ht, hu, if_false] at hp ⊢
      exact ih hp
  | @perform m a _ _ ih =>
    have change := (changes_perform a m : Changes (fun _ _ => False) (fun _ => False) m _) t
    rw [change.body_of_pending hp]
    exact ih (change.evolves.pending_of_pending hp)
  | await goal _ _ _ ih => exact ih hp

end Machine

end Queue

end ElixirLint
