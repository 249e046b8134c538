import ElixirLint.Queue.Machine
import Mathlib.Logic.Relation

/-!
# Runs of the queue

A run begins with a machine in which nothing has happened. It goes on by moves: running code goes on by a piece of
work, and while no code is running somebody outside does an operation, starts a task directly, or begins to wait.
Operations from outside may come at any moment between two jobs, not only when everything has settled.

`Later` says that a machine comes after another one in a run, and `Reachable` that it occurs in a run from the start.
Every statement about all runs is proved by `Reachable.induct`, whose cases are the frame or the job that goes on and
the two kinds of call from outside.
-/

namespace ElixirLint.Queue.Machine

variable {n : Nat} {scripts : Fin n → Script n} {m m' m'' : Machine n}

/-- One move of a run. The drain loop alone waits for its turns. -/
inductive Move : Machine n → Machine n → Prop
  /-- The topmost frame goes on, or with no frame left the next job. -/
  | work {m m' : Machine n} (h : m.step = some m') : Move m m'
  /-- Somebody outside begins an operation. -/
  | perform {m : Machine n} (a : Action n) (h : m.frames = []) : Move m (m.perform a)
  /-- Somebody outside starts a task directly, or begins to wait for a task or for the queue to be idle. -/
  | await {m : Machine n} (goal : Goal n) (h : m.frames = []) (hg : ∀ t, goal ≠ .turn t) : Move m (m.await goal)

/-- The second machine comes after the first one in a run, or is the first one. -/
def Later (m m' : Machine n) : Prop := Relation.ReflTransGen Move m m'

/-- The machine occurs in a run of the scripts. -/
def Reachable (scripts : Fin n → Script n) (m : Machine n) : Prop := Later (start scripts) m

/-- Nobody has started a task past the queue: no direct run is among those who ever waited. -/
def NoDirectRun (m : Machine n) : Prop := ∀ x ∈ m.waiters, ∀ t, x.goal ≠ .run t

theorem Later.refl (m : Machine n) : Later m m := Relation.ReflTransGen.refl

theorem Later.trans (h : Later m m') (h' : Later m' m'') : Later m m'' := Relation.ReflTransGen.trans h h'

theorem Later.snoc (h : Later m m') (h' : Move m' m'') : Later m m'' := Relation.ReflTransGen.tail h h'

/-- A run begins with the machine before anything has happened. -/
theorem reachable_start (scripts : Fin n → Script n) : Reachable scripts (start scripts) := Later.refl _

/-- What comes later in a run occurs in it. -/
theorem Reachable.later (h : Reachable scripts m) (h' : Later m m') : Reachable scripts m' := Later.trans h h'

/-! ## The next piece of work -/

/-- The topmost frame goes first. -/
theorem step_of_frames {f : Frame n} {fs : List (Frame n)} (h : m.frames = f :: fs) :
    m.step = some (runFrame f { m with frames := fs }) := by
  simp [step, h]

/-- With no frame left, the first job goes on. -/
theorem step_of_jobs {j : Job} {js : List Job} (h : m.frames = []) (hj : m.jobs = j :: js) :
    m.step = some (runJob j { m with jobs := js }) := by
  simp [step, h, hj]

/-- A machine that goes on runs its topmost frame or, with no frame left, its next job. -/
theorem step_cases (h : m.step = some m') :
    (∃ f fs, m.frames = f :: fs ∧ m' = runFrame f { m with frames := fs }) ∨
      (m.frames = [] ∧ ∃ j js, m.jobs = j :: js ∧ m' = runJob j { m with jobs := js }) := by
  match hf : m.frames with
  | f :: fs =>
    rw [step_of_frames hf] at h
    exact Or.inl ⟨f, fs, rfl, (Option.some.inj h).symm⟩
  | [] =>
    match hj : m.jobs with
    | j :: js =>
      rw [step_of_jobs hf hj, hf] at h
      exact Or.inr ⟨rfl, j, js, rfl, (Option.some.inj h).symm⟩
    | [] => simp [step, hf, hj] at h

/-- Running the topmost frame is a move. -/
theorem Reachable.frame {f : Frame n} {fs : List (Frame n)} (h : Reachable scripts m) (hf : m.frames = f :: fs) :
    Reachable scripts (runFrame f { m with frames := fs }) :=
  Later.snoc h (.work (step_of_frames hf))

/-- With no frame left, running the first job is a move. -/
theorem Reachable.job {j : Job} {js : List Job} (h : Reachable scripts m) (hf : m.frames = [])
    (hj : m.jobs = j :: js) : Reachable scripts (runJob j { m with jobs := js }) :=
  Later.snoc h (.work (step_of_jobs hf hj))

/-- With no frame left, anybody may do an operation. -/
theorem Reachable.perform (h : Reachable scripts m) (hf : m.frames = []) (a : Action n) :
    Reachable scripts (m.perform a) :=
  Later.snoc h (.perform a hf)

/-- With no frame left, anybody may begin to wait, but not for a turn. -/
theorem Reachable.await (h : Reachable scripts m) (hf : m.frames = []) {goal : Goal n} (hg : ∀ t, goal ≠ .turn t) :
    Reachable scripts (m.await goal) :=
  Later.snoc h (.await goal hf hg)

/-- Induction over the moves that lead to a machine. -/
theorem Reachable.induct {motive : (m : Machine n) → Reachable scripts m → Prop}
    (start : motive (Machine.start scripts) (reachable_start scripts))
    (frame : ∀ {m f fs} (h : Reachable scripts m) (hf : m.frames = f :: fs), motive m h →
      motive (runFrame f { m with frames := fs }) (h.frame hf))
    (job : ∀ {m j js} (h : Reachable scripts m) (hf : m.frames = []) (hj : m.jobs = j :: js), motive m h →
      motive (runJob j { m with jobs := js }) (h.job hf hj))
    (perform : ∀ {m} a (h : Reachable scripts m) (hf : m.frames = []), motive m h →
      motive (m.perform a) (h.perform hf a))
    (await : ∀ {m} goal (h : Reachable scripts m) (hf : m.frames = []) (hg : ∀ t, goal ≠ .turn t), motive m h →
      motive (m.await goal) (h.await hf hg))
    (h : Reachable scripts m) : motive m h := by
  refine Relation.ReflTransGen.rec (motive := motive) start ?_ h
  intro m m' hm move ih
  cases move with
  | work h =>
    obtain ⟨f, fs, hf, rfl⟩ | ⟨hf, j, js, hj, rfl⟩ := step_cases h
    · exact frame hm hf ih
    · exact job hm hf hj ih
  | perform a h => exact perform a hm h ih
  | await goal h hg => exact await goal hm h hg ih

/-! ## Whole operations are runs -/

/-- Running code to its end is a part of a run. -/
theorem later_unwindWith (fuel : Nat) (m : Machine n) : Later m (unwindWith fuel m) := by
  induction fuel generalizing m with
  | zero => exact Later.refl m
  | succ fuel ih =>
    unfold unwindWith
    split
    · exact Later.refl m
    · rename_i f fs hf
      exact (Later.snoc (Later.refl m) (.work (step_of_frames hf))).trans (ih _)

/-- Running all that can proceed is a part of a run. -/
theorem later_settleWith (fuel : Nat) (m : Machine n) : Later m (settleWith fuel m) := by
  induction fuel generalizing m with
  | zero => exact Later.refl m
  | succ fuel ih =>
    unfold settleWith
    split
    · exact Later.refl m
    · rename_i m' h
      exact (Later.snoc (Later.refl m) (.work h)).trans (ih m')

/-- Doing an operation from outside to its end is a run. -/
theorem Reachable.act (h : Reachable scripts m) (hf : m.frames = []) (a : Action n) : Reachable scripts (m.act a) :=
  h.later ((Later.snoc (Later.refl m) (.perform a hf)).trans (later_unwindWith _ _))

/-- Doing some pieces of work is a run. -/
theorem Reachable.settleWith (h : Reachable scripts m) (fuel : Nat) : Reachable scripts (settleWith fuel m) :=
  h.later (later_settleWith fuel m)

/-- Running everything that can proceed is a run. -/
theorem Reachable.settle (h : Reachable scripts m) : Reachable scripts m.settle :=
  h.settleWith m.bound

end ElixirLint.Queue.Machine
