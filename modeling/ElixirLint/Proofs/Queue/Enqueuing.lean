import ElixirLint.Proofs.Queue.Finality
import ElixirLint.Proofs.Queue.Fleet
import Mathlib.Algebra.BigOperators.Fin
import Mathlib.Algebra.Order.BigOperators.Group.Finset

/-!
# A task is put in once, and in vain otherwise

Putting a task into a queue begins with two checks: whether there is a runtime, and whether the task has been put in
before. Either of them refuses the task before anything has changed. The task is marked in the same piece of work, so
whoever tries it again finds the mark, even from a cleanup that runs before the task is in the queue. Who comes first
cancels the tasks with the same key and then puts the task in. Canceling comes to an end, whatever the cleanups do: each
operation of a cleanup is done once, and a task that has been canceled has no cleanup any more (`Move.canceling`).

Main result: `enqueues_once`.
-/

namespace ElixirLint.Queue

variable {k n : Nat}

/-- A call that is made in a runtime to put in a task. -/
def Call.Uses (t : Fin n) (c : Call k n) : Prop := c.action = .enqueue t ∧ c.inRuntime = true

/-- Frames that are put on the stack by canceling and by putting in. -/
def Frame.isCanceling : Frame n → Bool
  | .cleanup .. | .cancelEach _ | .resolve _ | .append _ | .note _ => true
  | _ => false

/-- The operations that a frame of a cleanup still has to do. -/
def Frame.operations : Frame n → Nat
  | .cleanup _ actions => actions.length
  | _ => 0

/-- The pieces of work that a frame takes besides its operations. A task that is to be canceled takes three: it is
canceled, its cleanup ends, and it is resolved. -/
def Frame.pieces : Frame n → Nat
  | .cancelEach ts => 3 * ts.length + 1
  | _ => 1

/-- The operations of the cleanup that a task holds. -/
def keptOperations (x : Task (Body n) (Cleanup n)) : Nat := (x.cleanup.join.getD []).length

/-- Code that keeps no cleanup gives a task no operations. -/
theorem keptOperations_le {keeps : Cleanup n → Prop} {cancels : Prop} {x y : Task (Body n) (Cleanup n)}
    (h : Task.Change keeps cancels x y) (hk : ∀ c, ¬keeps c) : keptOperations y ≤ keptOperations x := by
  cases h with
  | complete h => simp [keptOperations, Task.complete, h]
  | cancel _ h => simp [keptOperations, Task.beginCancel, h]
  | keep kept => exact absurd kept (hk _)
  | _ => exact Nat.le_refl _

namespace Machine

variable {m : Machine n} {f : Frame n} {a : Action n}

/-! ## Canceling takes work away -/

/-- Canceling leads to canceling only. -/
theorem isCanceling_follow (hf : f.isCanceling = true) : ∀ g ∈ m.follow f, g.isCanceling = true := by
  intro g hg
  cases leads_of_mem_follow hg with
  | call _ h =>
    obtain ⟨ts, rfl⟩ | ⟨t, rfl, -⟩ := mem_calls h
    · rfl
    · rfl
  | _ => first | rfl | cases hf

/-- Only a cleanup does operations while tasks are canceled. -/
theorem cleanup_of_performs (hf : f.isCanceling = true) (hp : f.performs = some a) :
    ∃ t actions, f = .cleanup t (a :: actions) := by
  cases f with
  | cleanup t actions =>
    cases actions with
    | nil => cases hp
    | cons b actions => exact ⟨t, actions, by rw [Option.some.inj hp]⟩
  | _ => first | cases hp | cases hf

/-- An operation gives no task a cleanup. -/
theorem keptOperations_perform_le (a : Action n) (m : Machine n) :
    ∑ t, keptOperations ((m.perform a).tasks t) ≤ ∑ t, keptOperations (m.tasks t) :=
  Finset.sum_le_sum fun t _ =>
    keptOperations_le ((changes_perform a m : Changes (fun _ _ => False) (fun _ => False) m _) t) fun _ h => h

/-- The next operation of a cleanup begins with canceling, which has no operations of its own. -/
theorem call_canceling (inRuntime : Bool) (a : Action n) (m : Machine n) :
    ∃ gs, (m.call inRuntime a).frames = gs ++ m.frames ∧ (∀ g ∈ gs, g.isCanceling = true ∧ g.operations = 0) ∧
      ∑ t, keptOperations ((m.call inRuntime a).tasks t) ≤ ∑ t, keptOperations (m.tasks t) := by
  obtain ⟨begun, -⟩ | ⟨-, -, refused⟩ := call_cases inRuntime a m
  · rw [begun]
    refine ⟨m.calls a, (fields_perform a m).2.2.2.2.1, fun g hg => ?_, keptOperations_perform_le a m⟩
    obtain ⟨ts, rfl⟩ | ⟨t, rfl, -⟩ := mem_calls hg
    · exact ⟨rfl, rfl⟩
    · exact ⟨rfl, rfl⟩
  · rw [refused]
    exact ⟨[], rfl, nofun, Nat.le_refl _⟩

/-- Canceling a task takes its cleanup. -/
theorem keptOperations_cancel {t : Fin n} (hs : ¬(m.tasks t).state.isTerminal = true) (ts : List (Fin n)) :
    ∑ u, keptOperations ((m.runFrame (.cancelEach (t :: ts))).tasks u) + keptOperations (m.tasks t) ≤
      ∑ u, keptOperations (m.tasks u) := by
  have single (u : Fin n) : keptOperations ((m.runFrame (.cancelEach (t :: ts))).tasks u) +
      (if u = t then keptOperations (m.tasks u) else 0) = keptOperations (m.tasks u) := by
    have tasks : (m.runFrame (.cancelEach (t :: ts))).tasks = (m.setTask t (m.tasks t).beginCancel.1).tasks := by
      simp [runFrame, cancelStep_cons, hs, push]
    rw [tasks]
    by_cases hu : u = t
    · subst hu
      simp [setTask, keptOperations, Task.beginCancel, hs]
    · simp [setTask, hu]
  rw [← Finset.sum_congr rfl fun u _ => single u, Finset.sum_add_distrib]
  simp

/-- A piece of work of canceling takes a piece away, and adds no operation: a cleanup is called by taking it from its
task. -/
theorem runFrame_canceling (hf : f.isCanceling = true) (hp : f.performs = none) (m : Machine n) :
    ∑ t, keptOperations ((m.runFrame f).tasks t) + ((m.follow f).map Frame.operations).sum ≤
        ∑ t, keptOperations (m.tasks t) + f.operations ∧
      ((m.follow f).map Frame.pieces).sum < f.pieces := by
  have fewer : ∑ t, keptOperations ((m.runFrame f).tasks t) ≤ ∑ t, keptOperations (m.tasks t) := by
    refine Finset.sum_le_sum fun t _ => keptOperations_le (changes_runFrame f m t) fun c h => ?_
    rw [h] at hf
    cases hf
  cases f with
  | cleanup t actions =>
    cases actions with
    | nil => exact ⟨fewer, by simp [follow, Frame.pieces]⟩
    | cons a actions => cases hp
  | cancelEach ts =>
    cases ts with
    | nil => exact ⟨fewer, by simp [follow, Frame.pieces]⟩
    | cons t ts =>
      by_cases hs : (m.tasks t).state.isTerminal = true
      · simp only [follow, hs, if_true]
        exact ⟨fewer, by simp [Frame.pieces]⟩
      · simp only [follow, hs, Bool.false_eq_true, if_false]
        have taken := keptOperations_cancel hs ts
        rcases hc : (m.tasks t).cleanup with _ | _ | actions
        · exact ⟨fewer, by simp [cleanupFrames, Frame.pieces]; omega⟩
        · exact ⟨fewer, by simp [cleanupFrames, Frame.pieces]; omega⟩
        · have own : keptOperations (m.tasks t) = actions.length := by simp [keptOperations, hc]
          rw [own] at taken
          exact ⟨by simpa [cleanupFrames, Frame.operations] using taken, by simp [cleanupFrames, Frame.pieces]; omega⟩
  | resolve t | append t | note a => exact ⟨fewer, by simp [follow, Frame.pieces]⟩
  | _ => cases hf

/-! ## The mark -/

/-- A call marks a task only if it puts the task in, in a runtime. -/
theorem enqueued_call (inRuntime : Bool) (a : Action n) (m : Machine n) (t : Fin n) :
    ((m.call inRuntime a).tasks t).enqueued = ((m.tasks t).enqueued || inRuntime && decide (a = .enqueue t)) := by
  obtain ⟨begun, runs⟩ | ⟨outside, -, refused⟩ := call_cases inRuntime a m
  · rw [begun, enqueued_perform]
    by_cases ha : a = .enqueue t
    · rw [runs t ha, Bool.true_and]
    · simp [ha]
  · rw [refused, outside, Bool.false_and, Bool.or_false]
    rfl

/-- Under a call all tasks evolve. -/
theorem ages_call (inRuntime : Bool) (a : Action n) (m : Machine n) : m.Ages (m.call inRuntime a) := by
  obtain ⟨begun, -⟩ | ⟨-, -, refused⟩ := call_cases inRuntime a m
  · rw [begun]
    exact ages_perform a m
  · rw [refused]
    exact fun t => .refl _

/-- A job marks no task. -/
theorem enqueued_runJob (j : Job) (m : Machine n) (t : Fin n) :
    ((m.runJob j).tasks t).enqueued = (m.tasks t).enqueued := by
  obtain h | ⟨u, h⟩ := tasks_runJob j m
  · rw [h]
  · rw [h]
    by_cases hu : t = u <;> simp [hu]

end Machine

namespace Fleet

variable {scripts : Fin n → Script n} {F F₁ F' : Fleet k n} {c : Option (Call k n)} {cs : List (Call k n)}
  {a : Action n} {q : Fin k} {t : Fin n} {x : Fin k × Frame n} {pre base : List (Fin k × Frame n)}

/-- A call by itself changes nothing but the stack. -/
theorem Calls.same (h : Calls a F F₁) :
    F₁.tasks = F.tasks ∧ F₁.parked = F.parked ∧ F₁.lines = F.lines ∧ F₁.events = F.events := by
  cases h <;> exact ⟨rfl, rfl, rfl, rfl⟩

/-- A move marks the task that it is to put in, and no other one. -/
theorem Move.enqueued (h : Move F c F') (t : Fin n) :
    (F'.tasks t).enqueued = true ↔ (F.tasks t).enqueued = true ∨ ∃ x ∈ c, x.Uses t := by
  cases h with
  | @call F₁ x calls =>
    have marked := Machine.enqueued_call x.inRuntime x.action (F₁.machine x.queue) t
    have same : ((F₁.machine x.queue).tasks t) = F.tasks t := congrFun calls.same.1 t
    rw [same] at marked
    simp [Fleet.call, hold, marked, Call.Uses, and_comm]
  | @frame q f rest _ hf =>
    have unmarked : ((Machine.runFrame f (F.machine q)).tasks t).enqueued = (F.tasks t).enqueued := by
      rw [Machine.enqueued_runFrame, hf]
      exact Bool.or_false _
    simp [hold, unmarked]
  | @job q j js =>
    have unmarked := Machine.enqueued_runJob j { F.machine q with jobs := js } t
    exact ⟨fun h => Or.inl (unmarked ▸ h), fun h => unmarked ▸ h.resolve_right (by simp)⟩
  | await => simp [hold, Machine.await, Machine.addWaiter, Machine.spawn, machine]

theorem Move.key (h : Move F c F') (t : Fin n) : (F'.tasks t).key = (F.tasks t).key := by
  cases h with
  | @call F₁ x calls =>
    have kept := (Machine.ages_call x.inRuntime x.action (F₁.machine x.queue) t).key
    exact kept.trans (congrArg Task.key (congrFun calls.same.1 t))
  | @frame q f => exact ((Machine.changes_runFrame f (F.machine q)).ages t).key
  | @job q j js => exact (Machine.ages_runJob j { F.machine q with jobs := js } t).key
  | await => rfl

/-- In every run those tasks are marked that have been tried in a runtime. -/
theorem Run.enqueued_iff (h : Run scripts cs F) (t : Fin n) :
    (F.tasks t).enqueued = true ↔ ∃ c ∈ cs, c.Uses t := by
  induction h with
  | start => simp [Fleet.start, Machine.start, Task.fresh]
  | @next cs c F F' h hm ih =>
    rw [hm.enqueued, ih]
    simp only [List.mem_append, Option.mem_toList, Option.mem_def]
    constructor
    · rintro (⟨x, hx, uses⟩ | ⟨x, hx, uses⟩)
      · exact ⟨x, Or.inr hx, uses⟩
      · exact ⟨x, Or.inl hx, uses⟩
    · rintro ⟨x, hx | hx, uses⟩
      · exact Or.inr ⟨x, hx, uses⟩
      · exact Or.inl ⟨x, hx, uses⟩

/-- In every run a task has the key of its script. -/
theorem Run.key (h : Run scripts cs F) (t : Fin n) : (F.tasks t).key = (scripts t).key := by
  induction h with
  | start => rfl
  | next h hm ih => exact (hm.key t).trans ih

/-! ## Putting in comes to an end -/

/-- The operations that are left in some frames and in the cleanups of the tasks. -/
def operations (F : Fleet k n) (pre : List (Fin k × Frame n)) : Nat :=
  ∑ t, keptOperations (F.tasks t) + (pre.map fun x => x.2.operations).sum

/-- The pieces of work that are left in some frames besides. -/
def pieces (pre : List (Fin k × Frame n)) : Nat := (pre.map fun x => x.2.pieces).sum

theorem operations_append (F : Fleet k n) (xs ys : List (Fin k × Frame n)) :
    operations F (xs ++ ys) = operations F xs + (ys.map fun y => y.2.operations).sum := by
  simp [operations, Nat.add_assoc]

theorem pieces_append (xs ys : List (Fin k × Frame n)) : pieces (xs ++ ys) = pieces xs + pieces ys := by
  simp [pieces]

/-- A call adds frames that cancel, and no operations. -/
theorem call_canceling (F : Fleet k n) (y : Call k n) :
    ∃ gs, (F.call y).stack = gs ++ F.stack ∧ (∀ g ∈ gs, g.2.isCanceling = true) ∧
      operations (F.call y) gs ≤ operations F [] := by
  obtain ⟨gs, frames, begun, fewer⟩ := Machine.call_canceling y.inRuntime y.action (F.machine y.queue)
  refine ⟨gs.map fun g => (y.queue, g), ?_, fun g hg => ?_, ?_⟩
  · exact congrArg (fun fs => fs.map (fun g => (y.queue, g)) ++ F.stack) (frames.trans (List.append_nil gs))
  · obtain ⟨f, hf, rfl⟩ := List.mem_map.mp hg
    exact (begun f hf).1
  · have none : (gs.map Frame.operations).sum = 0 :=
      List.sum_eq_zero fun o ho => by
        obtain ⟨f, hf, rfl⟩ := List.mem_map.mp ho
        exact (begun f hf).2
    rw [operations, operations, List.map_map]
    exact Nat.add_le_add fewer (Nat.le_of_eq none)

/-- A piece of work of canceling adds frames that cancel, with no more operations and less work than its own. -/
theorem frame_canceling (F : Fleet k n) (q : Fin k) {f : Frame n} (hf : f.isCanceling = true) (hp : f.performs = none) :
    ∃ gs, (F.hold q ((F.machine q).runFrame f)).stack = gs ++ F.stack ∧ (∀ g ∈ gs, g.2.isCanceling = true) ∧
      operations (F.hold q ((F.machine q).runFrame f)) gs ≤ operations F [(q, f)] ∧ pieces gs < pieces [(q, f)] := by
  obtain ⟨fewer, less⟩ := Machine.runFrame_canceling hf hp (F.machine q)
  have frames : ((F.machine q).runFrame f).frames = (F.machine q).follow f :=
    (Machine.frames_runFrame f (F.machine q)).1.trans (List.append_nil _)
  refine ⟨((F.machine q).follow f).map fun g => (q, g), ?_, fun g hg => ?_, ?_, ?_⟩
  · exact congrArg (fun fs => fs.map (fun g => (q, g)) ++ F.stack) frames
  · obtain ⟨f', hf', rfl⟩ := List.mem_map.mp hg
    exact Machine.isCanceling_follow hf f' hf'
  · rw [operations, operations, List.map_map]
    exact fewer
  · rw [pieces, pieces, List.map_map]
    exact less

/-- Whatever is done next while tasks are canceled, what is below stays, and an operation less is left, or a piece of
work less and no more operations. -/
theorem Move.canceling (hm : Move F c F') (h : F.stack = x :: (pre ++ base))
    (hx : ∀ y ∈ x :: pre, y.2.isCanceling = true) :
    ∃ pre', F'.stack = pre' ++ base ∧ (∀ y ∈ pre', y.2.isCanceling = true) ∧
      (operations F' pre' < operations F (x :: pre) ∨
        operations F' pre' ≤ operations F (x :: pre) ∧ pieces pre' < pieces (x :: pre)) := by
  obtain ⟨top, below⟩ := List.forall_mem_cons.mp hx
  cases hm with
  | @call F₁ y calls =>
    cases calls with
    | outside h' =>
      rw [h] at h'
      cases h'
    | @inside q f rest h' ha =>
      obtain ⟨rfl, rfl⟩ := List.cons.inj (h.symm.trans h')
      obtain ⟨t, actions, rfl⟩ := Machine.cleanup_of_performs top ha
      obtain ⟨gs, stack, canceling, fewer⟩ :=
        call_canceling { F with stack := (q, .note y.action) :: (q, .cleanup t actions) :: (pre ++ base) } y
      refine ⟨gs ++ (q, .note y.action) :: (q, .cleanup t actions) :: pre, ?_, ?_, Or.inl ?_⟩
      · exact stack.trans (by simp)
      · exact List.forall_mem_append.mpr
          ⟨canceling, List.forall_mem_cons.mpr ⟨rfl, List.forall_mem_cons.mpr ⟨rfl, below⟩⟩⟩
      · rw [operations_append]
        refine Nat.lt_of_le_of_lt (Nat.add_le_add_right fewer _) ?_
        simp [operations, Frame.operations]
  | @frame q f rest h' hf =>
    obtain ⟨rfl, rfl⟩ := List.cons.inj (h.symm.trans h')
    obtain ⟨gs, stack, canceling, fewer, less⟩ := frame_canceling { F with stack := pre ++ base } q top hf
    refine ⟨gs ++ pre, stack.trans (List.append_assoc ..).symm, ?_, Or.inr ⟨?_, ?_⟩⟩
    · exact List.forall_mem_append.mpr ⟨canceling, below⟩
    · have more := Nat.add_le_add_right fewer (pre.map fun z => z.2.operations).sum
      rw [← operations_append, ← operations_append] at more
      exact more
    · have more := Nat.add_lt_add_right less (pieces pre)
      rwa [← pieces_append, ← pieces_append] at more
  | job h' | await _ _ h' =>
    rw [h] at h'
    cases h'

/-- When everything is canceled that is to be canceled, the task is put in. -/
theorem Move.append (hm : Move F c F') (h : F.stack = (q, .append t) :: base) :
    F'.stack = base ∧ F'.outcome = .enqueued ∧ (F'.lines q).deque = (F.lines q).deque ++ [t] := by
  cases hm with
  | call y calls =>
    cases calls with
    | outside h' =>
      rw [h] at h'
      cases h'
    | inside h' ha =>
      cases h.symm.trans h'
      cases ha
  | frame h' hf =>
    cases h.symm.trans h'
    obtain ⟨-, -, deque, -, -, frames, outcome, -⟩ := Machine.fields_append t (F.machine q)
    refine ⟨?_, outcome, ?_⟩
    · exact congrArg (fun fs => fs.map (fun f => (q, f)) ++ base) frames
    · exact (congrArg Line.deque (if_pos rfl)).trans deque
  | job h' | await _ _ h' =>
    rw [h] at h'
    cases h'

/-- Whatever the cleanups do, canceling comes to an end, and then the task is put in. -/
theorem returns_append {F : Fleet k n} {pre : List (Fin k × Frame n)} (h : F.stack = pre ++ (q, .append t) :: base)
    (hp : ∀ y ∈ pre, y.2.isCanceling = true) :
    Returns base (fun G => G.outcome = .enqueued ∧ ∃ ts, (G.lines q).deque = ts ++ [t]) F :=
  match pre, h, hp with
  | [], h, _ =>
    have above : F.stack = (q, .append t) :: ([] ++ base) := h
    .on above (exists_move h) fun c F' hm =>
      have ⟨stack, outcome, deque⟩ := hm.append h
      .back stack ⟨outcome, _, deque⟩
  | x :: pre, h, hp =>
    have above : F.stack = x :: (pre ++ [(q, .append t)] ++ base) := by simpa using h
    .on above (exists_move h) fun c F' hm =>
      have ⟨pre', stack, canceling, less⟩ := hm.canceling h hp
      returns_append stack canceling
termination_by (operations F pre, pieces pre)
decreasing_by
  obtain less | ⟨fewer, less⟩ := less
  · exact Prod.Lex.left _ _ less
  · exact Prod.Lex.right' _ fewer less

/-- Failed enqueues change nothing. In every run of any number of queues with the same tasks, wherever a task is to be
put into one of them: from outside, or from a body or a cleanup, also one that runs while the task is being put in.

1. Outside a runtime the call is refused for that, and nothing else changes.
2. In a runtime it is refused as a duplicate, with the key of the task, if the task has been tried in a runtime before,
   and nothing else changes.
3. In a runtime, if it has not, the call returns, whatever is done in between, and the task has been put in.

The call itself leaves tasks, queues and tokens as they are, so that a call that is refused changes none of them. -/
theorem enqueues_once (h : Run scripts cs F) (hc : Calls (.enqueue t) F F₁) (q : Fin k) :
    F₁.call ⟨.enqueue t, q, false⟩ = { F₁ with outcome := .refused .noRuntime } ∧
    ((∃ c ∈ cs, c.Uses t) → F₁.call ⟨.enqueue t, q, true⟩ =
      { F₁ with outcome := .refused (.duplicateEnqueue (scripts t).key) }) ∧
    ((∀ c ∈ cs, ¬c.Uses t) →
      Returns F₁.stack (fun G => G.outcome = .enqueued ∧ ∃ ts, (G.lines q).deque = ts ++ [t])
        (F₁.call ⟨.enqueue t, q, true⟩)) ∧
    F₁.tasks = F.tasks ∧ F₁.parked = F.parked ∧ F₁.lines = F.lines ∧ F₁.events = F.events := by
  have marked : ((F₁.machine q).tasks t).enqueued = true ↔ ∃ c ∈ cs, c.Uses t := by
    rw [← h.enqueued_iff t, ← hc.same.1]
    rfl
  have key : ((F₁.machine q).tasks t).key = (scripts t).key :=
    (congrArg Task.key (congrFun hc.same.1 t)).trans (h.key t)
  refine ⟨hold_ret F₁ q _, fun tried => ?_, fun untried => ?_, hc.same⟩
  · have refused : (F₁.machine q).call true (.enqueue t) =
        (F₁.machine q).ret (.refused (.duplicateEnqueue (scripts t).key)) := by
      rw [Machine.call_true, Machine.perform, if_pos (marked.mpr tried), key]
    rw [call, refused, hold_ret]
  · have unmarked : ¬((F₁.machine q).tasks t).enqueued = true := by
      intro mark
      obtain ⟨c, hc, uses⟩ := marked.mp mark
      exact untried c hc uses
    have begun : ((F₁.machine q).call true (.enqueue t)).frames =
        [.cancelEach ((F₁.machine q).withKey ((F₁.machine q).tasks t).key), .append t] := by
      rw [Machine.call_true, (Machine.fields_perform (.enqueue t) (F₁.machine q)).2.2.2.2.1, Machine.calls,
        if_neg unmarked]
      rfl
    have stack : (F₁.call ⟨.enqueue t, q, true⟩).stack =
        [(q, .cancelEach ((F₁.machine q).withKey ((F₁.machine q).tasks t).key))] ++ (q, .append t) :: F₁.stack := by
      rw [call, hold, begun]
      rfl
    exact returns_append stack (by simp [Frame.isCanceling])

/-! ## A task that is put in while it is put in -/

open Machine (relay relayed reachable_relayed)

/-- The second task is put in, and the first one, which runs for the same document, is canceled for that. Its cleanup is
about to put in the second task as well. -/
def retried (t u : Fin 2) : Machine 2 := ((relayed t u).perform (.enqueue u)).settleWith 1

theorem reachable_retried : Machine.Reachable (relay 0 1) (retried 0 1) :=
  (reachable_relayed.perform (by decide) (.enqueue 1)).settleWith 1

/-- With one queue more, the second task can be put into the first queue. The cleanup that is called meanwhile tries it
in the other queue, and is refused in a runtime and outside. -/
theorem enqueues_once_retried :
    (∃ cs, Run (relay 0 1) cs (solo 0 (relayed 0 1) : Fleet 2 2) ∧ (∀ c ∈ cs, ¬c.Uses 1) ∧
      Returns [] (fun G => G.outcome = .enqueued ∧ ∃ ts, (G.lines 0).deque = ts ++ [1])
        ((solo 0 (relayed 0 1) : Fleet 2 2).call ⟨.enqueue 1, 0, true⟩)) ∧
    ∃ cs, ∃ F₁ : Fleet 2 2, Run (relay 0 1) cs (solo 0 (retried 0 1) : Fleet 2 2) ∧ (∃ c ∈ cs, c.Uses 1) ∧
      Calls (.enqueue 1) (solo 0 (retried 0 1) : Fleet 2 2) F₁ ∧ F₁.stack ≠ [] ∧
      F₁.call ⟨.enqueue 1, 1, false⟩ = { F₁ with outcome := .refused .noRuntime } ∧
      F₁.call ⟨.enqueue 1, 1, true⟩ = { F₁ with outcome := .refused (.duplicateEnqueue ⟨"file:///a"⟩) } := by
  obtain ⟨cs, before⟩ := run_solo (0 : Fin 2) reachable_relayed
  obtain ⟨cs', during⟩ := run_solo (0 : Fin 2) reachable_retried
  have idle : (solo 0 (relayed 0 1) : Fleet 2 2).stack = [] := by decide
  have untried : ∀ c ∈ cs, ¬c.Uses 1 := fun c hc uses => by
    have mark := (before.enqueued_iff 1).mpr ⟨c, hc, uses⟩
    revert mark
    decide
  have tried : ∃ c ∈ cs', c.Uses 1 := (during.enqueued_iff 1).mp (by decide)
  have top : (solo 0 (retried 0 1) : Fleet 2 2).stack =
      (0, .cleanup 0 [.enqueue 1, .finish 0]) :: [(0, .resolve 0), (0, .cancelEach []), (0, .append 1)] := by decide
  have again : Calls (.enqueue 1) (solo 0 (retried 0 1) : Fleet 2 2) _ := .inside top rfl
  obtain ⟨outside, duplicate, -⟩ := enqueues_once during again 1
  have returns := (enqueues_once before (.outside idle) 0).2.2.1 untried
  rw [idle] at returns
  exact ⟨⟨cs, before, untried, returns⟩, cs', _, during, tried, again, by simp, outside, duplicate tried⟩

end Fleet

end ElixirLint.Queue
