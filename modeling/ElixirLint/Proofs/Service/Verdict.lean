import ElixirLint.Service

/-!
# What a run has to say

A run asks for the coverage of its project, unless it lints everything, and then for the issues. What its commands came
to decides what it has to say: nothing about a file that is not covered, and otherwise the findings of its last command.
`Verdict` is that rule, on the results of the commands alone. The job of a run keeps to it: where the job waits, the
results so far are those of a run that is not done (`Awaits`), and where it publishes, the diagnostics are those of the
verdict (`Permits`).

Main results: `Awaits.resume`, `Awaits.permits`.
-/

namespace ElixirLint

/-- What a command has come to. -/
abbrev CommandResult := Except ExecError Finished

/-- Whether a notice shows diagnostics. -/
def Notice.isPublish : Notice → Bool
  | .publish .. => true
  | _ => false

namespace Assignment

variable {a : Assignment} {t : FileTree} {stage next : Stage} {rs : List CommandResult} {r : CommandResult}
  {result : Except LintError LintReport} {report : LintReport} {left : List Notice} {n : Notice}

/-- The file of a run is to be linted, after these results: they show that the project covers it, or nobody asks. -/
inductive Covered (a : Assignment) : List CommandResult → Prop
  | unasked (h : a.linter.config.lintEverything = true) : Covered a []
  | listed {r : CommandResult} {info : ProjectInfo} (h : a.linter.config.lintEverything = false)
      (hr : (a.linter.answer ProjectInfo.decoder r).1 = .ok info) (hc : Linter.covers info a.target = true) :
      Covered a [r]

/-- What follows from the results of all commands of a run: no findings if the file is excluded, and else those of the
last command. -/
inductive Verdict (a : Assignment) : List CommandResult → Option Findings → Prop
  | excluded {r : CommandResult} {info : ProjectInfo} (h : a.linter.config.lintEverything = false)
      (hr : (a.linter.answer ProjectInfo.decoder r).1 = .ok info) (hc : Linter.covers info a.target = false) :
      Verdict a [r] none
  | found {rs : List CommandResult} {r : CommandResult} {f : Findings} (h : Covered a rs)
      (hr : (a.linter.findings r).1 = .ok f) : Verdict a (rs ++ [r]) (some f)

/-- The diagnostics that a run shows for its findings: the issues against its text, ranked as it was told. A file
without findings has none. -/
def shown (a : Assignment) : Option Findings → List Diagnostic
  | some f => Diagnostic.ofIssues f.issues a.target.document.text a.severities
  | none => []

/-- What a run may tell after these results: messages, and the diagnostics of the verdict. -/
inductive Permits (a : Assignment) (rs : List CommandResult) : Notice → Prop
  | notify (level : MessageLevel) (message : String) : Permits a rs (.notify level message)
  | publish {findings : Option Findings} (h : Verdict a rs findings) :
      Permits a rs (.publish a.target.document.uri (a.shown findings))

/-- The results of a run that waits at a stage. -/
inductive Awaits (a : Assignment) : Stage → List CommandResult → Prop
  | coverage (h : a.linter.config.lintEverything = false) : Awaits a .coverage []
  | issues {rs : List CommandResult} (warnings : List String) (h : Covered a rs) : Awaits a (.issues warnings) rs

/-- The service publishes what the assignment shows of the findings. -/
theorem diagnostics_eq_shown (a : Assignment) (report : LintReport) :
    Service.diagnostics a report = a.shown report.findings := by
  cases hf : report.findings <;> simp [Service.diagnostics, shown, hf]

/-- A run starts by waiting with no results. -/
theorem awaits_start (a : Assignment) (t : FileTree) : Awaits a (a.linter.start t a.target) [] := by
  unfold Linter.start
  by_cases h : a.linter.config.lintEverything = true
  · simpa [h, Linter.issuesStage] using Awaits.issues _ (.unasked h)
  · simpa [h] using Awaits.coverage (a := a) (by simpa using h)

/-- A run that goes on waits with one more result. -/
theorem Awaits.resume (h : Awaits a stage rs) (hr : a.linter.resume t a.target stage r = .waiting next) :
    Awaits a next (rs ++ [r]) := by
  cases h with
  | coverage h =>
    rcases ha : a.linter.answer ProjectInfo.decoder r with ⟨_ | info, warnings⟩
    · simp [Linter.resume, ha] at hr
    · by_cases hc : Linter.covers info a.target = true
      · simp only [Linter.resume, ha, hc, if_true, Progress.waiting.injEq] at hr
        subst hr
        exact .issues _ (.listed h (by rw [ha]) hc)
      · simp [Linter.resume, ha, hc] at hr
  | issues warnings h =>
    rcases hf : a.linter.findings r with ⟨_ | f, more⟩ <;> simp [Linter.resume, hf] at hr

/-- A run that ends with a report has the findings of the verdict. -/
theorem Awaits.verdict (h : Awaits a stage rs) (hr : a.linter.resume t a.target stage r = .ended (.ok report)) :
    Verdict a (rs ++ [r]) report.findings := by
  cases h with
  | coverage h =>
    rcases ha : a.linter.answer ProjectInfo.decoder r with ⟨_ | info, warnings⟩
    · simp [Linter.resume, ha] at hr
    · by_cases hc : Linter.covers info a.target = true
      · simp [Linter.resume, ha, hc] at hr
      · simp only [Linter.resume, ha, if_neg hc, Progress.ended.injEq, Except.ok.injEq] at hr
        subst hr
        exact .excluded h (by rw [ha]) (by simpa using hc)
  | issues warnings h =>
    rcases hf : a.linter.findings r with ⟨_ | f, more⟩
    · simp [Linter.resume, hf] at hr
    · simp only [Linter.resume, hf, Progress.ended.injEq, Except.ok.injEq] at hr
      subst hr
      exact .found h (by rw [hf])

/-! ## What is left to tell -/

/-- What a run that has published `p` times has left to tell: only what it may tell, and diagnostics once at most. -/
structure Owes (a : Assignment) (rs : List CommandResult) (p : Nat) (left : List Notice) : Prop where
  permits : ∀ n ∈ left, Permits a rs n
  once : p + left.countP Notice.isPublish ≤ 1

/-- A run whose linter is done owes its tidings. -/
theorem Awaits.owes (h : Awaits a stage rs) (hr : a.linter.resume t a.target stage r = .ended result) :
    Owes a (rs ++ [r]) 0 (Service.tidings a result) := by
  cases result with
  | error e =>
    by_cases he : e.isSilent = true
    · exact ⟨by simp [Service.tidings, he], by simp [Service.tidings, he]⟩
    · constructor
      · simp only [Service.tidings, he, Bool.false_eq_true, if_false, List.mem_singleton, forall_eq]
        exact .notify ..
      · simp [Service.tidings, he, Notice.isPublish]
  | ok report =>
    constructor
    · intro n hn
      simp only [Service.tidings, List.mem_append, List.mem_map, List.mem_singleton] at hn
      obtain ⟨message, -, rfl⟩ | rfl := hn
      · exact .notify ..
      · rw [diagnostics_eq_shown]
        exact .publish (h.verdict hr)
    · have warn : (report.warnings.map (Notice.notify .warning)).countP Notice.isPublish = 0 := by
        simp [List.countP_eq_zero, Notice.isPublish]
      simp [Service.tidings, List.countP_append, warn, Notice.isPublish]

/-- A notice that is told is owed no more. -/
theorem Owes.tell {p : Nat} (h : Owes a rs p (n :: left)) :
    Permits a rs n ∧ Owes a rs (p + [n].countP Notice.isPublish) left := by
  have once := h.once
  rw [List.countP_cons, ← List.countP_singleton] at once
  exact ⟨h.permits n (.head _), fun m hm => h.permits m (.tail _ hm), by omega⟩

/-- A notice that is passed over is owed no more. -/
theorem Owes.skip {p : Nat} (h : Owes a rs p (n :: left)) : Owes a rs p left := by
  have once := h.once
  rw [List.countP_cons] at once
  exact ⟨fun m hm => h.permits m (.tail _ hm), by omega⟩

/-! ## Runs at work -/

/-- The job of a run is at work, after these results and `p` publications: it has asked for nothing, waits for a
command, or has something left to tell. -/
inductive Works (a : Assignment) (rs : List CommandResult) (p : Nat) : RunPhase → Prop
  | ready (hr : rs = []) (hp : p = 0) : Works a rs p (.ready a)
  | calling {stage : Stage} {hang : Nat} (hr : Awaits a stage rs) (hp : p = 0) : Works a rs p (.calling a stage hang)
  | telling {left : List Notice} (h : Owes a rs p left) : Works a rs p (.telling a left)

/-- A job at work has published once at most. -/
theorem Works.publications_le {phase : RunPhase} {p : Nat} (h : Works a rs p phase) : p ≤ 1 := by
  cases h with
  | ready _ hp => omega
  | calling _ hp => omega
  | telling h =>
    have once := h.once
    omega

end Assignment

end ElixirLint
