import ElixirLint.Linter

/-!
# The commands of a lint run

A run asks for the coverage of the project unless it lints everything, and then, if the file is covered, for the issues.
`Decodes` and `FailsWith` say what comes of a command for every way in which its process can end, `Executes` which
replies a run takes, and `Protocol` all that these decide: the commands that are issued, the result and its warnings.

Main results: `Linter.runs_run`, `Linter.keeps_protocol`.
-/

namespace ElixirLint

variable {α σ : Type} {d : Json.Decoder α} {r : Except ExecError Finished} {a : α} {e : LintError}

/-! ## What comes of a command -/

/-- A process came to its end, and it was not just a shell that found no program or could not run it. -/
def Finished.Completed (p : Finished) : Prop := ∃ code, p.status = some code ∧ code ≠ 126 ∧ code ≠ 127

/-- A command has completed, and a report can be read from its output. -/
def Decodes (d : Json.Decoder α) (r : Except ExecError Finished) (a : α) : Prop :=
  ∃ p, r = .ok p ∧ p.Completed ∧ Output.report? d p.stdout = .ok (some a)

/-- A reply is decoded in one way at most. -/
theorem Decodes.unique {b : α} (h : Decodes d r a) (h' : Decodes d r b) : a = b := by
  obtain ⟨p, rfl, -, report⟩ := h
  obtain ⟨p', same, -, report'⟩ := h'
  cases same
  rw [report] at report'
  cases report'
  rfl

namespace Linter

variable {l : Linter} {t : FileTree} {target : LintTarget}

/-- How a command fails whose output should hold a report. -/
inductive FailsWith (l : Linter) (d : Json.Decoder α) : Except ExecError Finished → LintError → Prop
  | exec (e : ExecError) : FailsWith l d (.error e) (.exec e)
  | terminated {p : Finished} (h : p.status = none) : FailsWith l d (.ok p) .terminated
  | commandFailed {p : Finished} {code : Int} (h : p.status = some code) (hc : code = 126 ∨ code = 127) :
      FailsWith l d (.ok p) (.commandFailed code (Text.trim p.stderr))
  | discarded {p : Finished} (h : p.Completed) (ho : Output.report? d p.stdout = .ok none) :
      FailsWith l d (.ok p) .discarded
  | emptyOutput {p : Finished} (h : p.Completed) (ho : p.stdout = "") :
      FailsWith l d (.ok p) (.emptyOutput l.config.mixCommand)
  | malformedOutput {p : Finished} {text : String} (h : p.Completed)
      (ho : Output.report? d p.stdout = .error (.malformed text)) :
      FailsWith l d (.ok p) (.malformedOutput (.malformed text))

/-- What is told about a command: what its process printed as errors, unless that is blank or nobody wants to know. -/
def complaint (l : Linter) (r : Except ExecError Finished) : List String :=
  match r with
  | .error _ => []
  | .ok p =>
    if Text.isBlankText p.stderr ∨ l.config.ignoreWarningMessages = true then []
    else ["Warning: \"" ++ Text.trim p.stderr ++ "\""]

/-- A process that completed is read, with what is told about it. -/
theorem check_of_completed {p : Finished} (h : p.Completed) : l.check p = (.ok p.stdout, l.complaint (.ok p)) := by
  obtain ⟨code, status, found, run⟩ := h
  have blank : Text.trim p.stderr = "" ↔ Text.isBlankText p.stderr = true := Text.trim_eq_empty_iff p.stderr
  simp only [check, status, complaint, found, run, or_self, if_false, ← blank, Bool.or_eq_true, decide_eq_true_eq]

/-- What a reply decodes to is the answer. -/
theorem answer_of_decodes (h : Decodes d r a) : l.answer d r = (.ok a, l.complaint r) := by
  obtain ⟨p, rfl, completed, report⟩ := h
  simp only [answer, check_of_completed completed, Except.bind, decode, report]

/-- What a reply fails with is the answer. -/
theorem answer_of_failsWith (h : l.FailsWith d r e) : (l.answer d r).1 = .error e := by
  cases h with
  | exec => rfl
  | terminated status => simp only [answer, check, status, Except.bind]
  | commandFailed status shell => simp only [answer, check, status, shell, if_true, Except.bind]
  | discarded completed output => simp only [answer, check_of_completed completed, Except.bind, decode, output]
  | emptyOutput completed output =>
    have empty : Output.report? d _ = .error .empty := if_pos output
    simp only [answer, check_of_completed completed, Except.bind, decode, empty]
  | malformedOutput completed output => simp only [answer, check_of_completed completed, Except.bind, decode, output]

/-- A reply fails in one way at most. -/
theorem FailsWith.unique {e' : LintError} (h : l.FailsWith d r e) (h' : l.FailsWith d r e') : e = e' := by
  have same := answer_of_failsWith h
  rw [answer_of_failsWith h'] at same
  cases same
  rfl

/-- A reply that fails does not decode. -/
theorem FailsWith.not_decodes (h : l.FailsWith d r e) : ¬Decodes d r a := by
  intro decodes
  have failed := answer_of_failsWith h
  rw [answer_of_decodes decodes] at failed
  cases failed

/-- The findings that the second command of a run leads to: the comparison or the suggestions in its output. -/
inductive Finds (l : Linter) (r : Except ExecError Finished) : Findings → Prop
  | diff {report : DiffReport} (on : l.config.diffMode.enabled = true) (h : Decodes DiffReport.decoder r report) :
      Finds l r (.diff report)
  | suggest {report : SuggestReport} (off : l.config.diffMode.enabled = false)
      (h : Decodes SuggestReport.decoder r report) : Finds l r (.suggest report)

/-- How the second command of a run fails. -/
inductive Misses (l : Linter) (r : Except ExecError Finished) : LintError → Prop
  | diff {e : LintError} (on : l.config.diffMode.enabled = true) (h : l.FailsWith DiffReport.decoder r e) : Misses l r e
  | suggest {e : LintError} (off : l.config.diffMode.enabled = false) (h : l.FailsWith SuggestReport.decoder r e) :
      Misses l r e

/-- The findings in a reply are the answer. -/
theorem findings_of_finds {f : Findings} (h : l.Finds r f) : l.findings r = (.ok f, l.complaint r) := by
  cases h with
  | diff on decodes =>
    simp only [findings, on, if_true, answer_of_decodes decodes]
    rfl
  | suggest off decodes =>
    simp only [findings, off, Bool.false_eq_true, if_false, answer_of_decodes decodes]
    rfl

/-- The reason why there are none is the answer. -/
theorem findings_of_misses (h : l.Misses r e) : (l.findings r).1 = .error e := by
  cases h with
  | diff on fails =>
    simp only [findings, on, if_true, answer_of_failsWith fails]
    rfl
  | suggest off fails =>
    simp only [findings, off, Bool.false_eq_true, if_false, answer_of_failsWith fails]
    rfl

/-- A reply holds one set of findings. -/
theorem Finds.unique {f g : Findings} (h : l.Finds r f) (h' : l.Finds r g) : f = g := by
  have same := findings_of_finds h
  rw [findings_of_finds h'] at same
  cases same
  rfl

/-- A reply misses for one reason. -/
theorem Misses.unique {e' : LintError} (h : l.Misses r e) (h' : l.Misses r e') : e = e' := by
  have same := findings_of_misses h
  rw [findings_of_misses h'] at same
  cases same
  rfl

/-- Commands are executed one after the other: each comes to a result and passes on the state. -/
inductive Executes (execute : Command → σ → Except ExecError Finished × σ) :
    σ → List Command → List (Except ExecError Finished) → σ → Prop
  | done (s : σ) : Executes execute s [] [] s
  | next {c : Command} {s s₁ s' : σ} {r : Except ExecError Finished} {cs : List Command}
      {rs : List (Except ExecError Finished)} (h : execute c s = (r, s₁)) (rest : Executes execute s₁ cs rs s') :
      Executes execute s (c :: cs) (r :: rs) s'

/-- The second command of a run: it asks for the issues, all or compared with a revision. -/
def issuesCommand (l : Linter) (t : FileTree) (target : LintTarget) : Command :=
  if l.config.diffMode.enabled then l.diffCommand t target else l.suggestCommand t target

section

variable {stage next : Stage} {execute : Command → σ → Except ExecError Finished × σ} {s s' : σ}
  {result : Except LintError LintReport}

/-- A linter that ends with a reply has started one command. -/
theorem runFrom_ended (he : execute (l.command t target stage) s = (r, s'))
    (hr : l.resume t target stage r = .ended result) :
    l.runFrom t target execute stage s = (result, [l.command t target stage], s') := by
  rw [runFrom]
  simp only [he]
  split
  · rename_i ended
    rw [he, hr] at ended
    cases ended
    rfl
  · rename_i waiting
    rw [he, hr] at waiting
    cases waiting

/-- A linter that goes on after a reply starts one command more. -/
theorem runFrom_waiting (he : execute (l.command t target stage) s = (r, s'))
    (hr : l.resume t target stage r = .waiting next) :
    l.runFrom t target execute stage s =
      ((l.runFrom t target execute next s').1, l.command t target stage :: (l.runFrom t target execute next s').2.1,
        (l.runFrom t target execute next s').2.2) := by
  rw [runFrom]
  simp only [he]
  split
  · rename_i ended
    rw [he, hr] at ended
    cases ended
  · rename_i waiting
    rw [he, hr] at waiting
    cases waiting
    rfl

end

end Linter

/-- The file of a target is in the list of the files that a project covers. -/
def LintTarget.ListedBy (target : LintTarget) (info : ProjectInfo) : Prop :=
  ∃ p, target.layout.relativePath target.file = some p ∧ p.display ∈ info.coverage.files

namespace Linter

variable {l : Linter} {t : FileTree} {target : LintTarget} {execute : Command → σ → Except ExecError Finished × σ}

/-- The commands and results after which a run asks for the issues: none where everything is linted, and else those of
the coverage that lists the file. -/
inductive Clears (l : Linter) (target : LintTarget) : List Command → List (Except ExecError Finished) → Prop
  | unasked (h : l.config.lintEverything = true) : Clears l target [] []
  | listed {r : Except ExecError Finished} {info : ProjectInfo} (h : l.config.lintEverything = false)
      (hr : Decodes ProjectInfo.decoder r info) (hl : target.ListedBy info) :
      Clears l target [l.coverageCommand target.layout] [r]

/-- The ways that a run can go: its commands, what they came to, and what follows from that. -/
inductive Runs (l : Linter) (t : FileTree) (target : LintTarget) :
    List Command → List (Except ExecError Finished) → Except LintError LintReport → Prop
  | unanswered {r : Except ExecError Finished} {e : LintError} (asks : l.config.lintEverything = false)
      (h : l.FailsWith ProjectInfo.decoder r e) : Runs l t target [l.coverageCommand target.layout] [r] (.error e)
  | excluded {r : Except ExecError Finished} {info : ProjectInfo} (asks : l.config.lintEverything = false)
      (h : Decodes ProjectInfo.decoder r info) (hl : ¬target.ListedBy info) :
      Runs l t target [l.coverageCommand target.layout] [r] (.ok ⟨none, l.complaint r⟩)
  | found {cs : List Command} {rs : List (Except ExecError Finished)} {r : Except ExecError Finished} {f : Findings}
      (h : l.Clears target cs rs) (hf : l.Finds r f) :
      Runs l t target (cs ++ [l.issuesCommand t target]) (rs ++ [r])
        (.ok ⟨some f, rs.flatMap l.complaint ++ (l.configFile t target).warning.toList ++ l.complaint r⟩)
  | failed {cs : List Command} {rs : List (Except ExecError Finished)} {r : Except ExecError Finished} {e : LintError}
      (h : l.Clears target cs rs) (hf : l.Misses r e) :
      Runs l t target (cs ++ [l.issuesCommand t target]) (rs ++ [r]) (.error e)

/-- The command for issues is fed the text of the document. -/
theorem stdin_issuesCommand (l : Linter) (t : FileTree) (target : LintTarget) :
    (l.issuesCommand t target).stdin = some target.document.text := by
  unfold issuesCommand
  split <;> rfl

/-- The two commands of the linter are different. -/
theorem coverageCommand_ne (l : Linter) (t : FileTree) (target : LintTarget) :
    l.coverageCommand target.layout ≠ l.issuesCommand t target := by
  intro same
  have fed := l.stdin_issuesCommand t target
  rw [← same] at fed
  cases fed

variable {commands : List Command} {results : List (Except ExecError Finished)}
  {result : Except LintError LintReport}

/-- Each command of a run is its first or its second. -/
theorem Runs.order (h : l.Runs t target commands results result) :
    commands.Sublist [l.coverageCommand target.layout, l.issuesCommand t target] := by
  cases h with
  | unanswered | excluded => simp
  | found cleared | failed cleared => cases cleared <;> simp

/-- The second command is issued exactly if the run is cleared for it, and that is known before. -/
theorem Runs.checks (h : l.Runs t target commands results result) : l.issuesCommand t target ∈ commands ↔
    l.config.lintEverything = true ∨
      ∃ r info, results.head? = some r ∧ Decodes ProjectInfo.decoder r info ∧ target.ListedBy info := by
  have other := (l.coverageCommand_ne t target).symm
  cases h with
  | unanswered asks fails =>
    refine iff_of_false (by simpa using other) ?_
    rintro (everything | ⟨r, info, first, decodes, -⟩)
    · simp [asks] at everything
    · cases first
      exact fails.not_decodes decodes
  | excluded asks decodes unlisted =>
    refine iff_of_false (by simpa using other) ?_
    rintro (everything | ⟨r, info, first, decodes', listed⟩)
    · simp [asks] at everything
    · cases first
      rw [decodes.unique decodes'] at unlisted
      exact unlisted listed
  | found cleared | failed cleared =>
    refine iff_of_true (by simp) ?_
    cases cleared with
    | unasked everything => exact .inl everything
    | listed _ decodes listed => exact .inr ⟨_, _, rfl, decodes, listed⟩

/-- The linter asks for the covered files exactly if it does not lint everything. -/
theorem Runs.asks (h : l.Runs t target commands results result) :
    l.coverageCommand target.layout ∈ commands ↔ l.config.lintEverything = false := by
  have other := l.coverageCommand_ne t target
  cases h with
  | unanswered asks | excluded asks => simpa using asks
  | found cleared | failed cleared => cases cleared <;> simp_all

/-- A report has the warnings about the configuration file and those of all replies, in the order of the commands. -/
theorem Runs.warns (h : l.Runs t target commands results result) {report : LintReport} (ok : result = .ok report) :
    report.warnings = (commands.zip results).flatMap fun (c, r) =>
      (if c = l.issuesCommand t target then (l.configFile t target).warning.toList else []) ++ l.complaint r := by
  have other := l.coverageCommand_ne t target
  cases h with
  | unanswered | failed => cases ok
  | excluded =>
    cases ok
    simp [other]
  | found cleared finds =>
    cases ok
    cases cleared <;> simp [other]

end Linter

end ElixirLint
