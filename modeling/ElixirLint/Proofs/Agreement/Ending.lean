import ElixirLint.Cli.Lint
import ElixirLint.Proofs.Linter
import ElixirLint.Proofs.Service.Verdict

/-!
# How a run ends

The command line runs the linter in one go and waits for every command. How such a run ends is a function of the replies
to come (`Assignment.ending`), and so is how it goes on from a command that has come to a reply
(`Assignment.endingAfter`). A reply that hangs counts as what it comes to when it is let go.

Main results: `Assignment.ending_eq`, `Linter.runFrom_rehearsal`, `Service.filter_tidings`.
-/

namespace ElixirLint

namespace Reply

/-- What a reply comes to when whatever hangs is let go. -/
def settled : Reply → Reply
  | .finished p => .finished p
  | .failed why => .failed why
  | .crash => .crash
  | .hang release => release.settled

/-- A reply settles with the status that it has. -/
theorem settled_mapStatus (seen : Int → Int) (reply : Reply) :
    (reply.mapStatus seen).settled = reply.settled.mapStatus seen := by
  induction reply with
  | hang release ih => exact ih
  | _ => rfl

/-- The next reply is settled before or after it is taken from the script. -/
theorem next_map_settled (script : List Reply) :
    next (script.map settled) = ((next script).1.settled, (next script).2.map settled) := by
  cases script <;> rfl

/-- A reply that is there does not hang. -/
theorem settled_of_result? {c : Command} {reply : Reply} {r : Except ExecError Finished}
    (h : reply.result? c = some r) : reply.settled = reply := by
  cases reply with
  | hang => cases h
  | _ => rfl

end Reply

/-- Whether a command can be started. -/
def Surroundings.starts (env : Surroundings) (c : Command) : Bool := (env.refuses c).isNone

/-- A settled script gives settled replies. -/
theorem Surroundings.reply_map_settled (env : Surroundings) (c : Command) (script : List Reply) :
    env.reply c (script.map Reply.settled) =
      ((env.reply c script).1.settled, (env.reply c script).2.1.map Reply.settled, (env.reply c script).2.2) := by
  unfold reply
  cases env.refuses c with
  | some why => rfl
  | none => simp only [Reply.next_map_settled, Reply.settled_mapStatus]

/-- The commands that are noted as started are those that can be. -/
theorem Surroundings.reply_started (env : Surroundings) (c : Command) (script : List Reply) :
    (env.reply c script).2.2 = [c].filter env.starts := by
  unfold reply starts
  cases h : env.refuses c <;> simp [h]

namespace Linter

/-- A command that was killed ends a run. -/
theorem resume_killed (l : Linter) (t : FileTree) (target : LintTarget) (stage : Stage) :
    l.resume t target stage (.ok Rehearsal.killed) = .ended (.error .terminated) := by
  have killed : l.findings (.ok Rehearsal.killed) = (.error .terminated, []) := by
    unfold findings
    split <;> rfl
  cases stage with
  | coverage => rfl
  | issues warnings => simp only [resume, killed]

end Linter

/-! ## Runs of a rehearsal -/

namespace Rehearsal

/-- What executing a command comes to. -/
theorem execute_eq (env : Surroundings) (c : Command) (script : List Reply) (calls : List Command) :
    execute env c ⟨script, calls⟩ =
      (((env.reply c script).1.result? c).getD (.ok killed),
        ⟨(env.reply c script).2.1, [c].filter env.starts ++ calls⟩) := by
  rw [← env.reply_started c script]
  rfl

end Rehearsal

/-- A run goes its way whatever was started before it, and adds the commands that it starts. -/
theorem Linter.runFrom_rehearsal (l : Linter) (t : FileTree) (target : LintTarget) (env : Surroundings) (stage : Stage)
    (script : List Reply) :
    ∃ result commands rest, ∀ calls,
      l.runFrom t target (Rehearsal.execute env) stage ⟨script, calls⟩ =
        (result, commands, ⟨rest, (commands.filter env.starts).reverse ++ calls⟩) := by
  induction hn : stagesLeft stage using Nat.strongRecOn generalizing stage script with
  | ind n ih =>
    have first := Rehearsal.execute_eq env (l.command t target stage) script
    rcases hr : l.resume t target stage
        (((env.reply (l.command t target stage) script).1.result? (l.command t target stage)).getD
          (.ok Rehearsal.killed)) with next | result
    · have less := hn ▸ stagesLeft_resume hr
      obtain ⟨result, commands, rest, later⟩ := ih (stagesLeft next) less next _ rfl
      refine ⟨result, l.command t target stage :: commands, rest, fun calls => ?_⟩
      rw [runFrom_waiting (first calls) hr, later]
      by_cases starts : env.starts (l.command t target stage) = true <;> simp [starts]
    · refine ⟨result, [l.command t target stage], (env.reply (l.command t target stage) script).2.1, ?_⟩
      intro calls
      rw [runFrom_ended (first calls) hr]
      by_cases starts : env.starts (l.command t target stage) = true <;> simp [starts]

/-- How a run ends: its result, and the rehearsal after it. -/
abbrev Ending := Except LintError LintReport × Rehearsal

namespace Assignment

variable {a : Assignment} {env : Surroundings} {stage next : Stage} {reply : Reply} {r : CommandResult}

/-- How a run ends that waits at a stage. -/
def ending (env : Surroundings) (a : Assignment) (stage : Stage) (r : Rehearsal) : Ending :=
  let run := a.linter.runFrom env.tree a.target (Rehearsal.execute env) stage r
  (run.1, run.2.2)

/-- How a run ends whose command comes to a reply. -/
def endingAfter (env : Surroundings) (a : Assignment) (stage : Stage) (reply : Reply) (r : Rehearsal) : Ending :=
  let came := (reply.settled.result? (a.linter.command env.tree a.target stage)).getD (.ok Rehearsal.killed)
  match a.linter.resume env.tree a.target stage came with
  | .ended result => (result, r)
  | .waiting next => a.ending env next r

/-- A run ends as it does after the reply to its next command. -/
theorem ending_eq (env : Surroundings) (a : Assignment) (stage : Stage) (script : List Reply) (calls : List Command) :
    a.ending env stage ⟨script.map Reply.settled, calls⟩ =
      a.endingAfter env stage (env.reply (a.linter.command env.tree a.target stage) script).1
        ⟨(env.reply (a.linter.command env.tree a.target stage) script).2.1.map Reply.settled,
          (env.reply (a.linter.command env.tree a.target stage) script).2.2 ++ calls⟩ := by
  have first := Rehearsal.execute_eq env (a.linter.command env.tree a.target stage) (script.map Reply.settled) calls
  rw [env.reply_map_settled] at first
  unfold ending endingAfter
  rw [env.reply_started]
  simp only
  split
  · rename_i result ended
    rw [Linter.runFrom_ended first ended]
  · rename_i next waiting
    rw [Linter.runFrom_waiting first waiting]
    rfl

/-- Whoever is killed by a crash ends its run. -/
theorem endingAfter_crash (env : Surroundings) (a : Assignment) (stage : Stage) (r : Rehearsal) :
    a.endingAfter env stage .crash r = (.error .terminated, r) := by
  unfold endingAfter
  simp only [Reply.settled, Reply.result?, Option.getD_none, Linter.resume_killed]

/-- A run whose linter ends with a reply ends with that result. -/
theorem endingAfter_ended {rest : Rehearsal} {result : Except LintError LintReport}
    (hc : reply.result? (a.linter.command env.tree a.target stage) = some r)
    (hr : a.linter.resume env.tree a.target stage r = .ended result) :
    a.endingAfter env stage reply rest = (result, rest) := by
  unfold endingAfter
  simp only [Reply.settled_of_result? hc, hc, Option.getD_some, hr]

/-- A run whose linter goes on ends as it does from there. -/
theorem endingAfter_waiting {rest : Rehearsal}
    (hc : reply.result? (a.linter.command env.tree a.target stage) = some r)
    (hr : a.linter.resume env.tree a.target stage r = .waiting next) :
    a.endingAfter env stage reply rest = a.ending env next rest := by
  unfold endingAfter
  simp only [Reply.settled_of_result? hc, hc, Option.getD_some, hr]

end Assignment

/-! ## What is published -/

/-- The publications among notices. -/
def Service.published (ns : List Notice) : List Notice := ns.filter Notice.isPublish

/-- A run publishes what the command line shows, and nothing where the command line fails. -/
theorem Service.published_tidings (a : Assignment) (result : Except LintError LintReport) :
    published (tidings a result) =
      ((Cli.LintVerdict.ofResult a.target a.severities result).diagnostics?.map
        (Notice.publish a.target.document.uri)).toList := by
  cases result with
  | error e =>
    have told : tidings a (.error e) = if e.isSilent then [] else [.notify .error e.message] := rfl
    rw [told]
    split <;> rfl
  | ok report =>
    have warnings : (report.warnings.map (Notice.notify .warning)).filter Notice.isPublish = [] := by
      simp [List.filter_eq_nil_iff, Notice.isPublish]
    rw [published, tidings, List.filter_append, warnings, List.nil_append]
    rcases hf : report.findings with _ | f <;>
      simp [Cli.LintVerdict.ofResult, Cli.LintVerdict.diagnostics?, diagnostics, hf, Notice.isPublish]

/-- Where the linter was run, the command line reports that it cannot be used exactly if there are no diagnostics to
show. -/
theorem Cli.LintVerdict.exit_eq_toolError (target : LintTarget) (severities : SeverityMap)
    (result : Except LintError LintReport) (view : Display) (format : OutputFormat) :
    ((ofResult target severities result).outcome view format).exit = ExitStatus.toolError.code ↔
      (ofResult target severities result).diagnostics? = none := by
  cases result with
  | error e => exact iff_of_true rfl rfl
  | ok report =>
    rcases hf : report.findings with _ | f
    · simp [ofResult, hf, outcome, diagnostics?, Outcome.ofLines, ExitStatus.code]
    · simp only [ofResult, hf, outcome, diagnostics?, Outcome.ofLines, reduceCtorEq, iff_false]
      split <;> decide

end ElixirLint
