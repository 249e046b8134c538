import ElixirLint.Proofs.Agreement.Completion
import ElixirLint.Proofs.Project

/-!
# The command line and the service agree

A file that is linted from the command line, and the same file handed to the service as a document with the same
configuration, lead to the same commands and the same diagnostics. The command line knows no workspace folder and waits
for every command; the service looks for the project in the workspace folder only, waits in between, and shows messages
where the command line fails.

Main results: `Shared.lints`, `agrees_with_command_line`.
-/

namespace ElixirLint

/-- Only absolute paths have a URI, and that names a file. -/
theorem DocumentUri.isFile_of_ofFilePath? {file : Path} {uri : DocumentUri} (h : ofFilePath? file = some uri) :
    file.isAbsolute = true ∧ uri.isFile = true := by
  unfold ofFilePath? at h
  split at h
  · cases h
  · rename_i absolute
    simp only [Option.some.injEq] at h
    subst h
    refine ⟨by simpa using absolute, ?_⟩
    simp [isFile, scheme?]

namespace Service

variable {s s' : Service} {env : Surroundings} {named : Option Path} {path file : Path} {d : Document}
  {c : Config} {script : List Reply} {delays : List Bool} {es : List Event} {r : Run}

/-- A file with some text in a project that the command line finds under a path, with the document that an editor has of
it and the same configuration in the service. -/
structure Shared (env : Surroundings) (named : Option Path) (path file : Path) (d : Document) (s : Service) : Prop where
  canonical : env.tree.canonical path = .ok file
  readable : env.tree.readText file = .ok d.text
  language : d.languageId = Document.elixir
  nonempty : d.text ≠ ""
  uri : DocumentUri.ofFilePath? file = some d.uri
  survives : d.uri.filePath? = some file
  configured : Config.choose env.tree named (file.parent?.getD file) = .ok s.config
  /-- The nearest project lies in the workspace folder of the file, if it has one. -/
  project : ∃ root, Project.findUp env.tree Project.projectFile (file.parent?.getD file) none = some root ∧
    ∀ folder, Project.workspaceFor file s.folders = some folder → root.startsWith folder = true

/-- The command line runs the linter on the target of the service. -/
theorem Shared.lints (h : Shared env named path file d s) :
    ∃ target, target.document = d ∧ s.target? env d = some target ∧
      ∀ {σ : Type} (execute : Command → σ → Except ExecError Finished × σ) (x : σ),
        Cli.LintVerdict.ofFile env execute named path x =
          let a := s.assignment env target
          let run := a.linter.run env.tree target execute x
          (.ofResult target a.severities run.1, run.2) := by
  obtain ⟨root, found, inside⟩ := h.project
  obtain ⟨-, isFile⟩ := DocumentUri.isFile_of_ofFilePath? h.uri
  have alone : ProjectLayout.discover env.tree file none = ⟨root, true⟩ :=
    ProjectLayout.discover_eq found nofun
  have bounded : ProjectLayout.discover env.tree file (Project.workspaceFor file s.folders) = ⟨root, true⟩ :=
    ProjectLayout.discover_eq found inside
  have document : (⟨d.uri, Document.elixir, d.text⟩ : Document) = d := by rw [← h.language]
  refine ⟨⟨d, file, ⟨root, true⟩⟩, rfl, ?_, fun execute x => ?_⟩
  · simp [target?, Document.isElixir, h.language, isFile, h.nonempty, h.survives, bounded]
  · unfold Cli.LintVerdict.ofFile
    simp only [h.canonical, h.readable, h.configured, h.uri, LintTarget.ofDocument, document, h.survives, alone]
    rfl

/-- The service has done, from `s` to `s'`, what the command line did in a run: that came to a verdict, asked for commands
and left a rehearsal. -/
structure Agrees (env : Surroundings) (uri : DocumentUri) (run : Cli.LintVerdict × List Command × Rehearsal)
    (s s' : Service) (told : List Notice) : Prop where
  /-- The service has started the commands that the command line has started, the last first. -/
  started : s'.calls = run.2.2.calls ++ s.calls
  /-- Those are all commands that the run asked for and that can be started, in order. -/
  commands : run.2.2.calls.reverse = run.2.1.filter env.starts
  notices : s'.notices = told ++ s.notices
  /-- Diagnostics are published exactly if the command line shows these, and only once. -/
  shown (ds : List Diagnostic) : published told = [.publish uri ds] ↔ run.1.diagnostics? = some ds
  /-- Nothing is published exactly if the command line reports that the linter cannot be used. -/
  failed (view : Cli.Display) (format : Cli.OutputFormat) :
    published told = [] ↔ (run.1.outcome view format).exit = Cli.ExitStatus.toolError.code

/-- What the command line does with a file, the service does with the document of the file, if it has nothing else to do:
1. The document is queued.
2. Its run can come to its end, whatever its commands come to and however long the outside takes.
3. When the run is done, and nobody has disturbed the service meanwhile, it has started the commands that the command
   line starts, in the same order, and has published the diagnostics that the command line shows, or nothing where that
   reports that the linter cannot be used. To the command line a command that hangs comes to what it comes to in the
   end. -/
theorem agrees_with_command_line (history : History c script delays es s) (idle : s.Idle)
    (shared : Shared env named path file d s) :
    (s.execute env d).2 = .queued s.runs.length ∧ Completes env s.runs.length (s.execute env d).1 ∧
    ∀ s' r, Unhindered env (s.execute env d).1 s' → s'.runs[s.runs.length]? = some r → r.isOver = true →
      ∃ told, Agrees env d.uri
        (Cli.LintVerdict.ofFile env (Rehearsal.execute env) named path (.start (s.script.map Reply.settled)))
        s s' told := by
  obtain ⟨target, rfl, ht, run⟩ := shared.lints
  refine ⟨by rw [execute_eq ht], completes_execute history idle ht, fun s' r hu hi done => ?_⟩
  let a := s.assignment env target
  -- One run in one go serves both sides: it is the same whatever commands were started before it.
  obtain ⟨result, commands, rest, goes⟩ :=
    a.linter.runFrom_rehearsal env.tree target env (a.linter.start env.tree target) (s.script.map Reply.settled)
  have line : Cli.LintVerdict.ofFile env (Rehearsal.execute env) named path (.start (s.script.map Reply.settled)) =
      (.ofResult target a.severities result, commands, ⟨rest, (commands.filter env.starts).reverse ++ []⟩) := by
    rw [run]
    exact congrArg (fun run => (Cli.LintVerdict.ofResult target a.severities run.1, run.2)) (goes [])
  have ending : a.ending env (a.linter.start env.tree target) s.outlook.rehearsal =
      (result, ⟨rest, (commands.filter env.starts).reverse ++ s.calls⟩) :=
    congrArg (fun run => (run.1, run.2.2)) (goes s.calls)
  have tells := ends_as_in_one_go history idle ht rfl ending hu hi done
  obtain ⟨told, notices, shown⟩ := tells.shown
  refine ⟨told, ?_⟩
  rw [line, List.append_nil]
  refine ⟨congrArg Rehearsal.calls tells.rest, List.reverse_reverse _, notices, fun ds => ?_, fun view format => ?_⟩
  · rw [shown, Option.toList_eq_singleton_iff]
    simp [a, assignment]
  · rw [shown, Option.toList_eq_nil_iff, Option.map_eq_none_iff, Cli.LintVerdict.exit_eq_toolError]
    exact Iff.rfl

/-! ## An agreement -/

/-- A project below another one, with a configuration file and a file in a folder of its own. -/
def checkout : Surroundings :=
  let file (names : List String) (text : String) : Names × Entry :=
    (names.map Text.utf8Bytes, .file (Text.utf8Bytes text) false)
  .permissive ⟨[file ["w", "mix.exs"] "", file ["w", "p", "mix.exs"] "", file ["w", "p", ".credo.exs"] "",
    file ["w", "p", ".credo-ls.json"] "\x7b\"lintEverything\": true\x7d",
    file ["w", "p", "lib", "a.ex"] "x = 1"], []⟩ none

/-- The file in its folder, as an editor has it open. -/
def opened : Document := ⟨⟨"file:///w/p/lib/a.ex"⟩, Document.elixir, "x = 1"⟩

/-- A service that knows the folder of both projects, and whose first command will hang. -/
def waiting : Service := (Service.start thorough [.hang finding]).setFolders [.ofString "/w"]

theorem eq_ok_of_toOption {ε α : Type} {x : Except ε α} {y : α} (h : x.toOption = some y) : x = .ok y := by
  cases x <;> simp_all [Except.toOption]

/-- The file of the checkout is one and the same for both. -/
theorem shared_checkout :
    Shared checkout none (.ofString "/w/p/lib/./a.ex") (.ofString "/w/p/lib/a.ex") opened waiting where
  canonical := eq_ok_of_toOption (by decide +kernel)
  readable := eq_ok_of_toOption (by decide +kernel)
  language := rfl
  nonempty := by decide
  uri := by decide +kernel
  survives := by decide +kernel
  configured := eq_ok_of_toOption (by decide +kernel)
  project := ⟨.ofString "/w/p", by decide +kernel, by decide +kernel⟩

/-- The command line shows a diagnostic for it. -/
theorem shown_checkout :
    (Cli.LintVerdict.ofFile checkout (Rehearsal.execute checkout) none (.ofString "/w/p/lib/./a.ex")
      (.start (waiting.script.map Reply.settled))).1.diagnostics? =
      some [⟨⟨⟨0, 0⟩, ⟨0, 5⟩⟩, .information, "m (refactor:C)", "C", .refactor⟩] := by
  decide +kernel

/-- The run for the file ends, and publishes once what the command line shows for it. -/
theorem agrees_with_command_line_checkout :
    Shared checkout none (.ofString "/w/p/lib/./a.ex") (.ofString "/w/p/lib/a.ex") opened waiting ∧
      ∃ s' told, Unhindered checkout (waiting.execute checkout opened).1 s' ∧ s'.notices = told ∧
        published told =
          [.publish opened.uri [⟨⟨⟨0, 0⟩, ⟨0, 5⟩⟩, .information, "m (refactor:C)", "C", .refactor⟩]] := by
  have history : History thorough [.hang finding] [] [⟨.moved [.ofString "/w"], []⟩] waiting :=
    .next .start (.setFolders _ _) rfl
  have idle : waiting.Idle := ⟨rfl, fun r hr => absurd hr List.not_mem_nil⟩
  have agrees := agrees_with_command_line history idle shared_checkout
  obtain ⟨s', r, hu, hi, done⟩ := agrees.2.1
  obtain ⟨told, agreed⟩ := agrees.2.2 s' r hu hi done
  exact ⟨shared_checkout, s', told, hu, agreed.notices.trans (List.append_nil told),
    (agreed.shown _).mpr shown_checkout⟩

end Service

end ElixirLint
