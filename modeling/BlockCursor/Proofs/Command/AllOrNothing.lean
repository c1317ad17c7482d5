import BlockCursor.Command.Program
import BlockCursor.Proofs.Command.Needs
import BlockCursor.Proofs.Command.Walking
import BlockCursor.Proofs.Layout.Reaching

/-!
# A walk is all or nothing

If all that a walk needs is there, the program makes every move and prints a line for each;
otherwise it prints nothing, and reports the first that is missing.  A move is no reason to fail:
the workspace is reachable, the start location names a node that agrees with what it refers to, and
from there on no move fails.

The log is opened before any of this.  If there is no directory for it, the walk is made with a
warning, but if its file cannot be opened, the program breaks off.

* `WalkRequest.prints_of_supplies`, `WalkRequest.prints_of_not_supplies` — what the command prints
  in either case.
* `WalkRequest.AllOrNothing` — how the program ends in either case.
* **`Launch.walk_all_or_nothing`** — the whole program.
-/

namespace BlockCursor

open Workspace

/-! ## The run -/

namespace WalkRequest

open Run Command

variable {r : WalkRequest} {j : Journey}

/-- The arguments that ask for the walk. -/
def arguments (r : WalkRequest) (logPath : Option String) : Arguments :=
  ⟨r.asked, logPath, .walk r.layout r.start r.script r.scriptFile⟩

/-- The part of a run in which everything is looked for. -/
def gather (r : WalkRequest) : Run Journey := do
  let settings ← Run.require (Settings.choose r.readText r.asked r.found) .settings
  Run.tell (Event.settingsLoaded settings)
  let ws ← loadWorkspace r.readText r.layout
  let n ← Run.require (Start.resolve ws r.start) .start
  let source ← Run.require (scriptText r.readText r.script r.scriptFile) id
  let script ← Run.require (Script.parse source) (.badScript source)
  return ⟨settings, ws, n, script⟩

/-- A run looks for everything first, and then it walks. -/
lemma run_eq (r : WalkRequest) (logPath : Option String) :
    (r.arguments logPath).run r.readText r.found =
      r.gather >>= fun j => walkOver j.workspace j.settings j.start j.script := by
  simp only [arguments, Arguments.run, Command.run, gather, bind_assoc, pure_bind]

/-- **While everything is looked for, nothing is printed.** -/
lemma prints_gather (r : WalkRequest) : Prints r.gather [] r.journey := by
  refine (prints_require _ _).gets fun settings => ?_
  refine (prints_tell _).before ?_
  refine (prints_loadWorkspace _ _).gets fun ws => ?_
  refine (prints_require _ _).gets fun n => ?_
  refine (prints_require_id _).gets fun source => ?_
  exact (prints_require _ _).gets fun script => prints_pure _

/-- **A walk that has all it needs** makes every move and prints a line for each. -/
theorem prints_of_supplies (h : r.Supplies j) (logPath : Option String) : ∃ lines,
    TellsWalk j.workspace j.settings.workspaceStep j.start j.script.moves lines ∧
      Prints ((r.arguments logPath).run r.readText r.found) lines (.ok ()) := by
  obtain ⟨text, layout, -, -, hbuild⟩ := h.workspace
  have hreach := WorkspaceLayout.reachable_of_build hbuild
  obtain ⟨lines, htells, hprints⟩ := prints_walkOver hreach.forest j.settings
    (Start.resolve_agrees hreach h.start) j.script
  refine ⟨lines, htells, ?_⟩
  have hgather := r.prints_gather
  rw [journey_eq_ok_iff.mpr h] at hgather
  rw [run_eq]
  exact hgather.before hprints

/-- **A walk that lacks something** prints nothing and fails with the first that is missing. -/
theorem prints_of_not_supplies (h : ¬ ∃ j, r.Supplies j) (logPath : Option String) :
    ∃ failure, r.LacksFirst failure ∧
      Prints ((r.arguments logPath).run r.readText r.found) [] (.error failure) := by
  have hgather := r.prints_gather
  rw [run_eq]
  cases hjourney : r.journey with
  | ok j => exact absurd ⟨j, journey_eq_ok_iff.mp hjourney⟩ h
  | error failure =>
      rw [hjourney] at hgather
      exact ⟨failure, lacksFirst_of_journey_eq_error hjourney, hgather.bind_error⟩

end WalkRequest

/-! ## The program -/

/-- Among the output of a program without a filter there are the lines and nothing else. -/
lemma join_outputText (entries : List Entry) :
    String.join (entries.map (Launch.outputText none)) =
      String.join ((entries.filterMap Entry.line?).map (· ++ "\n")) := by
  induction entries with
  | nil => rfl
  | cons entry entries ih =>
      cases entry <;> simp [Launch.outputText, Entry.line?, List.filterMap_cons, ih]

/-- The failure that ends a run, if one does. -/
def Run.failure? : Except Failure Unit → Option Failure
  | .ok _ => none
  | .error failure => some failure

lemma Arguments.record_of_prints {args : Arguments} {readText : ReadText} {found : Option String}
    {lines : List String} {result : Except Failure Unit}
    (h : Run.Prints (args.run readText found) lines result) :
    ∃ entries, args.record readText found = (entries, Run.failure? result) ∧
      entries.toList.filterMap Entry.line? = lines := by
  obtain ⟨more, hmore, hrun⟩ := h #[]
  refine ⟨(#[] : Array Entry) ++ more, ?_, ?_⟩
  · rw [record, hrun]
    cases result <;> rfl
  · rwa [Array.toList_appendList]

namespace Launch

variable {launch : Launch}

/-- What the program says about the log before it reports a failure. -/
def warning : Except FileError Unit → String
  | .ok _ => ""
  | .error cause => s!"Warning: Failed to initialize logging: {cause.message}\n"

/-- Without a filter no event is among the output. -/
lemma outcomeWithLog_output (hfilter : launch.filterText = none) (path : String)
    (entries : List Entry) (failure : Option Failure) :
    (launch.outcomeWithLog path entries failure).output =
      String.join ((entries.filterMap Entry.line?).map (· ++ "\n")) := by
  simp only [outcomeWithLog, hfilter, Option.map_none, join_outputText]
  cases failure <;> simp [Entry.line?, List.filterMap_cons]

/-- Without a filter there is nothing to complain about. -/
lemma outcomeWithLog_errors (hfilter : launch.filterText = none) (path : String)
    (entries : List Entry) (failure : Option Failure) :
    (launch.outcomeWithLog path entries failure).errors = failureText failure := by
  have hcomplaints : String.join ((launch.filterText.map Log.Filter.complaints).getD []) = "" := by
    rw [hfilter]
    rfl
  rw [outcomeWithLog, hcomplaints, String.empty_append, String.empty_append]

/-- **How the program ends** is told by what the run prints and how it ends. -/
lemma outcome_of_prints {args : Arguments} {readText : ReadText} {isFile : String → Bool}
    {lines : List String} {result : Except Failure Unit} (hfilter : launch.filterText = none)
    (h : Run.Prints (args.run readText (launch.settingsPath.filter isFile)) lines result)
    (opened : Except FileError Unit) :
    (launch.outcome args opened readText isFile).code =
        (if (Run.failure? result).isSome then 1 else 0) ∧
      (launch.outcome args opened readText isFile).output = String.join (lines.map (· ++ "\n")) ∧
      (launch.outcome args opened readText isFile).errors =
        warning opened ++ failureText (Run.failure? result) := by
  obtain ⟨entries, hrecord, rfl⟩ := Arguments.record_of_prints h
  rw [outcome, hrecord]
  cases opened with
  | ok u =>
      change (launch.outcomeWithLog _ entries.toList _).code = _ ∧
        (launch.outcomeWithLog _ entries.toList _).output = _ ∧
        (launch.outcomeWithLog _ entries.toList _).errors = _
      rw [outcomeWithLog_output hfilter, outcomeWithLog_errors hfilter]
      exact ⟨rfl, rfl, (String.empty_append).symm⟩
  | error cause => exact ⟨rfl, join_outputText entries.toList, rfl⟩

end Launch

/-- How the program ends on a walk, after it has warned or not.  It ends well just if everything
that the walk needs is there.  Then its output is one line for each move, in their order, which says
where the move went; and otherwise there is no output, and the first thing that is missing is
reported. -/
structure WalkRequest.AllOrNothing (r : WalkRequest) (warning : String) (o : Outcome) : Prop where
  succeeds_iff : o.code = 0 ↔ ∃ j, r.Supplies j
  prints : ∀ j, r.Supplies j → ∃ lines,
    TellsWalk j.workspace j.settings.workspaceStep j.start j.script.moves lines ∧
      o.output = String.join (lines.map (· ++ "\n")) ∧ o.errors = warning
  fails : (¬ ∃ j, r.Supplies j) → o.code = 1 ∧ o.output = "" ∧
    ∃ failure, r.LacksFirst failure ∧ o.errors = warning ++ s!"Error: {failure.message}\n"

namespace Launch

variable {launch : Launch}

/-- Once the log has been dealt with, a walk is all or nothing. -/
lemma outcome_allOrNothing (hfilter : launch.filterText = none) (r : WalkRequest)
    (isFile : String → Bool) (hfound : r.found = launch.settingsPath.filter isFile)
    (logPath : Option String) (opened : Except FileError Unit) :
    r.AllOrNothing (warning opened)
      (launch.outcome (r.arguments logPath) opened r.readText isFile) := by
  set o := launch.outcome (r.arguments logPath) opened r.readText isFile
  have hwalks : ∀ j, r.Supplies j → o.code = 0 ∧ ∃ lines,
      TellsWalk j.workspace j.settings.workspaceStep j.start j.script.moves lines ∧
        o.output = String.join (lines.map (· ++ "\n")) ∧ o.errors = warning opened := by
    intro j hj
    obtain ⟨lines, htells, hprints⟩ := r.prints_of_supplies hj logPath
    rw [hfound] at hprints
    obtain ⟨hcode, houtput, herrors⟩ := outcome_of_prints hfilter hprints opened
    exact ⟨hcode, lines, htells, houtput, herrors.trans String.append_empty⟩
  have hstops : (¬ ∃ j, r.Supplies j) → o.code = 1 ∧ o.output = "" ∧ ∃ failure,
      r.LacksFirst failure ∧ o.errors = warning opened ++ s!"Error: {failure.message}\n" := by
    intro h
    obtain ⟨failure, hlacks, hprints⟩ := r.prints_of_not_supplies h logPath
    rw [hfound] at hprints
    obtain ⟨hcode, houtput, herrors⟩ := outcome_of_prints hfilter hprints opened
    exact ⟨hcode, houtput, failure, hlacks, herrors⟩
  refine ⟨⟨fun hzero => ?_, fun ⟨j, hj⟩ => (hwalks j hj).1⟩, fun j hj => (hwalks j hj).2, hstops⟩
  by_contra h
  rw [(hstops h).1] at hzero
  cases hzero

/-- **The walk command is all or nothing.**  If the log's file cannot be opened in its directory,
the program breaks off.  Otherwise the walk is all or nothing, on the files as they are once the log
has been opened; or, if there is no directory for the log, on those that there are without it. -/
theorem walk_all_or_nothing {args : Arguments} {layout start : String}
    {script scriptFile : Option String} (hargs : launch.parsed = .ok args)
    (hwalk : args.command = .walk layout start script scriptFile)
    (hown : launch.environment "BLOCKNAV_LOG" = none)
    (hgeneral : launch.environment "RUST_LOG" = none) (files : FileTree) :
    let place := launch.logPlace args
    let o := (launch.execute files).1
    let request (files : FileTree) : WalkRequest :=
      { readText := files.readText, asked := args.config,
        found := launch.settingsPath.filter files.isFile, layout, start, script, scriptFile }
    (∀ made, files.makeDirectories place.directory = (made, .ok ()) →
      (∀ cause, made.openForAppending place.path = .error cause → o.code = 101 ∧ o.output = "") ∧
      ∀ opened, made.openForAppending place.path = .ok opened →
        (request opened).AllOrNothing "" o) ∧
    ∀ made cause, files.makeDirectories place.directory = (made, .error cause) →
      (request made).AllOrNothing
        s!"Warning: Failed to initialize logging: {cause.message}\n" o := by
  have hfilter : launch.filterText = none := by rw [filterText, hown, hgeneral, Log.filterText]
  have hwhole : launch.isFilterTorn = false := by rw [isFilterTorn, hfilter, Option.any_none]
  obtain ⟨config, logPath, command⟩ := args
  obtain rfl : command = _ := hwalk
  intro place o request
  have ho : o = (launch.execute files).1 := rfl
  rw [execute, hargs] at ho
  refine ⟨fun made hmade => ⟨fun cause hcause => ?_, fun opened hopened => ?_⟩,
    fun made cause hmade => ?_⟩
  · simp only [place] at hmade hcause
    simp only [hmade, hcause] at ho
    rw [ho]
    exact ⟨rfl, rfl⟩
  · simp only [place] at hmade hopened
    simp only [hmade, hopened, hwhole] at ho
    rw [ho]
    exact outcome_allOrNothing hfilter (request opened) _ rfl logPath (.ok ())
  · simp only [place] at hmade
    simp only [hmade] at ho
    rw [ho]
    exact outcome_allOrNothing hfilter (request made) _ rfl logPath (.error cause)

/-- A walk on the surface of a workspace, with its log at a path. -/
def surfaceWalk (log : String) : Launch where
  arguments := ["walk", "--layout", "ws.toml", "--start", "workspace:0,0", "--script", "in",
    "--log-file", log]
  environment _ := none
  process := 7

/-- A layout without stacks, and a directory whose name looks like a log's. -/
def surfaceFiles : FileTree where
  files := [(["ws.toml"], some ""), (["d.x", "f"], some "")]

/-- The arguments of the walk. -/
def surfaceArguments (log : String) : Arguments :=
  ⟨none, some log, .walk "ws.toml" "workspace:0,0" (some "in") none⟩

/-- The files once there is a log beside the directory. -/
def surfaceFilesWithLog : FileTree :=
  { surfaceFiles with files := surfaceFiles.files ++ [(["w.log"], some "")] }

/-- In place of the directory the log cannot be opened, and the program breaks off; beside it the
log can be opened, and the walk has all it needs. -/
theorem surfaceWalk_ends :
    ((surfaceWalk "d.x").execute surfaceFiles).1.code = 101 ∧
      ∃ j lines,
        WalkRequest.Supplies ⟨surfaceFilesWithLog.readText, none, none, "ws.toml", "workspace:0,0",
          some "in", none⟩ j ∧
        TellsWalk j.workspace j.settings.workspaceStep j.start j.script.moves lines ∧
        String.join (lines.map (· ++ "\n")) = "in -> (stays)\n" := by
  have hbroken := walk_all_or_nothing
    (show (surfaceWalk "d.x").parsed = .ok (surfaceArguments "d.x") by decide +kernel)
    rfl rfl rfl surfaceFiles
  have hwalk := walk_all_or_nothing
    (show (surfaceWalk "w.log").parsed = .ok (surfaceArguments "w.log") by decide +kernel)
    rfl rfl rfl surfaceFiles
  constructor
  · exact ((hbroken.1 surfaceFiles (by decide +kernel)).1 .isDirectory (by decide +kernel)).1
  · obtain ⟨hsucceeds, hprints, -⟩ :=
      (hwalk.1 surfaceFiles (by decide +kernel)).2 surfaceFilesWithLog (by decide +kernel)
    obtain ⟨j, hj⟩ := hsucceeds.mp (by decide +kernel)
    obtain ⟨lines, htells, houtput, -⟩ := hprints j hj
    refine ⟨j, lines, hj, htells, houtput.symm.trans ?_⟩
    decide +kernel

end Launch

end BlockCursor
