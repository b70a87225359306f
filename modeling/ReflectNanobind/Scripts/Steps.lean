import ReflectNanobind.Gates.BugIsolation
import ReflectNanobind.Scripts.Builds

/-!
# Build scripts as step lists

Every build script is a list of tool calls, each with the stage and the exit code that it reports when
the tool fails, followed by the line that prints the module's path.  The scripts are brought into this
form once; what they launch, when they exit with 0, and what they leave on stderr when they do not, is
then proved by induction over the list.
-/

namespace ReflectNanobind.Scripts

open Gates Library

/-! ## Tools -/

/-- How the tools answer, whatever they are handed. -/
structure Tools where
  status : Launch → ℤ
  stdout : Launch → String
  stderr : Launch → String
  fileExists : String → Bool

/-- The two streams of a script, as far as they are written. -/
structure Streams where
  stdout : String
  stderr : String

def Tools.handler (tools : Tools) : Program.Handler Request Reply Streams
  | .run launch, streams =>
      (tools.status launch,
        ⟨streams.stdout ++ tools.stdout launch, streams.stderr ++ tools.stderr launch⟩)
  | .exists path, streams => (tools.fileExists path, streams)
  | .echo line, streams => ((), ⟨streams.stdout ++ (line ++ "\n"), streams.stderr⟩)
  | .echoError line, streams => ((), ⟨streams.stdout, streams.stderr ++ (line ++ "\n")⟩)

/-- What the caller of the script gets. -/
def completed (tools : Tools) (script : Script) : Completed :=
  let ended := script.run tools.handler ⟨"", ""⟩
  ⟨ended.1, ended.2.stdout, ended.2.stderr⟩

def launchOf : Request → Option Launch
  | .run launch => some launch
  | _ => none

/-- The launches of a script in order, with what was written before it. -/
def launchesFrom (tools : Tools) (script : Script) (streams : Streams) : List Launch :=
  (script.trace tools.handler streams).filterMap fun event ↦ launchOf event.1

def launches (tools : Tools) (script : Script) : List Launch := launchesFrom tools script ⟨"", ""⟩

/-- The streams after a tool. -/
def Tools.after (tools : Tools) (launch : Launch) (streams : Streams) : Streams :=
  ⟨streams.stdout ++ tools.stdout launch, streams.stderr ++ tools.stderr launch⟩

section OrExit

variable (tools : Tools) (launch : Launch) (stage : String) (code : ℤ) (rest : Script)
  (streams : Streams)

theorem run_orExit : (orExit launch stage code rest).run tools.handler streams =
    if tools.status launch = 0 then rest.run tools.handler (tools.after launch streams)
    else (code, ⟨(tools.after launch streams).stdout,
      markedStderr (tools.after launch streams).stderr stage⟩) := by
  by_cases hstatus : tools.status launch = 0 <;>
    simp [orExit, run, echoError, Tools.handler, Tools.after, hstatus, markedStderr]

theorem launchesFrom_orExit : launchesFrom tools (orExit launch stage code rest) streams =
    launch :: if tools.status launch = 0 then launchesFrom tools rest (tools.after launch streams)
      else [] := by
  by_cases hstatus : tools.status launch = 0 <;>
    simp [launchesFrom, orExit, run, echoError, Tools.handler, Tools.after, hstatus, launchOf]

end OrExit

/-! ## Step lists -/

/-- A tool call and what the script reports when it fails. -/
structure Step where
  launch : Launch
  stage : String
  code : ℤ

def runSteps (steps : List Step) (rest : Script) : Script :=
  steps.foldr (fun step rest ↦ orExit step.launch step.stage step.code rest) rest

theorem runSteps_cons (step : Step) (steps : List Step) (rest : Script) :
    runSteps (step :: steps) rest =
      orExit step.launch step.stage step.code (runSteps steps rest) := rfl

theorem runSteps_append (first second : List Step) (rest : Script) :
    runSteps (first ++ second) rest = runSteps first (runSteps second rest) :=
  List.foldr_append ..

/-- The steps of a loop over sources. -/
def loopSteps (launch : ℕ → String → Launch) (stage : String) (code : ℤ) :
    ℕ → List String → List Step
  | _, [] => []
  | index, source :: sources =>
      ⟨launch index source, stage, code⟩ :: loopSteps launch stage code (index + 1) sources

theorem forall_mem_loopSteps {holds : Step → Prop} {launch : ℕ → String → Launch} {stage : String}
    {code : ℤ} (h : ∀ index source, holds ⟨launch index source, stage, code⟩) (index : ℕ)
    (sources : List String) : ∀ step ∈ loopSteps launch stage code index sources, holds step := by
  induction sources generalizing index with
  | nil => simp [loopSteps]
  | cons source sources ih =>
      rw [loopSteps, List.forall_mem_cons]
      exact ⟨h index source, ih (index + 1)⟩

theorem compileAll_eq_runSteps (launch : ℕ → String → Launch) (stage : String) (code : ℤ)
    (rest : Script) (index : ℕ) (sources : List String) :
    compileAll launch stage code rest index sources =
      runSteps (loopSteps launch stage code index sources) rest := by
  induction sources generalizing index with
  | nil => rfl
  | cons source sources ih =>
      rw [compileAll, ih]
      rfl

/-! ## The step list of each script -/

namespace Process

variable (process : Process)

/-- The line that ends a successful script. -/
def printModule (mod outDir : String) : Script := do
  echo (outDir ++ "/" ++ mod ++ process.settings.extSuffix)
  pure 0

def moduleSteps (src mod outDir : String) (args : List String) : List Step :=
  let obj := outDir ++ "/" ++ mod ++ ".o"
  let so := outDir ++ "/" ++ mod ++ process.settings.extSuffix
  [⟨process.compileLaunch args src obj, "compile", 11⟩] ++
    loopSteps (process.extraLaunch args outDir) "extra_compile" 12 0 process.extraSources ++
    [⟨process.linkLaunch obj outDir so, "link", 13⟩]

theorem buildModule_eq_runSteps (src mod outDir : String) (args : List String) :
    process.buildModule (src :: mod :: outDir :: args) =
      runSteps (process.moduleSteps src mod outDir args) (process.printModule mod outDir) := by
  rw [buildModule, moduleSteps, runSteps_append, runSteps_append, compileAll_eq_runSteps]
  rfl

def codegenSteps (genSrc bindSrc mod outDir : String) (args : List String) : List Step :=
  let genBin := outDir ++ "/gen"
  [⟨process.genCompileLaunch args genSrc genBin, "gen_compile", 21⟩,
    ⟨⟨.genRun, [genBin], [], [outDir ++ "/trampolines.gen.h"]⟩, "gen_run", 22⟩] ++
    process.moduleSteps bindSrc mod outDir ("-I" :: outDir :: args)

theorem buildModuleCodegen_eq_runSteps (genSrc bindSrc mod outDir : String)
    (args : List String) :
    process.buildModuleCodegen (genSrc :: bindSrc :: mod :: outDir :: args) =
      runSteps (process.codegenSteps genSrc bindSrc mod outDir args)
        (process.printModule mod outDir) := by
  rw [buildModuleCodegen, codegenSteps, runSteps_append, buildModule_eq_runSteps]
  rfl

/-- Stage 1 of the emit build, the reflection compiler's part. -/
def emitReflectionSteps (genSrc outDir : String) (args : List String) : List Step :=
  let genBin := outDir ++ "/gen_emit"
  let bindDir := process.machine.directoryOf genSrc
  loopSteps (process.emitGenExtraLaunch args bindDir outDir) "emit_gen_compile" 31 0
      process.extraSources ++
    [⟨process.emitGenCompileLaunch args bindDir outDir genSrc genBin, "emit_gen_compile", 31⟩,
      ⟨⟨.emitGenRun, [genBin], [], [outDir ++ "/binding.gen.cpp"]⟩, "emit_gen_run", 32⟩]

/-- Stage 2 of the emit build, the production compiler's part. -/
def emitProductionSteps (genSrc mod outDir : String) (args : List String) : List Step :=
  let obj := outDir ++ "/" ++ mod ++ ".o"
  let so := outDir ++ "/" ++ mod ++ process.settings.extSuffix
  let bindDir := process.machine.directoryOf genSrc
  [⟨process.emitCompileLaunch args bindDir (outDir ++ "/binding.gen.cpp") obj,
      "emit_compile", 33⟩] ++
    loopSteps (process.emitExtraLaunch args outDir) "emit_extra_compile" 34 0
      process.extraSources ++
    [⟨process.emitLinkLaunch obj outDir so, "emit_link", 35⟩]

theorem emitStages_eq_runSteps (genSrc mod outDir : String) (args : List String) :
    process.emitStages genSrc mod outDir args =
      runSteps (process.emitReflectionSteps genSrc outDir args ++
        process.emitProductionSteps genSrc mod outDir args) (process.printModule mod outDir) := by
  rw [runSteps_append, emitReflectionSteps, emitProductionSteps, runSteps_append, runSteps_append,
    runSteps_append, emitStages, compileAll_eq_runSteps, compileAll_eq_runSteps]
  rfl

end Process

/-! ## The sources of a step list -/

/-- The sources compiled at a place, in order. -/
def sourcesAt (place : Place) (launches : List Launch) : List String :=
  launches.filterMap fun launch ↦ if launch.place = place then launch.source else none

theorem sourcesAt_append (place : Place) (first second : List Launch) :
    sourcesAt place (first ++ second) = sourcesAt place first ++ sourcesAt place second :=
  List.filterMap_append

theorem sourcesAt_prefixOf {place : Place} {first second : List Launch} (h : first <+: second) :
    sourcesAt place first <+: sourcesAt place second :=
  h.filterMap _

theorem sourcesAt_of_place_ne {place : Place} {steps : List Step}
    (h : ∀ step ∈ steps, step.launch.place ≠ place) : sourcesAt place (steps.map Step.launch) = [] := by
  rw [sourcesAt, List.filterMap_eq_nil_iff]
  intro launch hlaunch
  obtain ⟨step, hstep, rfl⟩ := List.mem_map.mp hlaunch
  exact if_neg (h step hstep)

/-- A loop compiles every source once, in order. -/
theorem sourcesAt_loopSteps {place : Place} {launch : ℕ → String → Launch} (stage : String)
    (code : ℤ) (hplace : ∀ index source, (launch index source).place = place)
    (hsource : ∀ index source, (launch index source).source = some source) (index : ℕ)
    (sources : List String) :
    sourcesAt place ((loopSteps launch stage code index sources).map Step.launch) = sources := by
  induction sources generalizing index with
  | nil => rfl
  | cons source sources ih =>
      rw [loopSteps, List.map_cons, sourcesAt, List.filterMap_cons, if_pos (hplace index source),
        hsource]
      exact congrArg (source :: ·) (ih (index + 1))

/-- Around the loop nothing is compiled at its place. -/
theorem sourcesAt_around {place : Place} {first last : List Step} {launch : ℕ → String → Launch}
    {stage : String} {code : ℤ} {index : ℕ} {sources : List String}
    (hfirst : ∀ step ∈ first, step.launch.place ≠ place)
    (hplace : ∀ index source, (launch index source).place = place)
    (hsource : ∀ index source, (launch index source).source = some source)
    (hlast : ∀ step ∈ last, step.launch.place ≠ place) :
    sourcesAt place ((first ++ loopSteps launch stage code index sources ++ last).map Step.launch) =
      sources := by
  rw [List.map_append, List.map_append, sourcesAt_append, sourcesAt_append,
    sourcesAt_of_place_ne hfirst, sourcesAt_of_place_ne hlast,
    sourcesAt_loopSteps stage code hplace hsource, List.nil_append, List.append_nil]

namespace Process

variable (process : Process)

theorem moduleSteps_sources (src mod outDir : String) (args : List String) :
    sourcesAt .extraCompile ((process.moduleSteps src mod outDir args).map Step.launch) =
      process.extraSources := by
  apply sourcesAt_around
  · simp [compileLaunch]
  · intro index source
    rfl
  · intro index source
    rfl
  · simp [linkLaunch]

theorem emitReflectionSteps_sources (genSrc outDir : String) (args : List String) :
    sourcesAt .emitGenExtra ((process.emitReflectionSteps genSrc outDir args).map Step.launch) =
      process.extraSources := by
  rw [emitReflectionSteps, ← List.nil_append (loopSteps _ _ _ _ _)]
  apply sourcesAt_around
  · simp
  · intro index source
    rfl
  · intro index source
    rfl
  · simp [emitGenCompileLaunch]

theorem emitProductionSteps_sources (genSrc mod outDir : String) (args : List String) :
    sourcesAt .emitExtra ((process.emitProductionSteps genSrc mod outDir args).map Step.launch) =
      process.extraSources := by
  apply sourcesAt_around
  · simp [emitCompileLaunch]
  · intro index source
    rfl
  · intro index source
    rfl
  · simp [emitLinkLaunch]

theorem emitReflectionSteps_place (genSrc outDir : String) (args : List String) :
    ∀ step ∈ process.emitReflectionSteps genSrc outDir args, step.launch.place ≠ .emitExtra := by
  rw [emitReflectionSteps, List.forall_mem_append]
  exact ⟨forall_mem_loopSteps (fun _ _ ↦ by simp [emitGenExtraLaunch]) _ _,
    by simp [emitGenCompileLaunch]⟩

theorem emitProductionSteps_place (genSrc mod outDir : String) (args : List String) :
    ∀ step ∈ process.emitProductionSteps genSrc mod outDir args,
      step.launch.place ≠ .emitGenExtra := by
  rw [emitProductionSteps, List.forall_mem_append, List.forall_mem_append]
  exact ⟨⟨by simp [emitCompileLaunch],
    forall_mem_loopSteps (fun _ _ ↦ by simp [emitExtraLaunch]) _ _⟩, by simp [emitLinkLaunch]⟩

theorem moduleSteps_code_ne_zero (src mod outDir : String) (args : List String) :
    ∀ step ∈ process.moduleSteps src mod outDir args, step.code ≠ 0 := by
  unfold moduleSteps
  simp only [List.forall_mem_append, List.forall_mem_singleton]
  exact ⟨⟨by simp, forall_mem_loopSteps (fun _ _ ↦ by simp) _ _⟩, by simp⟩

theorem codegenSteps_code_ne_zero (genSrc bindSrc mod outDir : String) (args : List String) :
    ∀ step ∈ process.codegenSteps genSrc bindSrc mod outDir args, step.code ≠ 0 := by
  unfold codegenSteps
  rw [List.forall_mem_append]
  exact ⟨by simp, process.moduleSteps_code_ne_zero _ _ _ _⟩

/-- The first stage fails with 31 or 32. -/
theorem emitReflectionSteps_report (genSrc outDir : String) (args : List String) :
    ∀ step ∈ process.emitReflectionSteps genSrc outDir args,
      (step.code, step.stage) ∈ [((31 : ℤ), "emit_gen_compile"), (32, "emit_gen_run")] := by
  unfold emitReflectionSteps
  rw [List.forall_mem_append]
  exact ⟨forall_mem_loopSteps (fun _ _ ↦ by simp) _ _, by simp⟩

/-- The second stage fails with 33, 34 or 35. -/
theorem emitProductionSteps_report (genSrc mod outDir : String) (args : List String) :
    ∀ step ∈ process.emitProductionSteps genSrc mod outDir args,
      (step.code, step.stage) ∈
        [((33 : ℤ), "emit_compile"), (34, "emit_extra_compile"), (35, "emit_link")] := by
  unfold emitProductionSteps
  simp only [List.forall_mem_append, List.forall_mem_singleton]
  exact ⟨⟨by simp, forall_mem_loopSteps (fun _ _ ↦ by simp) _ _⟩, by simp⟩

end Process

/-! ## What a step list does -/

section Steps

variable (tools : Tools)

def AllSucceed (steps : List Step) : Prop := ∀ step ∈ steps, tools.status step.launch = 0

/-- The steps that are reached: up to the first failure. -/
def reached : List Step → List Step
  | [] => []
  | step :: steps =>
      if tools.status step.launch = 0 then step :: reached steps else [step]

/-- What the tools of the steps write to stderr. -/
def errorText (steps : List Step) : String :=
  (steps.map fun step ↦ tools.stderr step.launch).foldr (· ++ ·) ""

theorem reached_prefixOf (steps : List Step) : reached tools steps <+: steps := by
  induction steps with
  | nil => exact List.prefix_refl _
  | cons step steps ih =>
      rw [reached]
      split
      · exact List.cons_prefix_cons.mpr ⟨rfl, ih⟩
      · exact List.cons_prefix_cons.mpr ⟨rfl, List.nil_prefix⟩

theorem reached_eq_self {steps : List Step} (h : AllSucceed tools steps) :
    reached tools steps = steps := by
  induction steps with
  | nil => rfl
  | cons step steps ih =>
      rw [reached, if_pos (h step List.mem_cons_self),
        ih fun other hother ↦ h other (List.mem_cons_of_mem _ hother)]

/-- A step list launches the tools of the steps that it reaches. -/
theorem launchesFrom_runSteps {rest : Script} (hrest : ∀ streams, launchesFrom tools rest streams = [])
    (steps : List Step) (streams : Streams) :
    launchesFrom tools (runSteps steps rest) streams = (reached tools steps).map Step.launch := by
  induction steps generalizing streams with
  | nil => exact hrest streams
  | cons step steps ih =>
      rw [runSteps_cons, launchesFrom_orExit, ih, reached]
      split <;> rfl

/-- When a step fails, the script ends with its code, and with its marker after the text of the tools
that ran. -/
theorem run_runSteps_of_failure (rest : Script) {steps : List Step} (h : ¬ AllSucceed tools steps)
    (streams : Streams) : ∃ step ∈ steps,
      ((runSteps steps rest).run tools.handler streams).1 = step.code ∧
        ((runSteps steps rest).run tools.handler streams).2.stderr =
          markedStderr (streams.stderr ++ errorText tools (reached tools steps)) step.stage := by
  induction steps generalizing streams with
  | nil => exact absurd (fun step hstep ↦ absurd hstep (by simp)) h
  | cons step steps ih =>
      rw [runSteps_cons, run_orExit, reached]
      by_cases hstatus : tools.status step.launch = 0
      · have hsteps : ¬ AllSucceed tools steps := fun hall ↦
          h (List.forall_mem_cons.mpr ⟨hstatus, hall⟩)
        obtain ⟨failed, hfailed, hcode, hstderr⟩ := ih hsteps (tools.after step.launch streams)
        refine ⟨failed, List.mem_cons_of_mem _ hfailed, ?_⟩
        rw [if_pos hstatus, if_pos hstatus]
        refine ⟨hcode, hstderr.trans ?_⟩
        simp [errorText, Tools.after, String.append_assoc]
      · refine ⟨step, List.mem_cons_self, ?_⟩
        rw [if_neg hstatus, if_neg hstatus]
        exact ⟨rfl, by simp [errorText, Tools.after]⟩

theorem run_runSteps_of_success (rest : Script) {steps : List Step} (h : AllSucceed tools steps)
    (streams : Streams) : ∃ streams',
      (runSteps steps rest).run tools.handler streams = rest.run tools.handler streams' := by
  induction steps generalizing streams with
  | nil => exact ⟨streams, rfl⟩
  | cons step steps ih =>
      rw [runSteps_cons, run_orExit, if_pos (h step List.mem_cons_self)]
      exact ih (fun other hother ↦ h other (List.mem_cons_of_mem _ hother)) _

end Steps

/-! ## What the scripts do -/

section Scripts

variable (process : Process) (tools : Tools) (steps : List Step) (mod outDir : String)

theorem launches_runSteps :
    launches tools (runSteps steps (process.printModule mod outDir)) =
      (reached tools steps).map Step.launch :=
  launchesFrom_runSteps tools (fun _ ↦ rfl) steps _

theorem completed_runSteps_returncode (hcodes : ∀ step ∈ steps, step.code ≠ 0) :
    (completed tools (runSteps steps (process.printModule mod outDir))).returncode = 0 ↔
      AllSucceed tools steps := by
  constructor
  · intro hzero
    by_contra hfailure
    obtain ⟨step, hstep, hcode, _⟩ := run_runSteps_of_failure tools
      (process.printModule mod outDir) hfailure ⟨"", ""⟩
    exact hcodes step hstep (hcode.symm.trans hzero)
  · intro hall
    obtain ⟨streams, hrun⟩ := run_runSteps_of_success tools (process.printModule mod outDir) hall
      ⟨"", ""⟩
    unfold completed
    rw [hrun]
    rfl

variable (genSrc : String) (args : List String)

/-- The emit build runs its steps only when the production archive is there. -/
theorem launches_buildModuleEmit :
    launches tools (process.buildModuleEmit (genSrc :: mod :: outDir :: args)) =
      if tools.fileExists process.settings.nbLibProd then
        launches tools (process.emitStages genSrc mod outDir args)
      else [] := by
  unfold launches launchesFrom
  by_cases harchive : tools.fileExists process.settings.nbLibProd = true <;>
    simp [Process.buildModuleEmit, fileExists, echoError, Tools.handler, harchive, launchOf]

theorem completed_buildModuleEmit_of_archive
    (harchive : tools.fileExists process.settings.nbLibProd = true) :
    completed tools (process.buildModuleEmit (genSrc :: mod :: outDir :: args)) =
      completed tools (process.emitStages genSrc mod outDir args) := by
  simp [completed, Process.buildModuleEmit, fileExists, Tools.handler, harchive]

theorem completed_buildModuleEmit_of_missing
    (harchive : tools.fileExists process.settings.nbLibProd = false) :
    (completed tools (process.buildModuleEmit (genSrc :: mod :: outDir :: args))).returncode =
      35 := by
  simp [completed, Process.buildModuleEmit, fileExists, echoError, Tools.handler, harchive]

end Scripts

end ReflectNanobind.Scripts
