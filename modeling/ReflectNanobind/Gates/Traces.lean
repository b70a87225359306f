import ReflectNanobind.Gates.Verdict

/-!
# The order of effects

Which commands a run launches, in which order, and what the run directory holds when it launches
them.  Every section of the orchestrator launches a list of commands that its exit statuses
determine, and no request of the lane loop changes the run directory, so that every lane command sees
the directory as the oracle leg left it.
-/

namespace ReflectNanobind.Gates

open Library Library.JsonSchema

/-! ## Kinds of requests -/

/-- The request does not write the result document. -/
def Request.KeepsResult : Request → Prop
  | .writeResult _ => False
  | _ => True

/-- The request neither writes the result document nor reads the generated translation unit. -/
def Request.Plain : Request → Prop
  | .writeResult _ | .readGeneratedTu => False
  | _ => True

theorem Request.Plain.keepsResult {request : Request} (h : request.Plain) :
    request.KeepsResult := by
  cases request with
  | writeResult record => exact h
  | _ => trivial

/-- The command builds, imports or tests a lane. -/
def Command.TestsLane (command : Command) : Prop :=
  match command.site with
  | .build _ | .importSmoke _ | .pytest _ => True
  | _ => False

/-! ## The launches of a trace -/

/-- The commands of a trace, each with the run directory it was launched in. -/
def launches : List (Request × RunDir) → List (Command × RunDir)
  | [] => []
  | (.sh command, world) :: rest => (command, world) :: launches rest
  | _ :: rest => launches rest

@[simp] theorem launches_append (events rest : List (Request × RunDir)) :
    launches (events ++ rest) = launches events ++ launches rest := by
  induction events with
  | nil => rfl
  | cons event events ih =>
      obtain ⟨request, world⟩ := event
      cases request <;> simp [launches, ih]

theorem mem_launches {events : List (Request × RunDir)} {command : Command} {world : RunDir} :
    (command, world) ∈ launches events ↔ (Request.sh command, world) ∈ events := by
  induction events with
  | nil => simp [launches]
  | cons event events ih =>
      obtain ⟨request, other⟩ := event
      cases request <;> simp [launches, ih]

/-- The trace reads the generated translation unit. -/
def ReadsGeneratedTu (events : List (Request × RunDir)) : Prop :=
  ∃ world, (Request.readGeneratedTu, world) ∈ events

@[simp] theorem readsGeneratedTu_append (events rest : List (Request × RunDir)) :
    ReadsGeneratedTu (events ++ rest) ↔ ReadsGeneratedTu events ∨ ReadsGeneratedTu rest := by
  simp [ReadsGeneratedTu, exists_or]

@[simp] theorem not_readsGeneratedTu_nil : ¬ ReadsGeneratedTu [] := by
  simp [ReadsGeneratedTu]

@[simp] theorem readsGeneratedTu_cons (request : Request) (world : RunDir)
    (events : List (Request × RunDir)) :
    ReadsGeneratedTu ((request, world) :: events) ↔
      request = .readGeneratedTu ∨ ReadsGeneratedTu events := by
  simp only [ReadsGeneratedTu, List.mem_cons, Prod.mk.injEq, exists_or, exists_and_left,
    exists_eq, and_true, eq_comm (a := Request.readGeneratedTu)]

section Launches

variable (host : Host) (inv : Invocation) (dir : RunDir)

@[simp] theorem sh_trace (command : Command) :
    (sh command).trace host.handler dir = [(.sh command, dir)] := rfl

@[simp] theorem elapsed_trace (site : LaunchSite) :
    (elapsed site).trace host.handler dir = [(.elapsed site, dir)] := rfl

@[simp] theorem fileExists_trace (file : RunFile) :
    (fileExists file).trace host.handler dir = [(.exists file, dir)] := rfl

@[simp] theorem readGeneratedTu_trace :
    readGeneratedTu.trace host.handler dir = [(.readGeneratedTu, dir)] := rfl

@[simp] theorem writeProbe_trace (text : String) :
    (writeProbe text).trace host.handler dir = [(.writeProbe text, dir)] := rfl

@[simp] theorem writeExpected_trace (text : String) :
    (writeExpected text).trace host.handler dir = [(.writeExpected text, dir)] := rfl

@[simp] theorem writeResult_trace (record : Record) :
    (writeResult record).trace host.handler dir = [(.writeResult record, dir)] := rfl

@[simp] theorem printLine_trace (line : String) :
    (printLine line).trace host.handler dir = [(.printLine line, dir)] := rfl

/-! ## The commands of each section -/

def recordCommands : List Command :=
  [inv.toolchainCommitCommand, inv.binderCommitCommand] ++
    if .emit ∈ inv.lanesToRun then [inv.prodVersionCommand] else []

def oracleCommands : List Command :=
  if dir.oracleNative then
    inv.oracleBuildCommand ::
      if host.Succeeds inv.oracleBuildCommand then [inv.oracleCommand] else []
  else []

def laneCommands (hasTests : Bool) (lane : Lane) : List Command :=
  inv.buildCommand lane ::
    if host.Succeeds (inv.buildCommand lane) then
      inv.importCommand lane ::
        if host.Succeeds (inv.importCommand lane) ∧ hasTests = true then [inv.pytestCommand lane]
        else []
    else []

def comparisonCommands : List Command :=
  if ComparesSurfaces host inv then [inv.surfaceDiffCommand] else []

theorem recordCommands_site {command : Command} (h : command ∈ recordCommands inv) :
    command.site ∈ [LaunchSite.toolchainCommit, .binderCommit, .prodVersion] := by
  have hcases : command = inv.toolchainCommitCommand ∨ command = inv.binderCommitCommand ∨
      command = inv.prodVersionCommand := by
    unfold recordCommands at h
    split_ifs at h <;> simp at h <;> tauto
  rcases hcases with rfl | rfl | rfl <;> simp

theorem oracleCommands_site {command : Command} (h : command ∈ oracleCommands host inv dir) :
    command.site ∈ [LaunchSite.oracleBuild, .oracle] := by
  have hcases : command = inv.oracleBuildCommand ∨ command = inv.oracleCommand := by
    unfold oracleCommands at h
    split_ifs at h <;> simp at h <;> tauto
  rcases hcases with rfl | rfl <;> simp

theorem laneCommands_site {hasTests : Bool} {lane : Lane} {command : Command}
    (h : command ∈ laneCommands host inv hasTests lane) :
    command.site ∈ [LaunchSite.build lane, .importSmoke lane, .pytest lane] := by
  have hcases : command = inv.buildCommand lane ∨ command = inv.importCommand lane ∨
      command = inv.pytestCommand lane := by
    unfold laneCommands at h
    split_ifs at h <;> simp at h <;> tauto
  rcases hcases with rfl | rfl | rfl <;> simp

theorem comparisonCommands_site {command : Command} (h : command ∈ comparisonCommands host inv) :
    command.site = .surfaceDiff := by
  unfold comparisonCommands at h
  split_ifs at h
  · rw [List.mem_singleton.mp h, Invocation.surfaceDiffCommand_site]
  · cases h

theorem launches_startRecord :
    launches ((startRecord inv).trace host.handler dir) =
      (recordCommands inv).map (·, dir) := by
  have htoolchain : (toolchainId inv).trace host.handler dir =
      [(.sh inv.toolchainCommitCommand, dir)] ∧
      ((toolchainId inv).run host.handler dir).2 = dir := by
    unfold toolchainId
    cases inv.isGcc <;> exact ⟨rfl, rfl⟩
  have hprod : (prodCompiler inv).trace host.handler dir =
      if .emit ∈ inv.lanesToRun then [(.sh inv.prodVersionCommand, dir)] else [] := by
    unfold prodCompiler
    split <;> rfl
  simp only [startRecord, Program.trace_bind, htoolchain, sh_run, hprod]
  split <;> rename_i hemit <;> simp [launches, recordCommands, hemit]

theorem launches_ensureProbe :
    launches ((ensureProbe inv).trace host.handler dir) = [] := by
  cases hprobe : dir.probe <;> simp [ensureProbe, hprobe, launches]

theorem launches_oracleLeg (r : Record) :
    launches ((oracleLeg inv r).trace host.handler dir) =
      (oracleCommands host inv dir).map (·, dir) := by
  simp only [oracleLeg, Program.trace_bind, fileExists_oracleNative_run, oracleCommands,
    Host.Succeeds]
  by_cases horacle : dir.oracleNative = true
  · by_cases hbuild : (host.sh inv.oracleBuildCommand).returncode = 0
    · by_cases hrun : (host.sh inv.oracleCommand).returncode = 0 ∧
          Text.strip (host.sh inv.oracleCommand).stdout ≠ ""
      · simp [horacle, hbuild, hrun, launches]
      · simp [horacle, hbuild, hrun, launches]
    · simp [horacle, hbuild, launches]
  · simp [horacle, launches]

theorem generatedTuMetrics_trace (lane : Lane) (metrics : Metrics) :
    launches ((generatedTuMetrics lane metrics).trace host.handler dir) = [] ∧
      (ReadsGeneratedTu ((generatedTuMetrics lane metrics).trace host.handler dir) ↔
        lane = .emit ∧ host.generatedTu.isSome = true) := by
  cases lane with
  | constexpr => simp [generatedTuMetrics, launches, ReadsGeneratedTu]
  | emit =>
      cases hgen : host.generatedTu <;>
        simp [generatedTuMetrics, hgen, launches, ReadsGeneratedTu]

/-- Measuring the generated translation unit leaves the run directory alone. -/
@[simp] theorem generatedTuMetrics_world (lane : Lane) (metrics : Metrics) :
    ((generatedTuMetrics lane metrics).run host.handler dir).2 = dir := by
  cases lane with
  | constexpr => rfl
  | emit => cases hgen : host.generatedTu <;> simp [generatedTuMetrics, hgen]

theorem launches_runLane (lane : Lane) (bug : ToolchainBug) :
    launches ((runLane inv lane bug).trace host.handler dir) =
      (laneCommands host inv dir.testBindings lane).map (·, dir) := by
  have hmetrics (metrics : Metrics) := generatedTuMetrics_trace host dir lane metrics
  simp only [runLane, Program.trace_bind, sh_run, elapsed_run, laneCommands, Host.Succeeds]
  by_cases hbuild : (host.sh (inv.buildCommand lane)).returncode = 0
  · by_cases himport : (host.sh (inv.importCommand lane)).returncode = 0
    · cases htests : dir.testBindings
      · simp [hbuild, himport, htests, hmetrics, launches]
      · by_cases hpass : (host.sh (inv.pytestCommand lane)).returncode = 0 <;>
          simp [hbuild, himport, htests, hmetrics, hpass, launches]
    · simp [hbuild, himport, hmetrics, launches]
  · simp [hbuild, launches]

theorem launches_laneLoop (hasDiff hasTests : Bool) (lanes : List Lane) (r : Record) :
    launches ((laneLoop inv hasDiff hasTests lanes r).trace host.handler dir) =
      (lanes.flatMap (laneCommands host inv dir.testBindings)).map (·, dir) := by
  induction lanes generalizing r with
  | nil => simp [laneLoop, launches]
  | cons lane rest ih =>
      rw [laneLoop, Program.trace_bind, launches_append, launches_runLane, runLane_run,
        List.flatMap_cons, List.map_append]
      exact congrArg _ (ih _)

theorem launches_surfaceGate (r : Record) :
    launches ((surfaceGate inv r).trace host.handler dir) =
      if bothImported inv r then [(inv.surfaceDiffCommand, dir)] else [] := by
  unfold surfaceGate
  split <;> simp [launches]

theorem launches_finish (r : Record) : launches ((finish r).trace host.handler dir) = [] := by
  cases hbug : r.toolchainBug <;> simp [finish, hbug, launches]

/-! ## The whole run -/

theorem main_trace_of_probe_failed (hprobe : ¬ host.Succeeds inv.probeCommand) : ∃ r,
    (main inv).trace host.handler dir =
      (startRecord inv).trace host.handler dir ++ ((ensureProbe inv).trace host.handler dir ++
        (.sh inv.probeCommand, probedDir inv dir) :: (.elapsed .probe, probedDir inv dir) ::
          (finish r).trace host.handler (probedDir inv dir)) := by
  obtain ⟨toolchain, binder, prod, hstart⟩ := startRecord_run host inv dir
  have hcode : (host.sh inv.probeCommand).returncode ≠ 0 := hprobe
  refine ⟨document host inv dir, ?_⟩
  rw [main, Program.trace_bind]
  obtain ⟨_, _, _, _, hgated⟩ := gatedRecord_run_of_probe_failed host inv dir hprobe
  rw [document, congrArg Prod.snd hgated]
  simp [gatedRecord, hstart, ensureProbe_run, hcode]

/-- After the probe come the oracle leg, the lane loop and the surface gate, in this order; the last
two see the directory that the oracle leg left. -/
theorem gatesAfterProbe_trace (r : Record) (hempty : r.lanes = []) : ∃ r₁ r₂,
    r₂.lanes = settledLanes host inv dir ∧
      (gatesAfterProbe inv r).trace host.handler dir =
        (oracleLeg inv (probePassed r)).trace host.handler dir ++
          (.exists .testBindings, truthDir host inv dir) ::
            ((laneLoop inv (freshTruth host inv dir).isSome dir.testBindings
                inv.lanesToRun r₁).trace host.handler (truthDir host inv dir) ++
              (surfaceGate inv r₂).trace host.handler (truthDir host inv dir)) := by
  let r₁ := oracleRecord host inv dir (probePassed r)
  obtain ⟨oracle, notes, horacle⟩ := oracleRecord_eq host inv dir (probePassed r)
  obtain ⟨notes', hloop⟩ := laneLoop_run host inv (truthDir host inv dir)
    (freshTruth host inv dir).isSome inv.lanesToRun r₁
  rw [truthDir_testBindings] at hloop
  refine ⟨r₁, ((laneLoop inv (freshTruth host inv dir).isSome dir.testBindings
    inv.lanesToRun r₁).run host.handler (truthDir host inv dir)).1, ?_, ?_⟩
  · rw [hloop]
    simp [r₁, horacle, probePassed, hempty, settledLanes]
  · have hworld := congrArg Prod.snd hloop
    simp [gatesAfterProbe, oracleLeg_run, hworld, r₁]

theorem main_trace_of_probe_passed (hprobe : host.Succeeds inv.probeCommand) : ∃ r₀ r₁ r₂ r₃,
    r₂.lanes = settledLanes host inv dir ∧
      (main inv).trace host.handler dir =
        (startRecord inv).trace host.handler dir ++ ((ensureProbe inv).trace host.handler dir ++
          (.sh inv.probeCommand, probedDir inv dir) :: (.elapsed .probe, probedDir inv dir) ::
            ((oracleLeg inv r₀).trace host.handler (probedDir inv dir) ++
              (.exists .testBindings, truthDir host inv (probedDir inv dir)) ::
                ((laneLoop inv (freshTruth host inv dir).isSome dir.testBindings
                    inv.lanesToRun r₁).trace host.handler (truthDir host inv (probedDir inv dir)) ++
                  ((surfaceGate inv r₂).trace host.handler
                      (truthDir host inv (probedDir inv dir)) ++
                    (finish r₃).trace host.handler
                      (truthDir host inv (probedDir inv dir)))))) := by
  obtain ⟨toolchain, binder, prod, hstart⟩ := startRecord_run host inv dir
  let first : Record := { newRecord inv toolchain binder prod with
    metrics := setKey "probe_seconds" (.scalar (.decimal (host.elapsed .probe) 2)) [] }
  obtain ⟨r₁, r₂, hlanes, htrace⟩ := gatesAfterProbe_trace host inv (probedDir inv dir) first rfl
  have hsettled : settledLanes host inv (probedDir inv dir) = settledLanes host inv dir := by
    simp [settledLanes]
  rw [freshTruth_probedDir, probedDir_testBindings] at htrace
  obtain ⟨_, _, _, _, _, _, hgated⟩ := gatedRecord_run_of_probe_passed host inv dir hprobe
  have hcode : (host.sh inv.probeCommand).returncode = 0 := hprobe
  have hstarts : (gatedRecord inv).trace host.handler dir =
      (startRecord inv).trace host.handler dir ++ ((ensureProbe inv).trace host.handler dir ++
        (.sh inv.probeCommand, probedDir inv dir) :: (.elapsed .probe, probedDir inv dir) ::
          (gatesAfterProbe inv first).trace host.handler (probedDir inv dir)) := by
    simp [gatedRecord, hstart, ensureProbe_run, hcode, first, newRecord]
  refine ⟨probePassed first, r₁, r₂, document host inv dir, hlanes.trans hsettled, ?_⟩
  rw [main, Program.trace_bind, congrArg Prod.snd hgated, hstarts, htrace]
  simp [document]

/-- The commands of a run in order, each with the run directory it sees. -/
theorem launches_main : launches ((main inv).trace host.handler dir) =
    (recordCommands inv).map (·, dir) ++ (inv.probeCommand, probedDir inv dir) ::
      if host.Succeeds inv.probeCommand then
        (oracleCommands host inv dir).map (·, probedDir inv dir) ++
          (inv.lanesToRun.flatMap (laneCommands host inv dir.testBindings) ++
            comparisonCommands host inv).map (·, truthDir host inv (probedDir inv dir))
      else [] := by
  by_cases hprobe : host.Succeeds inv.probeCommand
  · obtain ⟨r₀, r₁, r₂, r₃, hlanes, htrace⟩ := main_trace_of_probe_passed host inv dir hprobe
    rw [htrace, if_pos hprobe]
    simp [launches_startRecord, launches_ensureProbe, launches, launches_oracleLeg,
      launches_laneLoop, launches_surfaceGate, launches_finish, oracleCommands,
      comparisonCommands, bothImported_iff host inv dir r₂ hlanes]
    split <;> simp
  · obtain ⟨r, htrace⟩ := main_trace_of_probe_failed host inv dir hprobe
    rw [htrace, if_neg hprobe]
    simp [launches_startRecord, launches_ensureProbe, launches, launches_finish]

/-- A command is launched by the section it belongs to, in the directory that the section sees. -/
theorem launched_iff (command : Command) (world : RunDir) :
    (Request.sh command, world) ∈ (main inv).trace host.handler dir ↔
      (command ∈ recordCommands inv ∧ world = dir) ∨
        (command = inv.probeCommand ∧ world = probedDir inv dir) ∨
          host.Succeeds inv.probeCommand ∧
            (command ∈ oracleCommands host inv dir ∧ world = probedDir inv dir ∨
              ((∃ lane ∈ inv.lanesToRun, command ∈ laneCommands host inv dir.testBindings lane) ∨
                command ∈ comparisonCommands host inv) ∧
                world = truthDir host inv (probedDir inv dir)) := by
  have hmap {commands : List Command} {other : RunDir} :
      (command, world) ∈ commands.map (·, other) ↔ command ∈ commands ∧ world = other := by
    simp [eq_comm]
  rw [← mem_launches, launches_main, List.mem_append, List.mem_cons, hmap, Prod.mk.injEq]
  by_cases hprobe : host.Succeeds inv.probeCommand
  · rw [if_pos hprobe, List.mem_append, hmap, hmap, List.mem_append, List.mem_flatMap]
    simp only [hprobe, true_and]
  · rw [if_neg hprobe]
    simp only [hprobe, false_and, List.not_mem_nil]

/-- The commands that a run launches, as its exit statuses determine them. -/
def launchedCommands : List Command :=
  recordCommands inv ++ inv.probeCommand ::
    if host.Succeeds inv.probeCommand then
      oracleCommands host inv dir ++
        (inv.lanesToRun.flatMap (laneCommands host inv dir.testBindings) ++
          comparisonCommands host inv)
    else []

theorem launches_main_map_fst :
    (launches ((main inv).trace host.handler dir)).map Prod.fst = launchedCommands host inv dir := by
  rw [launches_main, launchedCommands]
  split <;> simp [Function.comp_def]

/-! ## The requests of each section -/

theorem startRecord_only : (startRecord inv).Only Request.Plain := by
  have htoolchain : (toolchainId inv).Only Request.Plain := by
    refine Program.only_bind (Program.only_ask trivial) fun v ↦ ?_
    split <;> trivial
  have hprod : (prodCompiler inv).Only Request.Plain := by
    unfold prodCompiler
    split
    · exact Program.only_bind (Program.only_ask trivial) fun _ ↦ trivial
    · trivial
  exact Program.only_bind htoolchain fun _ ↦
    Program.only_bind (Program.only_ask trivial) fun _ ↦
      Program.only_bind hprod fun _ ↦ trivial

theorem ensureProbe_only : (ensureProbe inv).Only Request.Plain := by
  refine Program.only_bind (Program.only_ask trivial) fun present ↦ ?_
  cases present
  · exact Program.only_ask trivial
  · trivial

theorem oracleLeg_only (r : Record) : (oracleLeg inv r).Only Request.Plain := by
  refine Program.only_bind (Program.only_ask trivial) fun present ↦ ?_
  split
  · refine Program.only_bind (Program.only_ask trivial) fun ob ↦ ?_
    split
    · refine Program.only_bind (Program.only_ask trivial) fun res ↦ ?_
      split
      · exact Program.only_bind (Program.only_ask trivial) fun _ ↦ trivial
      · trivial
    · trivial
  · trivial

theorem surfaceGate_only (r : Record) : (surfaceGate inv r).Only Request.Plain := by
  unfold surfaceGate
  split
  · exact Program.only_bind (Program.only_ask trivial) fun _ ↦ trivial
  · trivial

theorem generatedTuMetrics_only (lane : Lane) (metrics : Metrics) :
    (generatedTuMetrics lane metrics).Only Request.KeepsResult := by
  unfold generatedTuMetrics
  split
  · refine Program.only_bind (Program.only_ask trivial) fun present ↦ ?_
    split
    · exact Program.only_bind (Program.only_ask trivial) fun _ ↦ trivial
    · trivial
  · trivial

theorem runLane_only (lane : Lane) (bug : ToolchainBug) :
    (runLane inv lane bug).Only Request.KeepsResult := by
  refine Program.only_bind (Program.only_ask trivial) fun b ↦
    Program.only_bind (Program.only_ask trivial) fun seconds ↦ ?_
  dsimp only
  split
  · trivial
  refine Program.only_bind (generatedTuMetrics_only lane _) fun metrics ↦
    Program.only_bind (Program.only_ask trivial) fun imp ↦ ?_
  split
  · trivial
  refine Program.only_bind (Program.only_ask trivial) fun present ↦ ?_
  split
  · trivial
  refine Program.only_bind (Program.only_ask trivial) fun t ↦ ?_
  split <;> trivial

theorem laneLoop_only (hasDiff hasTests : Bool) (lanes : List Lane) (r : Record) :
    (laneLoop inv hasDiff hasTests lanes r).Only Request.KeepsResult := by
  induction lanes generalizing r with
  | nil => trivial
  | cons lane rest ih => exact Program.only_bind (runLane_only inv lane _) fun result ↦ ih _

/-- Before `finish` nothing writes the result document. -/
theorem gatedRecord_only : (gatedRecord inv).Only Request.KeepsResult := by
  have hplain {α : Type} {program : Action α} (h : program.Only Request.Plain) :
      program.Only Request.KeepsResult := h.mono fun _ ↦ Request.Plain.keepsResult
  refine Program.only_bind (hplain (startRecord_only inv)) fun r ↦
    Program.only_bind (hplain (ensureProbe_only inv)) fun _ ↦
      Program.only_bind (Program.only_ask trivial) fun p ↦
        Program.only_bind (Program.only_ask trivial) fun seconds ↦ ?_
  dsimp only
  split
  · trivial
  refine Program.only_bind (hplain (oracleLeg_only inv _)) fun oracle ↦
    Program.only_bind (Program.only_ask trivial) fun hasTests ↦
      Program.only_bind (laneLoop_only inv _ _ _ _) fun r ↦
        Program.only_bind (hplain (surfaceGate_only inv r)) fun r ↦ trivial

/-! ## Reading the generated translation unit -/

theorem not_readsGeneratedTu {α : Type} {program : Action α} (h : program.Only Request.Plain) :
    ¬ ReadsGeneratedTu (program.trace host.handler dir) := by
  rintro ⟨world, hworld⟩
  exact Program.allowed_of_mem_trace host.handler h hworld

theorem readsGeneratedTu_runLane (lane : Lane) (bug : ToolchainBug) :
    ReadsGeneratedTu ((runLane inv lane bug).trace host.handler dir) ↔
      lane = .emit ∧ host.Succeeds (inv.buildCommand .emit) ∧ host.generatedTu.isSome = true := by
  have hmetrics (metrics : Metrics) := (generatedTuMetrics_trace host dir lane metrics).2
  have hemit : (lane = .emit ∧ (host.sh (inv.buildCommand .emit)).returncode = 0 ∧
      host.generatedTu.isSome = true) ↔ (lane = .emit ∧ host.generatedTu.isSome = true) ∧
        (host.sh (inv.buildCommand lane)).returncode = 0 := by
    constructor
    · rintro ⟨rfl, hbuild, hgen⟩
      exact ⟨⟨rfl, hgen⟩, hbuild⟩
    · rintro ⟨⟨rfl, hgen⟩, hbuild⟩
      exact ⟨rfl, hbuild, hgen⟩
  simp only [runLane, Program.trace_bind, sh_run, elapsed_run, Host.Succeeds, hemit]
  by_cases hbuild : (host.sh (inv.buildCommand lane)).returncode = 0
  · by_cases himport : (host.sh (inv.importCommand lane)).returncode = 0
    · cases htests : dir.testBindings
      · simp [hbuild, himport, htests, hmetrics]
      · by_cases hpass : (host.sh (inv.pytestCommand lane)).returncode = 0 <;>
          simp [hbuild, himport, htests, hmetrics, hpass]
    · simp [hbuild, himport, hmetrics]
  · simp [hbuild]

theorem readsGeneratedTu_laneLoop (hasDiff hasTests : Bool) (lanes : List Lane) (r : Record) :
    ReadsGeneratedTu ((laneLoop inv hasDiff hasTests lanes r).trace host.handler dir) ↔
      .emit ∈ lanes ∧ host.Succeeds (inv.buildCommand .emit) ∧
        host.generatedTu.isSome = true := by
  induction lanes generalizing r with
  | nil => simp [laneLoop, ReadsGeneratedTu]
  | cons lane rest ih =>
      rw [laneLoop, Program.trace_bind, readsGeneratedTu_append, readsGeneratedTu_runLane,
        runLane_run, List.mem_cons, eq_comm (a := Lane.emit)]
      refine (or_congr_right (ih _)).trans ?_
      rw [or_and_right]

theorem readsGeneratedTu_main : ReadsGeneratedTu ((main inv).trace host.handler dir) ↔
    host.Succeeds inv.probeCommand ∧ .emit ∈ inv.lanesToRun ∧
      host.Succeeds (inv.buildCommand .emit) ∧ host.generatedTu.isSome = true := by
  have hfinish (r : Record) (world : RunDir) :
      ¬ ReadsGeneratedTu ((finish r).trace host.handler world) := by
    cases hbug : r.toolchainBug <;> simp [finish, hbug, ReadsGeneratedTu]
  by_cases hprobe : host.Succeeds inv.probeCommand
  · obtain ⟨r₀, r₁, r₂, r₃, -, htrace⟩ := main_trace_of_probe_passed host inv dir hprobe
    rw [htrace]
    simp only [readsGeneratedTu_append, readsGeneratedTu_cons, reduceCtorEq,
      readsGeneratedTu_laneLoop, hfinish, not_readsGeneratedTu host _ (startRecord_only inv),
      not_readsGeneratedTu host _ (ensureProbe_only inv),
      not_readsGeneratedTu host _ (oracleLeg_only inv r₀),
      not_readsGeneratedTu host _ (surfaceGate_only inv r₂), hprobe, false_or, or_false, true_and]
  · obtain ⟨r, htrace⟩ := main_trace_of_probe_failed host inv dir hprobe
    rw [htrace]
    simp only [readsGeneratedTu_append, readsGeneratedTu_cons, reduceCtorEq, hfinish,
      not_readsGeneratedTu host _ (startRecord_only inv),
      not_readsGeneratedTu host _ (ensureProbe_only inv), hprobe, false_and, or_false]

end Launches

end ReflectNanobind.Gates
