import ReflectNanobind.Gates.RunGates

/-!
# What a run computes

The run of every section of the orchestrator under a text host, in closed form: one lane's record,
the oracle leg's effect on `tests/expected.json`, the fold of the lane loop, and the final document.
Later modules reason about these forms and about the five ways a lane can end, and never unfold the
program again.
-/

namespace ReflectNanobind.Gates

open Library Library.JsonSchema

/-- The launched command exits with status 0. -/
def Host.Succeeds (host : Host) (command : Command) : Prop := (host.sh command).returncode = 0

instance (host : Host) : DecidablePred host.Succeeds := fun command ↦
  inferInstanceAs (Decidable ((host.sh command).returncode = 0))

/-! ## The effects under a host -/

section Effects

variable (host : Host) (dir : RunDir)

@[simp] theorem sh_run (command : Command) :
    (sh command).run host.handler dir = (host.sh command, dir) := rfl

@[simp] theorem elapsed_run (site : LaunchSite) :
    (elapsed site).run host.handler dir = (host.elapsed site, dir) := rfl

@[simp] theorem fileExists_probe_run :
    (fileExists .probe).run host.handler dir = (dir.probe.isSome, dir) := rfl

@[simp] theorem fileExists_oracleNative_run :
    (fileExists .oracleNative).run host.handler dir = (dir.oracleNative, dir) := rfl

@[simp] theorem fileExists_testBindings_run :
    (fileExists .testBindings).run host.handler dir = (dir.testBindings, dir) := rfl

@[simp] theorem fileExists_generatedTu_run :
    (fileExists .generatedTu).run host.handler dir = (host.generatedTu.isSome, dir) := rfl

@[simp] theorem readGeneratedTu_run :
    readGeneratedTu.run host.handler dir = (host.generatedTu.getD "", dir) := rfl

@[simp] theorem writeProbe_run (text : String) :
    (writeProbe text).run host.handler dir = ((), { dir with probe := some text }) := rfl

@[simp] theorem writeExpected_run (text : String) :
    (writeExpected text).run host.handler dir = ((), { dir with expected := some text }) := rfl

@[simp] theorem writeResult_run (record : Record) :
    (writeResult record).run host.handler dir = ((), { dir with result := some record }) := rfl

@[simp] theorem printLine_run (line : String) :
    (printLine line).run host.handler dir = ((), dir) := rfl

end Effects

section Lane

variable (host : Host) (inv : Invocation) (lane : Lane)

/-! ## One lane -/

def buildMetrics : Metrics :=
  setKey "binding_compile_seconds" (.scalar (.decimal (host.elapsed (.build lane)) 2)) []

def laneMetrics : Metrics :=
  match lane, host.generatedTu with
  | .emit, some text =>
      setKey "generated_tu_bytes" (.int text.length)
        (setKey "generated_tu_lines" (.int (text.toList.count '\n')) (buildMetrics host lane))
  | _, _ => buildMetrics host lane

/-- The lane record of a run, as a function of the three replies. -/
def laneResult (hasTests : Bool) : LaneRecord (Option Outcome) :=
  if ¬ host.Succeeds (inv.buildCommand lane) then
    buildFailed (buildMetrics host lane) (host.sh (inv.buildCommand lane))
  else if ¬ host.Succeeds (inv.importCommand lane) then
    importFailed (laneMetrics host lane) (host.sh (inv.importCommand lane))
  else if hasTests = false then untested (laneMetrics host lane)
  else if ¬ host.Succeeds (inv.pytestCommand lane) then
    testsFailed (laneMetrics host lane) (host.sh (inv.pytestCommand lane))
  else testsPassed (laneMetrics host lane) (host.sh (inv.pytestCommand lane))

/-- The lane's effect on the run's toolchain-bug block. -/
def laneBug (bug : ToolchainBug) : ToolchainBug :=
  if host.Succeeds (inv.buildCommand lane) then bug
  else classifyBuild lane (host.sh (inv.buildCommand lane)) bug

theorem generatedTuMetrics_run (dir : RunDir) :
    (generatedTuMetrics lane (buildMetrics host lane)).run host.handler dir =
      (laneMetrics host lane, dir) := by
  cases lane with
  | constexpr => simp [generatedTuMetrics, laneMetrics]
  | emit =>
      cases hgen : host.generatedTu <;> simp [generatedTuMetrics, hgen, laneMetrics]

theorem runLane_run (bug : ToolchainBug) (dir : RunDir) :
    (runLane inv lane bug).run host.handler dir =
      ((laneResult host inv lane dir.testBindings, laneBug host inv lane bug), dir) := by
  have hmetrics := generatedTuMetrics_run host lane dir
  simp only [buildMetrics] at hmetrics
  simp only [runLane, Program.run_bind, sh_run, elapsed_run, laneRecord, laneResult, laneBug,
    Host.Succeeds]
  by_cases hbuild : (host.sh (inv.buildCommand lane)).returncode = 0
  · by_cases himport : (host.sh (inv.importCommand lane)).returncode = 0
    · cases htests : dir.testBindings
      · simp [hbuild, himport, htests, hmetrics]
      · by_cases hpass : (host.sh (inv.pytestCommand lane)).returncode = 0 <;>
          simp [hbuild, himport, htests, hmetrics, hpass]
    · simp [hbuild, himport, hmetrics]
  · simp [hbuild, buildMetrics]

/-- The five ways a lane can end, each with the record it leaves. -/
inductive LaneRun (hasTests : Bool) : LaneRecord (Option Outcome) → Prop where
  | buildFailed (hbuild : ¬ host.Succeeds (inv.buildCommand lane)) :
      LaneRun hasTests
        (Gates.buildFailed (buildMetrics host lane) (host.sh (inv.buildCommand lane)))
  | importFailed (hbuild : host.Succeeds (inv.buildCommand lane))
      (himport : ¬ host.Succeeds (inv.importCommand lane)) :
      LaneRun hasTests
        (Gates.importFailed (laneMetrics host lane) (host.sh (inv.importCommand lane)))
  | untested (hbuild : host.Succeeds (inv.buildCommand lane))
      (himport : host.Succeeds (inv.importCommand lane)) (htests : hasTests = false) :
      LaneRun hasTests (Gates.untested (laneMetrics host lane))
  | testsFailed (hbuild : host.Succeeds (inv.buildCommand lane))
      (himport : host.Succeeds (inv.importCommand lane)) (htests : hasTests = true)
      (hpytest : ¬ host.Succeeds (inv.pytestCommand lane)) :
      LaneRun hasTests
        (Gates.testsFailed (laneMetrics host lane) (host.sh (inv.pytestCommand lane)))
  | testsPassed (hbuild : host.Succeeds (inv.buildCommand lane))
      (himport : host.Succeeds (inv.importCommand lane)) (htests : hasTests = true)
      (hpytest : host.Succeeds (inv.pytestCommand lane)) :
      LaneRun hasTests
        (Gates.testsPassed (laneMetrics host lane) (host.sh (inv.pytestCommand lane)))

theorem laneResult_run (hasTests : Bool) :
    LaneRun host inv lane hasTests (laneResult host inv lane hasTests) := by
  unfold laneResult
  by_cases hbuild : host.Succeeds (inv.buildCommand lane)
  · by_cases himport : host.Succeeds (inv.importCommand lane)
    · cases hasTests
      · simpa [hbuild, himport] using LaneRun.untested hbuild himport rfl
      · by_cases hpytest : host.Succeeds (inv.pytestCommand lane)
        · simpa [hbuild, himport, hpytest] using LaneRun.testsPassed hbuild himport rfl hpytest
        · simpa [hbuild, himport, hpytest] using LaneRun.testsFailed hbuild himport rfl hpytest
    · simpa [hbuild, himport] using LaneRun.importFailed hbuild himport
  · simpa [hbuild] using LaneRun.buildFailed hbuild

end Lane

section Document

variable (host : Host) (inv : Invocation) (dir : RunDir)

/-! ## The oracle leg -/

/-- The stdout that this invocation's oracle printed and that was written to
`tests/expected.json`, if the oracle refreshed it. -/
def freshTruth : Option String :=
  if dir.oracleNative = true ∧ host.Succeeds inv.oracleBuildCommand ∧
      host.Succeeds inv.oracleCommand ∧ Text.strip (host.sh inv.oracleCommand).stdout ≠ "" then
    some (host.sh inv.oracleCommand).stdout
  else none

theorem freshTruth_eq_some_iff {text : String} : freshTruth host inv dir = some text ↔
    dir.oracleNative = true ∧ host.Succeeds inv.oracleBuildCommand ∧
      host.Succeeds inv.oracleCommand ∧ Text.strip (host.sh inv.oracleCommand).stdout ≠ "" ∧
      (host.sh inv.oracleCommand).stdout = text := by
  unfold freshTruth
  split <;> rename_i h
  · simp [h]
  · simp only [reduceCtorEq, false_iff]
    rintro ⟨hnative, hbuild, hrun, hblank, -⟩
    exact h ⟨hnative, hbuild, hrun, hblank⟩

/-- `tests/expected.json` after the oracle leg. -/
def truthDir : RunDir :=
  match freshTruth host inv dir with
  | some text => { dir with expected := some text }
  | none => dir

/-- The record after the oracle leg: the oracle block when the truth was refreshed, a note when the
oracle was there and did not refresh it. -/
def oracleRecord (r : Record) : Record :=
  if (freshTruth host inv dir).isSome then
    { r with oracle :=
      { r.oracle with
        layersUsed := r.oracle.layersUsed ++ ["L1_differential"]
        groundTruthSource := groundTruthSource } }
  else if dir.oracleNative = false then r
  else if host.Succeeds inv.oracleBuildCommand then
    { r with notes := r.notes ++ "oracle ran but produced no output; " }
  else { r with notes := r.notes ++ "native oracle failed to build; " }

theorem oracleLeg_run (r : Record) :
    (oracleLeg inv r).run host.handler dir =
      (((freshTruth host inv dir).isSome, oracleRecord host inv dir r),
        truthDir host inv dir) := by
  simp only [oracleLeg, Program.run_bind, fileExists_oracleNative_run, truthDir, oracleRecord,
    freshTruth, Host.Succeeds]
  by_cases horacle : dir.oracleNative = true
  · by_cases hbuild : (host.sh inv.oracleBuildCommand).returncode = 0
    · by_cases hrun : (host.sh inv.oracleCommand).returncode = 0 ∧
          Text.strip (host.sh inv.oracleCommand).stdout ≠ ""
      · simp [horacle, hbuild, hrun]
      · simp [horacle, hbuild, hrun]
    · simp [horacle, hbuild]
  · simp [horacle]

/-- The oracle leg writes the oracle block and the notes of the record, nothing else. -/
theorem oracleRecord_eq (r : Record) : ∃ oracle notes,
    oracleRecord host inv dir r = { r with oracle := oracle, notes := notes } := by
  unfold oracleRecord
  split
  · exact ⟨_, r.notes, rfl⟩
  split
  · exact ⟨r.oracle, r.notes, rfl⟩
  split
  · exact ⟨r.oracle, _, rfl⟩
  · exact ⟨r.oracle, _, rfl⟩

/-! ## The lane loop -/

/-- The record of a settled lane. -/
def settledLane (hasDiff hasTests : Bool) (lane : Lane) : LaneRecord Outcome :=
  settle hasDiff hasTests (laneResult host inv lane hasTests)

/-- The loop stores the settled lanes in order, threads the toolchain-bug block through the failed
builds, and touches nothing else but the notes. -/
theorem laneLoop_run (hasDiff : Bool) (lanes : List Lane) (r : Record) : ∃ notes,
    (laneLoop inv hasDiff dir.testBindings lanes r).run host.handler dir =
      ({ r with
          lanes := r.lanes ++ lanes.map fun lane ↦
            (lane, settledLane host inv hasDiff dir.testBindings lane)
          toolchainBug := lanes.foldl (fun bug lane ↦ laneBug host inv lane bug) r.toolchainBug
          notes := notes }, dir) := by
  induction lanes generalizing r with
  | nil => exact ⟨r.notes, by simp [laneLoop]⟩
  | cons lane rest ih =>
      obtain ⟨notes, hrest⟩ := ih (storeLane hasDiff dir.testBindings lane
        (laneResult host inv lane dir.testBindings) (laneBug host inv lane r.toolchainBug) r)
      refine ⟨notes, ?_⟩
      rw [laneLoop, Program.run_bind, runLane_run]
      simpa [storeLane, settledLane] using hrest

end Document

end ReflectNanobind.Gates
