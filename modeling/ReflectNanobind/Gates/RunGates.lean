import ReflectNanobind.Gates.Invocation
import ReflectNanobind.Library.Program

/-!
# The orchestrator

`run_gates.main` as a program over its effects: launching a command, asking the clock, looking at
and writing the files of the run directory, and printing.  The probe, the oracle leg, one lane's
Gates 4 to 6, the lane loop, Gate 6b and the final combination are the sections of the source, in
its order.  Two handlers interpret the program: a host that answers with decoded text, and a host
that answers with bytes, whose decoding may raise.
-/

namespace ReflectNanobind.Gates

open Library Library.JsonSchema

/-! ## Effects -/

/-- The files of a run whose existence the orchestrator asks for. -/
inductive RunFile where
  | probe | oracleNative | testBindings | generatedTu
  deriving DecidableEq, Repr

inductive Request where
  | sh (command : Command)
  /-- The rounded seconds since the command of this site was launched. -/
  | elapsed (site : LaunchSite)
  | exists (file : RunFile)
  | readGeneratedTu
  | writeProbe (text : String)
  | writeExpected (text : String)
  | writeResult (record : Record)
  | printLine (line : String)

abbrev Reply : Request → Type
  | .sh _ => Completed
  | .elapsed _ => ℕ
  | .exists _ => Bool
  | .readGeneratedTu => String
  | .writeProbe _ | .writeExpected _ | .writeResult _ | .printLine _ => Unit

abbrev Action := Program Request Reply

/-- `sh(args, env)`. -/
def sh (command : Command) : Action Completed := Program.ask (Request.sh command)

def elapsed (site : LaunchSite) : Action ℕ := Program.ask (Request.elapsed site)

def fileExists (file : RunFile) : Action Bool := Program.ask (Request.exists file)

def readGeneratedTu : Action String := Program.ask Request.readGeneratedTu

def writeProbe (text : String) : Action Unit := Program.ask (Request.writeProbe text)

def writeExpected (text : String) : Action Unit := Program.ask (Request.writeExpected text)

def writeResult (record : Record) : Action Unit := Program.ask (Request.writeResult record)

def printLine (line : String) : Action Unit := Program.ask (Request.printLine line)

/-! ## One lane -/

/-- The generated translation unit's size goes into the emit lane's metrics when it is there. -/
def generatedTuMetrics (lane : Lane) (metrics : Metrics) : Action Metrics :=
  if lane = .emit then do
    if ← fileExists .generatedTu then
      let text ← readGeneratedTu
      pure (setKey "generated_tu_bytes" (.int text.length)
        (setKey "generated_tu_lines" (.int (text.toList.count '\n')) metrics))
    else pure metrics
  else pure metrics

/-- The stages of the emit build whose diagnostics come from the reflection compiler. -/
def reflectionStages : List String := ["emit_gen_compile", "emit_gen_run"]

/-- The signal that Gate 5 records for a failed import. -/
def importSignal (imp : Completed) : String :=
  if imp.returncode = -11 ∨ imp.returncode = 139 then "SIGSEGV"
  else if Text.contains "Error" imp.stderr then "Import"
  else toString imp.returncode

/-- The last line of a nonblank pytest report. -/
def pytestSummary (stdout : String) : String :=
  ((Text.splitlines (Text.strip stdout)).getLast?).getD ""

/-! The record at each of the five returns of `run_lane`. -/

def buildFailed (metrics : Metrics) (b : Completed) : LaneRecord (Option Outcome) :=
  { laneRecord with
    metrics := metrics
    gateResults := ⟨some .fail, none, none⟩
    outcome := some .B
    failure := ⟨some ("B." ++ failStage b.stderr), firstLines (b.stderr ++ b.stdout) 5, none⟩ }

def importFailed (metrics : Metrics) (imp : Completed) : LaneRecord (Option Outcome) :=
  { laneRecord with
    metrics := metrics
    furthestGate := 4
    gateResults := ⟨some .pass, some .fail, none⟩
    outcome := some .C
    failure := ⟨some ("C." ++ Text.lower (importSignal imp)), firstLines imp.stderr 5,
      some (importSignal imp)⟩ }

def untested (metrics : Metrics) : LaneRecord (Option Outcome) :=
  { laneRecord with
    metrics := metrics
    furthestGate := 6
    gateResults := ⟨some .pass, some .pass, some .skip⟩
    outcome := some .EWeak }

def testsFailed (metrics : Metrics) (t : Completed) : LaneRecord (Option Outcome) :=
  { laneRecord with
    metrics := metrics
    furthestGate := 6
    gateResults := ⟨some .pass, some .pass, some .fail⟩
    outcome := some .D
    failure := ⟨some "D.value", firstLines t.stdout 8, none⟩
    oracle := { noOracle with pytestSummary := some (pytestSummary t.stdout) } }

/-- E or E-weak is left to the caller. -/
def testsPassed (metrics : Metrics) (t : Completed) : LaneRecord (Option Outcome) :=
  { laneRecord with
    metrics := metrics
    furthestGate := 6
    gateResults := ⟨some .pass, some .pass, some .pass⟩
    outcome := none
    oracle := { noOracle with pytestSummary := some (pytestSummary t.stdout) } }

/-- Only reflection-compiler diagnostics feed the classifier: every constexpr build, and the emit
build's first stage. -/
def classifyBuild (lane : Lane) (b : Completed) (bug : ToolchainBug) : ToolchainBug :=
  if lane ≠ .emit ∨ failStage b.stderr ∈ reflectionStages then
    classifyTcBug bug (b.stderr ++ b.stdout)
  else bug

/-- `run_lane`, with the run's toolchain-bug block threaded through. -/
def runLane (inv : Invocation) (lane : Lane) (bug : ToolchainBug) :
    Action (LaneRecord (Option Outcome) × ToolchainBug) := do
  -- Gate 4: compile
  let b ← sh (inv.buildCommand lane)
  let seconds ← elapsed (.build lane)
  let metrics := setKey "binding_compile_seconds" (.scalar (.decimal seconds 2)) laneRecord.metrics
  if b.returncode ≠ 0 then pure (buildFailed metrics b, classifyBuild lane b bug)
  else
    let metrics ← generatedTuMetrics lane metrics
    -- Gate 5: import smoke
    let imp ← sh (inv.importCommand lane)
    if imp.returncode ≠ 0 then pure (importFailed metrics imp, bug)
    else
      -- Gate 6: correctness
      if !(← fileExists .testBindings) then pure (untested metrics, bug)
      else
        let t ← sh (inv.pytestCommand lane)
        if t.returncode ≠ 0 then pure (testsFailed metrics t, bug)
        else pure (testsPassed metrics t, bug)

/-! ## The record before the gates -/

def orUnknown (text : String) : String := if text ≠ "" then text else "unknown"

def toolchainId (inv : Invocation) : Action String := do
  let v ← sh inv.toolchainCommitCommand
  if inv.isGcc then pure ("gcc-" ++ orUnknown (Text.strip v.stdout))
  else pure (orUnknown (Text.strip v.stdout))

def prodCompiler (inv : Invocation) : Action String :=
  if .emit ∈ inv.lanesToRun then do
    let v ← sh inv.prodVersionCommand
    pure ((Text.splitlines v.stdout).head?.getD "unknown")
  else pure ""

/-- The dictionary `r` as `main` first builds it. -/
def newRecord (inv : Invocation) (toolchain binder prod : String) : Record where
  backend := inv.backend
  slug := inv.toml.slug
  url := inv.toml.url.getD ""
  pinnedCommit := inv.toml.pin.getD ""
  tier := inv.toml.tier
  headerOnly := inv.toml.headerOnly.getD true
  toolchainCommit := toolchain
  binderCommit := binder
  prodCompiler := prod
  outcome := none
  furthestGate := 0
  gateResults := ⟨inv.strategy, none, ⟨none, none, none⟩⟩
  lanes := []
  surfaceDiff := ⟨.skip, []⟩
  subset := ⟨inv.toml.reflectArgs.getD [], inv.toml.subsetRationale.getD "",
    inv.toml.skippedFeatures.getD []⟩
  oracle := noOracle
  failure := noFailure
  toolchainBug := .none
  metrics := []
  notes := ""

def startRecord (inv : Invocation) : Action Record := do
  let toolchain ← toolchainId inv
  let binder ← sh inv.binderCommitCommand
  let prod ← prodCompiler inv
  pure (newRecord inv toolchain (orUnknown (Text.strip binder.stdout)) prod)

/-! ## Gate 1: the shared probe -/

def includeLine (header : String) : String := "#include \"" ++ header ++ "\"\n"

def ensureProbe (inv : Invocation) : Action Unit := do
  if !(← fileExists .probe) then
    writeProbe (Text.join "" ((inv.toml.mainHeaders.getD []).map includeLine))
  else pure ()

/-- The record of a run that stops at the probe. -/
def probeFailed (r : Record) (p : Completed) : Record :=
  { r with
    gateResults := { r.gateResults with probe := some .fail }
    outcome := some .A
    failure := ⟨some "A.compile", firstLines p.stderr 5, none⟩
    toolchainBug := detectToolchainBug p.stderr }

def probePassed (r : Record) : Record :=
  { r with
    gateResults := { r.gateResults with probe := some .pass }
    furthestGate := 1 }

/-! ## The oracle: leg 1 of the three-way validation -/

def groundTruthSource : String := "native C++ oracle (oracle_native.cpp)"

/-- Build and run the native oracle; only a successful, nonblank run refreshes
`tests/expected.json`.  The flag is the source's `has_diff`. -/
def oracleLeg (inv : Invocation) (r : Record) : Action (Bool × Record) := do
  if ← fileExists .oracleNative then
    let ob ← sh inv.oracleBuildCommand
    if ob.returncode = 0 then
      let res ← sh inv.oracleCommand
      if res.returncode = 0 ∧ Text.strip res.stdout ≠ "" then
        writeExpected res.stdout
        pure (true, { r with oracle :=
          { r.oracle with
            layersUsed := r.oracle.layersUsed ++ ["L1_differential"]
            groundTruthSource := groundTruthSource } })
      else
        pure (false, { r with notes := r.notes ++ "oracle ran but produced no output; " })
    else
      pure (false, { r with notes := r.notes ++ "native oracle failed to build; " })
  else pure (false, r)

/-! ## The lane loop -/

/-- The caller's part of a lane's verdict: E needs fresh ground truth and a test file. -/
def settle (hasDiff hasTests : Bool) (L : LaneRecord (Option Outcome)) : LaneRecord Outcome where
  outcome :=
    match L.outcome with
    | some outcome => outcome
    | none => if hasDiff && hasTests then .E else .EWeak
  furthestGate := L.furthestGate
  gateResults := L.gateResults
  failure := L.failure
  metrics := L.metrics
  oracle :=
    if hasDiff ∧ 6 ≤ L.furthestGate then
      { L.oracle with
        layersUsed := ["L1_differential"]
        groundTruthSource := groundTruthSource }
    else L.oracle

/-- Store one lane of the loop in the record. The lanes of a run are distinct, so that storing
under the lane's key appends. -/
def storeLane (hasDiff hasTests : Bool) (lane : Lane) (L : LaneRecord (Option Outcome))
    (bug : ToolchainBug) (r : Record) : Record :=
  { r with
    toolchainBug := bug
    notes :=
      if !hasTests ∧ L.gateResults.correct = some .skip then
        r.notes ++ lane.text ++ ": no test_bindings.py (import-only); "
      else r.notes
    lanes := r.lanes ++ [(lane, settle hasDiff hasTests L)] }

def laneLoop (inv : Invocation) (hasDiff hasTests : Bool) : List Lane → Record → Action Record
  | [], r => pure r
  | lane :: rest, r => do
      let (L, bug) ← runLane inv lane r.toolchainBug
      laneLoop inv hasDiff hasTests rest (storeLane hasDiff hasTests lane L bug r)

/-! ## Gate 6b: the surface diff -/

def importedIn (r : Record) (lane : Lane) : Bool :=
  (r.lane lane).any fun L ↦ L.gateResults.importSmoke == some .pass

def bothImported (inv : Invocation) (r : Record) : Bool :=
  inv.lanesToRun.length == 2 && [Lane.constexpr, .emit].all (importedIn r)

/-- The prefix of the comparison's own summary line. -/
def summaryPrefix : String := "surface_diff:"

def storeSurfaceDiff (r : Record) (sd : Completed) : Record :=
  let lines := (Text.splitlines sd.stdout).filter fun line ↦
    line ≠ "" && !Text.startsWith line summaryPrefix
  let tail := ((Text.splitlines sd.stdout).find? (Text.startsWith · summaryPrefix)).getD ""
  { r with
    surfaceDiff := ⟨if sd.returncode = 0 then .pass else .fail, lines.take 50⟩
    notes := if tail ≠ "" then r.notes ++ tail ++ "; " else r.notes }

def surfaceGate (inv : Invocation) (r : Record) : Action Record :=
  if bothImported inv r then do
    let sd ← sh inv.surfaceDiffCommand
    pure (storeSurfaceDiff r sd)
  else pure r

/-! ## The combined outcome and the legacy mirror -/

/-- One step of the worst-lane fold. -/
def worse (worst : Option Outcome) (outcome : Outcome) : Option Outcome :=
  match worst with
  | none => some outcome
  | some held => if held.rank < outcome.rank then some outcome else some held

/-- The fold over `lanes_to_run`; every lane of the list has been stored. -/
def worstLane (inv : Invocation) (r : Record) : Option Outcome :=
  (inv.lanesToRun.filterMap fun lane ↦ (r.lane lane).map (·.outcome)).foldl worse none

/-- A surface mismatch is a D unless a lane is already at least as bad. -/
def combine (inv : Invocation) (r : Record) : Record :=
  let worst := worstLane inv r
  if r.surfaceDiff.status = .fail ∧ (worst.elim 0 Outcome.rank) < Outcome.D.rank then
    { r with
      outcome := some .D
      failure := { r.failure with code := some "D.surface" } }
  else { r with outcome := worst }

/-- `if r["failure"]["code"] is None and lane["failure"]["code"]`. -/
def mirrorFailure (r : Record) (L : LaneRecord Outcome) : Failure :=
  if r.failure.code = none ∧ L.failure.code.getD "" ≠ "" then L.failure else r.failure

def prefixKeys (name : String) (metrics : Metrics) : Metrics :=
  metrics.map fun entry ↦ (name ++ "_" ++ entry.1, entry.2)

/-- The v1 top-level fields mirror the constexpr lane. -/
def mirrorConstexpr (r : Record) : Record :=
  match r.lane .constexpr with
  | none => r
  | some cx =>
      { r with
        gateResults := { r.gateResults with
          lane :=
            ⟨cx.gateResults.compile.or r.gateResults.lane.compile,
              cx.gateResults.importSmoke.or r.gateResults.lane.importSmoke,
              cx.gateResults.correct.or r.gateResults.lane.correct⟩ }
        furthestGate := cx.furthestGate
        failure := mirrorFailure r cx
        oracle := { r.oracle with pytestSummary := some (cx.oracle.pytestSummary.getD "") }
        metrics := update r.metrics (prefixKeys "constexpr" cx.metrics) }

def mirrorEmit (r : Record) : Record :=
  match r.lane .emit with
  | none => r
  | some em =>
      { r with
        metrics := update r.metrics (prefixKeys "emit" em.metrics)
        failure := mirrorFailure r em }

/-- The legacy top-level mirror: the constexpr lane, then the emit lane for what is still open. -/
def mirror (r : Record) : Record := mirrorEmit (mirrorConstexpr r)

/-! ## Finishing -/

/-- The console line of `finish`. -/
def summaryLine (r : Record) : String :=
  let laneBits := Text.join " " (r.lanes.map fun entry ↦
    entry.1.text ++ "=" ++ entry.2.outcome.text)
  Text.strip ("[" ++ r.slug ++ "] outcome=" ++ (r.outcome.elim "None" Outcome.text) ++ " " ++
    laneBits ++ " surface=" ++ r.surfaceDiff.status.text ++ " " ++ r.failure.code.getD "")

/-- The status that `finish` returns and the process exits with. -/
def exitCode (r : Record) : ℤ :=
  if (r.outcome = some .E ∨ r.outcome = some .EWeak) ∧ r.surfaceDiff.status ≠ .fail then 0 else 1

def finish (r : Record) : Action ℤ := do
  writeResult r
  printLine (summaryLine r)
  match r.toolchainBug with
  | .none => pure ()
  | .suspected kind _ finding =>
      printLine ("  toolchain_bug: suspected (" ++ kind ++ ") " ++ finding)
  pure (exitCode r)

/-! ## main -/

/-- Everything after a passed probe, up to the final record. -/
def gatesAfterProbe (inv : Invocation) (r : Record) : Action Record := do
  let (hasDiff, r) ← oracleLeg inv (probePassed r)
  let hasTests ← fileExists .testBindings
  let r ← laneLoop inv hasDiff hasTests inv.lanesToRun r
  let r ← surfaceGate inv r
  pure (mirror (combine inv r))

/-- The record that `main` hands to `finish`. -/
def gatedRecord (inv : Invocation) : Action Record := do
  let r ← startRecord inv
  ensureProbe inv
  let p ← sh inv.probeCommand
  let seconds ← elapsed .probe
  let r := { r with metrics := setKey "probe_seconds" (.scalar (.decimal seconds 2)) r.metrics }
  if p.returncode ≠ 0 then pure (probeFailed r p)
  else gatesAfterProbe inv r

/-- `main(run_dir, mode)`. -/
def main (inv : Invocation) : Action ℤ := do
  let r ← gatedRecord inv
  finish r

/-! ## The run directory and its hosts -/

/-- The files of the run directory that the orchestrator looks at or writes. The launched commands
leave them alone; what a build generates belongs to the host. -/
structure RunDir where
  probe : Option String
  oracleNative : Bool
  testBindings : Bool
  expected : Option String
  result : Option Record

/-- The world around a run at the level of decoded text: what every launched command returns, what
the clock says, and the generated translation unit as the emit build leaves it. -/
structure Host where
  sh : Command → Completed
  elapsed : LaunchSite → ℕ
  generatedTu : Option String

/-- The host on which every command exits with its site's status and prints nothing. -/
def Host.silent (status : LaunchSite → ℤ) : Host where
  sh := fun command ↦ ⟨status command.site, "", ""⟩
  elapsed := fun _ ↦ 0
  generatedTu := none

def Host.handler (host : Host) : Program.Handler Request Reply RunDir
  | .sh command, dir => (host.sh command, dir)
  | .elapsed site, dir => (host.elapsed site, dir)
  | .exists .probe, dir => (dir.probe.isSome, dir)
  | .exists .oracleNative, dir => (dir.oracleNative, dir)
  | .exists .testBindings, dir => (dir.testBindings, dir)
  | .exists .generatedTu, dir => (host.generatedTu.isSome, dir)
  | .readGeneratedTu, dir => (host.generatedTu.getD "", dir)
  | .writeProbe text, dir => ((), { dir with probe := some text })
  | .writeExpected text, dir => ((), { dir with expected := some text })
  | .writeResult record, dir => ((), { dir with result := some record })
  | .printLine _, dir => ((), dir)

end ReflectNanobind.Gates
