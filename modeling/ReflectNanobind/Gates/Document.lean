import ReflectNanobind.Gates.Runs

/-!
# The document of a run

The record that `main` writes, in closed form: a run stopped at the probe, or the lane stage followed
by Gate 6b, the combination and the mirror.  The stages after the loop are pure functions, and each
of them leaves most fields alone; those facts are stated once here.
-/

namespace ReflectNanobind.Gates

open Library Library.JsonSchema

/-! ## Fields that the late stages leave alone -/

section Stages

variable (inv : Invocation) (r : Record)

@[simp] theorem combine_lanes : (combine inv r).lanes = r.lanes := by
  unfold combine; dsimp only; split <;> rfl

@[simp] theorem combine_surfaceDiff : (combine inv r).surfaceDiff = r.surfaceDiff := by
  unfold combine; dsimp only; split <;> rfl

@[simp] theorem combine_toolchainBug : (combine inv r).toolchainBug = r.toolchainBug := by
  unfold combine; dsimp only; split <;> rfl

theorem combine_outcome : (combine inv r).outcome =
    if r.surfaceDiff.status = .fail ∧ (worstLane inv r).elim 0 Outcome.rank < Outcome.D.rank then
      some .D
    else worstLane inv r := by
  unfold combine; dsimp only; split <;> rfl

theorem combine_failure : (combine inv r).failure =
    if r.surfaceDiff.status = .fail ∧ (worstLane inv r).elim 0 Outcome.rank < Outcome.D.rank then
      { r.failure with code := some "D.surface" }
    else r.failure := by
  unfold combine; dsimp only; split <;> rfl

/-- The mirror writes the gate results, the furthest gate, the failure block, the pytest summary and
the metrics. -/
theorem mirrorConstexpr_eq : ∃ gates furthest oracle metrics,
    mirrorConstexpr r = { r with
      gateResults := { r.gateResults with lane := gates }
      furthestGate := furthest
      failure := ((r.lane .constexpr).map (mirrorFailure r)).getD r.failure
      oracle := oracle
      metrics := metrics } := by
  unfold mirrorConstexpr
  cases hlane : r.lane .constexpr with
  | none => exact ⟨r.gateResults.lane, r.furthestGate, r.oracle, r.metrics, rfl⟩
  | some cx => exact ⟨_, _, _, _, rfl⟩

theorem mirrorEmit_eq : ∃ metrics,
    mirrorEmit r = { r with
      metrics := metrics
      failure := ((r.lane .emit).map (mirrorFailure r)).getD r.failure } := by
  unfold mirrorEmit
  cases hlane : r.lane .emit with
  | none => exact ⟨r.metrics, rfl⟩
  | some em => exact ⟨_, rfl⟩

/-- The failure block after the mirror takes an existing code first, then the constexpr lane's, then
the emit lane's; outcome, lanes, Gate 6b and the bug block are the combined record's. -/
theorem mirror_eq : ∃ gates furthest oracle metrics,
    mirror r = { r with
      gateResults := gates
      furthestGate := furthest
      oracle := oracle
      metrics := metrics
      failure := ((r.lane .emit).map (mirrorFailure { r with
        failure := ((r.lane .constexpr).map (mirrorFailure r)).getD r.failure })).getD
        (((r.lane .constexpr).map (mirrorFailure r)).getD r.failure) } := by
  obtain ⟨metrics, hemit⟩ := mirrorEmit_eq (mirrorConstexpr r)
  obtain ⟨gates, furthest, oracle, metrics', hconstexpr⟩ := mirrorConstexpr_eq r
  rw [mirror, hemit, hconstexpr]
  exact ⟨_, furthest, oracle, metrics, rfl⟩

@[simp] theorem mirror_outcome : (mirror r).outcome = r.outcome := by
  obtain ⟨gates, furthest, oracle, metrics, hmirror⟩ := mirror_eq r
  rw [hmirror]

@[simp] theorem mirror_lanes : (mirror r).lanes = r.lanes := by
  obtain ⟨gates, furthest, oracle, metrics, hmirror⟩ := mirror_eq r
  rw [hmirror]

@[simp] theorem mirror_surfaceDiff : (mirror r).surfaceDiff = r.surfaceDiff := by
  obtain ⟨gates, furthest, oracle, metrics, hmirror⟩ := mirror_eq r
  rw [hmirror]

@[simp] theorem mirror_toolchainBug : (mirror r).toolchainBug = r.toolchainBug := by
  obtain ⟨gates, furthest, oracle, metrics, hmirror⟩ := mirror_eq r
  rw [hmirror]

theorem mirror_failure : (mirror r).failure =
    ((r.lane .emit).map (mirrorFailure { r with
      failure := ((r.lane .constexpr).map (mirrorFailure r)).getD r.failure })).getD
      (((r.lane .constexpr).map (mirrorFailure r)).getD r.failure) := by
  obtain ⟨gates, furthest, oracle, metrics, hmirror⟩ := mirror_eq r
  rw [hmirror]

end Stages

/-! ## The closed form -/

section Closed

variable (host : Host) (inv : Invocation) (dir : RunDir)

/-- The run directory once the probe's source is there. -/
def probedDir : RunDir :=
  if dir.probe.isSome then dir
  else { dir with
    probe := some (Text.join "" ((inv.toml.mainHeaders.getD []).map includeLine)) }

@[simp] theorem probedDir_oracleNative :
    (probedDir inv dir).oracleNative = dir.oracleNative := by
  unfold probedDir; split <;> rfl

@[simp] theorem probedDir_testBindings :
    (probedDir inv dir).testBindings = dir.testBindings := by
  unfold probedDir; split <;> rfl

@[simp] theorem probedDir_expected : (probedDir inv dir).expected = dir.expected := by
  unfold probedDir; split <;> rfl

@[simp] theorem freshTruth_probedDir :
    freshTruth host inv (probedDir inv dir) = freshTruth host inv dir := by
  simp [freshTruth]

@[simp] theorem truthDir_testBindings :
    (truthDir host inv dir).testBindings = dir.testBindings := by
  unfold truthDir; split <;> rfl

theorem truthDir_expected :
    (truthDir host inv dir).expected = (freshTruth host inv dir).or dir.expected := by
  unfold truthDir; split <;> simp_all

/-- The toolchain identity, the binder commit and the production compiler are three texts; the rest
of the first record is read off the invocation. -/
theorem startRecord_run : ∃ toolchain binder prod,
    (startRecord inv).run host.handler dir = (newRecord inv toolchain binder prod, dir) := by
  have htoolchain : ∃ toolchain,
      (toolchainId inv).run host.handler dir = (toolchain, dir) := by
    unfold toolchainId
    cases inv.isGcc <;> exact ⟨_, rfl⟩
  have hprod : ∃ prod, (prodCompiler inv).run host.handler dir = (prod, dir) := by
    unfold prodCompiler
    split <;> exact ⟨_, rfl⟩
  obtain ⟨toolchain, htoolchain⟩ := htoolchain
  obtain ⟨prod, hprod⟩ := hprod
  refine ⟨toolchain, orUnknown (Text.strip (host.sh inv.binderCommitCommand).stdout), prod, ?_⟩
  simp [startRecord, htoolchain, hprod]

theorem ensureProbe_run :
    (ensureProbe inv).run host.handler dir = ((), probedDir inv dir) := by
  cases hprobe : dir.probe with
  | none => simp [ensureProbe, probedDir, hprobe]
  | some text => simp [ensureProbe, probedDir, hprobe]

/-- Gate 6b on a record. -/
def surfaced (r : Record) : Record :=
  if bothImported inv r then storeSurfaceDiff r (host.sh inv.surfaceDiffCommand) else r

theorem surfaceGate_run (r : Record) :
    (surfaceGate inv r).run host.handler dir = (surfaced host inv r, dir) := by
  unfold surfaceGate surfaced
  cases bothImported inv r <;> simp

/-- The lanes of the document. -/
def settledLanes : List (Lane × LaneRecord Outcome) :=
  inv.lanesToRun.map fun lane ↦
    (lane, settledLane host inv (freshTruth host inv dir).isSome dir.testBindings lane)

/-- The toolchain-bug block after the lanes. -/
def lanesBug : ToolchainBug :=
  inv.lanesToRun.foldl (fun bug lane ↦ laneBug host inv lane bug) .none

/-- What the lane loop leaves for the late stages; the first six arguments are the texts and blocks
that they never read. -/
def laneStage (toolchain binder prod : String) (metrics : Metrics) (oracle : OracleBlock)
    (notes : String) : Record :=
  { newRecord inv toolchain binder prod with
    furthestGate := 1
    gateResults := ⟨inv.strategy, some .pass, ⟨none, none, none⟩⟩
    metrics := metrics
    oracle := oracle
    notes := notes
    lanes := settledLanes host inv dir
    toolchainBug := lanesBug host inv }

/-- The record that `main` writes. -/
def document : Record := ((gatedRecord inv).run host.handler dir).1

/-- The run directory when the record is written. -/
def gatedDir : RunDir :=
  if host.Succeeds inv.probeCommand then truthDir host inv (probedDir inv dir)
  else probedDir inv dir

theorem gatedRecord_run_of_probe_failed (hprobe : ¬ host.Succeeds inv.probeCommand) :
    ∃ toolchain binder prod metrics,
      (gatedRecord inv).run host.handler dir =
        (probeFailed { newRecord inv toolchain binder prod with metrics := metrics }
          (host.sh inv.probeCommand), probedDir inv dir) := by
  obtain ⟨toolchain, binder, prod, hstart⟩ := startRecord_run host inv dir
  refine ⟨toolchain, binder, prod,
    setKey "probe_seconds" (.scalar (.decimal (host.elapsed .probe) 2)) [], ?_⟩
  have hcode : (host.sh inv.probeCommand).returncode ≠ 0 := hprobe
  simp [gatedRecord, hstart, ensureProbe_run, hcode, newRecord]

theorem gatedRecord_run_of_probe_passed (hprobe : host.Succeeds inv.probeCommand) :
    ∃ toolchain binder prod metrics oracle notes,
      (gatedRecord inv).run host.handler dir =
        (mirror (combine inv (surfaced host inv
          (laneStage host inv dir toolchain binder prod metrics oracle notes))),
          truthDir host inv (probedDir inv dir)) := by
  obtain ⟨toolchain, binder, prod, hstart⟩ := startRecord_run host inv dir
  let metrics : Metrics :=
    setKey "probe_seconds" (.scalar (.decimal (host.elapsed .probe) 2)) []
  let passed := probePassed { newRecord inv toolchain binder prod with metrics := metrics }
  obtain ⟨oracle, notes, horacle⟩ := oracleRecord_eq host inv (probedDir inv dir) passed
  obtain ⟨notes', hloop⟩ := laneLoop_run host inv (truthDir host inv (probedDir inv dir))
    (freshTruth host inv dir).isSome inv.lanesToRun
    (oracleRecord host inv (probedDir inv dir) passed)
  refine ⟨toolchain, binder, prod, metrics, oracle, notes', ?_⟩
  have hcode : (host.sh inv.probeCommand).returncode = 0 := hprobe
  have hgates : (gatesAfterProbe inv
      { newRecord inv toolchain binder prod with metrics := metrics }).run host.handler
        (probedDir inv dir) =
      (mirror (combine inv (surfaced host inv
        (laneStage host inv dir toolchain binder prod metrics oracle notes'))),
        truthDir host inv (probedDir inv dir)) := by
    simp only [gatesAfterProbe, Program.run_bind, oracleLeg_run, fileExists_testBindings_run,
      surfaceGate_run, freshTruth_probedDir]
    rw [hloop, horacle]
    simp [laneStage, settledLanes, lanesBug, passed, probePassed, newRecord, metrics]
  simpa [gatedRecord, hstart, ensureProbe_run, hcode, newRecord, metrics] using hgates

theorem document_of_probe_failed (hprobe : ¬ host.Succeeds inv.probeCommand) :
    ∃ toolchain binder prod metrics, document host inv dir =
      probeFailed { newRecord inv toolchain binder prod with metrics := metrics }
        (host.sh inv.probeCommand) := by
  obtain ⟨toolchain, binder, prod, metrics, h⟩ :=
    gatedRecord_run_of_probe_failed host inv dir hprobe
  exact ⟨toolchain, binder, prod, metrics, congrArg Prod.fst h⟩

theorem document_of_probe_passed (hprobe : host.Succeeds inv.probeCommand) :
    ∃ toolchain binder prod metrics oracle notes, document host inv dir =
      mirror (combine inv (surfaced host inv
        (laneStage host inv dir toolchain binder prod metrics oracle notes))) := by
  obtain ⟨toolchain, binder, prod, metrics, oracle, notes, h⟩ :=
    gatedRecord_run_of_probe_passed host inv dir hprobe
  exact ⟨toolchain, binder, prod, metrics, oracle, notes, congrArg Prod.fst h⟩

/-- A run writes its own document last and returns the document's exit code. -/
theorem main_run :
    (main inv).run host.handler dir =
      (exitCode (document host inv dir),
        { gatedDir host inv dir with result := some (document host inv dir) }) := by
  have hfinish (r : Record) (world : RunDir) :
      (finish r).run host.handler world = (exitCode r, { world with result := some r }) := by
    cases hbug : r.toolchainBug <;> simp [finish, hbug]
  have hdir : ((gatedRecord inv).run host.handler dir).2 = gatedDir host inv dir := by
    unfold gatedDir
    by_cases hprobe : host.Succeeds inv.probeCommand
    · obtain ⟨_, _, _, _, _, _, h⟩ := gatedRecord_run_of_probe_passed host inv dir hprobe
      rw [h, if_pos hprobe]
    · obtain ⟨_, _, _, _, h⟩ := gatedRecord_run_of_probe_failed host inv dir hprobe
      rw [h, if_neg hprobe]
  rw [main, Program.run_bind, hfinish, hdir]
  rfl

end Closed

end ReflectNanobind.Gates
