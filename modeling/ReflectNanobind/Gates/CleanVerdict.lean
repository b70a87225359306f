import ReflectNanobind.Gates.Traces

/-!
# The clean verdict

When a run is recorded as E, and when it exits with status 0.  Both are decided by the worst lane and
the surface comparison alone; the exit statuses behind them come from the characterisation of one
settled lane, and the freshness of the ground truth from the trace.
-/

namespace ReflectNanobind.Gates

open Library

section CleanVerdict

variable (host : Host) (inv : Invocation) (dir : RunDir)

/-! ## Bounds on the worst lane -/

theorem WorstOutcome.le_iff {worst : Outcome} (hworst : WorstOutcome host inv dir worst)
    (bound : Outcome) :
    worst ≤ bound ↔ ∀ lane ∈ inv.lanesToRun, (docLane host inv dir lane).outcome ≤ bound := by
  constructor
  · intro hle lane hlane
    exact (hworst.2 lane hlane).trans hle
  · intro hall
    obtain ⟨lane, hlane, houtcome⟩ := hworst.1
    exact houtcome ▸ hall lane hlane

theorem Outcome.le_E_iff (outcome : Outcome) : outcome ≤ .E ↔ outcome = .E := by
  rw [Outcome.le_iff_rank_le]
  cases outcome <;> decide

theorem Outcome.le_EWeak_iff (outcome : Outcome) :
    outcome ≤ .EWeak ↔ outcome = .E ∨ outcome = .EWeak := by
  rw [Outcome.le_iff_rank_le]
  cases outcome <;> decide

/-! ## The surface comparison and the ground truth in the trace -/

/-- The run launches the surface comparison. -/
def RunsComparison : Prop :=
  ∃ world, (Request.sh inv.surfaceDiffCommand, world) ∈ (main inv).trace host.handler dir

theorem runsComparison_iff : RunsComparison host inv dir ↔
    host.Succeeds inv.probeCommand ∧ ComparesSurfaces host inv := by
  have hrecord : inv.surfaceDiffCommand ∉ recordCommands inv :=
    fun h ↦ absurd (recordCommands_site inv h) (by simp)
  have horacle : inv.surfaceDiffCommand ∉ oracleCommands host inv dir :=
    fun h ↦ absurd (oracleCommands_site host inv dir h) (by simp)
  have hlane (lane : Lane) :
      inv.surfaceDiffCommand ∉ laneCommands host inv dir.testBindings lane :=
    fun h ↦ absurd (laneCommands_site host inv h) (by simp)
  have hprobeCommand : inv.surfaceDiffCommand ≠ inv.probeCommand :=
    ne_of_apply_ne Command.site (by simp)
  have hcomparison : inv.surfaceDiffCommand ∈ comparisonCommands host inv ↔
      ComparesSurfaces host inv := by
    unfold comparisonCommands
    split_ifs with hcompares <;> simp [hcompares]
  simp only [RunsComparison, launched_iff, hrecord, hprobeCommand, horacle, hlane, hcomparison,
    false_and, and_false, exists_false, false_or]
  rw [exists_and_left, exists_and_left]
  simp only [exists_eq, and_true]

/-- `text` is written to `tests/expected.json` in this run before any command of a lane is
launched. -/
def WrittenBeforeLanes (text : String) : Prop :=
  ∃ before after world,
    (main inv).trace host.handler dir = before ++ (.writeExpected text, world) :: after ∧
      ∀ launch ∈ launches before, ¬ launch.1.TestsLane

theorem writtenBeforeLanes_of_fresh (hprobe : host.Succeeds inv.probeCommand) {text : String}
    (hfresh : freshTruth host inv dir = some text) : WrittenBeforeLanes host inv dir text := by
  obtain ⟨r₀, rest, htrace⟩ : ∃ r₀ rest, (main inv).trace host.handler dir =
      (startRecord inv).trace host.handler dir ++ ((ensureProbe inv).trace host.handler dir ++
        (.sh inv.probeCommand, probedDir inv dir) :: (.elapsed .probe, probedDir inv dir) ::
          ((oracleLeg inv r₀).trace host.handler (probedDir inv dir) ++ rest)) := by
    obtain ⟨r₀, _, _, _, -, h⟩ := main_trace_of_probe_passed host inv dir hprobe
    exact ⟨r₀, _, h⟩
  -- the write is the last event of the oracle leg
  have horacle : (oracleLeg inv r₀).trace host.handler (probedDir inv dir) =
      [(.exists .oracleNative, probedDir inv dir), (.sh inv.oracleBuildCommand, probedDir inv dir),
        (.sh inv.oracleCommand, probedDir inv dir), (.writeExpected text, probedDir inv dir)] := by
    unfold freshTruth at hfresh
    split at hfresh
    · rename_i h
      obtain ⟨hnative, hbuild, hrun, hblank⟩ := h
      obtain rfl := Option.some.inj hfresh
      unfold Host.Succeeds at hbuild hrun
      simp [oracleLeg, hnative, hbuild, hrun, hblank]
    · cases hfresh
  rw [horacle] at htrace
  refine ⟨(startRecord inv).trace host.handler dir ++ ((ensureProbe inv).trace host.handler dir ++
    [(.sh inv.probeCommand, probedDir inv dir), (.elapsed .probe, probedDir inv dir),
      (.exists .oracleNative, probedDir inv dir), (.sh inv.oracleBuildCommand, probedDir inv dir),
      (.sh inv.oracleCommand, probedDir inv dir)]), rest, probedDir inv dir, ?_, ?_⟩
  · rw [htrace]
    simp only [List.append_assoc, List.cons_append, List.nil_append]
  · simp only [launches_append, launches_startRecord, launches_ensureProbe, launches,
      List.nil_append, List.mem_append, List.mem_map, List.mem_cons, List.not_mem_nil, or_false]
    rintro launch (⟨command, hcommand, rfl⟩ | rfl | rfl | rfl)
    · have hsite := recordCommands_site inv hcommand
      intro htests
      unfold Command.TestsLane at htests
      split at htests <;> simp_all
    all_goals exact id

/-! ## The verdict -/

theorem document_outcome_eq_E_iff : (document host inv dir).outcome = some .E ↔
    host.Succeeds inv.probeCommand ∧ ¬ SurfacesDiffer host inv ∧
      ∀ lane ∈ inv.lanesToRun, (docLane host inv dir lane).outcome = .E := by
  by_cases hprobe : host.Succeeds inv.probeCommand
  · obtain ⟨worst, hworst, houtcome⟩ := document_outcome_of_probe_passed host inv dir hprobe
    have hall : worst = .E ↔ ∀ lane ∈ inv.lanesToRun, (docLane host inv dir lane).outcome = .E := by
      simpa only [Outcome.le_E_iff] using hworst.le_iff host inv dir .E
    rw [houtcome, ← hall]
    by_cases hdiffer : SurfacesDiffer host inv
    · cases worst <;> simp [hdiffer, Outcome.le_EWeak_iff]
    · simp [hprobe, hdiffer]
  · simp [document_outcome_of_probe_failed host inv dir hprobe, hprobe]

theorem document_outcome_le_EWeak_iff :
    ((document host inv dir).outcome = some .E ∨ (document host inv dir).outcome = some .EWeak) ↔
      host.Succeeds inv.probeCommand ∧ ¬ SurfacesDiffer host inv ∧
        ∀ lane ∈ inv.lanesToRun, (docLane host inv dir lane).outcome ≤ .EWeak := by
  by_cases hprobe : host.Succeeds inv.probeCommand
  · obtain ⟨worst, hworst, houtcome⟩ := document_outcome_of_probe_passed host inv dir hprobe
    rw [houtcome, ← hworst.le_iff host inv dir .EWeak]
    simp only [Outcome.le_EWeak_iff]
    by_cases hdiffer : SurfacesDiffer host inv
    · cases worst <;> simp [hdiffer]
    · simp [hprobe, hdiffer]
  · simp [document_outcome_of_probe_failed host inv dir hprobe, hprobe]

/-- The extra test of `finish` on the surface status never decides: a failed comparison has already
raised the outcome to D or worse. -/
theorem exitCode_document_eq_zero_iff : exitCode (document host inv dir) = 0 ↔
    ((document host inv dir).outcome = some .E ∨
      (document host inv dir).outcome = some .EWeak) := by
  have hsurface (hgood : (document host inv dir).outcome = some .E ∨
      (document host inv dir).outcome = some .EWeak) :
      (document host inv dir).surfaceDiff.status ≠ .fail := by
    obtain ⟨hprobe, hdiffer, -⟩ := (document_outcome_le_EWeak_iff host inv dir).mp hgood
    rwa [Ne, document_surfaceDiff_fail_iff host inv dir hprobe]
  unfold exitCode
  split
  · rename_i h
    exact iff_of_true rfl h.1
  · rename_i h
    exact iff_of_false (by decide) fun hgood ↦ h ⟨hgood, hsurface hgood⟩

/-- Soundness and completeness of the E verdict, and of the exit status, over whole runs: the
document that `main` leaves behind says E exactly when the probe passed, the native oracle wrote
fresh ground truth before any lane was touched, and every executed lane passed all its gates
together with the surface comparison. -/
theorem main_clean_verdict : ∃ r,
    ((main inv).run host.handler dir).2.result = some r ∧
      (r.outcome = some .E ↔
        host.Succeeds inv.probeCommand ∧
          (dir.oracleNative = true ∧ host.Succeeds inv.oracleBuildCommand ∧
            host.Succeeds inv.oracleCommand ∧
            Text.strip (host.sh inv.oracleCommand).stdout ≠ "" ∧
            WrittenBeforeLanes host inv dir (host.sh inv.oracleCommand).stdout) ∧
          dir.testBindings = true ∧
          (∀ lane ∈ inv.lanesToRun, host.Succeeds (inv.buildCommand lane) ∧
            host.Succeeds (inv.importCommand lane) ∧ host.Succeeds (inv.pytestCommand lane)) ∧
          ((∀ lane, lane ∈ inv.lanesToRun) → host.Succeeds inv.surfaceDiffCommand)) ∧
      (((main inv).run host.handler dir).1 = 0 ↔
        (r.outcome = some .E ∨ r.outcome = some .EWeak)) ∧
      ((r.outcome = some .E ∨ r.outcome = some .EWeak) ↔
        host.Succeeds inv.probeCommand ∧
          (∀ lane ∈ inv.lanesToRun, host.Succeeds (inv.buildCommand lane) ∧
            host.Succeeds (inv.importCommand lane) ∧
            (dir.testBindings = true → host.Succeeds (inv.pytestCommand lane))) ∧
          (RunsComparison host inv dir → host.Succeeds inv.surfaceDiffCommand)) := by
  refine ⟨document host inv dir, by rw [main_run], ?_, ?_, ?_⟩
  · rw [document_outcome_eq_E_iff]
    simp only [docLane_outcome_eq_E_iff]
    constructor
    · rintro ⟨hprobe, hdiffer, hlanes⟩
      obtain ⟨lane, hlane⟩ := List.exists_mem_of_ne_nil _ inv.lanesToRun_ne_nil
      obtain ⟨-, -, htests, -, hfresh⟩ := hlanes lane hlane
      obtain ⟨text, htext⟩ := Option.isSome_iff_exists.mp hfresh
      obtain ⟨hnative, hbuild, hrun, hblank, rfl⟩ := (freshTruth_eq_some_iff host inv dir).mp htext
      refine ⟨hprobe, ⟨hnative, hbuild, hrun, hblank,
        writtenBeforeLanes_of_fresh host inv dir hprobe htext⟩, htests, ?_, ?_⟩
      · intro lane hlane
        obtain ⟨hbuild, himport, -, hpytest, -⟩ := hlanes lane hlane
        exact ⟨hbuild, himport, hpytest⟩
      · intro hboth
        by_contra hcompare
        refine hdiffer ⟨⟨inv.lanesToRun_eq_both hboth, fun lane hlane ↦ ?_⟩, hcompare⟩
        exact ⟨(hlanes lane hlane).1, (hlanes lane hlane).2.1⟩
    · rintro ⟨hprobe, ⟨hnative, hbuild, hrun, hblank, -⟩, htests, hlanes, hcompare⟩
      have hfresh := (freshTruth_eq_some_iff host inv dir).mpr ⟨hnative, hbuild, hrun, hblank, rfl⟩
      refine ⟨hprobe, ?_, ?_⟩
      · rintro ⟨⟨hboth, -⟩, hfailed⟩
        refine hfailed (hcompare fun lane ↦ ?_)
        rw [hboth]
        cases lane <;> decide
      · intro lane hlane
        obtain ⟨hbuild, himport, hpytest⟩ := hlanes lane hlane
        exact ⟨hbuild, himport, htests, hpytest, by rw [hfresh]; rfl⟩
  · rw [main_run]
    exact exitCode_document_eq_zero_iff host inv dir
  · rw [document_outcome_le_EWeak_iff, runsComparison_iff]
    simp only [docLane_outcome_le_EWeak_iff]
    refine and_congr_right fun hprobe ↦ ?_
    rw [SurfacesDiffer, not_and_not_right, and_comm]
    simp only [hprobe, true_and]

end CleanVerdict

end ReflectNanobind.Gates
