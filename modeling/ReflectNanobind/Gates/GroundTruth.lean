import ReflectNanobind.Gates.Traces

/-!
# Ground truth at the moment of a test run

What `tests/expected.json` holds when a lane's pytest is launched.  The file survives between
invocations and only a successful, nonblank oracle run overwrites it; the E verdict asks whether that
happened, the D verdict does not.  The exact condition under which a recorded value mismatch was
judged against this invocation's own oracle follows from the trace.
-/

namespace ReflectNanobind.Gates

open Library

section GroundTruth

variable (host : Host) (inv : Invocation) (dir : RunDir)

/-! ## Test runs and their verdicts -/

/-- The lane gets to its tests and they fail. -/
def FailsTests (lane : Lane) : Prop :=
  host.Succeeds (inv.buildCommand lane) ∧ host.Succeeds (inv.importCommand lane) ∧
    dir.testBindings = true ∧ ¬ host.Succeeds (inv.pytestCommand lane)

theorem docLane_value_mismatch_iff (lane : Lane) :
    ((docLane host inv dir lane).outcome = .D ∧
      (docLane host inv dir lane).failure.code = some "D.value") ↔
      FailsTests host inv dir lane := by
  obtain ⟨L, hrun, hL⟩ := docLane_run host inv dir lane
  rw [hL, FailsTests]
  cases hrun with
  | buildFailed hbuild => simp [settle, buildFailed, hbuild]
  | importFailed hbuild himport => simp [settle, importFailed, himport]
  | untested hbuild himport htests => simp [settle, untested, htests]
  | testsFailed hbuild himport htests hpytest =>
      simp [settle, testsFailed, hbuild, himport, htests, hpytest]
  | testsPassed hbuild himport htests hpytest =>
      cases (freshTruth host inv dir).isSome <;>
        simp [settle, testsPassed, hpytest, htests]

theorem pytest_mem_laneCommands {hasTests : Bool} (lane other : Lane) :
    inv.pytestCommand lane ∈ laneCommands host inv hasTests other ↔
      other = lane ∧ host.Succeeds (inv.buildCommand lane) ∧
        host.Succeeds (inv.importCommand lane) ∧ hasTests = true := by
  by_cases hlane : other = lane
  · subst hlane
    have hbuild : inv.pytestCommand other ≠ inv.buildCommand other :=
      ne_of_apply_ne Command.site (by simp)
    have himport : inv.pytestCommand other ≠ inv.importCommand other :=
      ne_of_apply_ne Command.site (by simp)
    unfold laneCommands
    split_ifs <;> simp_all
  · refine iff_of_false (fun h ↦ ?_) (fun h ↦ hlane h.1)
    have hsite := laneCommands_site host inv h
    simp [Ne.symm hlane] at hsite

/-- A lane's pytest is launched in the directory that the oracle leg left, once the lane has built
and imported and there is a test file. -/
theorem pytest_launched_iff (lane : Lane) (world : RunDir) :
    (Request.sh (inv.pytestCommand lane), world) ∈ (main inv).trace host.handler dir ↔
      world = truthDir host inv (probedDir inv dir) ∧ host.Succeeds inv.probeCommand ∧
        lane ∈ inv.lanesToRun ∧ host.Succeeds (inv.buildCommand lane) ∧
        host.Succeeds (inv.importCommand lane) ∧ dir.testBindings = true := by
  have hrecord : inv.pytestCommand lane ∉ recordCommands inv :=
    fun h ↦ absurd (recordCommands_site inv h) (by simp)
  have hprobeCommand : inv.pytestCommand lane ≠ inv.probeCommand :=
    ne_of_apply_ne Command.site (by simp)
  have horacle : inv.pytestCommand lane ∉ oracleCommands host inv dir :=
    fun h ↦ absurd (oracleCommands_site host inv dir h) (by simp)
  have hcomparison : inv.pytestCommand lane ∉ comparisonCommands host inv :=
    fun h ↦ absurd (comparisonCommands_site host inv h) (by simp)
  rw [launched_iff]
  simp only [hrecord, hprobeCommand, horacle, hcomparison, pytest_mem_laneCommands, false_and,
    false_or, or_false]
  constructor
  · rintro ⟨hprobe, ⟨other, hother, rfl, hruns⟩, rfl⟩
    exact ⟨rfl, hprobe, hother, hruns⟩
  · rintro ⟨rfl, hprobe, hlane, hruns⟩
    exact ⟨hprobe, ⟨lane, hlane, rfl, hruns⟩, rfl⟩

/-- The oracle is launched once it is there and builds. -/
theorem oracle_launched_iff (world : RunDir) :
    (Request.sh inv.oracleCommand, world) ∈ (main inv).trace host.handler dir ↔
      world = probedDir inv dir ∧ host.Succeeds inv.probeCommand ∧ dir.oracleNative = true ∧
        host.Succeeds inv.oracleBuildCommand := by
  have hrecord : inv.oracleCommand ∉ recordCommands inv :=
    fun h ↦ absurd (recordCommands_site inv h) (by simp)
  have hprobeCommand : inv.oracleCommand ≠ inv.probeCommand :=
    ne_of_apply_ne Command.site (by simp)
  have horacle : inv.oracleCommand ∈ oracleCommands host inv dir ↔
      dir.oracleNative = true ∧ host.Succeeds inv.oracleBuildCommand := by
    have hne : inv.oracleCommand ≠ inv.oracleBuildCommand := ne_of_apply_ne Command.site (by simp)
    unfold oracleCommands
    split_ifs <;> simp_all
  have hlane (lane : Lane) : inv.oracleCommand ∉ laneCommands host inv dir.testBindings lane :=
    fun h ↦ absurd (laneCommands_site host inv h) (by simp)
  have hcomparison : inv.oracleCommand ∉ comparisonCommands host inv :=
    fun h ↦ absurd (comparisonCommands_site host inv h) (by simp)
  rw [launched_iff]
  simp only [hrecord, hprobeCommand, horacle, hlane, hcomparison, false_and, and_false,
    exists_false, false_or, or_false]
  constructor
  · rintro ⟨hprobe, hruns, rfl⟩
    exact ⟨rfl, hprobe, hruns⟩
  · rintro ⟨rfl, hprobe, hruns⟩
    exact ⟨hprobe, hruns, rfl⟩

/-! ## Fresh ground truth -/

/-- This run launched the oracle, and `text` is what it printed. -/
def OraclePrinted (text : String) : Prop :=
  ∃ world, (Request.sh inv.oracleCommand, world) ∈ (main inv).trace host.handler dir ∧
    (host.sh inv.oracleCommand).stdout = text

/-- Every lane of the document that is recorded as a value mismatch was tested while
`tests/expected.json` held what this run's oracle printed. -/
def JudgedAgainstFreshTruth : Prop :=
  ∀ r, ((main inv).run host.handler dir).2.result = some r →
    ∀ lane L, r.lane lane = some L → L.outcome = .D → L.failure.code = some "D.value" →
      ∀ world, (Request.sh (inv.pytestCommand lane), world) ∈ (main inv).trace host.handler dir →
        ∃ text, world.expected = some text ∧ OraclePrinted host inv dir text

/-- The oracle was built, and it either overwrote `tests/expected.json` or printed what the file
already held. -/
def TruthIsCurrent : Prop :=
  host.Succeeds inv.oracleBuildCommand ∧
    ((host.Succeeds inv.oracleCommand ∧ Text.strip (host.sh inv.oracleCommand).stdout ≠ "") ∨
      dir.expected = some (host.sh inv.oracleCommand).stdout)

theorem oraclePrinted_iff (text : String) : OraclePrinted host inv dir text ↔
    (host.Succeeds inv.probeCommand ∧ dir.oracleNative = true ∧
      host.Succeeds inv.oracleBuildCommand) ∧ (host.sh inv.oracleCommand).stdout = text := by
  simp only [OraclePrinted, oracle_launched_iff]
  constructor
  · rintro ⟨world, ⟨-, hruns⟩, hprinted⟩
    exact ⟨hruns, hprinted⟩
  · rintro ⟨hruns, hprinted⟩
    exact ⟨probedDir inv dir, ⟨rfl, hruns⟩, hprinted⟩

/-- After the oracle leg the file holds what the oracle printed exactly when the truth is current. -/
theorem truthDir_expected_printed_iff (hprobe : host.Succeeds inv.probeCommand)
    (hnative : dir.oracleNative = true) :
    (∃ text, (truthDir host inv (probedDir inv dir)).expected = some text ∧
      OraclePrinted host inv dir text) ↔ TruthIsCurrent host inv dir := by
  simp only [truthDir_expected, freshTruth_probedDir, probedDir_expected, oraclePrinted_iff,
    hprobe, hnative, true_and, TruthIsCurrent]
  by_cases hbuild : host.Succeeds inv.oracleBuildCommand
  · by_cases hrun : host.Succeeds inv.oracleCommand ∧
        Text.strip (host.sh inv.oracleCommand).stdout ≠ ""
    · have hfresh := (freshTruth_eq_some_iff host inv dir).mpr
        ⟨hnative, hbuild, hrun.1, hrun.2, rfl⟩
      simp [hbuild, hrun.1, hrun.2, hfresh]
    · have hstale : freshTruth host inv dir = none := by
        rw [freshTruth, if_neg fun h ↦ hrun ⟨h.2.2.1, h.2.2.2⟩]
      simp only [hbuild, hrun, hstale, true_and, false_or, Option.none_or]
      constructor
      · rintro ⟨text, hexpected, rfl⟩
        exact hexpected
      · intro hexpected
        exact ⟨_, hexpected, rfl⟩
  · simp [hbuild]

/-- A run directory with an oracle judges its value mismatches against fresh ground truth exactly
when no lane fails its tests or the truth is current: neither the oracle's failure nor the missing
rewrite of `tests/expected.json` keeps the code from recording a value mismatch. -/
theorem main_judgedAgainstFreshTruth_iff (hnative : dir.oracleNative = true) :
    JudgedAgainstFreshTruth host inv dir ↔
      (host.Succeeds inv.probeCommand →
        (∃ lane ∈ inv.lanesToRun, FailsTests host inv dir lane) →
          TruthIsCurrent host inv dir) := by
  have hresult (r : Record) :
      ((main inv).run host.handler dir).2.result = some r ↔ document host inv dir = r := by
    rw [main_run]
    exact Option.some_inj
  simp only [JudgedAgainstFreshTruth, hresult, forall_eq', document_lane]
  constructor
  · rintro h hprobe ⟨lane, hlane, hfails⟩
    obtain ⟨houtcome, hcode⟩ := (docLane_value_mismatch_iff host inv dir lane).mpr hfails
    rw [← truthDir_expected_printed_iff host inv dir hprobe hnative]
    refine h lane (docLane host inv dir lane) (if_pos ⟨hprobe, hlane⟩) houtcome hcode _ ?_
    obtain ⟨hbuild, himport, htests, -⟩ := hfails
    exact (pytest_launched_iff host inv dir lane _).mpr
      ⟨rfl, hprobe, hlane, hbuild, himport, htests⟩
  · intro h lane L hL houtcome hcode world hworld
    obtain ⟨rfl, hprobe, hlane, -⟩ := (pytest_launched_iff host inv dir lane world).mp hworld
    rw [if_pos ⟨hprobe, hlane⟩, Option.some_inj] at hL
    subst hL
    rw [truthDir_expected_printed_iff host inv dir hprobe hnative]
    exact h hprobe ⟨lane, hlane, (docLane_value_mismatch_iff host inv dir lane).mp
      ⟨houtcome, hcode⟩⟩

end GroundTruth

/-! ## A run judged against an old file -/

/-- Everything succeeds except the build of the oracle and the tests. -/
def staleHost : Host := Host.silent fun
  | .oracleBuild | .pytest _ => 1
  | _ => 0

def staleInvocation : Invocation :=
  Invocation.onLinuxRepo (Meta.required "box2d" "box2d_bind") none

/-- An older invocation left `tests/expected.json` behind. -/
def staleDir : RunDir where
  probe := some ""
  oracleNative := true
  testBindings := true
  expected := some "[12]"
  result := none

theorem main_judgedAgainstFreshTruth_iff_stale :
    JudgedAgainstFreshTruth staleHost staleInvocation staleDir ↔
      (staleHost.Succeeds staleInvocation.probeCommand →
        (∃ lane ∈ staleInvocation.lanesToRun,
          FailsTests staleHost staleInvocation staleDir lane) →
          TruthIsCurrent staleHost staleInvocation staleDir) :=
  main_judgedAgainstFreshTruth_iff staleHost staleInvocation staleDir rfl

/-- The constexpr lane is recorded as a value mismatch although no oracle ran. -/
theorem main_judges_against_stale_truth :
    ¬ JudgedAgainstFreshTruth staleHost staleInvocation staleDir := by
  have hlane : (document staleHost staleInvocation staleDir).lane .constexpr =
      some (docLane staleHost staleInvocation staleDir .constexpr) := by
    rw [document_lane, if_pos ⟨rfl, by decide⟩]
  obtain ⟨houtcome, hcode⟩ :=
    (docLane_value_mismatch_iff staleHost staleInvocation staleDir .constexpr).mpr
      ⟨rfl, rfl, rfl, by decide⟩
  have hlaunched := (pytest_launched_iff staleHost staleInvocation staleDir .constexpr _).mpr
    ⟨rfl, rfl, by decide, rfl, rfl, rfl⟩
  intro hjudged
  obtain ⟨text, -, world, hworld, -⟩ :=
    hjudged _ (by rw [main_run]) .constexpr _ hlane houtcome hcode _ hlaunched
  obtain ⟨-, -, -, hbuild⟩ :=
    (oracle_launched_iff staleHost staleInvocation staleDir world).mp hworld
  exact absurd hbuild (by decide)

end ReflectNanobind.Gates
