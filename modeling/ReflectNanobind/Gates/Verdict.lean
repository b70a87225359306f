import ReflectNanobind.Gates.Document

/-!
# The combined outcome

The worst-lane fold is the maximum of the lane outcomes in the taxonomy order, and a failed surface
comparison raises it to D.  The outcome of a settled lane, the status of Gate 6b and the combined
outcome are each characterised by the exit statuses of the launched commands.
-/

namespace ReflectNanobind.Gates

open Library

/-! ## The worst-lane fold -/

theorem worse_some (held outcome : Outcome) :
    worse (some held) outcome = some (max held outcome) := by
  rcases lt_or_ge held outcome with h | h
  · rw [max_eq_right h.le]
    exact if_pos h
  · rw [max_eq_left h]
    exact if_neg (not_lt.mpr h)

theorem foldl_worse_some (outcomes : List Outcome) (held : Outcome) :
    outcomes.foldl worse (some held) = some (outcomes.foldl max held) := by
  induction outcomes generalizing held with
  | nil => rfl
  | cons outcome rest ih => rw [List.foldl_cons, worse_some, ih, List.foldl_cons]

/-- The fold of `main` computes the maximum in the order E, E-weak, D, C, B, A. -/
theorem foldl_worse (outcomes : List Outcome) : outcomes.foldl worse none = outcomes.max? := by
  cases outcomes with
  | nil => rfl
  | cons outcome rest => exact foldl_worse_some rest outcome

section Verdict

variable (host : Host) (inv : Invocation) (dir : RunDir)

/-- A lane of the document. -/
def docLane (lane : Lane) : LaneRecord Outcome :=
  settledLane host inv (freshTruth host inv dir).isSome dir.testBindings lane

theorem lookup_settledLanes (lane : Lane) : (settledLanes host inv dir).lookup lane =
    if lane ∈ inv.lanesToRun then some (docLane host inv dir lane) else none := by
  unfold settledLanes docLane
  induction inv.lanesToRun with
  | nil => simp
  | cons head rest ih =>
      by_cases h : lane = head
      · subst h; simp
      · have hne : (lane == head) = false := by simpa using h
        simp [h, hne, ih, List.lookup_cons]

/-- `outcome` is the worst lane outcome of the run. -/
def WorstOutcome (outcome : Outcome) : Prop :=
  (∃ lane ∈ inv.lanesToRun, (docLane host inv dir lane).outcome = outcome) ∧
    ∀ lane ∈ inv.lanesToRun, (docLane host inv dir lane).outcome ≤ outcome

/-- On a record that holds the settled lanes the fold finds the worst lane outcome. -/
theorem worstLane_spec (r : Record) (hlanes : r.lanes = settledLanes host inv dir) :
    ∃ outcome, worstLane inv r = some outcome ∧ WorstOutcome host inv dir outcome := by
  have hmap : (inv.lanesToRun.filterMap fun lane ↦ (r.lane lane).map (·.outcome)) =
      inv.lanesToRun.map fun lane ↦ (docLane host inv dir lane).outcome := by
    rw [← List.filterMap_eq_map]
    refine List.filterMap_congr fun lane hlane ↦ ?_
    simp [Record.lane, hlanes, lookup_settledLanes, hlane]
  have hmax : worstLane inv r =
      (inv.lanesToRun.map fun lane ↦ (docLane host inv dir lane).outcome).max? := by
    rw [worstLane, hmap, foldl_worse]
  cases hworst : (inv.lanesToRun.map fun lane ↦ (docLane host inv dir lane).outcome).max? with
  | none =>
      rw [List.max?_eq_none_iff, List.map_eq_nil_iff] at hworst
      exact absurd hworst inv.lanesToRun_ne_nil
  | some outcome =>
      obtain ⟨hmem, hle⟩ := List.max?_eq_some_iff.mp hworst
      refine ⟨outcome, hmax.trans hworst, by simpa using hmem, ?_⟩
      intro lane hlane
      exact hle _ (List.mem_map_of_mem hlane)

/-! ## One settled lane -/

/-- A lane of the document is one of the five lane endings, settled by the caller. -/
theorem docLane_run (lane : Lane) : ∃ L, LaneRun host inv lane dir.testBindings L ∧
    docLane host inv dir lane =
      settle (freshTruth host inv dir).isSome dir.testBindings L :=
  ⟨_, laneResult_run host inv lane dir.testBindings, rfl⟩

theorem docLane_outcome_eq_E_iff (lane : Lane) : (docLane host inv dir lane).outcome = .E ↔
    host.Succeeds (inv.buildCommand lane) ∧ host.Succeeds (inv.importCommand lane) ∧
      dir.testBindings = true ∧ host.Succeeds (inv.pytestCommand lane) ∧
      (freshTruth host inv dir).isSome = true := by
  obtain ⟨L, hrun, hL⟩ := docLane_run host inv dir lane
  rw [hL]
  cases hrun with
  | buildFailed hbuild => simp [settle, buildFailed, hbuild]
  | importFailed hbuild himport => simp [settle, importFailed, himport]
  | untested hbuild himport htests => simp [settle, untested, htests]
  | testsFailed hbuild himport htests hpytest => simp [settle, testsFailed, hpytest]
  | testsPassed hbuild himport htests hpytest =>
      cases (freshTruth host inv dir).isSome <;>
        simp [settle, testsPassed, hbuild, himport, htests, hpytest]

/-- A lane is at worst E-weak when it built, imported, and passed the tests there are. -/
theorem docLane_outcome_le_EWeak_iff (lane : Lane) :
    (docLane host inv dir lane).outcome ≤ .EWeak ↔
      host.Succeeds (inv.buildCommand lane) ∧ host.Succeeds (inv.importCommand lane) ∧
        (dir.testBindings = true → host.Succeeds (inv.pytestCommand lane)) := by
  obtain ⟨L, hrun, hL⟩ := docLane_run host inv dir lane
  rw [hL, Outcome.le_iff_rank_le]
  cases hrun with
  | buildFailed hbuild => simp [settle, buildFailed, Outcome.rank, hbuild]
  | importFailed hbuild himport => simp [settle, importFailed, Outcome.rank, himport]
  | untested hbuild himport htests =>
      simp [settle, untested, Outcome.rank, hbuild, himport, htests]
  | testsFailed hbuild himport htests hpytest =>
      simp [settle, testsFailed, Outcome.rank, htests, hpytest]
  | testsPassed hbuild himport htests hpytest =>
      simp only [settle, testsPassed, hbuild, himport, htests, hpytest]
      split <;> simp [Outcome.rank]

theorem docLane_imported_iff (lane : Lane) :
    (docLane host inv dir lane).gateResults.importSmoke = some .pass ↔
      host.Succeeds (inv.buildCommand lane) ∧ host.Succeeds (inv.importCommand lane) := by
  obtain ⟨L, hrun, hL⟩ := docLane_run host inv dir lane
  rw [hL]
  cases hrun with
  | buildFailed hbuild => simp [settle, buildFailed, hbuild]
  | importFailed hbuild himport => simp [settle, importFailed, himport]
  | untested hbuild himport htests => simp [settle, untested, hbuild, himport]
  | testsFailed hbuild himport htests hpytest => simp [settle, testsFailed, hbuild, himport]
  | testsPassed hbuild himport htests hpytest => simp [settle, testsPassed, hbuild, himport]

/-- The lanes of the document are the settled lanes, once the probe passed. -/
theorem document_lanes : (document host inv dir).lanes =
    if host.Succeeds inv.probeCommand then settledLanes host inv dir else [] := by
  by_cases hprobe : host.Succeeds inv.probeCommand
  · obtain ⟨_, _, _, _, _, _, hdoc⟩ := document_of_probe_passed host inv dir hprobe
    rw [hdoc, mirror_lanes, combine_lanes, surfaced, if_pos hprobe]
    split <;> rfl
  · obtain ⟨_, _, _, _, hdoc⟩ := document_of_probe_failed host inv dir hprobe
    rw [hdoc, if_neg hprobe]
    rfl

theorem document_lane (lane : Lane) : (document host inv dir).lane lane =
    if host.Succeeds inv.probeCommand ∧ lane ∈ inv.lanesToRun then some (docLane host inv dir lane)
    else none := by
  rw [Record.lane, document_lanes]
  by_cases hprobe : host.Succeeds inv.probeCommand <;> simp [hprobe, lookup_settledLanes]

/-! ## Gate 6b -/

/-- The surface comparison runs: both lanes were executed, built and imported. -/
def ComparesSurfaces : Prop :=
  inv.lanesToRun = [.constexpr, .emit] ∧ ∀ lane ∈ inv.lanesToRun,
    host.Succeeds (inv.buildCommand lane) ∧ host.Succeeds (inv.importCommand lane)

instance : Decidable (ComparesSurfaces host inv) := by
  unfold ComparesSurfaces; infer_instance

theorem bothImported_iff (r : Record) (hlanes : r.lanes = settledLanes host inv dir) :
    bothImported inv r = true ↔ ComparesSurfaces host inv := by
  have himported (lane : Lane) : importedIn r lane = true ↔ lane ∈ inv.lanesToRun ∧
      host.Succeeds (inv.buildCommand lane) ∧ host.Succeeds (inv.importCommand lane) := by
    rw [← docLane_imported_iff host inv dir lane, importedIn, Record.lane, hlanes,
      lookup_settledLanes]
    by_cases hlane : lane ∈ inv.lanesToRun <;> simp [hlane]
  simp only [bothImported, ComparesSurfaces, Bool.and_eq_true, beq_iff_eq,
    inv.lanesToRun_length_eq_two, List.all_cons, List.all_nil, Bool.and_true, himported]
  refine and_congr_right fun hboth ↦ ?_
  simp [hboth]

theorem document_surfaceDiff_status : (document host inv dir).surfaceDiff.status =
    if host.Succeeds inv.probeCommand ∧ ComparesSurfaces host inv then
      if host.Succeeds inv.surfaceDiffCommand then .pass else .fail
    else .skip := by
  by_cases hprobe : host.Succeeds inv.probeCommand
  · obtain ⟨toolchain, binder, prod, metrics, oracle, notes, hdoc⟩ :=
      document_of_probe_passed host inv dir hprobe
    have hboth := bothImported_iff host inv dir
      (laneStage host inv dir toolchain binder prod metrics oracle notes) rfl
    rw [hdoc, mirror_surfaceDiff, combine_surfaceDiff, surfaced]
    by_cases hcompares : ComparesSurfaces host inv
    · rw [if_pos (hboth.mpr hcompares), if_pos ⟨hprobe, hcompares⟩]
      rfl
    · rw [if_neg (mt hboth.mp hcompares), if_neg (fun h ↦ hcompares h.2)]
      rfl
  · obtain ⟨toolchain, binder, prod, metrics, hdoc⟩ :=
      document_of_probe_failed host inv dir hprobe
    rw [hdoc, if_neg (fun h ↦ hprobe h.1)]
    rfl

/-- The surface comparison ran and did not exit with status 0. -/
def SurfacesDiffer : Prop :=
  ComparesSurfaces host inv ∧ ¬ host.Succeeds inv.surfaceDiffCommand

instance : Decidable (SurfacesDiffer host inv) := by
  unfold SurfacesDiffer; infer_instance

theorem document_surfaceDiff_fail_iff (hprobe : host.Succeeds inv.probeCommand) :
    (document host inv dir).surfaceDiff.status = .fail ↔ SurfacesDiffer host inv := by
  rw [document_surfaceDiff_status, SurfacesDiffer]
  by_cases hcompares : ComparesSurfaces host inv <;>
    by_cases hcompare : host.Succeeds inv.surfaceDiffCommand <;> simp [hprobe, hcompares, hcompare]

/-! ## The combined outcome -/

theorem document_outcome_of_probe_failed (hprobe : ¬ host.Succeeds inv.probeCommand) :
    (document host inv dir).outcome = some .A := by
  obtain ⟨toolchain, binder, prod, metrics, hdoc⟩ := document_of_probe_failed host inv dir hprobe
  rw [hdoc]
  rfl

/-- After a passed probe the document is the mirror of a record with the settled lanes, on which the
surface mismatch has been combined with the worst lane. -/
theorem document_eq_mirror (hprobe : host.Succeeds inv.probeCommand) : ∃ r worst,
    document host inv dir = mirror r ∧ r.lanes = settledLanes host inv dir ∧
      WorstOutcome host inv dir worst ∧
      r.outcome = some (if SurfacesDiffer host inv ∧ worst ≤ .EWeak then .D else worst) ∧
      r.failure = if SurfacesDiffer host inv ∧ worst ≤ .EWeak then
        { noFailure with code := some "D.surface" } else noFailure := by
  obtain ⟨toolchain, binder, prod, metrics, oracle, notes, hdoc⟩ :=
    document_of_probe_passed host inv dir hprobe
  let r := surfaced host inv (laneStage host inv dir toolchain binder prod metrics oracle notes)
  have hlanes : r.lanes = settledLanes host inv dir := by
    simp only [r, surfaced]
    split <;> rfl
  have hfailure : r.failure = noFailure := by
    simp only [r, surfaced]
    split <;> rfl
  have hfail : r.surfaceDiff.status = .fail ↔ SurfacesDiffer host inv := by
    rw [← document_surfaceDiff_fail_iff host inv dir hprobe, hdoc, mirror_surfaceDiff,
      combine_surfaceDiff]
  obtain ⟨worst, hfold, hworst⟩ := worstLane_spec host inv dir r hlanes
  have hrank : worst.rank < Outcome.D.rank ↔ worst ≤ .EWeak := by
    rw [Outcome.le_iff_rank_le]
    cases worst <;> decide
  refine ⟨combine inv r, worst, hdoc, by rw [combine_lanes, hlanes], hworst, ?_, ?_⟩
  · simp only [combine_outcome, hfold, Option.elim_some, hrank, hfail]
    split <;> rfl
  · simp only [combine_failure, hfold, Option.elim_some, hrank, hfail, hfailure]

/-- After a passed probe the outcome is the worst lane outcome, raised to D exactly when the
surfaces differ and no lane is worse than E-weak. -/
theorem document_outcome_of_probe_passed (hprobe : host.Succeeds inv.probeCommand) :
    ∃ worst, WorstOutcome host inv dir worst ∧ (document host inv dir).outcome =
      some (if SurfacesDiffer host inv ∧ worst ≤ .EWeak then .D else worst) := by
  obtain ⟨r, worst, hdoc, -, hworst, houtcome, -⟩ := document_eq_mirror host inv dir hprobe
  exact ⟨worst, hworst, by rw [hdoc, mirror_outcome, houtcome]⟩

end Verdict

end ReflectNanobind.Gates
