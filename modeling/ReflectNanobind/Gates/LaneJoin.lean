import ReflectNanobind.Gates.ResultFile
import ReflectNanobind.Gates.Verdict

/-!
# One run of both lanes and two runs of one lane

`--mode` chooses the lanes of an invocation.  The document of a run of both lanes is put together from
the documents of the runs of each lane alone, on a host that answers the same commands the same way:
what Gates 4 to 6 record of one lane does not depend on the other, and the worst lane, the mirror and the
first evidence of a toolchain bug are found again in the two documents.  Only the surface comparison adds
something of its own.
-/

namespace ReflectNanobind.Gates

open Library Library.JsonSchema

/-- The invocation with this `--mode`. -/
def Invocation.inMode (inv : Invocation) (mode : Mode) : Invocation := { inv with mode := some mode }

/-! ## The record of the stages before the lanes -/

section Stages

variable (host : Host) (inv : Invocation) (dir : RunDir)

def toolchainText : String :=
  let v := host.sh inv.toolchainCommitCommand
  if inv.isGcc then "gcc-" ++ orUnknown (Text.strip v.stdout) else orUnknown (Text.strip v.stdout)

def prodText : String :=
  if .emit ∈ inv.lanesToRun then
    (Text.splitlines (host.sh inv.prodVersionCommand).stdout).head?.getD "unknown"
  else ""

/-- The record when the probe returns. -/
def openedRecord : Record :=
  { newRecord inv (toolchainText host inv)
      (orUnknown (Text.strip (host.sh inv.binderCommitCommand).stdout)) (prodText host inv) with
    metrics := [("probe_seconds", .scalar (.decimal (host.elapsed .probe) 2))] }

/-- The record when the first lane starts. -/
def sharedRecord : Record :=
  oracleRecord host inv (probedDir inv dir) (probePassed (openedRecord host inv))

/-- The record after one more lane. -/
def laneStored (r : Record) (lane : Lane) : Record :=
  storeLane (freshTruth host inv dir).isSome dir.testBindings lane
    (laneResult host inv lane dir.testBindings) (laneBug host inv lane r.toolchainBug) r

theorem startRecord_run_eq :
    (startRecord inv).run host.handler dir =
      (newRecord inv (toolchainText host inv)
        (orUnknown (Text.strip (host.sh inv.binderCommitCommand).stdout)) (prodText host inv),
        dir) := by
  have htoolchain :
      (toolchainId inv).run host.handler dir = (toolchainText host inv, dir) := by
    unfold toolchainId toolchainText
    cases inv.isGcc <;> rfl
  have hprod : (prodCompiler inv).run host.handler dir = (prodText host inv, dir) := by
    unfold prodCompiler prodText
    split <;> rfl
  simp [startRecord, htoolchain, hprod]

theorem laneLoop_run_eq (lanes : List Lane) (r : Record) (world : RunDir)
    (hworld : world.testBindings = dir.testBindings) :
    (laneLoop inv (freshTruth host inv dir).isSome dir.testBindings lanes r).run host.handler world =
      (lanes.foldl (laneStored host inv dir) r, world) := by
  induction lanes generalizing r with
  | nil => rfl
  | cons lane rest ih =>
      rw [laneLoop, Program.run_bind, runLane_run, hworld]
      exact ih _

/-- The document, stage by stage. -/
theorem document_eq :
    document host inv dir =
      if host.Succeeds inv.probeCommand then
        mirror (combine inv (surfaced host inv
          (inv.lanesToRun.foldl (laneStored host inv dir) (sharedRecord host inv dir))))
      else probeFailed (openedRecord host inv) (host.sh inv.probeCommand) := by
  have hloop := laneLoop_run_eq host inv dir inv.lanesToRun (sharedRecord host inv dir)
    (truthDir host inv (probedDir inv dir)) (by simp)
  have hgates : (gatesAfterProbe inv (openedRecord host inv)).run host.handler (probedDir inv dir) =
      (mirror (combine inv (surfaced host inv
        (inv.lanesToRun.foldl (laneStored host inv dir) (sharedRecord host inv dir)))),
        truthDir host inv (probedDir inv dir)) := by
    simp only [gatesAfterProbe, Program.run_bind, oracleLeg_run, fileExists_testBindings_run,
      surfaceGate_run, freshTruth_probedDir, truthDir_testBindings, probedDir_testBindings]
    rw [sharedRecord] at hloop
    simp [hloop, sharedRecord]
  by_cases hprobe : host.Succeeds inv.probeCommand
  · have hcode : (host.sh inv.probeCommand).returncode = 0 := hprobe
    rw [if_pos hprobe, document]
    have hfirst := congrArg Prod.fst hgates
    simpa [gatedRecord, startRecord_run_eq, ensureProbe_run, hcode, openedRecord, newRecord, setKey]
      using hfirst
  · have hcode : (host.sh inv.probeCommand).returncode ≠ 0 := hprobe
    rw [if_neg hprobe, document]
    simp [gatedRecord, startRecord_run_eq, ensureProbe_run, hcode, openedRecord, newRecord, setKey]

end Stages

/-! ## The mirror of a lane -/

section Mirror

variable {r : Record}

/-- The top-level fields after the constexpr lane was mirrored. -/
def constexprMirrored (r : Record) (cx : LaneRecord Outcome) : Record :=
  { r with
    gateResults := { r.gateResults with lane :=
      ⟨cx.gateResults.compile.or r.gateResults.lane.compile,
        cx.gateResults.importSmoke.or r.gateResults.lane.importSmoke,
        cx.gateResults.correct.or r.gateResults.lane.correct⟩ }
    furthestGate := cx.furthestGate
    failure := mirrorFailure r cx
    oracle := { r.oracle with pytestSummary := some (cx.oracle.pytestSummary.getD "") }
    metrics := update r.metrics (prefixKeys "constexpr" cx.metrics) }

def emitMirrored (r : Record) (em : LaneRecord Outcome) : Record :=
  { r with
    metrics := update r.metrics (prefixKeys "emit" em.metrics)
    failure := mirrorFailure r em }

theorem mirrorConstexpr_eq_elim (r : Record) :
    mirrorConstexpr r = (r.lane .constexpr).elim r (constexprMirrored r) := by
  unfold mirrorConstexpr
  cases r.lane .constexpr <;> rfl

theorem mirrorEmit_eq_elim (r : Record) :
    mirrorEmit r = (r.lane .emit).elim r (emitMirrored r) := by
  unfold mirrorEmit
  cases r.lane .emit <;> rfl

theorem constexprMirrored_lane (cx : LaneRecord Outcome) (lane : Lane) :
    (constexprMirrored r cx).lane lane = r.lane lane := rfl

theorem mirror_constexpr {cx : LaneRecord Outcome} (h : r.lanes = [(.constexpr, cx)]) :
    mirror r = constexprMirrored r cx := by
  have hcx : r.lane .constexpr = some cx := by rw [Record.lane, h]; rfl
  have hem : r.lane .emit = none := by rw [Record.lane, h]; rfl
  rw [mirror, mirrorConstexpr_eq_elim, hcx, Option.elim_some, mirrorEmit_eq_elim,
    constexprMirrored_lane, hem, Option.elim_none]

theorem mirror_emit {em : LaneRecord Outcome} (h : r.lanes = [(.emit, em)]) :
    mirror r = emitMirrored r em := by
  have hcx : r.lane .constexpr = none := by rw [Record.lane, h]; rfl
  have hem : r.lane .emit = some em := by rw [Record.lane, h]; rfl
  rw [mirror, mirrorConstexpr_eq_elim, hcx, Option.elim_none, mirrorEmit_eq_elim, hem,
    Option.elim_some]

theorem mirror_both {cx em : LaneRecord Outcome} (h : r.lanes = [(.constexpr, cx), (.emit, em)]) :
    mirror r = emitMirrored (constexprMirrored r cx) em := by
  have hcx : r.lane .constexpr = some cx := by rw [Record.lane, h]; rfl
  have hem : r.lane .emit = some em := by rw [Record.lane, h]; rfl
  rw [mirror, mirrorConstexpr_eq_elim, hcx, Option.elim_some, mirrorEmit_eq_elim,
    constexprMirrored_lane, hem, Option.elim_some]

end Mirror

/-! ## The combination -/

section Combination

variable {inv : Invocation} {r : Record}

theorem combine_single {lane : Lane} {L : LaneRecord Outcome} (hmode : inv.lanesToRun = [lane])
    (hlanes : r.lanes = [(lane, L)]) (hsurface : r.surfaceDiff.status = .skip) :
    combine inv r = { r with outcome := some L.outcome } := by
  have hworst : worstLane inv r = some L.outcome := by
    simp [worstLane, hmode, Record.lane, hlanes, worse]
  rw [combine, hworst, hsurface, if_neg (by simp)]

/-- What the comparison makes of the worst lane. -/
def judged (surface : SurfaceDiff) (worst : Option Outcome) : Option Outcome :=
  if surface.status = .fail ∧ worst.elim 0 Outcome.rank < Outcome.D.rank then some .D else worst

theorem combine_both {cx em : LaneRecord Outcome} (hmode : inv.lanesToRun = [.constexpr, .emit])
    (hlanes : r.lanes = [(.constexpr, cx), (.emit, em)]) :
    combine inv r = { r with
      outcome := judged r.surfaceDiff (worse (some cx.outcome) em.outcome)
      failure :=
        if r.surfaceDiff.status = .fail ∧
            (worse (some cx.outcome) em.outcome).elim 0 Outcome.rank < Outcome.D.rank then
          { r.failure with code := some "D.surface" }
        else r.failure } := by
  have hworst : worstLane inv r = worse (some cx.outcome) em.outcome := by
    rw [worstLane, hmode]
    simp only [Record.lane, hlanes]
    rfl
  rw [combine, hworst, judged]
  dsimp only
  split <;> rfl

end Combination

/-! ## Joined documents -/

/-- Two documents of single lanes put together; the comparison adds its block and its notes, and may
turn a better outcome into a D of its own. -/
def joined (cx em : Record) (surface : SurfaceDiff) (notes : String) : Record :=
  let worst := em.outcome.elim cx.outcome (worse cx.outcome)
  { cx with
    prodCompiler := em.prodCompiler
    outcome := judged surface worst
    lanes := cx.lanes ++ em.lanes
    surfaceDiff := surface
    failure :=
      if surface.status = .fail ∧ worst.elim 0 Outcome.rank < Outcome.D.rank then
        { noFailure with code := some "D.surface" }
      else if cx.failure.code = none then em.failure else cx.failure
    toolchainBug := if cx.toolchainBug = .none then em.toolchainBug else cx.toolchainBug
    metrics := update cx.metrics em.metrics
    notes := notes }

section Modes

variable (host : Host) (inv : Invocation) (dir : RunDir)

/-- The first evidence stays. -/
theorem laneBug_first (lane : Lane) (bug : ToolchainBug) :
    laneBug host inv lane bug = if bug = .none then laneBug host inv lane .none else bug := by
  by_cases hbug : bug = .none
  · rw [hbug, if_pos rfl]
  · simp only [laneBug, classifyBuild, classifyTcBug]
    cases bug with
    | none => exact absurd rfl hbug
    | suspected kind signature finding => simp

theorem oracleRecord_prodCompiler (r : Record) (prod : String) :
    oracleRecord host inv dir { r with prodCompiler := prod } =
      { oracleRecord host inv dir r with prodCompiler := prod } := by
  unfold oracleRecord
  cases (freshTruth host inv dir).isSome with
  | true => rfl
  | false =>
      cases dir.oracleNative with
      | false => rfl
      | true => by_cases hbuild : host.Succeeds inv.oracleBuildCommand <;> simp [hbuild]

/-- The gates before the lanes do not know the mode, but for the production compiler's version. -/
theorem sharedRecord_inMode (mode : Mode) :
    sharedRecord host (inv.inMode mode) dir =
      { sharedRecord host inv dir with prodCompiler := prodText host (inv.inMode mode) } :=
  oracleRecord_prodCompiler host inv (probedDir inv dir) (probePassed (openedRecord host inv)) _

theorem sharedRecord_eq : ∃ oracle notes,
    sharedRecord host inv dir = { probePassed (openedRecord host inv) with
      oracle := oracle
      notes := notes } :=
  oracleRecord_eq host inv _ _

/-- Gate 6b writes its block and appends to the notes. -/
theorem surfaced_eq (r : Record) : ∃ surface tail,
    surfaced host inv r = { r with surfaceDiff := surface, notes := r.notes ++ tail } := by
  unfold surfaced
  split
  · simp only [storeSurfaceDiff]
    generalize ((Text.splitlines (host.sh inv.surfaceDiffCommand).stdout).find?
      (Text.startsWith · summaryPrefix)).getD "" = tail
    by_cases htail : tail ≠ ""
    · exact ⟨_, tail ++ "; ", by rw [if_pos htail, String.append_assoc]⟩
    · exact ⟨_, "", by rw [if_neg htail, String.append_empty]⟩
  · exact ⟨r.surfaceDiff, "", by rw [String.append_empty]⟩

theorem surfaced_single {lane : Lane} (hmode : inv.lanesToRun = [lane]) (r : Record) :
    surfaced host inv r = r := by
  simp [surfaced, bothImported, hmode]

/-- The note of a lane that has no tests. -/
def laneNote (lane : Lane) : String :=
  if !dir.testBindings ∧
      (laneResult host inv lane dir.testBindings).gateResults.correct = some .skip then
    lane.text ++ (": no test_bindings.py (import-only); ")
  else ""

/-- Storing a lane appends to the lanes and to the notes and updates the bug block. -/
theorem laneStored_eq (r : Record) (lane : Lane) :
    laneStored host inv dir r lane = { r with
      lanes := r.lanes ++
        [(lane, settledLane host inv (freshTruth host inv dir).isSome dir.testBindings lane)]
      toolchainBug := laneBug host inv lane r.toolchainBug
      notes := r.notes ++ laneNote host inv dir lane } := by
  unfold laneStored storeLane laneNote
  split
  · rw [String.append_assoc]
    rfl
  · rw [String.append_empty]
    rfl

theorem settledLane_plain (hasDiff hasTests : Bool) (lane : Lane) :
    PlainMetrics (settledLane host inv hasDiff hasTests lane).metrics := by
  have hrun := ((runLane_returns inv lane .none).run host.handler ⟨none, false, hasTests, none, none⟩).2
  rw [runLane_run] at hrun
  exact hrun

end Modes

/-! ## Measurements -/

theorem keys_prefixKeys (name : String) (metrics : Metrics) :
    (prefixKeys name metrics).map Prod.fst =
      (metrics.map Prod.fst).map fun key ↦ name ++ "_" ++ key := by
  simp [prefixKeys]

theorem nodup_prefixKeys {name key : String} {value : Json} {metrics : Metrics}
    (h : PlainMetrics metrics) (hkey : ∀ other, key ≠ name ++ "_" ++ other) :
    (([(key, value)] ++ prefixKeys name metrics).map Prod.fst).Nodup := by
  rw [List.map_append, List.map_singleton, List.singleton_append, List.nodup_cons, keys_prefixKeys]
  constructor
  · intro hmem
    obtain ⟨other, -, hother⟩ := List.mem_map.mp hmem
    exact hkey other hother.symm
  · exact h.keys.map fun left right hsame ↦ (String.append_right_inj _).mp hsame

theorem probeSeconds_ne {name : String} (h : name.toList.head? ∉ [none, some 'p']) (other : String) :
    "probe_seconds" ≠ name ++ "_" ++ other := by
  intro hsame
  have hchars : "probe_seconds".toList = name.toList ++ ('_' :: other.toList) := by
    rw [hsame]
    simp
  cases hname : name.toList with
  | nil => simp [hname] at h
  | cons first rest =>
      rw [hname] at hchars h
      have hfirst : 'p' = first := by simpa using congrArg List.head? hchars
      exact absurd hfirst.symm (by simpa using h)

/-- The shared measurement is written once, whichever of the two documents is read first. -/
theorem update_joined {key : String} {value : Json} {first second : Metrics}
    (hfirst : (([(key, value)] ++ first).map Prod.fst).Nodup)
    (hsecond : (([(key, value)] ++ second).map Prod.fst).Nodup) :
    update (update [(key, value)] first) (update [(key, value)] second) =
      update (update [(key, value)] first) second := by
  rw [JsonDumps.update_of_nodup hfirst, JsonDumps.update_of_nodup hsecond]
  simp [update, setKey]

/-! ## Failures -/

/-- A held failure stays; else the lane's is taken, if it has one. -/
def mirrored (held lane : Failure) : Failure :=
  if held.code = none ∧ lane.code.getD "" ≠ "" then lane else held

theorem mirrorFailure_mirrored (r : Record) (L : LaneRecord Outcome) :
    mirrorFailure r L = mirrored r.failure L.failure := rfl

/-- A failure of the comparison comes before those of the lanes, and the constexpr lane's first. -/
theorem mirrored_joined {held : Failure} (hheld : held = noFailure) (differ : Prop)
    [Decidable differ] (cx em : Failure) :
    mirrored (mirrored (if differ then { held with code := some "D.surface" } else held) cx) em =
      if differ then { noFailure with code := some "D.surface" }
      else if (mirrored held cx).code = none then mirrored held em else mirrored held cx := by
  subst hheld
  by_cases hdiffer : differ
  · simp [mirrored, hdiffer]
  · rw [if_neg hdiffer, if_neg hdiffer]
    by_cases hcx : (mirrored noFailure cx).code = none
    · have hnone : mirrored noFailure cx = noFailure := by
        unfold mirrored at hcx ⊢
        split at hcx
        · next h => simp [hcx] at h
        · next h => rw [if_neg h]
      rw [if_pos hcx, hnone]
    · rw [if_neg hcx, mirrored, if_neg fun h ↦ hcx h.1]

/-! ## The documents of the three modes -/

section Documents

variable (host : Host) (inv : Invocation) (dir : RunDir)

/-- The record of a lane in every document that has it. -/
def laneOf (lane : Lane) : LaneRecord Outcome :=
  settledLane host inv (freshTruth host inv dir).isSome dir.testBindings lane

/-- The record of a mode once its lanes are stored. -/
def storedRecord (mode : Mode) (lanes : List (Lane × LaneRecord Outcome)) (bug : ToolchainBug)
    (notes : String) : Record :=
  { sharedRecord host inv dir with
    prodCompiler := prodText host (inv.inMode mode)
    lanes := lanes
    toolchainBug := bug
    notes := (sharedRecord host inv dir).notes ++ notes }

theorem sharedRecord_empty : (sharedRecord host inv dir).lanes = [] ∧
    (sharedRecord host inv dir).toolchainBug = .none ∧
    (sharedRecord host inv dir).surfaceDiff = ⟨.skip, []⟩ ∧
    (sharedRecord host inv dir).failure = noFailure := by
  obtain ⟨oracle, notes, hshared⟩ := sharedRecord_eq host inv dir
  rw [hshared]
  exact ⟨rfl, rfl, rfl, rfl⟩

theorem storedRecord_skip (mode : Mode) (lanes : List (Lane × LaneRecord Outcome))
    (bug : ToolchainBug) (notes : String) :
    (storedRecord host inv dir mode lanes bug notes).surfaceDiff.status = .skip :=
  congrArg SurfaceDiff.status (sharedRecord_empty host inv dir).2.2.1

/-- One lane was stored. -/
theorem storedRecord_single (mode : Mode) (lane : Lane) :
    laneStored host (inv.inMode mode) dir (sharedRecord host (inv.inMode mode) dir) lane =
      storedRecord host inv dir mode [(lane, laneOf host inv dir lane)]
        (laneBug host inv lane .none) (laneNote host inv dir lane) := by
  obtain ⟨hlanes, hbug, -, -⟩ := sharedRecord_empty host inv dir
  rw [laneStored_eq, sharedRecord_inMode]
  simp only [hlanes, hbug, List.nil_append]
  rfl

theorem document_passed (hprobe : host.Succeeds inv.probeCommand) (mode : Mode) :
    document host (inv.inMode mode) dir =
      mirror (combine (inv.inMode mode) (surfaced host (inv.inMode mode)
        ((inv.inMode mode).lanesToRun.foldl (laneStored host (inv.inMode mode) dir)
          (sharedRecord host (inv.inMode mode) dir)))) := by
  rw [document_eq]
  exact if_pos hprobe

theorem document_failed (hprobe : ¬ host.Succeeds inv.probeCommand) (mode : Mode) :
    document host (inv.inMode mode) dir =
      probeFailed (openedRecord host (inv.inMode mode)) (host.sh inv.probeCommand) := by
  rw [document_eq]
  exact if_neg hprobe

theorem document_constexpr (hprobe : host.Succeeds inv.probeCommand) :
    document host (inv.inMode .constexpr) dir =
      constexprMirrored { storedRecord host inv dir .constexpr
          [(.constexpr, laneOf host inv dir .constexpr)] (laneBug host inv .constexpr .none)
          (laneNote host inv dir .constexpr) with
        outcome := some (laneOf host inv dir .constexpr).outcome }
        (laneOf host inv dir .constexpr) := by
  have hmode : (inv.inMode .constexpr).lanesToRun = [.constexpr] := rfl
  rw [document_passed host inv dir hprobe, hmode, List.foldl_cons, List.foldl_nil, storedRecord_single,
    surfaced_single _ _ hmode, combine_single hmode rfl (storedRecord_skip ..)]
  exact mirror_constexpr rfl

theorem document_emit (hprobe : host.Succeeds inv.probeCommand) :
    document host (inv.inMode .emit) dir =
      emitMirrored { storedRecord host inv dir .emit [(.emit, laneOf host inv dir .emit)]
          (laneBug host inv .emit .none) (laneNote host inv dir .emit) with
        outcome := some (laneOf host inv dir .emit).outcome }
        (laneOf host inv dir .emit) := by
  have hmode : (inv.inMode .emit).lanesToRun = [.emit] := rfl
  rw [document_passed host inv dir hprobe, hmode, List.foldl_cons, List.foldl_nil, storedRecord_single,
    surfaced_single _ _ hmode, combine_single hmode rfl (storedRecord_skip ..)]
  exact mirror_emit rfl

theorem storedRecord_both :
    [Lane.constexpr, .emit].foldl (laneStored host (inv.inMode .both) dir)
        (sharedRecord host (inv.inMode .both) dir) =
      storedRecord host inv dir .both
        [(.constexpr, laneOf host inv dir .constexpr), (.emit, laneOf host inv dir .emit)]
        (laneBug host inv .emit (laneBug host inv .constexpr .none))
        (laneNote host inv dir .constexpr ++ laneNote host inv dir .emit) := by
  rw [List.foldl_cons, List.foldl_cons, List.foldl_nil, storedRecord_single, laneStored_eq]
  simp only [storedRecord, String.append_assoc]
  rfl

/-- The document for both lanes, with the comparison's share. -/
theorem document_both (hprobe : host.Succeeds inv.probeCommand) : ∃ surface tail,
    let r := { storedRecord host inv dir .both
        [(.constexpr, laneOf host inv dir .constexpr), (.emit, laneOf host inv dir .emit)]
        (laneBug host inv .emit (laneBug host inv .constexpr .none))
        (laneNote host inv dir .constexpr ++ laneNote host inv dir .emit ++ tail) with
      surfaceDiff := surface }
    let worst := worse (some (laneOf host inv dir .constexpr).outcome) (laneOf host inv dir .emit).outcome
    document host (inv.inMode .both) dir =
      emitMirrored (constexprMirrored { r with
        outcome := judged surface worst
        failure :=
          if surface.status = .fail ∧ worst.elim 0 Outcome.rank < Outcome.D.rank then
            { r.failure with code := some "D.surface" }
          else r.failure }
        (laneOf host inv dir .constexpr)) (laneOf host inv dir .emit) := by
  have hmode : (inv.inMode .both).lanesToRun = [.constexpr, .emit] := rfl
  obtain ⟨surface, tail, hsurfaced⟩ := surfaced_eq host (inv.inMode .both)
    (storedRecord host inv dir .both
      [(.constexpr, laneOf host inv dir .constexpr), (.emit, laneOf host inv dir .emit)]
      (laneBug host inv .emit (laneBug host inv .constexpr .none))
      (laneNote host inv dir .constexpr ++ laneNote host inv dir .emit))
  refine ⟨surface, tail, ?_⟩
  rw [document_passed host inv dir hprobe, hmode, storedRecord_both, hsurfaced,
    combine_both hmode rfl]
  simp only [storedRecord, String.append_assoc]
  exact mirror_both rfl

/-- The document for both lanes is put together from the two documents for one lane. -/
theorem document_joins : ∃ shared ofConstexpr ofEmit ofComparison,
    (document host (inv.inMode .constexpr) dir).notes = shared ++ ofConstexpr ∧
      (document host (inv.inMode .emit) dir).notes = shared ++ ofEmit ∧
      document host (inv.inMode .both) dir =
        joined (document host (inv.inMode .constexpr) dir) (document host (inv.inMode .emit) dir)
          (document host (inv.inMode .both) dir).surfaceDiff
          (shared ++ (ofConstexpr ++ ofEmit ++ ofComparison)) := by
  by_cases hprobe : host.Succeeds inv.probeCommand
  · obtain ⟨surface, tail, hboth⟩ := document_both host inv dir hprobe
    refine ⟨(sharedRecord host inv dir).notes, laneNote host inv dir .constexpr,
      laneNote host inv dir .emit, tail, ?_, ?_, ?_⟩
    · rw [document_constexpr host inv dir hprobe]
      rfl
    · rw [document_emit host inv dir hprobe]
      rfl
    · rw [hboth, document_constexpr host inv dir hprobe, document_emit host inv dir hprobe]
      simp only [joined, emitMirrored, constexprMirrored, storedRecord, mirrorFailure_mirrored]
      obtain ⟨-, -, -, hfailure⟩ := sharedRecord_empty host inv dir
      congr 1
      · exact mirrored_joined hfailure _ _ _
      · exact laneBug_first host inv .emit _
      · obtain ⟨oracle, notes, hshared⟩ := sharedRecord_eq host inv dir
        rw [hshared]
        exact (update_joined
          (nodup_prefixKeys (settledLane_plain host inv _ _ .constexpr) (probeSeconds_ne (by decide)))
          (nodup_prefixKeys (settledLane_plain host inv _ _ .emit) (probeSeconds_ne (by decide)))).symm
  · refine ⟨"", "", "", "", ?_, ?_, ?_⟩
    · rw [document_failed host inv dir hprobe]
      rfl
    · rw [document_failed host inv dir hprobe]
      rfl
    · rw [document_failed host inv dir hprobe, document_failed host inv dir hprobe,
        document_failed host inv dir hprobe]
      simp only [joined, probeFailed, openedRecord, newRecord]
      congr 1
      exact (ite_self _).symm

/-- A document of one lane has an outcome and no comparison. -/
theorem document_single {mode : Mode} (hmode : mode = .constexpr ∨ mode = .emit) :
    (∃ outcome, (document host (inv.inMode mode) dir).outcome = some outcome) ∧
      (document host (inv.inMode mode) dir).surfaceDiff.status = .skip := by
  have hskip := congrArg SurfaceDiff.status (sharedRecord_empty host inv dir).2.2.1
  by_cases hprobe : host.Succeeds inv.probeCommand
  · rcases hmode with rfl | rfl
    · rw [document_constexpr host inv dir hprobe]
      exact ⟨⟨_, rfl⟩, hskip⟩
    · rw [document_emit host inv dir hprobe]
      exact ⟨⟨_, rfl⟩, hskip⟩
  · rw [document_failed host inv dir hprobe]
    exact ⟨⟨_, rfl⟩, rfl⟩

end Documents

/-- The exit status of a joined document is that of the lanes and of the comparison. -/
theorem exitCode_joined {cx em : Record} {ofConstexpr ofEmit : Outcome}
    (hcx : cx.outcome = some ofConstexpr) (hem : em.outcome = some ofEmit)
    (hcxSkip : cx.surfaceDiff.status = .skip) (hemSkip : em.surfaceDiff.status = .skip)
    (surface : SurfaceDiff) (notes : String) :
    exitCode (joined cx em surface notes) = 0 ↔
      exitCode cx = 0 ∧ exitCode em = 0 ∧ surface.status ≠ .fail := by
  simp only [exitCode, joined, judged, hcx, hem, hcxSkip, hemSkip, Option.elim_some]
  by_cases hfail : surface.status = .fail
  · simp [hfail]
  · cases ofConstexpr <;> cases ofEmit <;> simp [hfail, worse, Outcome.rank]

/-- Running both lanes at once is running each alone, on a host that answers the same commands the same
way: the two documents put together are the document of the one run, but for the comparison, the ground
truth they leave behind is the same, and the one run succeeds when both do and the comparison does not
fail. -/
theorem main_joins_lanes (host : Host) (inv : Invocation) (dir : RunDir) :
    ∃ both cx em : Record, ∃ shared ofConstexpr ofEmit ofComparison : String,
      (main (inv.inMode .both)).run host.handler dir =
          (exitCode both, { gatedDir host inv dir with result := some both }) ∧
        (main (inv.inMode .constexpr)).run host.handler dir =
          (exitCode cx, { gatedDir host inv dir with result := some cx }) ∧
        (main (inv.inMode .emit)).run host.handler dir =
          (exitCode em, { gatedDir host inv dir with result := some em }) ∧
        both = joined cx em both.surfaceDiff both.notes ∧
        cx.notes = shared ++ ofConstexpr ∧ em.notes = shared ++ ofEmit ∧
        both.notes = shared ++ (ofConstexpr ++ ofEmit ++ ofComparison) ∧
        (exitCode both = 0 ↔ exitCode cx = 0 ∧ exitCode em = 0 ∧ both.surfaceDiff.status ≠ .fail) := by
  obtain ⟨shared, ofConstexpr, ofEmit, ofComparison, hcxNotes, hemNotes, hjoined⟩ :=
    document_joins host inv dir
  have hnotes := congrArg Record.notes hjoined
  obtain ⟨⟨cxOutcome, hcx⟩, hcxSkip⟩ := document_single host inv dir (.inl rfl)
  obtain ⟨⟨emOutcome, hem⟩, hemSkip⟩ := document_single host inv dir (.inr rfl)
  have hexit := exitCode_joined hcx hem hcxSkip hemSkip
    (document host (inv.inMode .both) dir).surfaceDiff
    (shared ++ (ofConstexpr ++ ofEmit ++ ofComparison))
  rw [← hjoined] at hexit
  refine ⟨document host (inv.inMode .both) dir, document host (inv.inMode .constexpr) dir,
    document host (inv.inMode .emit) dir, shared, ofConstexpr, ofEmit, ofComparison,
    main_run host _ dir, main_run host _ dir, main_run host _ dir, ?_, hcxNotes, hemNotes, hnotes,
    hexit⟩
  rw [hnotes]
  exact hjoined

end ReflectNanobind.Gates
