import ReflectNanobind.Gates.CleanVerdict
import ReflectNanobind.Gates.ResultSchema

/-!
# The result document

Coherence of the document that every run writes: its lanes are the executed ones, each lane's gates,
outcome, failure code and furthest gate agree with each other, and the top-level outcome is the worst
lane or the surface mismatch.
-/

namespace ReflectNanobind.Gates

open Library Library.JsonSchema

/-! ## One lane of the document -/

/-- The failure code starts with the letter of the outcome. -/
def Failure.Names (failure : Failure) (outcome : Outcome) : Prop :=
  ∃ rest, failure.code = some (outcome.text ++ "." ++ rest)

/-- How many gates the lane has recorded. -/
def LaneGates.recorded (gates : LaneGates) : ℕ := gates.entries.length

structure LaneCoherent (L : LaneRecord Outcome) : Prop where
  compile_recorded : L.gateResults.compile.isSome = true
  import_recorded : L.gateResults.importSmoke.isSome = true ↔ L.gateResults.compile = some .pass
  correct_recorded :
    L.gateResults.correct.isSome = true ↔ L.gateResults.importSmoke = some .pass
  outcome_B : L.outcome = .B ↔ L.gateResults.compile = some .fail
  outcome_C : L.outcome = .C ↔ L.gateResults.importSmoke = some .fail
  outcome_D : L.outcome = .D ↔ L.gateResults.correct = some .fail
  failed : L.outcome ∈ [Outcome.B, .C, .D] → L.failure.Names L.outcome
  clean : L.outcome ∉ [Outcome.B, .C, .D] →
    L.outcome ∈ [Outcome.E, .EWeak] ∧ L.failure.code = none
  furthestGate : L.furthestGate =
    if L.gateResults.importSmoke = none then 1 else if L.gateResults.correct = none then 4 else 6

theorem LaneCoherent.recorded_eq {L : LaneRecord Outcome} (h : LaneCoherent L) :
    L.gateResults.recorded = if L.gateResults.importSmoke = none then 1
      else if L.gateResults.correct = none then 2 else 3 := by
  obtain ⟨compile, hcompile⟩ := Option.isSome_iff_exists.mp h.compile_recorded
  have hcorrect := h.correct_recorded
  cases himport : L.gateResults.importSmoke <;> cases hcorrectGate : L.gateResults.correct <;>
    simp_all [LaneGates.recorded, LaneGates.entries, gateEntry]

/-- A lane that got further never has a smaller furthest gate. -/
theorem LaneCoherent.furthestGate_mono {L M : LaneRecord Outcome} (hL : LaneCoherent L)
    (hM : LaneCoherent M) (h : L.gateResults.recorded ≤ M.gateResults.recorded) :
    L.furthestGate ≤ M.furthestGate := by
  rw [hL.recorded_eq, hM.recorded_eq] at h
  rw [hL.furthestGate, hM.furthestGate]
  split_ifs at h ⊢ <;> omega

section Document

variable (host : Host) (inv : Invocation) (dir : RunDir)

theorem docLane_coherent (lane : Lane) : LaneCoherent (docLane host inv dir lane) := by
  obtain ⟨L, hrun, hL⟩ := docLane_run host inv dir lane
  rw [hL]
  cases hrun with
  | buildFailed hbuild =>
      have hnames : (buildFailed (buildMetrics host lane)
          (host.sh (inv.buildCommand lane))).failure.Names .B := ⟨_, rfl⟩
      constructor <;> simp [settle, buildFailed, laneRecord]
      exact hnames
  | importFailed hbuild himport =>
      have hnames : (importFailed (laneMetrics host lane)
          (host.sh (inv.importCommand lane))).failure.Names .C := ⟨_, rfl⟩
      constructor <;> simp [settle, importFailed]
      exact hnames
  | untested hbuild himport htests =>
      constructor <;> simp [settle, untested, laneRecord, noFailure]
  | testsFailed hbuild himport htests hpytest =>
      have hnames : (testsFailed (laneMetrics host lane)
          (host.sh (inv.pytestCommand lane))).failure.Names .D := ⟨"value", rfl⟩
      constructor <;> simp [settle, testsFailed]
      exact hnames
  | testsPassed hbuild himport htests hpytest =>
      constructor <;> cases (freshTruth host inv dir).isSome <;> cases dir.testBindings <;>
        simp [settle, testsPassed, laneRecord, noFailure]

/-! ## The whole document -/

/-- `worst` is the greatest lane outcome of the document, in the order E, E-weak, D, C, B. -/
def Record.IsWorst (r : Record) (worst : Outcome) : Prop :=
  (∃ entry ∈ r.lanes, entry.2.outcome = worst) ∧ ∀ entry ∈ r.lanes, entry.2.outcome ≤ worst

/-- How the parts of the document of a run fit together. -/
structure Coherent (r : Record) : Prop where
  lanes : r.lanes.map Prod.fst = if host.Succeeds inv.probeCommand then inv.lanesToRun else []
  lane : ∀ entry ∈ r.lanes, LaneCoherent entry.2
  furthestGate_mono : ∀ left ∈ r.lanes, ∀ right ∈ r.lanes,
    left.2.gateResults.recorded ≤ right.2.gateResults.recorded →
      left.2.furthestGate ≤ right.2.furthestGate
  outcome_A : r.outcome = some .A ↔ ¬ host.Succeeds inv.probeCommand
  worst : host.Succeeds inv.probeCommand → ∃ worst, r.IsWorst worst ∧
    r.outcome = some (if r.surfaceDiff.status = .fail ∧ worst ≤ .EWeak then .D else worst)
  compared : r.surfaceDiff.status ≠ .skip → ∀ lane, ∃ L, r.lane lane = some L ∧
    L.gateResults.importSmoke = some .pass
  decided : r.outcome ≠ none
  clean : r.outcome = some .E ∨ r.outcome = some .EWeak → r.surfaceDiff.status ≠ .fail

theorem isWorst_of_worstOutcome (hprobe : host.Succeeds inv.probeCommand) {worst : Outcome}
    (h : WorstOutcome host inv dir worst) : (document host inv dir).IsWorst worst := by
  rw [Record.IsWorst, document_lanes, if_pos hprobe]
  obtain ⟨⟨lane, hlane, houtcome⟩, hle⟩ := h
  constructor
  · exact ⟨(lane, docLane host inv dir lane), List.mem_map_of_mem hlane, houtcome⟩
  · intro entry hentry
    obtain ⟨lane, hlane, rfl⟩ := List.mem_map.mp hentry
    exact hle lane hlane

theorem lane_outcome_ne_A {L : LaneRecord Outcome} (h : LaneCoherent L) : L.outcome ≠ .A := by
  intro hA
  have hclean := (h.clean (by rw [hA]; decide)).1
  rw [hA] at hclean
  exact absurd hclean (by decide)

theorem document_coherent : Coherent host inv (document host inv dir) := by
  have hlane : ∀ entry ∈ (document host inv dir).lanes, LaneCoherent entry.2 := by
    intro entry hentry
    rw [document_lanes] at hentry
    split at hentry
    · obtain ⟨lane, -, rfl⟩ := List.mem_map.mp hentry
      exact docLane_coherent host inv dir lane
    · cases hentry
  have hworst (hprobe : host.Succeeds inv.probeCommand) :
      ∃ worst, (document host inv dir).IsWorst worst ∧ (document host inv dir).outcome =
        some (if (document host inv dir).surfaceDiff.status = .fail ∧ worst ≤ .EWeak then .D
          else worst) := by
    obtain ⟨worst, hworst, houtcome⟩ := document_outcome_of_probe_passed host inv dir hprobe
    refine ⟨worst, isWorst_of_worstOutcome host inv dir hprobe hworst, ?_⟩
    simpa only [document_surfaceDiff_fail_iff host inv dir hprobe] using houtcome
  refine
    { lanes := ?_
      lane := hlane
      furthestGate_mono := fun left hleft right hright ↦
        (hlane left hleft).furthestGate_mono (hlane right hright)
      outcome_A := ?_
      worst := hworst
      compared := ?_
      decided := ?_
      clean := ?_ }
  · rw [document_lanes]
    split
    · simp [settledLanes, Function.comp_def]
    · rfl
  · refine ⟨fun hA hprobe ↦ ?_, document_outcome_of_probe_failed host inv dir⟩
    obtain ⟨worst, ⟨⟨entry, hentry, rfl⟩, -⟩, houtcome⟩ := hworst hprobe
    have hne := lane_outcome_ne_A (hlane entry hentry)
    rw [houtcome, Option.some_inj] at hA
    split at hA
    · cases hA
    · exact hne hA
  · intro hstatus lane
    rw [document_surfaceDiff_status] at hstatus
    split at hstatus
    · rename_i h
      obtain ⟨hprobe, hboth, hall⟩ := h
      have hmem : lane ∈ inv.lanesToRun := by
        rw [hboth]
        cases lane <;> decide
      refine ⟨docLane host inv dir lane, ?_,
        (docLane_imported_iff host inv dir lane).mpr (hall lane hmem)⟩
      rw [document_lane, if_pos ⟨hprobe, hmem⟩]
    · exact absurd rfl hstatus
  · by_cases hprobe : host.Succeeds inv.probeCommand
    · obtain ⟨worst, -, houtcome⟩ := hworst hprobe
      rw [houtcome]
      exact Option.some_ne_none _
    · rw [document_outcome_of_probe_failed host inv dir hprobe]
      exact Option.some_ne_none _
  · intro hgood
    obtain ⟨hprobe, hdiffer, -⟩ := (document_outcome_le_EWeak_iff host inv dir).mp hgood
    rwa [Ne, document_surfaceDiff_fail_iff host inv dir hprobe]

/-- Every run of a `meta.toml` with an integer tier and a known strategy writes a valid and coherent
document. -/
theorem main_writes_coherent_document (htier : inv.toml.tier.isSome = true)
    (hstrategy : inv.strategy = "single_stage" ∨ inv.strategy = "two_stage") :
    ∃ r, ((main inv).run host.handler dir).2.result = some r ∧
      validates resultSchema r.json = true ∧ Coherent host inv r := by
  have hcoherent := document_coherent host inv dir
  refine ⟨document host inv dir, by rw [main_run], ?_, hcoherent⟩
  exact validates_record (document_wellTyped inv host dir htier hstrategy)
    (Option.isSome_iff_ne_none.mpr hcoherent.decided)

end Document

/-- A tier-1 run whose emit build fails. -/
theorem main_writes_coherent_document_of_emit_failure :
    ∃ r, ((main (Invocation.onLinuxRepo { Meta.required "fmt" "fmt_bind" with tier := some 1 }
        (some .both))).run (Host.silent fun site ↦ if site = .build .emit then 1 else 0).handler
        ⟨none, true, true, none, none⟩).2.result = some r ∧
      validates resultSchema r.json = true ∧
      Coherent (Host.silent fun site ↦ if site = .build .emit then 1 else 0)
        (Invocation.onLinuxRepo { Meta.required "fmt" "fmt_bind" with tier := some 1 }
          (some .both)) r :=
  main_writes_coherent_document _ _ _ rfl (.inl rfl)

end ReflectNanobind.Gates
