import ReflectNanobind.Library.JsonSchema
import Mathlib.Order.Basic
import Mathlib.Order.Lattice
import Mathlib.Order.Lattice.Nat
import Mathlib.Data.List.MinMax

/-!
# The result record of a gated run

The nested dictionary that `run_gates.py` fills gate by gate and writes at the end, as typed
records: a gate that was not reached has no entry, and a lane record carries its outcome in the
type parameter, so that a lane whose verdict is still open (`None` in the source) cannot be stored
in the document.  Outcomes are ordered by `OUTCOME_RANK`, best first.
-/

namespace ReflectNanobind.Gates

open Library.JsonSchema

/-! ## Outcomes -/

inductive Outcome where
  | A | B | C | D | E | EWeak
  deriving DecidableEq, Repr

namespace Outcome

/-- `OUTCOME_RANK`. -/
def rank : Outcome → ℕ
  | E => 0
  | EWeak => 1
  | D => 2
  | C => 3
  | B => 4
  | A => 5

def text : Outcome → String
  | A => "A"
  | B => "B"
  | C => "C"
  | D => "D"
  | E => "E"
  | EWeak => "E-weak"

theorem rank_injective : Function.Injective rank := by
  intro left right h
  cases left <;> cases right <;> first | rfl | cases h

/-- The taxonomy from best to worst: E, E-weak, D, C, B, A. -/
instance : LinearOrder Outcome := LinearOrder.lift' rank rank_injective

theorem le_iff_rank_le (left right : Outcome) : left ≤ right ↔ left.rank ≤ right.rank := Iff.rfl

end Outcome

/-! ## Lanes -/

inductive Lane where
  | constexpr | emit
  deriving DecidableEq, Repr

def Lane.text : Lane → String
  | .constexpr => "constexpr"
  | .emit => "emit"

inductive GateStatus where
  | pass | fail | skip
  deriving DecidableEq, Repr

def GateStatus.text : GateStatus → String
  | .pass => "pass"
  | .fail => "fail"
  | .skip => "skip"

structure Failure where
  code : Option String
  firstDiagnostics : List String
  signal : Option String
  deriving DecidableEq, Repr

def noFailure : Failure := ⟨none, [], none⟩

structure OracleBlock where
  layersUsed : List String
  groundTruthSource : String
  pytestSummary : Option String
  deriving DecidableEq, Repr

def noOracle : OracleBlock := ⟨[], "", none⟩

/-- The entries `4_compile`, `5_import` and `6_correct`, each present once its gate was decided. -/
structure LaneGates where
  compile : Option GateStatus
  importSmoke : Option GateStatus
  correct : Option GateStatus
  deriving DecidableEq, Repr

abbrev Metrics := List (String × Json)

/-- One lane's ladder. `ω` is `Option Outcome` while the caller may still decide between E and
E-weak, and `Outcome` in the document. -/
structure LaneRecord (ω : Type) where
  outcome : ω
  furthestGate : ℕ
  gateResults : LaneGates
  failure : Failure
  metrics : Metrics
  oracle : OracleBlock

/-- `lane_record()`. -/
def laneRecord : LaneRecord (Option Outcome) where
  outcome := none
  furthestGate := 1
  gateResults := ⟨none, none, none⟩
  failure := noFailure
  metrics := []
  oracle := noOracle

/-! ## The document -/

inductive ToolchainBug where
  | none
  | suspected (kind signature finding : String)
  deriving DecidableEq, Repr

structure SurfaceDiff where
  status : GateStatus
  mismatches : List String
  deriving DecidableEq, Repr

structure Subset where
  reflectArgs : List String
  rationale : String
  skippedFeatures : List String

structure GateResults where
  strategy : String
  probe : Option GateStatus
  lane : LaneGates

structure Record where
  backend : String
  slug : String
  url : String
  pinnedCommit : String
  tier : Option ℤ
  headerOnly : Bool
  toolchainCommit : String
  binderCommit : String
  prodCompiler : String
  outcome : Option Outcome
  furthestGate : ℕ
  gateResults : GateResults
  lanes : List (Lane × LaneRecord Outcome)
  surfaceDiff : SurfaceDiff
  subset : Subset
  oracle : OracleBlock
  failure : Failure
  toolchainBug : ToolchainBug
  metrics : Metrics
  notes : String

/-- `r["lanes"].get(lane)`. -/
def Record.lane (record : Record) (lane : Lane) : Option (LaneRecord Outcome) :=
  record.lanes.lookup lane

/-! ## The written JSON -/

def optOutcomeJson : Option Outcome → Json
  | none => .null
  | some outcome => .str outcome.text

/-- A gate entry of the document, absent until the gate was decided. -/
def gateEntry (name : String) : Option GateStatus → List (String × Json)
  | none => []
  | some status => [(name, .str status.text)]

def LaneGates.entries (gates : LaneGates) : List (String × Json) :=
  gateEntry "4_compile" gates.compile ++
    (gateEntry "5_import" gates.importSmoke ++ gateEntry "6_correct" gates.correct)

def Failure.json (failure : Failure) : Json :=
  .obj [("code", .optStr failure.code),
    ("first_diagnostics", .strs failure.firstDiagnostics),
    ("signal", .optStr failure.signal)]

def OracleBlock.json (oracle : OracleBlock) : Json :=
  .obj ([("layers_used", .strs oracle.layersUsed),
    ("ground_truth_source", .str oracle.groundTruthSource)] ++
    match oracle.pytestSummary with
    | none => []
    | some summary => [("pytest_summary", .str summary)])

def LaneRecord.json (lane : LaneRecord Outcome) : Json :=
  .obj [("outcome", .str lane.outcome.text),
    ("furthest_gate", .int lane.furthestGate),
    ("gate_results", .obj lane.gateResults.entries),
    ("failure", lane.failure.json),
    ("metrics", .obj lane.metrics),
    ("oracle", lane.oracle.json)]

def ToolchainBug.json : ToolchainBug → Json
  | .none => .obj [("status", .str "none")]
  | .suspected kind signature finding =>
      .obj [("status", .str "suspected"), ("kind", .str kind), ("signature", .str signature),
        ("finding", .str finding)]

/-- The document that `finish` writes, in the key order of `main`. -/
def Record.json (record : Record) : Json :=
  .obj [("schema_version", .int 2),
    ("backend", .str record.backend),
    ("slug", .str record.slug),
    ("url", .str record.url),
    ("pinned_commit", .str record.pinnedCommit),
    ("tier", record.tier.elim .null .int),
    ("header_only", .bool record.headerOnly),
    ("toolchain_commit", .str record.toolchainCommit),
    ("binder_commit", .str record.binderCommit),
    ("prod_compiler", .str record.prodCompiler),
    ("outcome", optOutcomeJson record.outcome),
    ("furthest_gate", .int record.furthestGate),
    ("gate_results", .obj (("3_strategy", .str record.gateResults.strategy) ::
      (gateEntry "1_probe" record.gateResults.probe ++ record.gateResults.lane.entries))),
    ("lanes", .obj (record.lanes.map fun entry ↦ (entry.1.text, entry.2.json))),
    ("surface_diff", .obj [("status", .str record.surfaceDiff.status.text),
      ("mismatches", .strs record.surfaceDiff.mismatches)]),
    ("subset", .obj [("reflect_args", .strs record.subset.reflectArgs),
      ("rationale", .str record.subset.rationale),
      ("skipped_features", .strs record.subset.skippedFeatures)]),
    ("oracle", record.oracle.json),
    ("failure", record.failure.json),
    ("toolchain_bug", record.toolchainBug.json),
    ("metrics", .obj record.metrics),
    ("artifacts", .obj []),
    ("notes", .str record.notes)]

end ReflectNanobind.Gates
