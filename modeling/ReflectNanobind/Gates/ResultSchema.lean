import ReflectNanobind.Gates.Document

/-!
# The result schema

`corpus/result_schema.json`, and why every document validates against it.  A record is well typed
when the few fields that are wider than the schema allows stay in its ranges; every stage of a run
keeps that, and a well-typed record with an outcome is valid.
-/

namespace ReflectNanobind.Gates

open Library Library.JsonSchema

/-! ## The schema -/

def stringSchema : Schema := [.type [.string]]

def stringsSchema : Schema := [.type [.array], .items [.type [.string]]]

def nullableSchema : Schema := [.type [.string, .null]]

def gateStatusSchema : Schema := [.enum [.str "pass", .str "fail", .str "skip"]]

def outcomeSchema : Schema :=
  [.enum [.str "A", .str "B", .str "C", .str "D", .str "E", .str "E-weak"]]

def furthestGateSchema : Schema := [.type [.integer], .minimum 0, .maximum 6]

def laneGatesSchema : List (String × Schema) :=
  [("4_compile", gateStatusSchema), ("5_import", gateStatusSchema), ("6_correct", gateStatusSchema)]

def failureSchema : Schema :=
  [.type [.object], .properties [("code", nullableSchema), ("first_diagnostics", stringsSchema),
    ("signal", nullableSchema)]]

/-- `#/definitions/lane`. -/
def laneSchema : Schema :=
  [.type [.object],
    .required ["outcome", "furthest_gate", "gate_results"],
    .properties [("outcome", outcomeSchema),
      ("furthest_gate", furthestGateSchema),
      ("gate_results", [.type [.object], .properties laneGatesSchema]),
      ("failure", failureSchema),
      ("metrics", [.type [.object]]),
      ("oracle", [.type [.object]])]]

def gateResultsSchema : Schema :=
  [.type [.object], .properties (("1_probe", gateStatusSchema) ::
    ("3_strategy", [.enum [.str "single_stage", .str "two_stage"]]) :: laneGatesSchema)]

def lanesSchema : Schema :=
  [.type [.object], .properties [("constexpr", laneSchema), ("emit", laneSchema)]]

def surfaceDiffSchema : Schema :=
  [.type [.object], .properties [("status", gateStatusSchema), ("mismatches", stringsSchema)]]

def subsetSchema : Schema :=
  [.type [.object], .properties [("reflect_args", stringsSchema), ("rationale", stringSchema),
    ("skipped_features", stringsSchema)]]

def oracleSchema : Schema :=
  [.type [.object], .properties [("layers_used", stringsSchema),
    ("assertions_total", [.type [.integer]]), ("assertions_passed", [.type [.integer]]),
    ("ground_truth_source", stringSchema)]]

def toolchainBugSchema : Schema :=
  [.type [.object], .properties
    [("status", [.enum [.str "none", .str "suspected", .str "confirmed"]]), ("kind", stringSchema),
      ("signature", stringSchema), ("repro", stringSchema), ("finding", stringSchema)]]

def resultSchema : Schema :=
  [.type [.object],
    .required ["schema_version", "slug", "outcome", "furthest_gate", "gate_results"],
    .properties [("schema_version", [.enum [.int 1, .int 2]]),
      ("slug", stringSchema),
      ("url", stringSchema),
      ("pinned_commit", stringSchema),
      ("tier", [.type [.integer]]),
      ("header_only", [.type [.boolean]]),
      ("run_id", stringSchema),
      ("toolchain_commit", stringSchema),
      ("binder_commit", stringSchema),
      ("prod_compiler", stringSchema),
      ("outcome", outcomeSchema),
      ("furthest_gate", furthestGateSchema),
      ("gate_results", gateResultsSchema),
      ("lanes", lanesSchema),
      ("surface_diff", surfaceDiffSchema),
      ("subset", subsetSchema),
      ("oracle", oracleSchema),
      ("failure", failureSchema),
      ("toolchain_bug", toolchainBugSchema),
      ("metrics", [.type [.object]]),
      ("artifacts", [.type [.object]]),
      ("notes", stringSchema)]]

/-! ## Valid parts -/

theorem validates_string (text : String) : validates stringSchema (.str text) = true := by
  simp [validates, stringSchema, Keyword.accepts, JsonType.describes, Json.str]

theorem validates_strings (texts : List String) :
    validates stringsSchema (.strs texts) = true := validates_strs texts

theorem validates_optStr (text : Option String) :
    validates nullableSchema (.optStr text) = true := by
  cases text <;>
    simp [validates, nullableSchema, Keyword.accepts, JsonType.describes, Json.optStr, Json.str,
      Json.null]

theorem validates_gateStatus (status : GateStatus) :
    validates gateStatusSchema (.str status.text) = true := by
  cases status <;> decide

theorem validates_outcome (outcome : Outcome) :
    validates outcomeSchema (.str outcome.text) = true := by
  cases outcome <;> decide

theorem validates_furthestGate {gate : ℕ} (h : gate ≤ 6) :
    validates furthestGateSchema (.int gate) = true := by
  have hgate : (gate : ℤ) ≤ 6 := by exact_mod_cast h
  simp [validates, furthestGateSchema, Keyword.accepts, JsonType.describes, Json.int, hgate]

theorem validates_failure (failure : Failure) : validates failureSchema failure.json = true := by
  simp [failureSchema, Failure.json, validates, Keyword.accepts, JsonType.describes,
    propertiesAccept, List.lookup_cons, validates_optStr, validates_strings]

theorem mem_gateEntry {name : String} {gate : Option GateStatus} {entry : String × Json}
    (h : entry ∈ gateEntry name gate) : ∃ status : GateStatus, entry = (name, .str status.text) := by
  cases gate with
  | none => simp [gateEntry] at h
  | some status => exact ⟨status, by simpa [gateEntry] using h⟩

/-- Every gate entry of a lane is the text of a gate status. -/
theorem mem_entries {gates : LaneGates} {entry : String × Json} (h : entry ∈ gates.entries) :
    entry.1 ∈ ["4_compile", "5_import", "6_correct"] ∧
      ∃ status : GateStatus, entry.2 = .str status.text := by
  simp only [LaneGates.entries, List.mem_append] at h
  rcases h with h | h | h <;> obtain ⟨status, rfl⟩ := mem_gateEntry h <;>
    exact ⟨by simp, status, rfl⟩

theorem validates_laneGates (gates : LaneGates) :
    validates [.type [.object], .properties laneGatesSchema] (.obj gates.entries) = true := by
  refine validates_object fun entry hentry value hvalue ↦ ?_
  obtain ⟨status, hstatus⟩ := (mem_entries hvalue).2
  have hschema : entry.2 = gateStatusSchema := by
    simp only [laneGatesSchema, List.mem_cons, List.not_mem_nil, or_false] at hentry
    rcases hentry with rfl | rfl | rfl <;> rfl
  rw [hschema, show value = .str status.text from hstatus]
  exact validates_gateStatus status

theorem validates_lane {lane : LaneRecord Outcome} (h : lane.furthestGate ≤ 6) :
    validates laneSchema lane.json = true := by
  have hgates := validates_laneGates lane.gateResults
  have hfurthest := validates_furthestGate h
  simp only [validates, Bool.and_true, Bool.and_eq_true, Keyword.accepts] at hgates
  simp [laneSchema, LaneRecord.json, validates, Keyword.accepts, JsonType.describes,
    propertiesAccept, List.lookup_nil, List.lookup_cons, validates_outcome, validates_failure,
    OracleBlock.json, hfurthest, hgates.2]

/-! ## Well-typed records -/

/-- What the schema asks beyond the types of the record. -/
structure Record.WellTyped (r : Record) : Prop where
  tier : r.tier.isSome = true
  strategy : r.gateResults.strategy = "single_stage" ∨ r.gateResults.strategy = "two_stage"
  furthestGate : r.furthestGate ≤ 6
  lanes : ∀ entry ∈ r.lanes, entry.2.furthestGate ≤ 6

theorem validates_gateResults {gates : GateResults}
    (h : gates.strategy = "single_stage" ∨ gates.strategy = "two_stage") :
    validates gateResultsSchema (.obj (("3_strategy", .str gates.strategy) ::
      (gateEntry "1_probe" gates.probe ++ gates.lane.entries))) = true := by
  have hstrategy : validates [.enum [.str "single_stage", .str "two_stage"]]
      (.str gates.strategy) = true := by
    rcases h with h | h <;> rw [h] <;> decide
  -- an entry whose name is not the strategy's falls under the schema of gate statuses
  have hstatus {entry : String × Schema} (hentry : entry ∈ (("1_probe", gateStatusSchema) ::
      ("3_strategy", [.enum [.str "single_stage", .str "two_stage"]]) :: laneGatesSchema))
      (hname : entry.1 ≠ "3_strategy") (status : GateStatus) :
      validates entry.2 (.str status.text) = true := by
    have hschema : entry.2 = gateStatusSchema := by
      simp only [laneGatesSchema, List.mem_cons, List.not_mem_nil, or_false] at hentry
      rcases hentry with rfl | rfl | rfl | rfl | rfl <;> first | rfl | exact absurd rfl hname
    rw [hschema]
    exact validates_gateStatus status
  refine validates_object fun entry hentry value hvalue ↦ ?_
  rcases List.mem_cons.mp hvalue with hhead | hrest
  · obtain ⟨hname, rfl⟩ := Prod.mk.inj hhead
    have hschema : entry.2 = [.enum [.str "single_stage", .str "two_stage"]] := by
      simp only [laneGatesSchema, List.mem_cons, List.not_mem_nil, or_false] at hentry
      rcases hentry with rfl | rfl | rfl | rfl | rfl <;> simp at hname ⊢
    rw [hschema]
    exact hstrategy
  rcases List.mem_append.mp hrest with hprobe | hlane
  · obtain ⟨status, hstatus'⟩ := mem_gateEntry hprobe
    obtain ⟨hname, rfl⟩ := Prod.mk.inj hstatus'
    exact hstatus hentry (by simp [hname]) status
  · obtain ⟨hname, status, rfl⟩ := mem_entries hlane
    refine hstatus hentry (fun hstrategyName ↦ ?_) status
    rw [hstrategyName] at hname
    simp at hname

theorem validates_lanes {lanes : List (Lane × LaneRecord Outcome)}
    (h : ∀ entry ∈ lanes, entry.2.furthestGate ≤ 6) :
    validates lanesSchema (.obj (lanes.map fun entry ↦ (entry.1.text, entry.2.json))) = true := by
  refine validates_object fun entry hentry value hvalue ↦ ?_
  obtain ⟨lane, hlane, heq⟩ := List.mem_map.mp hvalue
  obtain ⟨-, rfl⟩ := Prod.mk.inj heq
  have hschema : entry.2 = laneSchema := by
    simp only [List.mem_cons, List.not_mem_nil, or_false] at hentry
    rcases hentry with rfl | rfl <;> rfl
  rw [hschema]
  exact validates_lane (h lane hlane)

theorem validates_surfaceDiff (surfaceDiff : SurfaceDiff) : validates surfaceDiffSchema
    (.obj [("status", .str surfaceDiff.status.text),
      ("mismatches", .strs surfaceDiff.mismatches)]) = true := by
  simp [surfaceDiffSchema, validates, Keyword.accepts, JsonType.describes, propertiesAccept,
    List.lookup_cons, validates_gateStatus, validates_strings]

theorem validates_subset (subset : Subset) : validates subsetSchema
    (.obj [("reflect_args", .strs subset.reflectArgs), ("rationale", .str subset.rationale),
      ("skipped_features", .strs subset.skippedFeatures)]) = true := by
  simp [subsetSchema, validates, Keyword.accepts, JsonType.describes, propertiesAccept,
    List.lookup_cons, validates_string, validates_strings]

theorem validates_oracle (oracle : OracleBlock) : validates oracleSchema oracle.json = true := by
  cases hsummary : oracle.pytestSummary <;>
    simp [oracleSchema, OracleBlock.json, hsummary, validates, Keyword.accepts,
      JsonType.describes, propertiesAccept, List.lookup_nil, List.lookup_cons, validates_string,
      validates_strings]

theorem validates_toolchainBug (bug : ToolchainBug) :
    validates toolchainBugSchema bug.json = true := by
  cases bug with
  | none => decide
  | suspected kind signature finding =>
      simp [toolchainBugSchema, ToolchainBug.json, validates, Keyword.accepts,
        JsonType.describes, propertiesAccept, List.lookup_nil, List.lookup_cons, stringSchema,
        Json.str]

/-- A well-typed record with an outcome is a valid result document. -/
theorem validates_record {r : Record} (h : r.WellTyped) (houtcome : r.outcome.isSome = true) :
    validates resultSchema r.json = true := by
  obtain ⟨outcome, houtcome⟩ := Option.isSome_iff_exists.mp houtcome
  obtain ⟨tier, htier⟩ := Option.isSome_iff_exists.mp h.tier
  have hfurthest := validates_furthestGate h.furthestGate
  rw [Json.int] at hfurthest
  simp [resultSchema, Record.json, validates, Keyword.accepts, JsonType.describes,
    propertiesAccept, List.lookup_nil, List.lookup_cons, houtcome, htier, optOutcomeJson,
    validates_outcome, hfurthest, validates_gateResults h.strategy,
    validates_lanes h.lanes, validates_surfaceDiff, validates_subset, validates_oracle,
    validates_failure, validates_toolchainBug, validates_string, Json.int, Json.bool]

/-! ## Every stage keeps records well typed -/

section Stages

variable {r : Record} (inv : Invocation)

theorem storeSurfaceDiff_wellTyped (h : r.WellTyped) (sd : Completed) :
    (storeSurfaceDiff r sd).WellTyped :=
  ⟨h.tier, h.strategy, h.furthestGate, h.lanes⟩

theorem combine_wellTyped (h : r.WellTyped) : (combine inv r).WellTyped := by
  unfold combine
  dsimp only
  split <;> exact ⟨h.tier, h.strategy, h.furthestGate, h.lanes⟩

theorem mirrorConstexpr_wellTyped (h : r.WellTyped) : (mirrorConstexpr r).WellTyped := by
  unfold mirrorConstexpr
  split
  · exact h
  · rename_i cx hcx
    obtain ⟨before, after, hlanes, -⟩ := List.lookup_eq_some_iff.mp hcx
    have hmem : (Lane.constexpr, cx) ∈ r.lanes := by rw [hlanes]; simp
    exact ⟨h.tier, h.strategy, h.lanes _ hmem, h.lanes⟩

theorem mirrorEmit_wellTyped (h : r.WellTyped) : (mirrorEmit r).WellTyped := by
  unfold mirrorEmit
  split
  · exact h
  · exact ⟨h.tier, h.strategy, h.furthestGate, h.lanes⟩

theorem mirror_wellTyped (h : r.WellTyped) : (mirror r).WellTyped :=
  mirrorEmit_wellTyped (mirrorConstexpr_wellTyped h)

/-- The furthest gate of a settled lane is 1, 4 or 6. -/
theorem settledLane_furthestGate_le (host : Host) (hasDiff hasTests : Bool) (lane : Lane) :
    (settledLane host inv hasDiff hasTests lane).furthestGate ≤ 6 := by
  have hrun := laneResult_run host inv lane hasTests
  unfold settledLane settle
  generalize laneResult host inv lane hasTests = L at hrun
  cases hrun <;> simp [buildFailed, importFailed, untested, testsFailed, testsPassed, laneRecord]

/-- With a tier and a known strategy, the record that `main` writes is well typed. -/
theorem document_wellTyped (host : Host) (dir : RunDir) (htier : inv.toml.tier.isSome = true)
    (hstrategy : inv.strategy = "single_stage" ∨ inv.strategy = "two_stage") :
    (document host inv dir).WellTyped := by
  by_cases hprobe : host.Succeeds inv.probeCommand
  · obtain ⟨_, _, _, _, _, _, hdoc⟩ := document_of_probe_passed host inv dir hprobe
    rw [hdoc]
    refine mirror_wellTyped (combine_wellTyped inv ?_)
    have hlanes : ∀ entry ∈ settledLanes host inv dir, entry.2.furthestGate ≤ 6 := by
      intro entry hentry
      obtain ⟨lane, -, rfl⟩ := List.mem_map.mp hentry
      exact settledLane_furthestGate_le inv host _ _ lane
    unfold surfaced
    split
    · exact storeSurfaceDiff_wellTyped ⟨htier, hstrategy, by simp [laneStage], hlanes⟩ _
    · exact ⟨htier, hstrategy, by simp [laneStage], hlanes⟩
  · obtain ⟨_, _, _, _, hdoc⟩ := document_of_probe_failed host inv dir hprobe
    rw [hdoc]
    exact ⟨htier, hstrategy, by simp [probeFailed, newRecord], by simp [probeFailed, newRecord]⟩

end Stages

end ReflectNanobind.Gates
