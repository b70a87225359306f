import ReflectNanobind.Gates.Undecodable
import ReflectNanobind.Library.Grouping
import ReflectNanobind.Library.JsonLayout

/-!
# The result file

The text that `finish` writes.  Every dictionary of the document keeps one value for a key, whatever
the launched commands answer, so that the text of the file is read back as the record that was written,
with its measurements in shortest form.
-/

namespace ReflectNanobind.Gates

open Library Library.JsonSchema Library.JsonLayout Library.JsonDumps

/-! ## The text -/

/-- `json.dumps(r, indent=2) + "\n"`. -/
def Record.resultText (r : Record) : String := dumpsIndent 2 r.json ++ "\n"

/-- `f"result{SUFFIX}.json"`. -/
def Invocation.resultFile (inv : Invocation) : String := "result" ++ inv.suffix ++ ".json"

/-! ## Metrics -/

/-- Measurements under distinct names. -/
structure PlainMetrics (metrics : Metrics) : Prop where
  keys : (metrics.map Prod.fst).Nodup
  scalars : ∀ entry ∈ metrics, ∃ value, entry.2 = .scalar value

theorem plainMetrics_nil : PlainMetrics [] := ⟨List.nodup_nil, by simp⟩

theorem setKey_eq_upsert {α : Type} (name : String) (value : α) (fields : List (String × α)) :
    setKey name value fields = Grouping.upsert name value (fun _ ↦ value) fields := by
  induction fields with
  | nil => rfl
  | cons entry rest ih =>
      rw [setKey, Grouping.upsert, ih]
      split <;> simp_all

section Metrics

variable {metrics : Metrics}

theorem PlainMetrics.setKey (h : PlainMetrics metrics) (name : String) (value : Scalar) :
    PlainMetrics (setKey name (.scalar value) metrics) where
  keys := by
    rw [setKey_eq_upsert]
    exact Grouping.nodup_keys_upsert h.keys _ _ _
  scalars := by
    intro entry hentry
    rw [setKey_eq_upsert] at hentry
    rcases Grouping.mem_upsert hentry with hold | ⟨_, _, rfl⟩
    · exact h.scalars entry hold
    · exact ⟨value, rfl⟩

theorem PlainMetrics.update (h : PlainMetrics metrics) {entries : Metrics}
    (hentries : ∀ entry ∈ entries, ∃ value, entry.2 = .scalar value) :
    PlainMetrics (update metrics entries) := by
  induction entries generalizing metrics with
  | nil => exact h
  | cons entry entries ih =>
      obtain ⟨value, hvalue⟩ := hentries entry List.mem_cons_self
      have hset : PlainMetrics (JsonSchema.setKey entry.1 entry.2 metrics) := by
        rw [hvalue]
        exact h.setKey entry.1 value
      exact ih hset fun other hother ↦ hentries other (List.mem_cons_of_mem _ hother)

theorem scalars_prefixKeys (name : String) (h : PlainMetrics metrics) :
    ∀ entry ∈ prefixKeys name metrics, ∃ value, entry.2 = .scalar value := by
  intro entry hentry
  obtain ⟨original, horiginal, rfl⟩ := List.mem_map.mp hentry
  exact h.scalars original horiginal

theorem distinct_metrics (h : PlainMetrics metrics) : distinct (.obj metrics) = true := by
  refine distinct_obj_iff.mpr ⟨h.keys, fun entry hentry ↦ ?_⟩
  obtain ⟨value, hvalue⟩ := h.scalars entry hentry
  rw [hvalue]
  rfl

end Metrics

/-! ## Records -/

/-- The code of the failure, if there is one, is on one line. -/
def Failure.OneLine (failure : Failure) : Prop := ∀ code ∈ failure.code, Text.OneLine code

/-- What `run_lane` ensures of a lane, whatever the launched commands answer. -/
structure LaneRecord.Written {ω : Type} (lane : LaneRecord ω) : Prop where
  furthestGate : lane.furthestGate ≤ 6
  metrics : PlainMetrics lane.metrics
  failure : lane.failure.OneLine

/-- What every invocation ensures of its record, whatever the launched commands answer: no dictionary
has a key twice, no gate is beyond the last, and neither the notes nor the code of a failure has a line
boundary inside. -/
structure Record.WrittenBy (inv : Invocation) (r : Record) : Prop where
  slug : r.slug = inv.toml.slug
  pin : r.pinnedCommit = inv.toml.pin.getD ""
  tier : r.tier = inv.toml.tier
  strategy : r.gateResults.strategy = inv.strategy
  furthestGate : r.furthestGate ≤ 6
  metrics : PlainMetrics r.metrics
  lanes : (r.lanes.map Prod.fst).Nodup
  lanesWritten : ∀ entry ∈ r.lanes, entry.2.Written
  notes : Text.OneLine r.notes
  failure : r.failure.OneLine

theorem Lane.text_injective : Function.Injective Lane.text := by
  intro left right h
  cases left <;> cases right <;> first | rfl | exact absurd h (by decide)

theorem distinct_strs (texts : List String) : distinct (.strs texts) = true := by
  simp [Json.strs, distinct, distinctItems_eq, Json.str]

theorem distinct_optStr (text : Option String) : distinct (.optStr text) = true := by
  cases text <;> rfl

theorem distinct_entries (gates : LaneGates) : (gates.entries.map Prod.fst).Nodup ∧
    distinctFields gates.entries = true := by
  obtain ⟨compile, importSmoke, correct⟩ := gates
  cases compile <;> cases importSmoke <;> cases correct <;>
    simp [LaneGates.entries, gateEntry, distinctFields, distinct, Json.str]

theorem distinct_failure (failure : Failure) : distinct failure.json = true := by
  simp [Failure.json, distinct, distinctFields, distinct_strs, distinct_optStr]

theorem distinct_oracle (oracle : OracleBlock) : distinct oracle.json = true := by
  cases hsummary : oracle.pytestSummary <;>
    simp [OracleBlock.json, hsummary, distinct, distinctFields, distinct_strs, Json.str]

theorem distinct_toolchainBug (bug : ToolchainBug) : distinct bug.json = true := by
  cases bug <;> simp [ToolchainBug.json, distinct, distinctFields, Json.str]

theorem distinct_lane {lane : LaneRecord Outcome} (h : PlainMetrics lane.metrics) :
    distinct lane.json = true := by
  have hmetrics := distinct_metrics h
  rw [distinct, Bool.and_eq_true] at hmetrics
  simp [LaneRecord.json, distinct, distinctFields, distinct_failure, distinct_oracle, Json.str,
    Json.int, distinct_entries, of_decide_eq_true hmetrics.1, hmetrics.2]

/-- The document of a record whose dictionaries are well keyed has no repeated key. -/
theorem distinct_record {inv : Invocation} {r : Record} (h : r.WrittenBy inv) :
    distinct r.json = true := by
  have hlanes : distinct (.obj (r.lanes.map fun entry ↦ (entry.1.text, entry.2.json))) = true := by
    refine distinct_obj_iff.mpr ⟨?_, fun entry hentry ↦ ?_⟩
    · have hnames := h.lanes.map Lane.text_injective
      rwa [List.map_map] at hnames ⊢
    · obtain ⟨lane, hlane, rfl⟩ := List.mem_map.mp hentry
      exact distinct_lane (h.lanesWritten lane hlane).metrics
  have hgates : distinct (.obj (("3_strategy", .str r.gateResults.strategy) ::
      (gateEntry "1_probe" r.gateResults.probe ++ r.gateResults.lane.entries))) = true := by
    obtain ⟨strategy, probe, compile, importSmoke, correct⟩ := r.gateResults
    cases probe <;> cases compile <;> cases importSmoke <;> cases correct <;>
      simp [LaneGates.entries, gateEntry, distinct, distinctFields, Json.str]
  have htier : distinct (r.tier.elim .null .int) = true := by cases r.tier <;> rfl
  have houtcome : distinct (optOutcomeJson r.outcome) = true := by cases r.outcome <;> rfl
  have hsurface : distinct (.obj [("status", .str r.surfaceDiff.status.text),
      ("mismatches", .strs r.surfaceDiff.mismatches)]) = true := by
    simp [distinct, distinctFields, distinct_strs, Json.str]
  have hsubset : distinct (.obj [("reflect_args", .strs r.subset.reflectArgs),
      ("rationale", .str r.subset.rationale),
      ("skipped_features", .strs r.subset.skippedFeatures)]) = true := by
    simp [distinct, distinctFields, distinct_strs, Json.str]
  refine distinct_obj_iff.mpr ⟨?_, ?_⟩
  · simp only [List.map_cons, List.map_nil]
    decide
  · simp only [List.forall_mem_cons, hlanes, hgates, htier, houtcome, hsurface, hsubset,
      distinct_metrics h.metrics, distinct_failure, distinct_oracle, distinct_toolchainBug,
      distinct_str, distinct_int, distinct_bool, true_and]
    exact ⟨rfl, by simp⟩

/-! ## Every stage keeps the keys distinct -/

section Stages

variable (inv : Invocation) (lane : Lane)

theorem generatedTuMetrics_returns {metrics : Metrics} (h : PlainMetrics metrics) :
    (generatedTuMetrics lane metrics).Returns PlainMetrics := by
  unfold generatedTuMetrics
  split
  · refine Program.returns_ask_bind fun found ↦ ?_
    split
    · exact Program.returns_ask_bind fun text ↦
        (h.setKey "generated_tu_lines" _).setKey "generated_tu_bytes" _
    · exact h
  · exact h

theorem oneLine_failStage (stderr : String) : Text.OneLine (failStage stderr) := by
  unfold failStage
  split
  · next line hline =>
      exact Text.oneLine_afterEquals (Text.oneLine_of_mem_splitlines (List.mem_of_find?_eq_some hline))
  · exact Text.one_line_of_all (by decide)

theorem oneLine_importSignal (imp : Completed) : Text.OneLine (importSignal imp) := by
  unfold importSignal
  split
  · exact Text.one_line_of_all (by decide)
  split
  · exact Text.one_line_of_all (by decide)
  · exact Text.oneLine_int _

theorem Failure.oneLine_none {failure : Failure} (h : failure.code = none) : failure.OneLine := by
  simp [Failure.OneLine, h]

theorem Failure.oneLine_some {failure : Failure} {code : String} (h : failure.code = some code)
    (hcode : Text.OneLine code) : failure.OneLine := by
  intro other hother
  rw [h, Option.mem_some_iff] at hother
  exact hother ▸ hcode

/-- A lane's measurements have distinct names, its gates are in range and the code of its failure is on
one line, however it ends. -/
theorem runLane_returns (bug : ToolchainBug) : (runLane inv lane bug).Returns fun result ↦
    result.1.Written := by
  refine Program.returns_ask_bind fun b ↦ Program.returns_ask_bind fun seconds ↦ ?_
  have hbuild : PlainMetrics (setKey "binding_compile_seconds" (.scalar (.decimal seconds 2)) []) :=
    plainMetrics_nil.setKey _ _
  dsimp only [laneRecord]
  split
  · exact ⟨(by decide : 1 ≤ 6), hbuild, Failure.oneLine_some rfl
      (Text.oneLine_append.mpr ⟨Text.one_line_of_all (by decide), oneLine_failStage _⟩)⟩
  refine Program.returns_bind (generatedTuMetrics_returns lane hbuild) fun metrics hmetrics ↦
    Program.returns_ask_bind fun imp ↦ ?_
  split
  · exact ⟨(by decide : 4 ≤ 6), hmetrics, Failure.oneLine_some rfl
      (Text.oneLine_append.mpr
        ⟨Text.one_line_of_all (by decide), Text.oneLine_lower (oneLine_importSignal imp)⟩)⟩
  refine Program.returns_ask_bind fun found ↦ ?_
  split
  · exact ⟨le_rfl, hmetrics, Failure.oneLine_none rfl⟩
  refine Program.returns_ask_bind fun t ↦ ?_
  split
  · exact ⟨le_rfl, hmetrics, Failure.oneLine_some rfl (Text.one_line_of_all (by decide))⟩
  · exact ⟨le_rfl, hmetrics, Failure.oneLine_none rfl⟩

theorem startRecord_returns : (startRecord inv).Returns fun r ↦
    ∃ toolchain binder prod, r = newRecord inv toolchain binder prod := by
  refine Program.returns_bind (Program.returns_of_forall _ fun _ ↦ trivial)
    fun toolchain (_ : True) ↦ Program.returns_ask_bind fun binder ↦ ?_
  exact Program.returns_bind (Program.returns_of_forall _ fun _ ↦ trivial)
    fun prod (_ : True) ↦ ⟨_, _, _, rfl⟩

/-- The oracle leg writes the oracle block and the notes, nothing else. -/
theorem oracleLeg_returns {r : Record} (h : Text.OneLine r.notes) :
    (oracleLeg inv r).Returns fun result ↦ ∃ oracle notes,
      Text.OneLine notes ∧ result.2 = { r with oracle := oracle, notes := notes } := by
  refine Program.returns_ask_bind fun native ↦ ?_
  split
  · refine Program.returns_ask_bind fun ob ↦ ?_
    split
    · refine Program.returns_ask_bind fun res ↦ ?_
      split
      · exact Program.returns_ask_bind fun _ ↦ ⟨_, r.notes, h, rfl⟩
      · exact ⟨r.oracle, _, Text.oneLine_append.mpr ⟨h, Text.one_line_of_all (by decide)⟩, rfl⟩
    · exact ⟨r.oracle, _, Text.oneLine_append.mpr ⟨h, Text.one_line_of_all (by decide)⟩, rfl⟩
  · exact ⟨r.oracle, r.notes, h, rfl⟩

section Records

variable {inv} {r : Record}

theorem oneLine_storeLane (h : Text.OneLine r.notes) (hasDiff hasTests : Bool)
    (L : LaneRecord (Option Outcome)) (bug : ToolchainBug) :
    Text.OneLine (storeLane hasDiff hasTests lane L bug r).notes := by
  have hlane : Text.OneLine lane.text := by cases lane <;> exact Text.one_line_of_all (by decide)
  unfold storeLane
  dsimp only
  split
  · rw [Text.oneLine_append, Text.oneLine_append]
    exact ⟨⟨h, hlane⟩, Text.one_line_of_all (by decide)⟩
  · exact h

/-- The loop stores each lane of the list once. -/
theorem laneLoop_returns (hasDiff hasTests : Bool) (lanes : List Lane) (h : r.WrittenBy inv)
    (hlanes : (r.lanes.map Prod.fst ++ lanes).Nodup) :
    (laneLoop inv hasDiff hasTests lanes r).Returns (Record.WrittenBy inv) := by
  induction lanes generalizing r with
  | nil => exact h
  | cons lane rest ih =>
      refine Program.returns_bind (runLane_returns inv lane r.toolchainBug) fun result hresult ↦ ?_
      have hstored : ((storeLane hasDiff hasTests lane result.1 result.2 r).lanes.map Prod.fst) =
          r.lanes.map Prod.fst ++ [lane] := by simp [storeLane]
      have hnodup : (r.lanes.map Prod.fst ++ [lane] ++ rest).Nodup := by simpa using hlanes
      have hsettled : (settle hasDiff hasTests result.1).Written :=
        ⟨hresult.furthestGate, hresult.metrics, hresult.failure⟩
      refine ih { h with lanes := ?_, lanesWritten := ?_, notes := ?_ } (by rwa [hstored])
      · rw [hstored]
        exact (List.nodup_append.mp hnodup).1
      · intro entry hentry
        rcases List.mem_append.mp hentry with hold | hnew
        · exact h.lanesWritten entry hold
        · rw [List.mem_singleton.mp hnew]
          exact hsettled
      · exact oneLine_storeLane lane h.notes hasDiff hasTests _ _

/-- The line that goes into the notes is one of those that the comparison printed. -/
theorem oneLine_storeSurfaceDiff (h : Text.OneLine r.notes) (sd : Completed) :
    Text.OneLine (storeSurfaceDiff r sd).notes := by
  unfold storeSurfaceDiff
  dsimp only
  split
  · rw [Text.oneLine_append, Text.oneLine_append]
    refine ⟨⟨h, ?_⟩, Text.one_line_of_all (by decide)⟩
    cases hline : (Text.splitlines sd.stdout).find? (Text.startsWith · summaryPrefix) with
    | none => exact Text.one_line_of_all (by decide)
    | some line => exact Text.oneLine_of_mem_splitlines (List.mem_of_find?_eq_some hline)
  · exact h

theorem surfaceGate_returns (h : r.WrittenBy inv) :
    (surfaceGate inv r).Returns (Record.WrittenBy inv) := by
  unfold surfaceGate
  split
  · exact Program.returns_ask_bind fun sd ↦
      { h with notes := oneLine_storeSurfaceDiff h.notes sd }
  · exact h

theorem combine_writtenBy (h : r.WrittenBy inv) : (combine inv r).WrittenBy inv := by
  unfold combine
  dsimp only
  split
  · exact { h with failure := Failure.oneLine_some rfl (Text.one_line_of_all (by decide)) }
  · exact { h with }

theorem mem_lanes_of_lane {L : LaneRecord Outcome} (hlane : r.lane lane = some L) :
    (lane, L) ∈ r.lanes := by
  obtain ⟨before, after, hlanes, -⟩ := List.lookup_eq_some_iff.mp hlane
  simp [hlanes]

/-- The mirrored failure is the run's or the lane's. -/
theorem oneLine_mirrorFailure {L : LaneRecord Outcome} (h : r.failure.OneLine)
    (hlane : L.failure.OneLine) : (mirrorFailure r L).OneLine := by
  unfold mirrorFailure
  split
  · exact hlane
  · exact h

theorem mirrorConstexpr_writtenBy (h : r.WrittenBy inv) : (mirrorConstexpr r).WrittenBy inv := by
  unfold mirrorConstexpr
  split
  · exact h
  · next cx hcx =>
      have hlane := h.lanesWritten _ (mem_lanes_of_lane .constexpr hcx)
      exact { h with
        furthestGate := hlane.furthestGate
        metrics := h.metrics.update (scalars_prefixKeys "constexpr" hlane.metrics)
        failure := oneLine_mirrorFailure h.failure hlane.failure }

theorem mirrorEmit_writtenBy (h : r.WrittenBy inv) : (mirrorEmit r).WrittenBy inv := by
  unfold mirrorEmit
  split
  · exact h
  · next em hem =>
      have hlane := h.lanesWritten _ (mem_lanes_of_lane .emit hem)
      exact { h with
        metrics := h.metrics.update (scalars_prefixKeys "emit" hlane.metrics)
        failure := oneLine_mirrorFailure h.failure hlane.failure }

end Records

/-- The record with which the gates begin, with the measurement of the probe. -/
theorem newRecord_writtenBy (toolchain binder prod : String) (seconds : ℕ) :
    Record.WrittenBy inv { newRecord inv toolchain binder prod with
      metrics := setKey "probe_seconds" (.scalar (.decimal seconds 2)) [] } where
  slug := rfl
  pin := rfl
  tier := rfl
  strategy := rfl
  furthestGate := Nat.zero_le _
  metrics := plainMetrics_nil.setKey _ _
  lanes := List.nodup_nil
  lanesWritten := by simp [newRecord]
  notes := by simp [newRecord, Text.OneLine]
  failure := Failure.oneLine_none rfl

/-- The record that is written, whatever the launched commands answer. -/
theorem gatedRecord_returns : (gatedRecord inv).Returns (Record.WrittenBy inv) := by
  have hlanes : inv.lanesToRun.Nodup := by
    rcases inv.lanesToRun_cases with h | h | h <;> rw [h] <;> decide
  refine Program.returns_bind (startRecord_returns inv) fun r hr ↦
    Program.returns_bind (Program.returns_of_forall _ fun _ ↦ trivial) fun _ (_ : True) ↦
      Program.returns_ask_bind fun p ↦ Program.returns_ask_bind fun seconds ↦ ?_
  obtain ⟨toolchain, binder, prod, rfl⟩ := hr
  have hnew := newRecord_writtenBy inv toolchain binder prod seconds
  dsimp only
  split
  · exact { hnew with failure := Failure.oneLine_some rfl (Text.one_line_of_all (by decide)) }
  refine Program.returns_bind (oracleLeg_returns inv hnew.notes) fun oracle horacle ↦
    Program.returns_ask_bind fun hasTests ↦ ?_
  obtain ⟨block, notes, hnotes, horacle⟩ := horacle
  have hwritten : oracle.2.WrittenBy inv := by
    rw [horacle]
    exact { hnew with furthestGate := (by decide : 1 ≤ 6), notes := hnotes }
  refine Program.returns_bind (laneLoop_returns _ _ _ hwritten ?_) fun r hr ↦
    Program.returns_bind (surfaceGate_returns hr) fun r hr ↦
      mirrorEmit_writtenBy (mirrorConstexpr_writtenBy (combine_writtenBy hr))
  simpa [horacle, probePassed, newRecord] using hlanes

end Stages

/-! ## The record that is read back -/

/-- The measurements as their texts are read: without a zero at the end. -/
def shortened (metrics : Metrics) : Metrics :=
  metrics.map fun entry ↦ (entry.1, canonical entry.2)

def LaneRecord.shortened (lane : LaneRecord Outcome) : LaneRecord Outcome :=
  { lane with metrics := Gates.shortened lane.metrics }

def Record.shortened (r : Record) : Record :=
  { r with
    metrics := Gates.shortened r.metrics
    lanes := r.lanes.map fun entry ↦ (entry.1, entry.2.shortened) }

theorem canonical_str (text : String) : canonical (.str text) = .str text := rfl

theorem canonical_strs (texts : List String) : canonical (.strs texts) = .strs texts := by
  simp [Json.strs, canonical, canonicalItems_eq, Function.comp_def, canonical_str]

theorem canonical_optStr (text : Option String) : canonical (.optStr text) = .optStr text := by
  cases text <;> rfl

theorem canonical_gateEntry (name : String) (gate : Option GateStatus) :
    canonicalFields (gateEntry name gate) = gateEntry name gate := by
  cases gate <;> rfl

theorem canonical_entries (gates : LaneGates) : canonicalFields gates.entries = gates.entries := by
  obtain ⟨compile, importSmoke, correct⟩ := gates
  cases compile <;> cases importSmoke <;> cases correct <;> rfl

theorem canonical_failure (failure : Failure) : canonical failure.json = failure.json := by
  simp [Failure.json, canonical, canonicalFields, canonical_strs, canonical_optStr]

theorem canonical_oracle (oracle : OracleBlock) : canonical oracle.json = oracle.json := by
  cases hsummary : oracle.pytestSummary <;>
    simp [OracleBlock.json, hsummary, canonical, canonicalFields, canonical_strs, canonical_str]

theorem canonical_toolchainBug (bug : ToolchainBug) : canonical bug.json = bug.json := by
  cases bug <;> rfl

theorem canonical_metrics (metrics : Metrics) :
    canonical (.obj metrics) = .obj (shortened metrics) := by
  rw [canonical, canonicalFields_eq, shortened]

theorem canonical_lane (lane : LaneRecord Outcome) : canonical lane.json = lane.shortened.json := by
  have hgates : canonical (.obj lane.gateResults.entries) = .obj lane.gateResults.entries := by
    rw [canonical, canonical_entries]
  rw [LaneRecord.json, canonical]
  simp only [canonicalFields, canonical_str, canonical_failure, canonical_oracle, hgates,
    canonical_metrics]
  rfl

/-- Only the measurements of a document change their form. -/
theorem canonical_record (r : Record) : canonical r.json = r.shortened.json := by
  have hgates : canonical (.obj (("3_strategy", .str r.gateResults.strategy) ::
      (gateEntry "1_probe" r.gateResults.probe ++ r.gateResults.lane.entries))) =
      .obj (("3_strategy", .str r.gateResults.strategy) ::
        (gateEntry "1_probe" r.gateResults.probe ++ r.gateResults.lane.entries)) := by
    have hprobe := canonical_gateEntry "1_probe" r.gateResults.probe
    have hlane := canonical_entries r.gateResults.lane
    rw [canonicalFields_eq] at hprobe hlane
    rw [canonical, canonicalFields_eq, List.map_cons, List.map_append, hprobe, hlane]
    rfl
  have hlanes : canonical (.obj (r.lanes.map fun entry ↦ (entry.1.text, entry.2.json))) =
      .obj ((r.lanes.map fun entry ↦ (entry.1, entry.2.shortened)).map
        fun entry ↦ (entry.1.text, entry.2.json)) := by
    rw [canonical, canonicalFields_eq, List.map_map, List.map_map]
    simp [Function.comp_def, canonical_lane]
  have hsubset : canonical (.obj [("reflect_args", .strs r.subset.reflectArgs),
      ("rationale", .str r.subset.rationale),
      ("skipped_features", .strs r.subset.skippedFeatures)]) =
      .obj [("reflect_args", .strs r.subset.reflectArgs), ("rationale", .str r.subset.rationale),
        ("skipped_features", .strs r.subset.skippedFeatures)] := by
    simp only [canonical, canonicalFields, canonical_strs, canonical_str]
  have hsurface : canonical (.obj [("status", .str r.surfaceDiff.status.text),
      ("mismatches", .strs r.surfaceDiff.mismatches)]) =
      .obj [("status", .str r.surfaceDiff.status.text),
        ("mismatches", .strs r.surfaceDiff.mismatches)] := by
    simp only [canonical, canonicalFields, canonical_strs, canonical_str]
  have htier : canonical (r.tier.elim .null .int) = r.tier.elim .null .int := by
    cases r.tier <;> rfl
  have houtcome : canonical (optOutcomeJson r.outcome) = optOutcomeJson r.outcome := by
    cases r.outcome <;> rfl
  rw [Record.json, canonical]
  simp only [canonicalFields, canonical_str, hgates, hlanes, hsubset, hsurface, htier, houtcome,
    canonical_failure, canonical_oracle, canonical_toolchainBug, canonical_metrics]
  rfl

/-- A well-keyed record is read back from its text. -/
theorem loads_resultText {inv : Invocation} {r : Record} (h : r.WrittenBy inv) :
    loads r.resultText = some r.shortened.json := by
  have hread := loads_dumpsIndent 2 (distinct_record h) "\n" (by simp [JsonText.IsSpace])
  rw [Record.resultText, hread, canonical_record]

/-! ## The file after a run -/

section Runs

variable (raw : RawHost) (inv : Invocation) (dir : RunDir)

/-- What the backend's result file holds after a run over bytes. -/
theorem main_result : (NothingRaises raw inv dir →
      (raw.main inv dir).2.result = some (document raw.text inv dir)) ∧
    (¬ NothingRaises raw inv dir → (raw.main inv dir).2.result = dir.result) := by
  constructor
  · intro h
    have hreturns := (rawMain_returns_iff raw inv dir).mpr h
    unfold RawHost.main at hreturns ⊢
    rw [if_pos h.1] at hreturns ⊢
    have hanswers := (Program.attempt_returns_iff raw.handler_extends _ _).mp hreturns
    rw [Program.attempt_eq_run raw.handler_extends _ _ hanswers, main_run]
  · intro h
    have hraised := mt (rawMain_returns_iff raw inv dir).mp h
    unfold RawHost.main at hraised ⊢
    split at hraised
    · next hsources =>
        rw [if_pos hsources]
        exact attempt_main_result raw inv dir hraised
    · next hsources => rw [if_neg hsources]

theorem document_writtenBy (host : Host) : (document host inv dir).WrittenBy inv :=
  (gatedRecord_returns inv).run host.handler dir

/-- A run over bytes that nothing interrupts returns and leaves its own document in the result file,
whose text is read back as that document; any other run raises and leaves the file as it found it. -/
theorem main_result_readsBack :
    (NothingRaises raw inv dir → (∃ code, (raw.main inv dir).1 = .ok code) ∧
      (raw.main inv dir).2.result = some (document raw.text inv dir) ∧
      loads (document raw.text inv dir).resultText =
        some (document raw.text inv dir).shortened.json) ∧
    (¬ NothingRaises raw inv dir → (∃ raised, (raw.main inv dir).1 = .error raised) ∧
      (raw.main inv dir).2.result = dir.result) := by
  have hresult := main_result raw inv dir
  have hreturns := rawMain_returns_iff raw inv dir
  constructor
  · intro h
    exact ⟨hreturns.mpr h, hresult.1 h, loads_resultText (document_writtenBy inv dir raw.text)⟩
  · intro h
    refine ⟨?_, hresult.2 h⟩
    cases hmain : (raw.main inv dir).1 with
    | ok code => exact absurd (hreturns.mp ⟨code, hmain⟩) h
    | error raised => exact ⟨raised, rfl⟩

end Runs

end ReflectNanobind.Gates
