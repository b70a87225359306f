import ReflectNanobind.Corpus.Aggregate
import ReflectNanobind.Gates.ResultSchema

/-!
# Result documents

A result document is an object that was read from a file, that validates against the result schema
but for its tier, and whose tier is an integer, `null` or missing.  Everything that the aggregation
reads of such a document is there, so that the aggregation of any list of them meets no error.
-/

namespace ReflectNanobind.Corpus

open Library Library.JsonSchema Library.JsonAccess Library.Grouping Gates

/-! ## The schema without the tier -/

/-- The properties that a schema lists. -/
def listed : Schema → List (String × Schema)
  | [] => []
  | .properties schemas :: _ => schemas
  | _ :: rest => listed rest

def withoutTier {α : Type} (fields : List (String × α)) : List (String × α) :=
  fields.filter fun entry ↦ !decide (entry.1 = "tier")

theorem lookup_withoutTier {α : Type} (fields : List (String × α)) {name : String}
    (h : name ≠ "tier") : (withoutTier fields).lookup name = fields.lookup name := by
  induction fields with
  | nil => rfl
  | cons entry rest ih =>
      obtain ⟨other, value⟩ := entry
      by_cases htier : other = "tier"
      · have hne : name ≠ other := by rwa [htier]
        have hdropped : withoutTier ((other, value) :: rest) = withoutTier rest := by
          simp [withoutTier, htier]
        rw [hdropped, ih, List.lookup_cons, beq_eq_false_iff_ne.mpr hne]
      · have hkept : withoutTier ((other, value) :: rest) = (other, value) :: withoutTier rest := by
          simp [withoutTier, htier]
        rw [hkept, List.lookup_cons, List.lookup_cons, ih]

theorem lookup_withoutTier_tier {α : Type} (fields : List (String × α)) :
    (withoutTier fields).lookup "tier" = none := by
  refine List.lookup_eq_none_iff.mpr fun entry hentry ↦ ?_
  have hname : entry.1 ≠ "tier" := by simpa using (List.mem_filter.mp hentry).2
  exact bne_iff_ne.mpr hname.symm

/-- A valid document stays valid without its tier. -/
theorem validates_withoutTier {fields : List (String × Json)}
    (h : validates resultSchema (.obj fields) = true) :
    validates resultSchema (.obj (withoutTier fields)) = true := by
  rw [validates_iff] at h ⊢
  intro keyword hkeyword
  have haccepts := h keyword hkeyword
  simp only [resultSchema, List.mem_cons, List.not_mem_nil, or_false] at hkeyword
  rcases hkeyword with rfl | rfl | rfl
  · exact haccepts
  · refine List.all_eq_true.mpr fun name hname ↦ ?_
    have hne : name ≠ "tier" := by
      rintro rfl
      exact absurd hname (by decide)
    rw [lookup_withoutTier _ hne]
    exact List.all_eq_true.mp haccepts name hname
  · rw [Keyword.accepts, propertiesAccept_iff] at haccepts ⊢
    intro entry hentry value hvalue
    by_cases htier : entry.1 = "tier"
    · rw [htier, lookup_withoutTier_tier] at hvalue
      cases hvalue
    · rw [lookup_withoutTier _ htier] at hvalue
      exact haccepts entry hentry value hvalue

def tierAllowed : Option Json → Bool
  | none => true
  | some (.scalar .null) => true
  | some (.scalar (.int _)) => true
  | some _ => false

/-- A loaded document whose outcome is in the taxonomy and whose tier is an integer or absent. -/
structure ResultDocument where
  fields : List (String × Json)
  loaded : JsonDumps.loaded (.obj fields) = true
  valid : validates resultSchema (.obj (withoutTier fields)) = true
  tierAllowed : tierAllowed (fields.lookup "tier") = true

def resultProperties : List (String × Schema) := withoutTier (listed resultSchema)

theorem isObjectSchema_result : IsObjectSchema resultSchema (listed resultSchema) :=
  ⟨.head _, .tail _ (.tail _ (.head _))⟩

theorem mem_resultProperties {name : String} {schema : Schema}
    (h : resultProperties.lookup name = some schema) : (name, schema) ∈ resultProperties := by
  obtain ⟨before, after, hsplit, -⟩ := List.lookup_eq_some_iff.mp h
  simp [hsplit]

theorem isTextSchema_outcome : IsTextSchema outcomeSchema :=
  isTextSchema_enum ["A", "B", "C", "D", "E", "E-weak"]

theorem isTextSchema_gateStatus : IsTextSchema gateStatusSchema :=
  isTextSchema_enum ["pass", "fail", "skip"]

namespace ResultDocument

variable (d : ResultDocument)

def json : Json := .obj d.fields

theorem objectOf : ObjectOf resultProperties d.json := by
  refine ⟨d.fields, rfl, ?_⟩
  rw [propertiesAccept_iff]
  intro entry hentry value hvalue
  obtain ⟨hlisted, hname⟩ := List.mem_filter.mp hentry
  have hvalid := (validates_iff _ _).mp d.valid _ isObjectSchema_result.2
  rw [Keyword.accepts, propertiesAccept_iff] at hvalid
  refine hvalid entry hlisted value ?_
  rw [lookup_withoutTier _ (by simpa using hname)]
  exact hvalue

/-- The properties that every document has. -/
theorem item_valid {name : String} {schema : Schema}
    (hrequired : name ∈ ["schema_version", "slug", "outcome", "furthest_gate", "gate_results"])
    (hmem : (name, schema) ∈ resultProperties) :
    ∃ value, item d.json name = .ok value ∧ validates schema value = true := by
  have hvalid := (validates_iff _ _).mp d.valid _ (by simp [resultSchema] : Keyword.required
    ["schema_version", "slug", "outcome", "furthest_gate", "gate_results"] ∈ resultSchema)
  have hpresent := List.all_eq_true.mp hvalid name hrequired
  have hname : name ≠ "tier" := by
    rintro rfl
    exact absurd hrequired (by decide)
  rw [lookup_withoutTier _ hname] at hpresent
  obtain ⟨value, hvalue⟩ := Option.isSome_iff_exists.mp hpresent
  obtain ⟨fields, hfields, haccept⟩ := d.objectOf
  obtain rfl : d.fields = fields := by simpa [json] using hfields
  rw [propertiesAccept_iff] at haccept
  exact ⟨value, by simp [json, item, hvalue], haccept _ hmem value hvalue⟩

/-- `r.get(name) or {}` is an object with the properties of its schema. -/
theorem objectOf_block {name : String} {schema : Schema} {inner : List (String × Schema)}
    (hlookup : resultProperties.lookup name = some schema) (h : IsObjectSchema schema inner) :
    ObjectOf inner (orElse ((d.fields.lookup name).getD .null) emptyDict) := by
  obtain ⟨block, hblock, hobject⟩ := get_object d.objectOf (mem_resultProperties hlookup) h
  have hread : JsonAccess.get d.json name = .ok ((d.fields.lookup name).getD .null) := rfl
  obtain rfl := Except.ok.inj (hread.symm.trans hblock)
  exact hobject

/-! ### Slug, outcome and tier -/

def slug : String := textAt d.json "slug" ""

def outcome : String := textAt d.json "outcome" ""

def tier : Option ℤ :=
  match d.fields.lookup "tier" with
  | some (.scalar (.int tier)) => some tier
  | _ => none

theorem item_slug : item d.json "slug" = .ok (.str d.slug) := by
  obtain ⟨value, hread, hvalid⟩ := d.item_valid (by simp)
    (mem_resultProperties rfl : ("slug", stringSchema) ∈ _)
  obtain ⟨text, rfl⟩ := isTextSchema_string value hvalid
  rw [hread, slug, textAt_of_item hread]

theorem outcome_spec : item d.json "outcome" = .ok (.str d.outcome) ∧ d.outcome ∈ outcomeOrder := by
  obtain ⟨value, hread, hvalid⟩ := d.item_valid (by simp)
    (mem_resultProperties rfl : ("outcome", outcomeSchema) ∈ _)
  have henum : validates [.enum (["A", "B", "C", "D", "E", "E-weak"].map .str)] value = true :=
    hvalid
  obtain ⟨text, htext, rfl⟩ := exists_mem_of_enum henum
  have hsubset : ["A", "B", "C", "D", "E", "E-weak"] ⊆ outcomeOrder := by decide
  rw [outcome, textAt_of_item hread]
  exact ⟨hread, hsubset htext⟩

/-- What `r.get("tier")` returns. -/
theorem get_tier : JsonAccess.get d.json "tier" = .ok (d.tier.elim .null .int) := by
  have hread : JsonAccess.get d.json "tier" = .ok ((d.fields.lookup "tier").getD .null) := rfl
  have htier := d.tierAllowed
  rw [hread, tier]
  cases hlookup : d.fields.lookup "tier" with
  | none => rfl
  | some value =>
      rw [hlookup] at htier
      cases value with
      | scalar value =>
          cases value with
          | null => rfl
          | int tier => rfl
          | _ => simp [Corpus.tierAllowed] at htier
      | _ => simp [Corpus.tierAllowed] at htier

theorem tierOf_json : tierOf d.json = .ok d.tier := by
  rw [tierOf, d.get_tier]
  cases d.tier <;> rfl

theorem format_tier : format (d.tier.elim .null .int) = .ok (tierText d.tier) := by
  cases d.tier <;> rfl

/-! ### The row of the per-run table -/

/-- `r.get("lanes") or {}`. -/
def lanes : Json := orElse ((d.fields.lookup "lanes").getD .null) emptyDict

theorem get_lanes : ∃ block, JsonAccess.get d.json "lanes" = .ok block ∧
    orElse block emptyDict = d.lanes := ⟨_, rfl, rfl⟩

theorem objectOf_lanes : ObjectOf (listed lanesSchema) d.lanes :=
  d.objectOf_block rfl ⟨.head _, .tail _ (.head _)⟩

/-- `lanes.get(name) or {}`. -/
def laneBlock (name : String) : Json :=
  match JsonAccess.get d.lanes name with
  | .ok lane => orElse lane emptyDict
  | .error _ => emptyDict

theorem get_laneBlock {name : String} (hmem : (name, laneSchema) ∈ listed lanesSchema) :
    ∃ lane, JsonAccess.get d.lanes name = .ok lane ∧ orElse lane emptyDict = d.laneBlock name ∧
      ObjectOf (listed laneSchema) (d.laneBlock name) := by
  obtain ⟨lane, hlane, hobject⟩ := get_object d.objectOf_lanes hmem
    (⟨.head _, .tail _ (.tail _ (.head _))⟩ : IsObjectSchema laneSchema (listed laneSchema))
  have hblock : d.laneBlock name = orElse lane emptyDict := by rw [laneBlock, hlane]
  exact ⟨lane, hlane, hblock.symm, hblock ▸ hobject⟩

/-- `r.get("surface_diff") or {}`. -/
def surfaceDiff : Json := orElse ((d.fields.lookup "surface_diff").getD .null) emptyDict

theorem objectOf_surfaceDiff : ObjectOf (listed surfaceDiffSchema) d.surfaceDiff :=
  d.objectOf_block rfl ⟨.head _, .tail _ (.head _)⟩

/-- `r.get("failure") or {}`. -/
def failureBlock : Json := orElse ((d.fields.lookup "failure").getD .null) emptyDict

theorem objectOf_failureBlock : ObjectOf (listed failureSchema) d.failureBlock :=
  d.objectOf_block rfl ⟨.head _, .tail _ (.head _)⟩

/-- The code of the failure; no code and the empty one count alike. -/
def failureCode : String := textAt d.failureBlock "code" ""

/-- `r["furthest_gate"]` as it is shown. -/
def furthestGate : String := ((item d.json "furthest_gate").bind format).toOption.getD ""

/-- `r["gate_results"].get("3_strategy", "")`. -/
def strategy : String := textAt ((d.fields.lookup "gate_results").getD .null) "3_strategy" ""

/-- `r.get("pinned_commit", "")`. -/
def pinnedCommit : String := textAt d.json "pinned_commit" ""

/-- `r.get("notes", "").strip()[:90]`. -/
def shownNotes : String := clipped (Text.strip (textAt d.json "notes" ""))

/-- The cells of the document's row. -/
def cells : List String :=
  [d.slug, tierText d.tier, d.outcome, textAt (d.laneBlock "constexpr") "outcome" d.outcome,
    textAt (d.laneBlock "emit") "outcome" "-", textAt d.surfaceDiff "status" "-", d.furthestGate,
    d.strategy, d.pinnedCommit, d.failureCode ++ " " ++ d.shownNotes]

def row : String := tableRow d.cells

/-- The gate is shown as a number. -/
theorem furthestGate_spec : ∃ gate, item d.json "furthest_gate" = .ok gate ∧
    format gate = .ok d.furthestGate ∧
      ∀ char ∈ d.furthestGate.toList, JsonNumber.numberChar char = true := by
  obtain ⟨gate, hgate, hvalid⟩ := d.item_valid (by simp)
    (mem_resultProperties rfl : ("furthest_gate", furthestGateSchema) ∈ _)
  have hshown {text : String} (h : format gate = .ok text) : d.furthestGate = text := by
    rw [furthestGate, hgate]
    exact congrArg (fun read : Read String ↦ read.toOption.getD "") h
  refine ⟨gate, hgate, ?_⟩
  cases gate with
  | scalar gate =>
      cases gate with
      | int gate =>
          rw [hshown rfl, String.toList_ofList]
          exact ⟨rfl, fun _ ↦ JsonNumber.numberChar_of_mem_writeInt⟩
      | decimal mantissa places =>
          rw [hshown rfl, String.toList_ofList]
          exact ⟨rfl, fun _ ↦ JsonNumber.numberChar_of_mem_writeDecimal⟩
      | _ => simp [furthestGateSchema, validates, Keyword.accepts, JsonType.describes] at hvalid
  | _ => simp [furthestGateSchema, validates, Keyword.accepts, JsonType.describes] at hvalid

theorem item_gateResults :
    item d.json "gate_results" = .ok ((d.fields.lookup "gate_results").getD .null) ∧
      ObjectOf (listed gateResultsSchema) ((d.fields.lookup "gate_results").getD .null) := by
  obtain ⟨gates, hgates, hvalid⟩ := d.item_valid (by simp)
    (mem_resultProperties rfl : ("gate_results", gateResultsSchema) ∈ _)
  have hlookup : d.fields.lookup "gate_results" = some gates := by
    cases hfound : d.fields.lookup "gate_results" with
    | none => simp [item, json, hfound] at hgates
    | some found => simpa [item, json, hfound] using hgates
  rw [hgates, hlookup]
  exact ⟨rfl, objectOf_of_validates ⟨.head _, .tail _ (.head _)⟩ hvalid⟩

theorem perRunRow_json : perRunRow d.json = .ok d.row := by
  have hfailure : JsonAccess.get d.json "failure" = .ok ((d.fields.lookup "failure").getD .null) := rfl
  have hsurface : JsonAccess.get d.json "surface_diff" =
    .ok ((d.fields.lookup "surface_diff").getD .null) := rfl
  obtain ⟨code, hcode, hfc⟩ := get_nullable d.objectOf_failureBlock (.head _) rfl
  obtain ⟨lanes, hlanes, hlanesElse⟩ := d.get_lanes
  obtain ⟨constexpr, hconstexpr, hconstexprElse, hconstexprObject⟩ := d.get_laneBlock (.head _)
  obtain ⟨emit, hemit, hemitElse, hemitObject⟩ := d.get_laneBlock (.tail _ (.head _))
  have hcx := getD_text hconstexprObject (.head _) isTextSchema_outcome d.outcome
  have hem := getD_text hemitObject (.head _) isTextSchema_outcome "-"
  have hsd := getD_text d.objectOf_surfaceDiff (.head _) isTextSchema_gateStatus "-"
  obtain ⟨hgates, hgatesObject⟩ := d.item_gateResults
  have hstrategy := getD_text hgatesObject (.tail _ (.head _))
    (isTextSchema_enum ["single_stage", "two_stage"]) ""
  have hpin := getD_text d.objectOf
    (mem_resultProperties rfl : ("pinned_commit", stringSchema) ∈ _) isTextSchema_string ""
  have hnotes := getD_text d.objectOf
    (mem_resultProperties rfl : ("notes", stringSchema) ∈ _) isTextSchema_string ""
  obtain ⟨gate, hgate, hgateText, -⟩ := d.furthestGate_spec
  rw [failureBlock] at hcode hfc
  rw [surfaceDiff] at hsd
  simp only [perRunRow, hfailure, hcode, hfc, hlanes, hlanesElse, hconstexpr, hconstexprElse, hcx,
    hemit, hemitElse, hem, hsurface, hsd, hgates, hstrategy, hpin, hnotes, hgate, d.get_tier,
    d.item_slug, d.outcome_spec.1, ok_bind, List.mapM_cons, List.mapM_nil, hgateText, d.format_tier]
  rfl

def rowKey : ℤ × String := (d.tier.getD 0, d.slug)

theorem rowKey_json : Corpus.rowKey d.json = .ok d.rowKey := by
  simp only [Corpus.rowKey, d.tierOf_json, d.item_slug, ok_bind]
  rfl

def keyed : (ℤ × String) × Json := (d.rowKey, d.json)

/-- The order of the rows. -/
def RowBefore (left right : ResultDocument) : Prop := KeyBefore left.rowKey right.rowKey

instance : DecidableRel RowBefore := fun left right ↦
  inferInstanceAs (Decidable (KeyBefore left.rowKey right.rowKey))

/-! ### The emit lane -/

/-- The emit lane, or `None`. -/
def emit : Json :=
  match d.lanes with
  | .obj fields => (fields.lookup "emit").getD .null
  | _ => .null

def hasEmit : Bool := truthy d.emit

theorem get_emit : JsonAccess.get d.lanes "emit" = .ok d.emit := by
  obtain ⟨fields, hfields, -⟩ := d.objectOf_lanes
  rw [emit, hfields]
  rfl

/-- A lane that is not false is there, and valid. -/
theorem emitLane_json (h : d.hasEmit = true) :
    emitLane d.json = .ok d.emit ∧ validates laneSchema d.emit = true := by
  obtain ⟨block, hblock, horElse⟩ := d.get_lanes
  have hblockTruthy : truthy block = true := by
    by_contra hfalse
    have hempty : d.lanes = emptyDict := by rw [← horElse, orElse, if_neg hfalse]
    rw [hasEmit, emit, hempty] at h
    exact Bool.false_ne_true h
  have hlanes : d.lanes = block := by rw [← horElse, orElse, if_pos hblockTruthy]
  have hitem := item_of_get d.get_emit h
  rw [hlanes] at hitem
  refine ⟨?_, ?_⟩
  · rw [emitLane, item_of_get hblock hblockTruthy, ok_bind, hitem]
  · rcases getD_cases d.objectOf_lanes (.tail _ (.head _)) .null with hnone | ⟨lane, hlane, hvalid⟩
    · have hnull : d.emit = .null := Except.ok.inj (d.get_emit.symm.trans hnone)
      rw [hasEmit, hnull] at h
      exact absurd h Bool.false_ne_true
    · obtain rfl : d.emit = lane := Except.ok.inj (d.get_emit.symm.trans hlane)
      exact hvalid

/-! ### The toolchain bug -/

/-- `r.get("toolchain_bug") or {}`. -/
def toolchainBug : Json := orElse ((d.fields.lookup "toolchain_bug").getD .null) emptyDict

def bugStatus : String := textAt d.toolchainBug "status" "none"

/-- The status of the block is not `none`. -/
def flagged : Bool := decide (d.bugStatus ≠ "none")

/-- The first nonempty text among finding, signature and kind. -/
def groupKey : String :=
  if textAt d.toolchainBug "finding" "" ≠ "" then textAt d.toolchainBug "finding" ""
  else if textAt d.toolchainBug "signature" "" ≠ "" then textAt d.toolchainBug "signature" ""
  else if textAt d.toolchainBug "kind" "" ≠ "" then textAt d.toolchainBug "kind" ""
  else "unknown"

/-- What a group holds of the document. -/
def hit : Json × Json := (.str d.slug, d.toolchainBug)

theorem get_toolchainBug : ∃ block, JsonAccess.get d.json "toolchain_bug" = .ok block ∧
    orElse block emptyDict = d.toolchainBug := ⟨_, rfl, rfl⟩

theorem objectOf_toolchainBug : ObjectOf (listed toolchainBugSchema) d.toolchainBug :=
  d.objectOf_block rfl ⟨.head _, .tail _ (.head _)⟩

theorem getD_status :
    getD d.toolchainBug "status" (.str "none") = .ok (.str d.bugStatus) :=
  getD_text d.objectOf_toolchainBug (.head _) (isTextSchema_enum ["none", "suspected", "confirmed"]) _

theorem bugKey_toolchainBug : bugKey d.toolchainBug = .ok (.str d.groupKey) := by
  have hobject := d.objectOf_toolchainBug
  obtain ⟨finding, hfinding, hfindingElse⟩ :=
    get_text hobject (.tail _ (.tail _ (.tail _ (.tail _ (.head _))))) isTextSchema_string
  obtain ⟨signature, hsignature, hsignatureElse⟩ :=
    get_text hobject (.tail _ (.tail _ (.head _))) isTextSchema_string
  obtain ⟨kind, hkind, hkindElse⟩ := get_text hobject (.tail _ (.head _)) isTextSchema_string
  simp only [bugKey, hfinding, hsignature, hkind, ok_bind, hfindingElse, hsignatureElse, hkindElse,
    groupKey, ne_eq, ite_not]
  split_ifs <;> rfl

/-- The texts that a heading takes from a block. -/
theorem format_bug {name : String} {schema : Schema}
    (hmem : (name, schema) ∈ listed toolchainBugSchema) (hschema : IsTextSchema schema) :
    ∃ value text, JsonAccess.get d.toolchainBug name = .ok value ∧ format value = .ok text := by
  rcases getD_cases d.objectOf_toolchainBug hmem .null with hnone | ⟨value, hread, hvalid⟩
  · exact ⟨.null, "None", hnone, rfl⟩
  · obtain ⟨text, rfl⟩ := hschema value hvalid
    exact ⟨.str text, text, hread, rfl⟩

end ResultDocument

/-! ## The aggregation of result documents -/

section Aggregation

variable (results : List ResultDocument)

theorem histogram_json : histogram (results.map ResultDocument.json) =
    .ok (tallyBy ResultDocument.tier ResultDocument.outcome results,
      tally ResultDocument.outcome results) := by
  have hloop : histogram (results.map ResultDocument.json) =
      .ok (results.foldl (fun counts d ↦
        (upsert d.tier [] (upsert d.outcome 0 (· + 1)) counts.1,
          upsert d.outcome 0 (· + 1) counts.2)) ([], [])) := by
    refine foldlM_eq_ok (fun d _ counts ↦ ?_) _
    rw [d.tierOf_json, ok_bind, d.outcome_spec.1]
    rfl
  rw [hloop]
  exact congrArg Except.ok (foldl_pair
    (fun byTier (d : ResultDocument) ↦ upsert d.tier [] (upsert d.outcome 0 (· + 1)) byTier)
    (fun overall (d : ResultDocument) ↦ upsert d.outcome 0 (· + 1) overall) results ([], []))

/-- The rows of the table are those of the documents in the order of their keys. -/
theorem perRunRows_json : perRunRows (results.map ResultDocument.json) =
    .ok ((results.insertionSort ResultDocument.RowBefore).map ResultDocument.row) := by
  have hkeyed : ((results.map ResultDocument.json).mapM fun r ↦ do pure (← rowKey r, r)) =
      .ok (results.map ResultDocument.keyed) :=
    mapM_eq_ok fun d _ ↦ by rw [d.rowKey_json]; rfl
  have hsorted : (results.map ResultDocument.keyed).insertionSort
      (fun left right ↦ KeyBefore left.1 right.1) =
        (results.insertionSort ResultDocument.RowBefore).map ResultDocument.keyed :=
    (List.map_insertionSort ResultDocument.RowBefore
      (fun left right : (ℤ × String) × Json ↦ KeyBefore left.1 right.1) ResultDocument.keyed results
      fun _ _ _ _ ↦ Iff.rfl).symm
  rw [perRunRows, hkeyed, ok_bind, hsorted]
  exact mapM_eq_ok fun d _ ↦ d.perRunRow_json

theorem bugGroups_json : bugGroups (results.map ResultDocument.json) =
    .ok (gather ResultDocument.groupKey ResultDocument.hit
      (results.filter ResultDocument.flagged)) := by
  refine foldlM_filter_eq_ok (fun d _ hskip groups ↦ ?_) (fun d _ hflagged groups ↦ ?_) []
  · have hnone : d.bugStatus = "none" := by simpa [ResultDocument.flagged] using hskip
    obtain ⟨block, hblock, helse⟩ := d.get_toolchainBug
    simp only [hblock, ok_bind, helse, d.getD_status, hnone, equalsText_str, decide_true, if_true]
    rfl
  · have hne : d.bugStatus ≠ "none" := by simpa [ResultDocument.flagged] using hflagged
    obtain ⟨block, hblock, helse⟩ := d.get_toolchainBug
    simp only [hblock, ok_bind, helse, d.getD_status, equalsText_str, hne, decide_false,
      Bool.false_eq_true, if_false, d.bugKey_toolchainBug, asText_str, d.item_slug]
    rfl

theorem joinSlugs_str (slugs : List String) :
    joinSlugs (slugs.map .str) = .ok (Text.join ", " slugs) := by
  have hslugs : (slugs.map Json.str).mapM asText = .ok (slugs.map id) :=
    mapM_eq_ok fun slug _ ↦ asText_str slug
  rw [joinSlugs, hslugs, List.map_id]
  rfl

theorem emitRuns_json : emitRuns (results.map ResultDocument.json) =
    .ok ((results.filter ResultDocument.hasEmit).map ResultDocument.json) := by
  have hloop : emitRuns (results.map ResultDocument.json) =
      .ok ((results.filter ResultDocument.hasEmit).foldl (fun runs d ↦ runs ++ [d.json]) []) := by
    refine foldlM_filter_eq_ok (fun d _ hskip runs ↦ ?_) (fun d _ hemit runs ↦ ?_) []
    all_goals
      obtain ⟨block, hblock, horElse⟩ := d.get_lanes
      simp only [hblock, ok_bind, horElse, d.get_emit]
    · rw [ResultDocument.hasEmit] at hskip
      rw [hskip]
      rfl
    · rw [ResultDocument.hasEmit] at hemit
      rw [hemit]
      rfl
  rw [hloop, foldl_append_member, List.nil_append]

section Runs

variable {runs : List ResultDocument} (h : ∀ d ∈ runs, d.hasEmit = true)

include h

theorem emitCounts_json : ∃ counts, emitCounts (runs.map ResultDocument.json) = .ok counts := by
  have hloop : ∃ counts, emitCounts (runs.map ResultDocument.json) = .ok counts ∧ True := by
    refine foldlM_ok (fun _ ↦ True) (fun d hd counts _ ↦ ?_) trivial
    obtain ⟨hlane, hvalid⟩ := d.emitLane_json (h d hd)
    obtain ⟨outcome, houtcome, htext⟩ := item_of_required hvalid
      ⟨.head _, .tail _ (.tail _ (.head _))⟩ (.tail _ (.head _)) (.head _) (.head _)
    obtain ⟨text, rfl⟩ := isTextSchema_outcome outcome htext
    refine ⟨upsert text 0 (· + 1) counts, ?_, trivial⟩
    rw [hlane, ok_bind, houtcome]
    rfl
  obtain ⟨counts, hcounts, -⟩ := hloop
  exact ⟨counts, hcounts⟩

omit h in
theorem surfaceFailures_json :
    ∃ slugs : List String, surfaceFailures (runs.map ResultDocument.json) = .ok (slugs.map .str) := by
  have hloop : ∃ failed, surfaceFailures (runs.map ResultDocument.json) = .ok failed ∧
      ∃ slugs : List String, failed = slugs.map .str := by
    refine foldlM_ok (fun failed ↦ ∃ slugs : List String, failed = slugs.map Json.str)
      (fun d _ failed hfailed ↦ ?_) ⟨[], rfl⟩
    obtain ⟨slugs, rfl⟩ := hfailed
    obtain ⟨surface, hsurface, hobject⟩ := get_object d.objectOf
      (mem_resultProperties rfl : ("surface_diff", surfaceDiffSchema) ∈ _)
      ⟨.head _, .tail _ (.head _)⟩
    obtain ⟨status, hstatus, -⟩ := get_text hobject (.head _) isTextSchema_gateStatus
    simp only [hsurface, ok_bind, hstatus, d.item_slug]
    split
    · exact ⟨_, rfl, slugs ++ [d.slug], by simp⟩
    · exact ⟨_, rfl, slugs, rfl⟩
  obtain ⟨failed, hfailed, slugs, rfl⟩ := hloop
  exact ⟨slugs, hfailed⟩

/-- Every cluster holds slugs. -/
theorem failureClusters_json : ∃ clusters,
    failureClusters (runs.map ResultDocument.json) = .ok clusters ∧
      ∀ cluster ∈ clusters, ∃ slugs : List String, cluster.2 = slugs.map .str := by
  refine foldlM_ok (fun clusters : Dict String (List Json) ↦ ∀ cluster ∈ clusters,
    ∃ slugs : List String, cluster.2 = slugs.map Json.str) (fun d hd clusters hclusters ↦ ?_) (by simp)
  obtain ⟨hlane, hvalid⟩ := d.emitLane_json (h d hd)
  obtain ⟨failure, hfailure, hobject⟩ := get_object
    (objectOf_of_validates ⟨.head _, .tail _ (.tail _ (.head _))⟩ hvalid)
    (.tail _ (.tail _ (.tail _ (.head _)))) ⟨.head _, .tail _ (.head _)⟩
  obtain ⟨code, hcode, htext⟩ := get_nullable hobject (.head _) rfl
  simp only [hlane, ok_bind, hfailure, hcode, d.item_slug]
  split
  · next htruthy =>
      rw [orElse, if_pos htruthy] at htext
      subst htext
      refine ⟨upsert _ [] (· ++ [.str d.slug]) clusters, rfl, fun cluster hcluster ↦ ?_⟩
      rcases mem_upsert hcluster with hold | ⟨members, hmembers, rfl⟩
      · exact hclusters cluster hold
      · rcases hmembers with rfl | hmembers
        · exact ⟨[d.slug], rfl⟩
        · obtain ⟨slugs, hslugs⟩ := hclusters _ hmembers
          refine ⟨slugs ++ [d.slug], ?_⟩
          simp only at hslugs
          simp [hslugs]
  · exact ⟨clusters, rfl, hclusters⟩

end Runs

theorem emitSection_json :
    ∃ lines, emitSection (results.map ResultDocument.json) = .ok lines := by
  have hruns : ∀ d ∈ results.filter ResultDocument.hasEmit, d.hasEmit = true :=
    fun d hd ↦ (List.mem_filter.mp hd).2
  obtain ⟨counts, hcounts⟩ := emitCounts_json hruns
  obtain ⟨slugs, hslugs⟩ := @surfaceFailures_json (results.filter ResultDocument.hasEmit)
  obtain ⟨clusters, hclusters, hmembers⟩ := failureClusters_json hruns
  have hlines : ∃ lines, (ranked clusters).mapM clusterLine = .ok lines := by
    refine exists_mapM_ok fun cluster hcluster ↦ ?_
    obtain ⟨members, hmembers⟩ := hmembers cluster ((List.mem_insertionSort _).mp hcluster)
    exact ⟨_, by rw [clusterLine, hmembers, joinSlugs_str]; rfl⟩
  obtain ⟨lines, hlines⟩ := hlines
  rw [emitSection, emitRuns_json, ok_bind]
  split
  · exact ⟨_, rfl⟩
  · simp only [hcounts, hslugs, hclusters, hlines, joinSlugs_str, ok_bind]
    split <;> exact ⟨_, rfl⟩

/-- A group of documents as `toolchain_bugs.md` has it. -/
def groupHits (group : String × List ResultDocument) : String × List (Json × Json) :=
  (group.1, group.2.map ResultDocument.hit)

/-- The section of a group: its key, its size and the slugs of its members. -/
def SectionOf (group : String × List ResultDocument) (lines : List String) : Prop :=
  ∃ status kind, lines = ["## " ++ group.1 ++ "  —  " ++ toString group.2.length ++ " repo(s), " ++
    status ++ " (" ++ kind ++ ")",
    "- hit by: " ++ Text.join ", " (group.2.map ResultDocument.slug), ""]

theorem bugSection_groupHits {group : String × List ResultDocument} (h : group.2 ≠ []) :
    ∃ lines, bugSection (groupHits group) = .ok lines ∧ SectionOf group lines := by
  obtain ⟨key, members⟩ := group
  obtain ⟨d, rest, rfl⟩ := List.exists_cons_of_ne_nil h
  obtain ⟨status, statusText, hstatus, hstatusText⟩ := d.format_bug (.head _)
    (isTextSchema_enum ["none", "suspected", "confirmed"])
  obtain ⟨kind, kindText, hkind, hkindText⟩ := d.format_bug (.tail _ (.head _)) isTextSchema_string
  have hhits : (d :: rest).map ResultDocument.hit =
      (.str d.slug, d.toolchainBug) :: rest.map ResultDocument.hit := rfl
  have hlength : ((d :: rest).map ResultDocument.hit).length = (d :: rest).length :=
    List.length_map _
  have hslugs : ((d :: rest).map ResultDocument.hit).map Prod.fst =
      ((d :: rest).map ResultDocument.slug).map .str := by simp [ResultDocument.hit]
  refine ⟨_, ?_, statusText, kindText, rfl⟩
  rw [groupHits]
  rw [hhits] at hlength hslugs ⊢
  simp only [bugSection, hslugs, hlength, joinSlugs_str, hstatus, hstatusText, hkind, hkindText,
    ok_bind]
  rfl

/-- The groups of documents, in the order of the report. -/
def bugReport : Dict String (List ResultDocument) :=
  ranked (gather ResultDocument.groupKey id (results.filter ResultDocument.flagged))

theorem mem_bugReport {group : String × List ResultDocument} (h : group ∈ bugReport results) :
    group.2 ≠ [] ∧ group.2 =
      part ResultDocument.groupKey (results.filter ResultDocument.flagged) group.1 := by
  obtain ⟨hkey, hmembers⟩ := mem_gather _ _ _ ((List.mem_insertionSort _).mp h)
  rw [List.map_id] at hmembers
  obtain ⟨d, hd, hdkey⟩ := List.mem_map.mp hkey
  exact ⟨hmembers ▸ List.ne_nil_of_mem ((mem_part _).mpr ⟨hd, hdkey⟩), hmembers⟩

theorem ranked_gather : ranked (gather ResultDocument.groupKey ResultDocument.hit
    (results.filter ResultDocument.flagged)) = (bugReport results).map groupHits := by
  rw [bugReport, ranked, ranked, List.map_insertionSort LongerBefore LongerBefore groupHits _
    fun _ _ _ _ ↦ by simp [LongerBefore, groupHits], gather_eq, gather_eq, List.map_map]
  simp [groupHits, Function.comp_def]

theorem bugLines_json : ∃ sections, bugLines ((bugReport results).map groupHits) =
    .ok (bugPreamble ((bugReport results).map groupHits) ++ sections.flatten) ∧
      List.Forall₂ SectionOf (bugReport results) sections := by
  have hsections : ∃ sections, ((bugReport results).map groupHits).mapM bugSection = .ok sections ∧
      List.Forall₂ SectionOf (bugReport results) sections :=
    mapM_ok fun group hgroup ↦ bugSection_groupHits (mem_bugReport results hgroup).1
  obtain ⟨sections, hsections, hall⟩ := hsections
  exact ⟨sections, by rw [bugLines, hsections]; rfl, hall⟩

/-- The aggregation of result documents meets no error, and what it computes from them. -/
theorem main_json : ∃ emit sections, main (results.map ResultDocument.json) = .ok {
      total := results.length
      resultsJsonl := Text.printLines ((results.map ResultDocument.json).map JsonDumps.dumps)
      byTier := tallyBy ResultDocument.tier ResultDocument.outcome results
      overall := tally ResultDocument.outcome results
      perRun := (results.insertionSort ResultDocument.RowBefore).map ResultDocument.row
      emit := emit
      groups := (bugReport results).map groupHits
      tlines := bugPreamble ((bugReport results).map groupHits) ++ sections.flatten } ∧
    List.Forall₂ SectionOf (bugReport results) sections := by
  obtain ⟨emit, hemit⟩ := emitSection_json results
  obtain ⟨sections, hsections, hlisted⟩ := bugLines_json results
  refine ⟨emit, sections, ?_, hlisted⟩
  simp only [main, histogram_json, perRunRows_json, hemit, bugGroups_json, ranked_gather, hsections,
    ok_bind, List.length_map]
  rfl

end Aggregation

end ReflectNanobind.Corpus
