import ReflectNanobind.Corpus.Conservation

/-!
# The emit lane of the report

The section of `report.md` on the emit lane, in closed form: the runs that have one, their outcomes
counted and sorted, the runs whose surface comparison failed, and the failing runs clustered by the code
of their failure.  No run is lost or counted twice, and the largest cluster comes first.
-/

namespace ReflectNanobind.Corpus

open Library Library.JsonSchema Library.JsonAccess Library.Grouping Gates

/-! ## What is read of one document -/

namespace ResultDocument

variable (d : ResultDocument)

/-- `r["lanes"]["emit"]["outcome"]`. -/
def emitOutcome : String := textAt d.emit "outcome" ""

/-- `r["lanes"]["emit"].get("failure") or {}`. -/
def emitFailure : Json :=
  match get d.emit "failure" with
  | .ok failure => orElse failure emptyDict
  | .error _ => emptyDict

/-- The code of the emit lane's failure; no code and the empty one count alike. -/
def emitCode : String := textAt d.emitFailure "code" ""

def emitFailed : Bool := decide (d.emitCode ≠ "")

def surfaceFailed : Bool := decide (textAt d.surfaceDiff "status" "" = "fail")

section Emit

variable {d} (h : d.hasEmit = true)

include h

theorem item_emitOutcome : item d.emit "outcome" = .ok (.str d.emitOutcome) := by
  obtain ⟨outcome, houtcome, htext⟩ := item_of_required (d.emitLane_json h).2
    ⟨.head _, .tail _ (.tail _ (.head _))⟩ (.tail _ (.head _)) (.head _) (.head _)
  obtain ⟨text, rfl⟩ := isTextSchema_outcome outcome htext
  rw [emitOutcome, textAt_of_item houtcome, houtcome]

theorem get_emitFailure : ∃ failure, JsonAccess.get d.emit "failure" = .ok failure ∧
    orElse failure emptyDict = d.emitFailure ∧
      ObjectOf [("code", nullableSchema), ("first_diagnostics", stringsSchema),
        ("signal", nullableSchema)] d.emitFailure := by
  obtain ⟨failure, hfailure, hobject⟩ := get_object
    (objectOf_of_validates ⟨.head _, .tail _ (.tail _ (.head _))⟩ (d.emitLane_json h).2)
    (.tail _ (.tail _ (.tail _ (.head _)))) ⟨.head _, .tail _ (.head _)⟩
  have heq : d.emitFailure = orElse failure emptyDict := by rw [emitFailure, hfailure]
  exact ⟨failure, hfailure, heq.symm, heq ▸ hobject⟩

/-- The code is false when it is missing, `null` or empty, and else it is a text. -/
theorem get_emitCode : ∃ code, JsonAccess.get d.emitFailure "code" = .ok code ∧
    truthy code = d.emitFailed ∧ (d.emitFailed = true → code = .str d.emitCode) := by
  obtain ⟨failure, -, -, hobject⟩ := get_emitFailure h
  obtain ⟨code, hcode, htruthy, htext⟩ := get_nullable_text hobject (.head _) rfl
  exact ⟨code, hcode, htruthy, fun hfailed ↦ htext (of_decide_eq_true hfailed)⟩

end Emit

theorem get_surfaceStatus : ∃ status, JsonAccess.get d.surfaceDiff "status" = .ok status ∧
    equalsText status "fail" = d.surfaceFailed :=
  get_text_equals d.objectOf_surfaceDiff (.head _) isTextSchema_gateStatus (by decide)

end ResultDocument

/-! ## The loops of the section -/

section Runs

variable {runs : List ResultDocument} (h : ∀ d ∈ runs, d.hasEmit = true)

include h

theorem emitCounts_tally : emitCounts (runs.map ResultDocument.json) =
    .ok (tally ResultDocument.emitOutcome runs) := by
  refine foldlM_eq_ok (fun d hd counts ↦ ?_) []
  rw [(d.emitLane_json (h d hd)).1, ok_bind, ResultDocument.item_emitOutcome (h d hd)]
  rfl

theorem failureClusters_gather : failureClusters (runs.map ResultDocument.json) =
    .ok (gather ResultDocument.emitCode (fun d ↦ .str d.slug)
      (runs.filter ResultDocument.emitFailed)) := by
  refine foldlM_filter_eq_ok (fun d hd hpassed clusters ↦ ?_) (fun d hd hfailed clusters ↦ ?_) []
  all_goals
    obtain ⟨failure, hfailure, horElse, -⟩ := ResultDocument.get_emitFailure (h d hd)
    obtain ⟨code, hcode, htruthy, htext⟩ := ResultDocument.get_emitCode (h d hd)
    simp only [(d.emitLane_json (h d hd)).1, ok_bind, hfailure, horElse, hcode, htruthy]
  · rw [hpassed]
    rfl
  · rw [hfailed, htext hfailed]
    simp only [if_true, asText_str, ok_bind, d.item_slug]
    rfl

omit h in
theorem surfaceFailures_slugs : surfaceFailures (runs.map ResultDocument.json) =
    .ok (((runs.filter ResultDocument.surfaceFailed).map ResultDocument.slug).map .str) := by
  have hloop : surfaceFailures (runs.map ResultDocument.json) =
      .ok ((runs.filter ResultDocument.surfaceFailed).foldl
        (fun failed d ↦ failed ++ [.str d.slug]) []) := by
    refine foldlM_filter_eq_ok (fun d _ hpassed failed ↦ ?_) (fun d _ hfailed failed ↦ ?_) []
    all_goals
      obtain ⟨status, hstatus, hequals⟩ := d.get_surfaceStatus
      have hsurface : JsonAccess.get d.json "surface_diff" =
          .ok ((d.fields.lookup "surface_diff").getD .null) := rfl
      simp only [hsurface, ok_bind]
      rw [← ResultDocument.surfaceDiff, hstatus, ok_bind, hequals]
    · rw [hpassed]
      rfl
    · rw [hfailed]
      simp only [if_true, d.item_slug, ok_bind]
      rfl
  rw [hloop, foldl_append_member, List.nil_append, List.map_map]
  rfl

end Runs

/-! ## The section -/

/-- The runs with an emit lane. -/
def emitMembers (results : List ResultDocument) : List ResultDocument :=
  results.filter ResultDocument.hasEmit

/-- The counts in the order of `sorted(em_counts.items())`. -/
def outcomeCounts (runs : List ResultDocument) : Dict String ℕ :=
  (tally ResultDocument.emitOutcome runs).insertionSort fun left right ↦ left.1 ≤ right.1

/-- The clusters in the order of the report. -/
def emitClusters (runs : List ResultDocument) : Dict String (List ResultDocument) :=
  ranked (gather ResultDocument.emitCode id (runs.filter ResultDocument.emitFailed))

def clusterText (cluster : String × List ResultDocument) : String :=
  "- `" ++ cluster.1 ++ "`: " ++ toString cluster.2.length ++ " run(s) -- " ++
    Text.join ", " (cluster.2.map ResultDocument.slug)

/-- The lines of the section behind its heading. -/
def emitBody (results : List ResultDocument) : List String :=
  let runs := emitMembers results
  let failed := (runs.filter ResultDocument.surfaceFailed).map ResultDocument.slug
  if runs = [] then ["_No run has an emit lane yet (meta.toml [emit])._"]
  else ["Runs with an emit lane: **" ++ toString runs.length ++ "** / " ++ toString results.length ++
      "; outcomes: " ++ Text.join ", " ((outcomeCounts runs).map fun entry ↦
        entry.1 ++ "=" ++ toString entry.2)] ++
    ((if failed = [] then [] else ["Surface-diff failures: " ++ Text.join ", " failed]) ++
      (emitClusters runs).map clusterText)

theorem ranked_gather_map {β γ : Type} (key : ResultDocument → String)
    (first : ResultDocument → β) (second : β → γ) (items : List ResultDocument) :
    ranked (gather key (second ∘ first) items) =
      (ranked (gather key first items)).map fun group ↦ (group.1, group.2.map second) := by
  rw [ranked, ranked, List.map_insertionSort LongerBefore LongerBefore
    (fun group : String × List β ↦ (group.1, group.2.map second)) _
    fun _ _ _ _ ↦ by simp [LongerBefore], gather_eq, gather_eq, List.map_map]
  simp [Function.comp_def]

theorem clusterLines (runs : List ResultDocument) :
    (ranked (gather ResultDocument.emitCode (fun d ↦ Json.str d.slug)
      (runs.filter ResultDocument.emitFailed))).mapM clusterLine =
      .ok ((emitClusters runs).map clusterText) := by
  have hclusters := ranked_gather_map ResultDocument.emitCode id
    (fun d : ResultDocument ↦ Json.str d.slug) (runs.filter ResultDocument.emitFailed)
  rw [Function.comp_id] at hclusters
  rw [hclusters]
  refine mapM_eq_ok fun cluster _ ↦ ?_
  have hslugs : cluster.2.map (fun d ↦ Json.str d.slug) =
      (cluster.2.map ResultDocument.slug).map .str := by simp
  rw [clusterLine, hslugs, joinSlugs_str, ok_bind]
  simp only [List.length_map]
  rfl

/-- What the section says of these runs. -/
structure EmitReported (runs : List ResultDocument) : Prop where
  outcomes : ((outcomeCounts runs).map Prod.fst).Nodup
  sorted : ((outcomeCounts runs).map Prod.fst).Pairwise (· ≤ ·)
  counted : ∀ entry ∈ outcomeCounts runs, 0 < entry.2 ∧
    entry.2 = (part ResultDocument.emitOutcome runs entry.1).length
  total : ((outcomeCounts runs).map Prod.snd).sum = runs.length
  codes : ((emitClusters runs).map Prod.fst).Nodup
  members : ((emitClusters runs).flatMap Prod.snd).Perm (runs.filter ResultDocument.emitFailed)
  clustered : ∀ d ∈ runs, d.emitFailed = true →
    ∃! cluster, cluster ∈ emitClusters runs ∧ d ∈ cluster.2
  same_code : ∀ cluster ∈ emitClusters runs, cluster.2 ≠ [] ∧
    ∀ d ∈ cluster.2, d.emitCode = cluster.1
  ranked : (emitClusters runs).Pairwise fun left right ↦ right.2.length ≤ left.2.length

theorem emitReported (runs : List ResultDocument) : EmitReported runs := by
  have hcounts : (outcomeCounts runs).Perm (tally ResultDocument.emitOutcome runs) :=
    List.perm_insertionSort _ _
  have hclusters : (emitClusters runs).Perm
      (gather ResultDocument.emitCode id (runs.filter ResultDocument.emitFailed)) :=
    List.perm_insertionSort _ _
  exact {
    outcomes := (hcounts.map _).nodup_iff.mpr (nodup_keys_collect _ _ _ _)
    sorted := by
      rw [outcomeCounts, List.map_insertionSort _ (· ≤ ·) _ _ fun _ _ _ _ ↦ Iff.rfl]
      exact List.pairwise_insertionSort _ _
    counted := by
      intro entry hentry
      obtain ⟨hkey, hcount⟩ := mem_tally (hcounts.mem_iff.mp hentry)
      obtain ⟨d, hd, hdkey⟩ := List.mem_map.mp hkey
      refine ⟨?_, hcount⟩
      rw [hcount]
      exact List.length_pos_of_mem ((mem_part _).mpr ⟨hd, hdkey⟩)
    total := by rw [(hcounts.map _).sum_eq, sum_tally]
    codes := (hclusters.map _).nodup_iff.mpr (nodup_keys_gather _ _ _)
    members := by
      have hgather := flatMap_gather_perm ResultDocument.emitCode id
        (runs.filter ResultDocument.emitFailed)
      rw [List.map_id] at hgather
      exact (hclusters.flatMap_right _).trans hgather
    clustered := by
      intro d hd hfailed
      simp only [hclusters.mem_iff]
      exact existsUnique_gather _ _ (List.mem_filter.mpr ⟨hd, hfailed⟩)
    same_code := by
      intro cluster hcluster
      obtain ⟨hkey, hmembers⟩ := mem_gather _ _ _ (hclusters.mem_iff.mp hcluster)
      rw [List.map_id] at hmembers
      obtain ⟨d, hd, hdkey⟩ := List.mem_map.mp hkey
      rw [hmembers]
      exact ⟨List.ne_nil_of_mem ((mem_part _).mpr ⟨hd, hdkey⟩),
        fun other hother ↦ ((mem_part _).mp hother).2⟩
    ranked := List.pairwise_insertionSort LongerBefore _ }

/-- The section of the report, for any list of result documents. -/
theorem emitSection_conserves (results : List ResultDocument) :
    emitSection (results.map ResultDocument.json) =
      .ok (["## Emit lane (production-toolchain source codegen)", ""] ++ emitBody results) ∧
    EmitReported (emitMembers results) := by
  refine ⟨?_, emitReported _⟩
  have hruns : ∀ d ∈ emitMembers results, d.hasEmit = true := fun d hd ↦ (List.mem_filter.mp hd).2
  rw [emitSection, emitRuns_json, ok_bind, ← emitMembers, emitBody]
  by_cases hempty : emitMembers results = []
  · simp [hempty]
    rfl
  · have hne : ((emitMembers results).map ResultDocument.json).isEmpty = false := by
      simpa [List.isEmpty_eq_false_iff] using hempty
    simp only [hne, hempty, if_false, Bool.false_eq_true, emitCounts_tally hruns,
      failureClusters_gather hruns, surfaceFailures_slugs, ok_bind, clusterLines, joinSlugs_str]
    by_cases hfailed : (emitMembers results).filter ResultDocument.surfaceFailed = []
    · simp [hfailed, outcomeCounts]
      rfl
    · simp [hfailed, outcomeCounts]
      rfl

end ReflectNanobind.Corpus
