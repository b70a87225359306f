import ReflectNanobind.Corpus.Report
import ReflectNanobind.Gates.Diagnostics

/-!
# Conservation of runs

The aggregation of any list of result documents neither loses nor duplicates one of them: the lines
of `results.jsonl` read back as the list, the counters sum to its length, the rows of the per-run
table are those of a sorted permutation of it, and the toolchain groups partition the documents
whose status is not `none`.
-/

namespace ReflectNanobind.Corpus

open Library Library.JsonSchema Library.JsonAccess Library.Grouping Library.Lines Gates

/-! ## Orders -/

theorem keyBefore_total (left right : ℤ × String) :
    KeyBefore left right ∨ KeyBefore right left := by
  rcases lt_trichotomy left.1 right.1 with hlt | heq | hgt
  · exact .inl (.inl hlt)
  · exact (String.le_total left.2 right.2).imp (.inr ⟨heq, ·⟩) (.inr ⟨heq.symm, ·⟩)
  · exact .inr (.inl hgt)

theorem keyBefore_trans {first second third : ℤ × String} (h : KeyBefore first second)
    (hnext : KeyBefore second third) : KeyBefore first third := by
  rcases h with hlt | ⟨heq, hle⟩
  · rcases hnext with hlt' | ⟨heq', -⟩
    · exact .inl (hlt.trans hlt')
    · exact .inl (hlt.trans_eq heq')
  · rcases hnext with hlt' | ⟨heq', hle'⟩
    · exact .inl (heq.trans_lt hlt')
    · exact .inr ⟨heq.trans heq', String.le_trans hle hle'⟩

instance : Std.Total ResultDocument.RowBefore := ⟨fun _ _ ↦ keyBefore_total _ _⟩

instance : IsTrans ResultDocument ResultDocument.RowBefore := ⟨fun _ _ _ ↦ keyBefore_trans⟩

section Ranking

variable {κ ν : Type}

instance : Std.Total (@LongerBefore κ ν) := ⟨fun _ _ ↦ le_total _ _⟩

instance : IsTrans (κ × List ν) LongerBefore := ⟨fun _ _ _ h hnext ↦ le_trans hnext h⟩

end Ranking

/-! ## Blocks of `detect_toolchain_bug` -/

/-- `block.get("signature")`. -/
def bugSignature : ToolchainBug → Option String
  | .none => none
  | .suspected _ signature _ => some signature

theorem exists_suspected {bug : ToolchainBug} {signature : String}
    (h : bugSignature bug = some signature) :
    ∃ kind finding, bug = .suspected kind signature finding := by
  cases bug with
  | none => cases h
  | suspected kind other finding =>
      obtain rfl : other = signature := Option.some.inj h
      exact ⟨kind, finding, rfl⟩

namespace ResultDocument

/-- The toolchain bug of the document is this block. -/
def Reports (d : ResultDocument) (bug : ToolchainBug) : Prop :=
  d.fields.lookup "toolchain_bug" = some bug.json

variable {d other : ResultDocument}

theorem Reports.toolchainBug {bug : ToolchainBug} (h : d.Reports bug) :
    d.toolchainBug = bug.json := by
  have hlookup : d.fields.lookup "toolchain_bug" = some bug.json := h
  rw [ResultDocument.toolchainBug, hlookup]
  cases bug <;> rfl

theorem Reports.flagged {kind signature finding : String}
    (h : d.Reports (.suspected kind signature finding)) : d.flagged = true := by
  have hstatus : d.bugStatus = "suspected" := by
    rw [bugStatus, h.toolchainBug]
    rfl
  simp [ResultDocument.flagged, hstatus]

theorem Reports.groupKey {kind signature finding : String}
    (h : d.Reports (.suspected kind signature finding)) (hsignature : signature ≠ "") :
    d.groupKey = if finding ≠ "" then finding else signature := by
  have hfinding : textAt d.toolchainBug "finding" "" = finding := by
    rw [h.toolchainBug]
    rfl
  have hread : textAt d.toolchainBug "signature" "" = signature := by
    rw [h.toolchainBug]
    rfl
  rw [ResultDocument.groupKey, hfinding, hread, if_pos hsignature]

/-- Documents whose blocks have one signature are flagged and have one key. -/
theorem flagged_of_signature {text signature : String} (h : d.Reports (detectToolchainBug text))
    (hsignature : bugSignature (detectToolchainBug text) = some signature) : d.flagged = true := by
  obtain ⟨kind, finding, hbug⟩ := exists_suspected hsignature
  rw [hbug] at h
  exact h.flagged

theorem groupKey_eq {text otherText signature : String} (h : d.Reports (detectToolchainBug text))
    (hother : other.Reports (detectToolchainBug otherText))
    (hsignature : bugSignature (detectToolchainBug text) = some signature)
    (hotherSignature : bugSignature (detectToolchainBug otherText) = some signature) :
    d.groupKey = other.groupKey := by
  obtain ⟨kind, finding, hbug⟩ := exists_suspected hsignature
  obtain ⟨otherKind, otherFinding, hotherBug⟩ := exists_suspected hotherSignature
  have hmem := mem_signatureFindings hbug
  have hotherMem := mem_signatureFindings hotherBug
  rw [hbug] at h
  rw [hotherBug] at hother
  rw [h.groupKey (signature_ne_empty hmem), hother.groupKey (signature_ne_empty hmem),
    signatureFindings_functional hmem hotherMem]

end ResultDocument

/-! ## The four reports -/

/-- The groups divide the flagged documents among them. -/
structure Grouped (results : List ResultDocument) (groups : List (String × List ResultDocument)) :
    Prop where
  keys : (groups.map Prod.fst).Nodup
  members : (groups.flatMap Prod.snd).Perm (results.filter ResultDocument.flagged)
  listed_once : ∀ d ∈ results, d.flagged = true → ∃! group, group ∈ groups ∧ d ∈ group.2
  same_signature : ∀ d ∈ results, ∀ other ∈ results, ∀ text otherText signature,
    d.Reports (detectToolchainBug text) → other.Reports (detectToolchainBug otherText) →
    bugSignature (detectToolchainBug text) = some signature →
    bugSignature (detectToolchainBug otherText) = some signature →
    ∃ group ∈ groups, d ∈ group.2 ∧ other ∈ group.2
  sizes : (groups.map fun group ↦ group.2.length).sum =
    (results.filter ResultDocument.flagged).length
  ranked : groups.Pairwise fun left right ↦ right.2.length ≤ left.2.length

/-- What the deliverables say of the documents, apart from the per-run table. -/
structure Accounts (results : List ResultDocument) (a : Aggregate) : Prop where
  lines : (Text.splitlines a.resultsJsonl).length = results.length
  loads : (Text.splitlines a.resultsJsonl).map JsonDumps.loads = results.map fun d ↦ some d.json
  total : a.total = results.length
  overall : (outcomeOrder.map (count a.overall)).sum = results.length
  byTier : ∀ outcome,
    (a.byTier.map fun entry ↦ count entry.2 outcome).sum = count a.overall outcome
  reported : a.Reported
  groups : ∃ groups, Grouped results groups ∧ ∃ sections, List.Forall₂ SectionOf groups sections ∧
    a.toolchainBugs = Text.printLines (bugPreamble (groups.map groupHits) ++ sections.flatten)

/-- No report loses or duplicates a document. -/
structure Conserves (results : List ResultDocument) (a : Aggregate) : Prop
    extends Accounts results a where
  perRun : ∃ order : List ResultDocument, order.Perm results ∧
    order.Pairwise ResultDocument.RowBefore ∧
    tableUnder "## Per-run" (fileLines a.report) = order.map ResultDocument.row

section Reports

variable (results : List ResultDocument)

theorem bugReport_perm : (bugReport results).Perm
    (gather ResultDocument.groupKey id (results.filter ResultDocument.flagged)) :=
  List.perm_insertionSort _ _

theorem existsUnique_bugReport {d : ResultDocument} (hd : d ∈ results) (h : d.flagged = true) :
    ∃! group, group ∈ bugReport results ∧ d ∈ group.2 := by
  simp only [(bugReport_perm results).mem_iff]
  exact existsUnique_gather _ _ (List.mem_filter.mpr ⟨hd, h⟩)

theorem grouped_bugReport : Grouped results (bugReport results) where
  keys := ((bugReport_perm results).map _).nodup_iff.mpr (nodup_keys_gather _ _ _)
  members := by
    have hgather := flatMap_gather_perm ResultDocument.groupKey id
      (results.filter ResultDocument.flagged)
    rw [List.map_id] at hgather
    exact ((bugReport_perm results).flatMap_right _).trans hgather
  listed_once := fun _ ↦ existsUnique_bugReport results
  same_signature := by
    intro d hd other hother text otherText signature h hreports hsignature hotherSignature
    obtain ⟨group, ⟨hgroup, hmem⟩, -⟩ := existsUnique_bugReport results hd
      (ResultDocument.flagged_of_signature h hsignature)
    have hmembers := (mem_bugReport results hgroup).2
    refine ⟨group, hgroup, hmem, ?_⟩
    rw [hmembers, mem_part] at hmem ⊢
    rw [← ResultDocument.groupKey_eq h hreports hsignature hotherSignature]
    exact ⟨List.mem_filter.mpr
      ⟨hother, ResultDocument.flagged_of_signature hreports hotherSignature⟩, hmem.2⟩
  sizes := by
    rw [((bugReport_perm results).map _).sum_eq]
    exact sum_length_gather _ _ _
  ranked := List.pairwise_insertionSort LongerBefore _

/-- The outcomes of the tables cover every document. -/
theorem sum_outcomes :
    (outcomeOrder.map (count (tally ResultDocument.outcome results))).sum = results.length :=
  sum_count_tally (by decide) fun d _ ↦ d.outcome_spec.2

theorem loads_resultsJsonl : (Text.splitlines (Text.printLines
    ((results.map ResultDocument.json).map JsonDumps.dumps))).map JsonDumps.loads =
      results.map fun d ↦ some d.json := by
  have hloaded : ∀ value ∈ results.map ResultDocument.json, JsonDumps.loaded value = true := by
    intro value hvalue
    obtain ⟨d, -, rfl⟩ := List.mem_map.mp hvalue
    exact d.loaded
  rw [JsonDumps.loads_splitlines hloaded, List.map_map]
  rfl

/-- The rows that are read from the report hold no line end, so that the documents' texts hold none. -/
theorem unbroken_of_conserves {a : Aggregate} (h : Conserves results a) :
    ∀ d ∈ results, d.Unbroken := by
  intro d hd
  obtain ⟨order, hperm, -, htable⟩ := h.perRun
  have hrow : d.row ∈ tableUnder "## Per-run" (fileLines a.report) :=
    htable ▸ List.mem_map_of_mem (hperm.mem_iff.mpr hd)
  exact d.unbroken_row.mp (unbroken_of_mem_fileLines (mem_of_mem_tableUnder hrow))

theorem main_accounts : ∃ a, main (results.map ResultDocument.json) = .ok a ∧ Accounts results a ∧
    a.perRun = (results.insertionSort ResultDocument.RowBefore).map ResultDocument.row := by
  obtain ⟨emit, sections, hmain, hsections⟩ := main_json results
  refine ⟨_, hmain, ?_, rfl⟩
  have hloads := loads_resultsJsonl results
  exact {
    lines := by simpa using congrArg List.length hloads
    loads := hloads
    total := rfl
    overall := sum_outcomes results
    byTier := sum_count_tallyBy _ _ results
    reported := Aggregate.reported _
    groups := ⟨bugReport results, grouped_bugReport results, sections, hsections, rfl⟩ }

/-- Rows without a line end are read back from the report one by one. -/
theorem table_of_unbroken {a : Aggregate}
    (hperRun : a.perRun = (results.insertionSort ResultDocument.RowBefore).map ResultDocument.row)
    (hunbroken : ∀ d ∈ results, d.Unbroken) : tableUnder "## Per-run" (fileLines a.report) =
      (results.insertionSort ResultDocument.RowBefore).map ResultDocument.row := by
  have hrows : ∀ row ∈ a.perRun, Unbroken row ∧ row ≠ "" := by
    intro row hrow
    rw [hperRun] at hrow
    obtain ⟨d, hd, rfl⟩ := List.mem_map.mp hrow
    exact ⟨d.unbroken_row.mpr (hunbroken d ((List.mem_insertionSort _).mp hd)),
      tableRow_ne (by decide) d.cells⟩
  have htable := a.tableUnder_perRun rfl (fun row hrow ↦ (hrows row hrow).1)
    fun hblank ↦ (hrows "" hblank).2 rfl
  exact htable.trans hperRun

/-- Aggregation of any list of result documents accounts for each of them.  The per-run table has one
line for each exactly when none of the texts in the cells has a line end inside. -/
theorem main_conserves_iff : ∃ a, main (results.map ResultDocument.json) = .ok a ∧
    Accounts results a ∧ (Conserves results a ↔ ∀ d ∈ results, d.Unbroken) := by
  obtain ⟨a, hmain, haccounts, hperRun⟩ := main_accounts results
  refine ⟨a, hmain, haccounts, unbroken_of_conserves results, fun hunbroken ↦ ?_⟩
  exact ⟨haccounts, results.insertionSort ResultDocument.RowBefore, List.perm_insertionSort _ _,
    List.pairwise_insertionSort _ _, table_of_unbroken results hperRun hunbroken⟩

end Reports

/-! ## A line end in a cell -/

/-- A document whose pinned commit ends with a line feed, as a multi-line text of `meta.toml` does. -/
def brokenPin : ResultDocument where
  fields := [("schema_version", .int 2), ("slug", .str "fmt"),
    ("pinned_commit", .str (String.ofList ['9', '.', '1', '.', '0', '\n'])), ("tier", .int 1),
    ("outcome", .str "B"), ("furthest_gate", .int 4), ("gate_results", .obj [])]
  loaded := by decide
  valid := by decide
  tierAllowed := by decide

/-- The row of the document stands on two lines. -/
theorem brokenPin_splits_row : ∃ a, main [brokenPin.json] = .ok a ∧ ¬ Conserves [brokenPin] a ∧
    tableUnder "## Per-run" (fileLines a.report) =
      ["| fmt | 1 | B | B | - | - | 4 |  | 9.1.0", " |   |"] := by
  obtain ⟨a, hmain, -, hperRun⟩ := main_accounts [brokenPin]
  have hrow : brokenPin.row = "| fmt | 1 | B | B | - | - | 4 |  | 9.1.0" ++ "\n" ++ " |   |" := by decide
  have hprinted : Text.printLines a.perRun =
      Text.printLines ["| fmt | 1 | B | B | - | - | 4 |  | 9.1.0", " |   |"] := by
    rw [hperRun]
    simp [Text.printLines, hrow]
  refine ⟨a, hmain, fun h ↦ ?_, a.tableUnder_perRun hprinted (by decide) (by decide)⟩
  exact absurd (unbroken_of_conserves [brokenPin] h brokenPin List.mem_cons_self) (by decide)

end ReflectNanobind.Corpus
