import ReflectNanobind.Corpus.Documents
import ReflectNanobind.Library.Lines

/-!
# The report file

What a reader finds in `report.md`.  The total and the two tables of outcomes are always there as they
were computed.  The per-run table is read back when no text in its cells has a line end inside; the
cells that are taken from the document as they stand are the slug, the pinned commit, the code of the
failure and the notes.
-/

namespace ReflectNanobind.Corpus

open Library Library.JsonSchema Library.JsonAccess Library.Grouping Library.Lines

/-! ## Cells -/

theorem unbroken_tableRow (cells : List String) :
    Unbroken (tableRow cells) ↔ ∀ cell ∈ cells, Unbroken cell := by
  have hopen : Unbroken "| " := by decide
  have hclose : Unbroken " |" := by decide
  rw [tableRow, unbroken_append, unbroken_append, and_iff_left hclose, and_iff_right hopen]
  exact unbroken_join (by decide) cells

/-- A row is no text that starts with another character than its first one. -/
theorem tableRow_ne {text : String} (h : text.toList.head? ≠ some '|') (cells : List String) :
    tableRow cells ≠ text := by
  rintro rfl
  exact h (by simp [tableRow])

theorem unbroken_toString (number : ℕ) : Unbroken (toString number) :=
  unbroken_of_oneLine (Text.oneLine_toString number)

theorem unbroken_number {text : String}
    (h : ∀ char ∈ text.toList, JsonNumber.numberChar char = true) : Unbroken text :=
  ⟨fun hmem ↦ absurd (h _ hmem) (by decide), fun hmem ↦ absurd (h _ hmem) (by decide)⟩

theorem unbroken_tierText (tier : Option ℤ) : Unbroken (tierText tier) := by
  cases tier with
  | none => decide
  | some tier =>
      apply unbroken_number
      rw [tierText, String.toList_ofList]
      exact fun _ ↦ JsonNumber.numberChar_of_mem_writeInt

theorem unbroken_outcomes : ∀ outcome ∈ outcomeOrder,
    Unbroken outcome ∧ Unbroken ((outcomeLabel.lookup outcome).getD "") := by decide

theorem mem_overallRows {overall : Dict String ℕ} {row : String} (h : row ∈ overallRows overall) :
    ∃ cells, row = tableRow cells ∧ ∀ cell ∈ cells, Unbroken cell := by
  obtain ⟨outcome, houtcome, rfl⟩ := List.mem_map.mp h
  obtain ⟨hname, hlabel⟩ := unbroken_outcomes outcome (List.mem_filter.mp houtcome).1
  refine ⟨_, rfl, ?_⟩
  simp only [List.forall_mem_cons, hname, unbroken_toString, hlabel, true_and]
  simp

theorem mem_tierRows {byTier : Dict (Option ℤ) (Dict String ℕ)} {row : String}
    (h : row ∈ tierRows byTier) : ∃ cells, row = tableRow cells ∧ ∀ cell ∈ cells, Unbroken cell := by
  obtain ⟨entry, -, rfl⟩ := List.mem_map.mp h
  refine ⟨_, rfl, List.forall_mem_cons.mpr ⟨unbroken_tierText entry.1, fun cell hcell ↦ ?_⟩⟩
  obtain ⟨outcome, -, rfl⟩ := List.mem_map.mp hcell
  exact unbroken_toString _

/-! ## The layout of the report -/

namespace Aggregate

variable (a : Aggregate)

def opening : List String :=
  ["# Corpus report", "", "Total runs: **" ++ toString a.total ++ "**", ""]

def overallHeader : List String :=
  ["## Outcomes (overall)", "", "| outcome | count | meaning |", "|---|---|---|"]

def tierHeader : List String :=
  ["## Outcomes by tier", "", tableRow ("tier" :: outcomeOrder), "|---|---|---|---|---|---|---|"]

def perRunHeader : List String :=
  ["## Per-run", "",
    "| slug | tier | outcome | constexpr | emit | surface | gate | strategy | pin | notes |",
    "|---|---|---|---|---|---|---|---|---|---|"]

/-- The lines before the per-run section. -/
def summary : List String :=
  a.opening ++ (overallHeader ++ (overallRows a.overall ++ "" ::
    (tierHeader ++ (tierRows a.byTier ++ [""]))))

theorem lines_eq : a.lines = a.summary ++ (perRunHeader ++ (a.perRun ++ "" :: (a.emit ++ [""]))) := by
  simp [lines, summary, opening, overallHeader, tierHeader, perRunHeader]

theorem unbroken_summary : ∀ line ∈ a.summary, Unbroken line := by
  have htotal : Unbroken ("Total runs: **" ++ toString a.total ++ "**") := by
    rw [unbroken_append, unbroken_append]
    exact ⟨⟨by decide, unbroken_toString _⟩, by decide⟩
  have hopening : ∀ line ∈ a.opening, Unbroken line := by
    simp only [opening, List.forall_mem_cons, htotal, true_and]
    decide
  have hrows {rows : List String} (h : ∀ row ∈ rows,
      ∃ cells, row = tableRow cells ∧ ∀ cell ∈ cells, Unbroken cell) : ∀ row ∈ rows, Unbroken row := by
    intro row hrow
    obtain ⟨cells, rfl, hcells⟩ := h row hrow
    exact (unbroken_tableRow cells).mpr hcells
  have hoverall : ∀ row ∈ overallRows a.overall, Unbroken row := hrows fun _ ↦ mem_overallRows
  have htiers : ∀ row ∈ tierRows a.byTier, Unbroken row := hrows fun _ ↦ mem_tierRows
  have hheaders : (∀ line ∈ overallHeader, Unbroken line) ∧ ∀ line ∈ tierHeader, Unbroken line := by
    decide
  have hblank : Unbroken "" := by decide
  simp only [summary, List.forall_mem_append, List.forall_mem_cons]
  exact ⟨hopening, hheaders.1, hoverall, hblank, hheaders.2, htiers, hblank, by simp⟩

theorem fileLines_report : fileLines a.report = a.summary ++ (perRunHeader ++
    fileLines (Text.printLines (a.perRun ++ "" :: (a.emit ++ [""])))) := by
  have hheader : ∀ line ∈ perRunHeader, Unbroken line := by decide
  rw [report, lines_eq, fileLines_printLines_append a.unbroken_summary,
    fileLines_printLines_append hheader]

section Headings

variable {heading : String}

/-- No row is a text that starts otherwise. -/
theorem not_mem_overallRows {text : String} (h : text.toList.head? ≠ some '|') :
    text ∉ overallRows a.overall := by
  intro hmem
  obtain ⟨cells, hcells, -⟩ := mem_overallRows hmem
  exact tableRow_ne h cells hcells.symm

theorem not_mem_tierRows {text : String} (h : text.toList.head? ≠ some '|') :
    text ∉ tierRows a.byTier := by
  intro hmem
  obtain ⟨cells, hcells, -⟩ := mem_tierRows hmem
  exact tableRow_ne h cells hcells.symm

theorem not_mem_opening (h : heading.toList.head? = some '#') (hne : heading ≠ "# Corpus report") :
    heading ∉ a.opening := by
  have hblank : heading ≠ "" := by
    rintro rfl
    cases h
  have htotal : heading ≠ "Total runs: **" ++ toString a.total ++ "**" := by
    rintro rfl
    simp at h
  simp only [opening, List.mem_cons, List.not_mem_nil, hne, hblank, htotal, or_self,
    not_false_eq_true]

end Headings

/-- What the report says of the counters. -/
structure Reported : Prop where
  total : (fileLines a.report)[2]? = some ("Total runs: **" ++ toString a.total ++ "**")
  overall : tableUnder "## Outcomes (overall)" (fileLines a.report) = overallRows a.overall
  byTier : tableUnder "## Outcomes by tier" (fileLines a.report) = tierRows a.byTier

/-- The counters are always read back from the report. -/
theorem reported : a.Reported where
  total := by
    rw [fileLines_report]
    rfl
  overall := by
    rw [fileLines_report, summary]
    simp only [List.append_assoc, List.cons_append]
    exact tableUnder_append (a.not_mem_opening (by decide) (by decide))
      (a.not_mem_overallRows (by decide)) _ _ _ _
  byTier := by
    have hlayout (rest : List String) : a.summary ++ rest =
        (a.opening ++ (overallHeader ++ (overallRows a.overall ++ [""]))) ++
          (tierHeader ++ (tierRows a.byTier ++ "" :: rest)) := by simp [summary]
    have hbefore : "## Outcomes by tier" ∉
        a.opening ++ (overallHeader ++ (overallRows a.overall ++ [""])) := by
      simp only [List.mem_append, not_or]
      exact ⟨a.not_mem_opening (by decide) (by decide), by decide,
        a.not_mem_overallRows (by decide), by decide⟩
    rw [fileLines_report, hlayout]
    exact tableUnder_append hbefore (a.not_mem_tierRows (by decide)) _ _ _ _

/-- The rows of the per-run table are the lines that its printed rows make up. -/
theorem tableUnder_perRun {rows : List String}
    (hprinted : Text.printLines a.perRun = Text.printLines rows)
    (hrows : ∀ row ∈ rows, Unbroken row) (hblank : "" ∉ rows) :
    tableUnder "## Per-run" (fileLines a.report) = rows := by
  have hbefore : "## Per-run" ∉ a.summary := by
    simp only [summary, List.mem_append, List.mem_cons, not_or]
    exact ⟨a.not_mem_opening (by decide) (by decide), by decide, a.not_mem_overallRows (by decide),
      by decide, by decide, a.not_mem_tierRows (by decide), by decide, by simp⟩
  have hrest : fileLines (Text.printLines (a.perRun ++ "" :: (a.emit ++ [""]))) =
      rows ++ "" :: fileLines (Text.printLines (a.emit ++ [""])) := by
    rw [Text.printLines_append, hprinted, ← Text.printLines_append,
      fileLines_printLines_append hrows]
    exact congrArg (rows ++ ·) (fileLines_append_line (by decide) _)
  rw [fileLines_report, hrest]
  exact tableUnder_append hbefore hblank _ _ _ _

end Aggregate

/-! ## Rows of documents -/

namespace ResultDocument

variable (d : ResultDocument)

/-- No text that the row takes from the document as it stands has a line end inside. -/
def Unbroken : Prop :=
  ∀ text ∈ [d.slug, d.pinnedCommit, d.failureCode, d.shownNotes], Lines.Unbroken text

instance : DecidablePred ResultDocument.Unbroken := fun d ↦ inferInstanceAs
  (Decidable (∀ text ∈ [d.slug, d.pinnedCommit, d.failureCode, d.shownNotes], Lines.Unbroken text))

/-- An entry whose texts are listed holds one of them, or the default. -/
theorem unbroken_textAt {schemas : List (String × Schema)} {value : Json} {name default : String}
    (texts : List String) (h : ObjectOf schemas value)
    (hmem : (name, [.enum (texts.map .str)]) ∈ schemas)
    (hunbroken : ∀ text ∈ default :: texts, Lines.Unbroken text) :
    Lines.Unbroken (textAt value name default) := by
  apply hunbroken
  rcases getD_cases h hmem (.str default) with hnone | ⟨property, hread, hvalid⟩
  · rw [textAt_of_getD hnone]
    exact List.mem_cons_self
  · obtain ⟨text, htext, rfl⟩ := exists_mem_of_enum hvalid
    rw [textAt_of_getD hread]
    exact List.mem_cons_of_mem _ htext

/-- The row has no line end inside exactly when the texts taken as they stand have none. -/
theorem unbroken_row : Lines.Unbroken d.row ↔ d.Unbroken := by
  have houtcome : Lines.Unbroken d.outcome := (unbroken_outcomes _ d.outcome_spec.2).1
  obtain ⟨-, -, -, hconstexprObject⟩ := d.get_laneBlock (.head _)
  have hconstexpr := unbroken_textAt ["A", "B", "C", "D", "E", "E-weak"] hconstexprObject (.head _)
    (List.forall_mem_cons.mpr ⟨houtcome, by decide⟩)
  obtain ⟨-, -, -, hemitObject⟩ := d.get_laneBlock (.tail _ (.head _))
  have hemit : Lines.Unbroken (textAt (d.laneBlock "emit") "outcome" "-") :=
    unbroken_textAt ["A", "B", "C", "D", "E", "E-weak"] hemitObject (.head _) (by decide)
  have hsurface : Lines.Unbroken (textAt d.surfaceDiff "status" "-") :=
    unbroken_textAt ["pass", "fail", "skip"] d.objectOf_surfaceDiff (.head _) (by decide)
  have hstrategy : Lines.Unbroken d.strategy :=
    unbroken_textAt ["single_stage", "two_stage"] d.item_gateResults.2 (.tail _ (.head _)) (by decide)
  obtain ⟨-, -, -, hnumber⟩ := d.furthestGate_spec
  have hspace : Lines.Unbroken " " := by decide
  rw [row, unbroken_tableRow]
  simp only [cells, ResultDocument.Unbroken, List.forall_mem_cons, unbroken_append, houtcome,
    hconstexpr, hemit, hsurface, hstrategy, unbroken_number hnumber, hspace, unbroken_tierText,
    and_true, true_and, and_assoc]

end ResultDocument

end ReflectNanobind.Corpus
