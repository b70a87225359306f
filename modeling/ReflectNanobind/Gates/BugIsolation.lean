import ReflectNanobind.Gates.Verdict

/-!
# Isolation of the toolchain-bug block

Only reflection-compiler text may reach the toolchain-bug classifier.  Both compilers write to the
stderr of one emit build, and the stage that decides whether the text is classified is parsed back
out of it; a failure of the production stage parses as that stage or as no stage, and never as a
reflection stage.  Hence the production compiler's text cannot change the block of the document.
-/

namespace ReflectNanobind.Gates

open Library

/-! ## Parsing the stage -/

/-- No line of the text starts like a stage marker. -/
def MarkerFree (text : String) : Prop :=
  ∀ line ∈ Text.splitlines text, Text.startsWith line stageMarker = false

/-- A stage that ends a build: one line, as the scripts print it. -/
def IsStage (stage : String) : Prop := ∀ char ∈ stage.toList, Text.isLineBreak char = false

/-- The stages of the emit build that run the production compiler. -/
def productionStages : List String := ["emit_compile", "emit_extra_compile", "emit_link"]

theorem isStage_of_production {stage : String} (h : stage ∈ productionStages) : IsStage stage := by
  simp only [productionStages, List.mem_cons, List.not_mem_nil, or_false] at h
  rcases h with rfl | rfl | rfl <;> exact Text.one_line_of_all (by decide)

/-- What a failing step of a build script leaves on stderr: the text of the tools, then the marker. -/
def markedStderr (text stage : String) : String := text ++ (stageMarker ++ stage ++ "\n")

/-- The parsed stage is the marked one when the text before the marker is terminated, and no stage when
the marker is glued to it. -/
theorem failStage_markedStderr_eq {text stage : String} (hfree : MarkerFree text)
    (hstage : IsStage stage) :
    failStage (markedStderr text stage) = if Text.terminated text then stage else "module" := by
  have hbreaks : ∀ char ∈ (stageMarker ++ stage).toList, Text.isLineBreak char = false := by
    intro char hchar
    rw [String.toList_append, List.mem_append] at hchar
    rcases hchar with hmarker | hrest
    · exact Text.one_line_of_all (by decide) char hmarker
    · exact hstage char hrest
  have hmark : stageMarker.toList =
      'B' :: ['U', 'I', 'L', 'D', '_', 'F', 'A', 'I', 'L', '_', 'S', 'T', 'A', 'G', 'E', '='] := by
    decide
  have hafter : Text.afterEquals (stageMarker ++ stage) = stage := by
    simp [Text.afterEquals, String.toList_append, hmark]
  unfold failStage markedStderr
  cases hend : Text.terminated text with
  | true =>
      rw [Text.find_marked_line hmark hbreaks hfree hend]
      exact hafter
  | false =>
      rw [Text.find_glued_line hmark (by decide) hbreaks hfree hend]
      rfl

theorem failStage_markedStderr {text stage : String} (hfree : MarkerFree text)
    (hstage : IsStage stage) :
    failStage (markedStderr text stage) = stage ∨ failStage (markedStderr text stage) = "module" := by
  rw [failStage_markedStderr_eq hfree hstage]
  split
  · exact .inl rfl
  · exact .inr rfl

/-! ## The block of the document -/

section Block

variable (host : Host) (inv : Invocation) (dir : RunDir)

theorem document_toolchainBug : (document host inv dir).toolchainBug =
    if host.Succeeds inv.probeCommand then lanesBug host inv
    else detectToolchainBug (host.sh inv.probeCommand).stderr := by
  by_cases hprobe : host.Succeeds inv.probeCommand
  · obtain ⟨_, _, _, _, _, _, hdoc⟩ := document_of_probe_passed host inv dir hprobe
    rw [hdoc, mirror_toolchainBug, combine_toolchainBug, surfaced, if_pos hprobe]
    split <;> rfl
  · obtain ⟨_, _, _, _, hdoc⟩ := document_of_probe_failed host inv dir hprobe
    rw [hdoc, if_neg hprobe]
    rfl

/-- The emit build failed in its production stage: the tools' text has no marker line of its own, and
the script closed it with the marker of a production stage. -/
def ProductionFailure (b : Completed) : Prop :=
  b.returncode ≠ 0 ∧ ∃ text stage, MarkerFree text ∧ stage ∈ productionStages ∧
    b.stderr = markedStderr text stage

/-- Two hosts that differ at most in the text of an emit build that failed in its production stage. -/
structure AgreeUpToProductionText (left right : Host) : Prop where
  others : ∀ command, command.site ≠ .build .emit → left.sh command = right.sh command
  emitBuild : left.sh (inv.buildCommand .emit) = right.sh (inv.buildCommand .emit) ∨
    ProductionFailure (left.sh (inv.buildCommand .emit)) ∧
      ProductionFailure (right.sh (inv.buildCommand .emit))

/-- A production failure is not classified. -/
theorem laneBug_of_productionFailure
    (h : ProductionFailure (host.sh (inv.buildCommand .emit))) (bug : ToolchainBug) :
    laneBug host inv .emit bug = bug := by
  obtain ⟨hcode, text, stage, hfree, hstage, hstderr⟩ := h
  have hparsed : failStage (host.sh (inv.buildCommand .emit)).stderr ∉ reflectionStages := by
    rw [hstderr]
    rcases failStage_markedStderr hfree (isStage_of_production hstage) with h | h <;> rw [h]
    · simp only [productionStages, List.mem_cons, List.not_mem_nil, or_false] at hstage
      rcases hstage with rfl | rfl | rfl <;> decide
    · decide
  rw [laneBug, if_neg (show ¬ host.Succeeds (inv.buildCommand .emit) from hcode), classifyBuild,
    if_neg]
  simpa using hparsed

theorem laneBug_congr {left right : Host} (h : AgreeUpToProductionText inv left right) (lane : Lane)
    (bug : ToolchainBug) : laneBug left inv lane bug = laneBug right inv lane bug := by
  have hsame (hsh : left.sh (inv.buildCommand lane) = right.sh (inv.buildCommand lane)) :
      laneBug left inv lane bug = laneBug right inv lane bug := by
    have hsucceeds : left.Succeeds (inv.buildCommand lane) ↔
        right.Succeeds (inv.buildCommand lane) := by rw [Host.Succeeds, Host.Succeeds, hsh]
    simp only [laneBug, hsucceeds, hsh]
  cases lane with
  | constexpr => exact hsame (h.others _ (by simp))
  | emit =>
      rcases h.emitBuild with hequal | ⟨hleft, hright⟩
      · exact hsame hequal
      · rw [laneBug_of_productionFailure left inv hleft,
          laneBug_of_productionFailure right inv hright]

/-- The emit build failed in a reflection stage: that stage is parsed, and it is the one that the
script reported under any reading of stderr as marker-free text and a final marker. -/
def ReflectionFailure (b : Completed) : Prop :=
  failStage b.stderr ∈ reflectionStages ∧ ∀ text stage, MarkerFree text → IsStage stage →
    b.stderr = markedStderr text stage → stage ∈ reflectionStages

theorem reflectionFailure_of_failStage {b : Completed} (h : failStage b.stderr ∈ reflectionStages) :
    ReflectionFailure b := by
  refine ⟨h, fun text stage hfree hstage hstderr ↦ ?_⟩
  rw [hstderr] at h
  rcases failStage_markedStderr hfree hstage with hparsed | hparsed <;> rw [hparsed] at h
  · exact h
  · exact absurd h (by decide)

/-- Why a lane's build can raise a suspicion: the detector accepts its text, and the text is the
reflection compiler's. -/
def SuspectBuild (lane : Lane) : Prop :=
  ¬ host.Succeeds (inv.buildCommand lane) ∧
    (lane = .emit → ReflectionFailure (host.sh (inv.buildCommand lane))) ∧
    detectToolchainBug ((host.sh (inv.buildCommand lane)).stderr ++
      (host.sh (inv.buildCommand lane)).stdout) ≠ .none

/-- A lane leaves a suspicion only if there was one before or its build is suspect. -/
theorem suspect_of_laneBug {lane : Lane} {bug : ToolchainBug}
    (h : laneBug host inv lane bug ≠ .none) : bug ≠ .none ∨ SuspectBuild host inv lane := by
  unfold laneBug classifyBuild at h
  split at h
  · exact .inl h
  rename_i hbuild
  split at h
  · rename_i hstage
    rcases classifyTcBug_cases bug ((host.sh (inv.buildCommand lane)).stderr ++
      (host.sh (inv.buildCommand lane)).stdout) with hkept | hdetected
    · exact .inl (hkept ▸ h)
    · exact .inr ⟨hbuild, fun hemit ↦ reflectionFailure_of_failStage
        (hstage.resolve_left (not_not.mpr hemit)), hdetected ▸ h⟩
  · exact .inl h

theorem suspect_of_lanesBug {lanes : List Lane} {bug : ToolchainBug}
    (h : lanes.foldl (fun bug lane ↦ laneBug host inv lane bug) bug ≠ .none) :
    bug ≠ .none ∨ ∃ lane ∈ lanes, SuspectBuild host inv lane := by
  induction lanes generalizing bug with
  | nil => exact .inl h
  | cons lane rest ih =>
      rcases ih h with hbug | ⟨other, hother, hsuspect⟩
      · rcases suspect_of_laneBug host inv hbug with hbug | hsuspect
        · exact .inl hbug
        · exact .inr ⟨lane, List.mem_cons_self, hsuspect⟩
      · exact .inr ⟨other, List.mem_cons_of_mem _ hother, hsuspect⟩

end Block

/-- Production-compiler output never influences the toolchain-bug block: runs that differ only in the
text of a production-stage failure write the same block, and in every run a block other than none
comes from the text of a failed probe, of a failed constexpr build, or of an emit build that failed
in a reflection stage. -/
theorem main_isolates_toolchain_bug (inv : Invocation) (dir : RunDir) :
    (∀ left right : Host, AgreeUpToProductionText inv left right → ∃ r s,
      ((main inv).run left.handler dir).2.result = some r ∧
        ((main inv).run right.handler dir).2.result = some s ∧ r.toolchainBug = s.toolchainBug) ∧
      ∀ host : Host, ∃ r, ((main inv).run host.handler dir).2.result = some r ∧
        (r.toolchainBug ≠ .none →
          (¬ host.Succeeds inv.probeCommand ∧
            detectToolchainBug (host.sh inv.probeCommand).stderr ≠ .none) ∨
          (host.Succeeds inv.probeCommand ∧
            ∃ lane ∈ inv.lanesToRun, SuspectBuild host inv lane)) := by
  constructor
  · intro left right h
    refine ⟨document left inv dir, document right inv dir, by rw [main_run], by rw [main_run], ?_⟩
    have hprobe : left.sh inv.probeCommand = right.sh inv.probeCommand :=
      h.others _ (by simp)
    have hsucceeds : left.Succeeds inv.probeCommand ↔ right.Succeeds inv.probeCommand := by
      rw [Host.Succeeds, Host.Succeeds, hprobe]
    have hlanes : lanesBug left inv = lanesBug right inv := by
      unfold lanesBug
      congr 1
      funext bug lane
      exact laneBug_congr inv h lane bug
    simp only [document_toolchainBug, hsucceeds, hlanes, hprobe]
  · intro host
    refine ⟨document host inv dir, by rw [main_run], fun hbug ↦ ?_⟩
    rw [document_toolchainBug] at hbug
    split at hbug
    · rename_i hprobe
      exact .inr ⟨hprobe, (suspect_of_lanesBug host inv hbug).resolve_left (not_not.mpr rfl)⟩
    · rename_i hprobe
      exact .inl ⟨hprobe, hbug⟩

/-- A host whose emit build fails in the link step with this text of the linker. -/
def emitLinkHost (text : String) : Host where
  sh := fun command ↦
    if command.site = .build .emit then ⟨35, "", markedStderr text "emit_link"⟩ else ⟨0, "", ""⟩
  elapsed := fun _ ↦ 0
  generatedTu := none

/-- A linker that crashes like a compiler, against one that ends without a line feed. -/
theorem main_isolates_toolchain_bug_of_link_failure : ∃ r s,
    ((main (Invocation.onLinuxRepo (Meta.required "fmt" "fmt_bind") (some .both))).run
        (emitLinkHost "ld: internal compiler error\n").handler
        ⟨none, true, true, none, none⟩).2.result = some r ∧
      ((main (Invocation.onLinuxRepo (Meta.required "fmt" "fmt_bind") (some .both))).run
        (emitLinkHost "collect2: killed").handler ⟨none, true, true, none, none⟩).2.result = some s ∧
      r.toolchainBug = s.toolchainBug :=
  (main_isolates_toolchain_bug _ _).1 _ _
    { others := fun command hsite ↦ by simp [emitLinkHost, hsite]
      emitBuild := .inr
        ⟨⟨by decide, "ld: internal compiler error\n", "emit_link", by unfold MarkerFree; decide,
            by decide, rfl⟩,
          ⟨by decide, "collect2: killed", "emit_link", by unfold MarkerFree; decide,
            by decide, rfl⟩⟩ }

end ReflectNanobind.Gates
