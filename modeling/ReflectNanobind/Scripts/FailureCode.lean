import ReflectNanobind.Scripts.Markers
import ReflectNanobind.Scripts.SameProgram

/-!
# The failure code of Gate 4

`run_lane` ignores the exit code of a failed build and reads the stage from its marker line.  The code it
records names the step that the exit code stands for exactly when there is a marker line to find: the
script got as far as a step, and the text before the marker is terminated.
-/

namespace ReflectNanobind.Scripts

open Gates Library

/-- The exit codes of the build scripts with the steps they stand for. -/
def documentedExits : List (ℤ × String) :=
  [(11, "compile"), (12, "extra_compile"), (13, "link"), (21, "gen_compile"), (22, "gen_run"),
    (31, "emit_gen_compile"), (32, "emit_gen_run"), (33, "emit_compile"),
    (34, "emit_extra_compile"), (35, "emit_link")]

/-- An exit code stands for one step. -/
theorem documentedExits_functional : ∀ first ∈ documentedExits, ∀ second ∈ documentedExits,
    first.1 = second.1 → first = second := by decide

theorem stage_ne_module : ∀ exit ∈ documentedExits, exit.2 ≠ "module" := by decide

theorem documentedExits_ne_zero : ∀ exit ∈ documentedExits, exit.1 ≠ 0 := by decide

theorem isStage_of_documented {exit : ℤ × String} (h : exit ∈ documentedExits) :
    IsStage exit.2 := by
  have hall : ∀ exit ∈ documentedExits,
      exit.2.toList.all (fun char ↦ !Text.isLineBreak char) = true := by decide
  exact Text.one_line_of_all (hall exit h)

/-! ## The reports of the step lists -/

namespace Process

variable (process : Process)

theorem moduleSteps_report (src mod outDir : String) (args : List String) :
    ∀ step ∈ process.moduleSteps src mod outDir args,
      (step.code, step.stage) ∈ documentedExits := by
  unfold moduleSteps
  simp only [List.forall_mem_append, List.forall_mem_singleton]
  exact ⟨⟨by simp [documentedExits],
    forall_mem_loopSteps (fun _ _ ↦ by simp [documentedExits]) _ _⟩, by simp [documentedExits]⟩

theorem codegenSteps_report (genSrc bindSrc mod outDir : String) (args : List String) :
    ∀ step ∈ process.codegenSteps genSrc bindSrc mod outDir args,
      (step.code, step.stage) ∈ documentedExits := by
  unfold codegenSteps
  rw [List.forall_mem_append]
  exact ⟨by simp [documentedExits], process.moduleSteps_report _ _ _ _⟩

end Process

section Lanes

variable (machine : Machine) (inv : Invocation) (tools : Tools)

theorem laneSteps_report (lane : Lane) : ∀ step ∈ laneSteps machine inv lane,
    (step.code, step.stage) ∈ documentedExits := by
  cases lane with
  | constexpr =>
      change ∀ step ∈ constexprSteps machine inv, _
      unfold constexprSteps
      split
      · exact Process.codegenSteps_report _ _ _ _ _ _
      · exact Process.moduleSteps_report _ _ _ _ _
  | emit =>
      change ∀ step ∈ emitSteps machine inv, _
      rw [emitSteps, List.forall_mem_append]
      constructor
      · have hlisted : ∀ exit ∈ [((31 : ℤ), "emit_gen_compile"), (32, "emit_gen_run")],
            exit ∈ documentedExits := by decide
        intro step hstep
        exact hlisted _ (Process.emitReflectionSteps_report _ _ _ _ step hstep)
      · have hlisted : ∀ exit ∈ [((33 : ℤ), "emit_compile"), (34, "emit_extra_compile"),
            (35, "emit_link")], exit ∈ documentedExits := by decide
        intro step hstep
        exact hlisted _ (Process.emitProductionSteps_report _ _ _ _ _ step hstep)

/-! ## The recorded stage -/

/-- What the tools that a build launched wrote to stderr. -/
def compilerOutput (lane : Lane) : String :=
  ((laneLaunches machine inv tools lane).map tools.stderr).foldr (· ++ ·) ""

theorem compilerOutput_of_archive {lane : Lane} (harchive : ArchiveThere machine inv tools lane) :
    compilerOutput machine inv tools lane = buildText machine inv tools lane := by
  rw [compilerOutput, laneLaunches_of_archive machine inv tools harchive, List.map_map]
  rfl

/-- What the emit build says when its production archive is not there. -/
def missingMessage : String :=
  "missing " ++ (laneProcess machine inv .emit).settings.nbLibProd ++
    " -- run corpus/lib/build_nanobind_prod.sh first\n"

theorem laneBuild_stderr_of_missing {lane : Lane}
    (harchive : ¬ ArchiveThere machine inv tools lane) :
    (laneBuild machine inv tools lane).stderr = missingMessage machine inv := by
  obtain ⟨rfl, hmissing⟩ := Classical.not_imp.mp harchive
  rw [laneBuild, laneScript_emit]
  simp [completed, Process.buildModuleEmit, fileExists, echoError, Tools.handler, hmissing,
    missingMessage, String.append_assoc]

/-- A marker line is read for what stands behind the marker. -/
theorem failStage_eq_iff {stderr stage : String} (hstage : stage ≠ "module") :
    failStage stderr = stage ↔
      (Text.splitlines stderr).find? (Text.startsWith · stageMarker) =
        some (stageMarker ++ stage) := by
  have hafter (rest : String) : Text.afterEquals (stageMarker ++ rest) = rest := by
    have hmark : stageMarker.toList =
        ['B', 'U', 'I', 'L', 'D', '_', 'F', 'A', 'I', 'L', '_', 'S', 'T', 'A', 'G', 'E', '='] := by
      decide
    simp [Text.afterEquals, String.toList_append, hmark]
  unfold failStage
  cases hfind : (Text.splitlines stderr).find? (Text.startsWith · stageMarker) with
  | none => simp [Ne.symm hstage]
  | some line =>
      have hmarked : stageMarker.toList <+: line.toList := by
        simpa [Text.startsWith] using List.find?_some hfind
      obtain ⟨rest, hrest⟩ := hmarked
      obtain rfl : line = stageMarker ++ String.ofList rest := by
        rw [← String.toList_inj, String.toList_append, String.toList_ofList, hrest]
      simp [hafter, String.append_right_inj]

/-- There is a marker line of its own to find: behind the terminated text of the tools, or, when no
step was reached, in the path that the script complains about. -/
def StageFound (lane : Lane) : Prop :=
  ArchiveThere machine inv tools lane ∧
      Text.terminated (compilerOutput machine inv tools lane) = true ∨
    ¬ ArchiveThere machine inv tools lane ∧
      (Text.splitlines (missingMessage machine inv)).find? (Text.startsWith · stageMarker) =
        some (stageMarker ++ "emit_link")

theorem failStage_laneBuild_iff {lane : Lane}
    (hfree : MarkerFree (compilerOutput machine inv tools lane))
    {exit : ℤ × String} (hexit : exit ∈ documentedExits)
    (hcode : (laneBuild machine inv tools lane).returncode = exit.1) :
    failStage (laneBuild machine inv tools lane).stderr = exit.2 ↔
      StageFound machine inv tools lane := by
  by_cases harchive : ArchiveThere machine inv tools lane
  · have hfailed : (laneBuild machine inv tools lane).returncode ≠ 0 := by
      rw [hcode]
      exact documentedExits_ne_zero exit hexit
    obtain ⟨step, hstep, hreturned, hstderr⟩ := laneBuild_reports machine inv tools harchive hfailed
    have hreport := laneSteps_report machine inv lane step hstep
    obtain rfl : exit = (step.code, step.stage) :=
      documentedExits_functional _ hexit _ hreport (hcode.symm.trans hreturned)
    rw [compilerOutput_of_archive machine inv tools harchive] at hfree
    rw [hstderr, failStage_markedStderr_eq hfree (isStage_of_documented hreport), StageFound,
      compilerOutput_of_archive machine inv tools harchive]
    simp only [harchive, true_and, not_true, false_and, or_false]
    cases Text.terminated (buildText machine inv tools lane) with
    | true => simp
    | false => simpa using Ne.symm (stage_ne_module _ hreport)
  · have hlink : ((35 : ℤ), "emit_link") ∈ documentedExits := by decide
    obtain rfl : exit = (35, "emit_link") := documentedExits_functional _ hexit _ hlink
      (hcode.symm.trans (laneBuild_of_missing machine inv tools harchive).1)
    rw [laneBuild_stderr_of_missing machine inv tools harchive, failStage_eq_iff (by decide),
      StageFound]
    simp only [harchive, false_and, not_false_eq_true, true_and, false_or]

/-- A build that stops with a documented exit code is recorded with the step that the code stands for
exactly when there is a marker line to find. -/
theorem failure_code_names_step_iff (host : Host) (dir : RunDir) (lane : Lane) (bug : ToolchainBug)
    (hbuild : host.sh (inv.buildCommand lane) = laneBuild machine inv tools lane)
    (hfree : MarkerFree (compilerOutput machine inv tools lane)) {code : ℤ} {stage : String}
    (hexit : (code, stage) ∈ documentedExits)
    (hcode : (laneBuild machine inv tools lane).returncode = code) :
    ((runLane inv lane bug).run host.handler dir).1.1.failure.code = some ("B." ++ stage) ↔
      StageFound machine inv tools lane := by
  have hfailed : ¬ host.Succeeds (inv.buildCommand lane) := by
    rw [Host.Succeeds, hbuild, hcode]
    exact documentedExits_ne_zero _ hexit
  rw [← failStage_laneBuild_iff machine inv tools hfree hexit hcode, runLane_run, laneResult,
    if_pos hfailed, buildFailed, hbuild]
  simp [String.append_right_inj]

end Lanes

/-! ## A compile error and a missing archive -/

/-- The host on which every command is the build of this lane. -/
def buildHost (machine : Machine) (inv : Invocation) (tools : Tools) (lane : Lane) : Host where
  sh := fun _ ↦ laneBuild machine inv tools lane
  elapsed := fun _ ↦ 0
  generatedTu := none

/-- Compilers that find an error in the binding. -/
def rejecting : Tools :=
  ⟨fun launch ↦ if launch.place = .compile then 1 else 0, fun _ ↦ "",
    fun _ ↦ "binding.cpp:3:1: error: no member named 'size'\n", fun _ ↦ true⟩

theorem failure_code_names_step_iff_rejecting :
    let inv := Invocation.onLinuxRepo (Meta.required "fmt" "fmt_bind") none
    let host := buildHost plainMachine inv rejecting .constexpr
    MarkerFree (compilerOutput plainMachine inv rejecting .constexpr) ∧
      ((11 : ℤ), "compile") ∈ documentedExits ∧
      (laneBuild plainMachine inv rejecting .constexpr).returncode = 11 ∧
      (((runLane inv .constexpr .none).run host.handler
          ⟨none, false, false, none, none⟩).1.1.failure.code = some ("B." ++ "compile") ↔
        StageFound plainMachine inv rejecting .constexpr) := by
  intro inv host
  have hfree : MarkerFree (compilerOutput plainMachine inv rejecting .constexpr) := by
    unfold MarkerFree
    decide
  have hcode : (laneBuild plainMachine inv rejecting .constexpr).returncode = 11 := by decide
  exact ⟨hfree, by decide, hcode,
    failure_code_names_step_iff plainMachine inv rejecting host _ .constexpr .none rfl hfree
      (by decide) hcode⟩

/-- Tools that never fail, in a repository without the production archive. -/
def archiveless : Tools := { obliging with fileExists := fun _ ↦ false }

/-- The emit build then stops with the exit code of its link step, and `B.module` is recorded. -/
theorem missing_archive_recorded_as_module :
    let inv := Invocation.onLinuxRepo (Meta.required "fmt" "fmt_bind") (some .emit)
    let host := buildHost plainMachine inv archiveless .emit
    MarkerFree (compilerOutput plainMachine inv archiveless .emit) ∧
      (35, "emit_link") ∈ documentedExits ∧
      (laneBuild plainMachine inv archiveless .emit).returncode = 35 ∧
      ((runLane inv .emit .none).run host.handler
        ⟨none, false, false, none, none⟩).1.1.failure.code = some "B.module" := by
  intro inv host
  have hcode : (laneBuild plainMachine inv archiveless .emit).returncode = 35 := by decide
  have hfailed : ¬ host.Succeeds (inv.buildCommand .emit) := by
    change ¬ (laneBuild plainMachine inv archiveless .emit).returncode = 0
    rw [hcode]
    decide
  refine ⟨by unfold MarkerFree; decide, by decide, hcode, ?_⟩
  rw [runLane_run, laneResult, if_pos hfailed]
  change some ("B." ++ failStage (laneBuild plainMachine inv archiveless .emit).stderr) = _
  decide +kernel

end ReflectNanobind.Scripts
