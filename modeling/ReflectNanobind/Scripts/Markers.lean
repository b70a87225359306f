import ReflectNanobind.Scripts.Handover

/-!
# The stage that a failed build reports

A failed build leaves the text of the tools that ran and one marker line on stderr, and its exit code
says which step failed.  This is what the orchestrator relies on when it keeps the production
compiler's text away from the toolchain-bug classifier.
-/

namespace ReflectNanobind.Scripts

open Gates Library

section Markers

variable (machine : Machine) (inv : Invocation) (tools : Tools)

/-- What the tools that a build reached wrote to stderr. -/
def buildText (lane : Lane) : String :=
  errorText tools (reached tools (laneSteps machine inv lane))

/-- A failed build ends with the code of one of its steps, and with the marker of its stage after the
tools' text. -/
theorem laneBuild_reports {lane : Lane} (harchive : ArchiveThere machine inv tools lane)
    (hfailed : (laneBuild machine inv tools lane).returncode ≠ 0) :
    ∃ step ∈ laneSteps machine inv lane,
      (laneBuild machine inv tools lane).returncode = step.code ∧
        (laneBuild machine inv tools lane).stderr =
          markedStderr (buildText machine inv tools lane) step.stage := by
  rw [Ne, laneBuild_succeeds_iff machine inv tools harchive] at hfailed
  rw [laneBuild_eq_steps machine inv tools harchive]
  obtain ⟨step, hstep, hcode, hstderr⟩ := run_runSteps_of_failure tools
    ((laneProcess machine inv lane).printModule inv.toml.moduleName (inv.buildDir lane)) hfailed
    ⟨"", ""⟩
  refine ⟨step, hstep, hcode, hstderr.trans ?_⟩
  rw [String.empty_append]
  rfl

/-- The emit script's own production failures are the ones that the orchestrator never classifies. -/
theorem productionFailure_of_emitBuild (harchive : ArchiveThere machine inv tools .emit)
    (hfree : MarkerFree (buildText machine inv tools .emit))
    (hcode : (laneBuild machine inv tools .emit).returncode ∈ [33, 34, 35]) :
    ProductionFailure (laneBuild machine inv tools .emit) := by
  have hfailed : (laneBuild machine inv tools .emit).returncode ≠ 0 := by
    intro hzero
    rw [hzero] at hcode
    exact absurd hcode (by decide)
  obtain ⟨step, hstep, hreturned, hstderr⟩ := laneBuild_reports machine inv tools harchive hfailed
  refine ⟨hfailed, _, step.stage, hfree, ?_, hstderr⟩
  rw [hreturned] at hcode
  rcases List.mem_append.mp hstep with hreflection | hproduction
  · have hreport := Process.emitReflectionSteps_report _ _ _ _ step hreflection
    simp only [List.mem_cons, Prod.mk.injEq, List.not_mem_nil, or_false] at hreport hcode
    omega
  · have hreport := Process.emitProductionSteps_report _ _ _ _ _ step hproduction
    simp only [List.mem_cons, Prod.mk.injEq, List.not_mem_nil, or_false] at hreport
    rcases hreport with ⟨_, hstage⟩ | ⟨_, hstage⟩ | ⟨_, hstage⟩ <;> rw [hstage] <;> decide

/-- A run whose emit build is the script's writes the same toolchain-bug block whatever the
production compiler printed. -/
theorem laneBug_of_emitBuild {host : Host} (harchive : ArchiveThere machine inv tools .emit)
    (hhost : host.sh (inv.buildCommand .emit) = laneBuild machine inv tools .emit)
    (hfree : MarkerFree (buildText machine inv tools .emit))
    (hcode : (laneBuild machine inv tools .emit).returncode ∈ [33, 34, 35]) (bug : ToolchainBug) :
    laneBug host inv .emit bug = bug :=
  laneBug_of_productionFailure host inv
    (hhost ▸ productionFailure_of_emitBuild machine inv tools harchive hfree hcode) bug

end Markers

end ReflectNanobind.Scripts
