import ReflectNanobind.Scripts.Steps

/-!
# Flags and sources handed to the compilers

The run's flags and library sources travel to the build scripts in two encodings: the constexpr lane
takes the flags as arguments, the emit lane takes them joined with spaces in a variable, and both
lanes take the sources joined in a variable.  An unquoted expansion splits and globs what was joined.
Both lanes compile the same program, whatever files there are, exactly when every joined entry survives
that expansion and no foreign source list is inherited.
-/

namespace ReflectNanobind.Scripts

open Gates Library

/-! ## The build of a lane -/

/-- The script that a Gate 4 command runs, in the command's environment. -/
def buildScript (machine : Machine) (repo : String) (command : Command) : Script :=
  let process : Process := ⟨machine, envSh machine repo command.environ, command.environ⟩
  let lib := repo ++ "/corpus/lib"
  match command.args with
  | "bash" :: path :: args =>
      if path = lib ++ "/build_module.sh" then process.buildModule args
      else if path = lib ++ "/build_module_codegen.sh" then process.buildModuleCodegen args
      else if path = lib ++ "/build_module_emit.sh" then process.buildModuleEmit args
      else pure 127
  | _ => pure 127

section Lanes

variable (machine : Machine) (inv : Invocation)

def laneScript (lane : Lane) : Script := buildScript machine inv.repo (inv.buildCommand lane)

def laneProcess (lane : Lane) : Process :=
  ⟨machine, envSh machine inv.repo (inv.buildEnv lane), inv.buildEnv lane⟩

def constexprSteps : List Step :=
  if inv.strategy = "two_stage" then
    (laneProcess machine inv .constexpr).codegenSteps (inv.run ++ "/binding/gen.cpp")
      (inv.run ++ "/binding/binding.cpp") inv.toml.moduleName (inv.buildDir .constexpr)
      (inv.incflags ++ inv.extraCflags)
  else
    (laneProcess machine inv .constexpr).moduleSteps (inv.run ++ "/binding/binding.cpp")
      inv.toml.moduleName (inv.buildDir .constexpr) (inv.incflags ++ inv.extraCflags)

def emitSteps : List Step :=
  (laneProcess machine inv .emit).emitReflectionSteps (inv.run ++ "/binding/gen_emit.cpp")
      (inv.buildDir .emit) inv.incflags ++
    (laneProcess machine inv .emit).emitProductionSteps (inv.run ++ "/binding/gen_emit.cpp")
      inv.toml.moduleName (inv.buildDir .emit) inv.incflags

theorem laneScript_constexpr : laneScript machine inv .constexpr =
    runSteps (constexprSteps machine inv)
      ((laneProcess machine inv .constexpr).printModule inv.toml.moduleName
        (inv.buildDir .constexpr)) := by
  by_cases hstrategy : inv.strategy = "two_stage"
  · rw [constexprSteps, if_pos hstrategy, ← Process.buildModuleCodegen_eq_runSteps]
    simp [laneScript, buildScript, Invocation.buildCommand, hstrategy, Invocation.lib,
      laneProcess, String.append_right_inj]
  · rw [constexprSteps, if_neg hstrategy, ← Process.buildModule_eq_runSteps]
    simp [laneScript, buildScript, Invocation.buildCommand, hstrategy, Invocation.lib,
      laneProcess]

theorem laneScript_emit : laneScript machine inv .emit =
    (laneProcess machine inv .emit).buildModuleEmit
      ((inv.run ++ "/binding/gen_emit.cpp") :: inv.toml.moduleName :: inv.buildDir .emit ::
        inv.incflags) := by
  simp [laneScript, buildScript, Invocation.buildCommand, Invocation.lib, laneProcess,
    String.append_right_inj]

theorem emitStages_eq : (laneProcess machine inv .emit).emitStages
    (inv.run ++ "/binding/gen_emit.cpp") inv.toml.moduleName (inv.buildDir .emit) inv.incflags =
      runSteps (emitSteps machine inv)
        ((laneProcess machine inv .emit).printModule inv.toml.moduleName (inv.buildDir .emit)) :=
  Process.emitStages_eq_runSteps _ _ _ _ _

theorem constexprSteps_code_ne_zero : ∀ step ∈ constexprSteps machine inv, step.code ≠ 0 := by
  unfold constexprSteps
  split
  · exact Process.codegenSteps_code_ne_zero _ _ _ _ _ _
  · exact Process.moduleSteps_code_ne_zero _ _ _ _ _

theorem emitSteps_code_ne_zero : ∀ step ∈ emitSteps machine inv, step.code ≠ 0 := by
  rw [emitSteps, List.forall_mem_append]
  constructor
  · intro step hstep hzero
    have hreport := Process.emitReflectionSteps_report _ _ _ _ step hstep
    simp [hzero] at hreport
  · intro step hstep hzero
    have hreport := Process.emitProductionSteps_report _ _ _ _ _ step hstep
    simp [hzero] at hreport

/-! ## What each lane hands over -/

/-- The words before the run's own flags: the include flags, and for the module of a two-stage run
the directory of the generated header. -/
def callerIncludes (place : Place) : List String :=
  (if inv.strategy = "two_stage" ∧ place = .compile then ["-I", inv.buildDir .constexpr] else []) ++
    inv.incflags

/-- The launch takes these flags after the include flags. -/
def Receives (flags : List String) (launch : Launch) : Prop :=
  launch.fromCaller = callerIncludes inv launch.place ++ flags

/-- The places where the reflection compiler reads the binding or its generator. -/
def reflectionPlaces : List Place := [.compile, .genCompile, .emitGenCompile]

theorem constexprSteps_receive : ∀ step ∈ constexprSteps machine inv,
    step.launch.place ∈ reflectionPlaces → Receives inv inv.extraCflags step.launch := by
  unfold constexprSteps
  by_cases hstrategy : inv.strategy = "two_stage"
  · rw [if_pos hstrategy, Process.codegenSteps, Process.moduleSteps]
    simp only [List.forall_mem_append]
    refine ⟨?_, ⟨?_, forall_mem_loopSteps (fun _ _ ↦ ?_) _ _⟩, ?_⟩ <;>
      simp [reflectionPlaces, Receives, callerIncludes, hstrategy, Process.genCompileLaunch,
        Process.compileLaunch, Process.extraLaunch, Process.linkLaunch]
  · rw [if_neg hstrategy, Process.moduleSteps]
    simp only [List.forall_mem_append]
    refine ⟨⟨?_, forall_mem_loopSteps (fun _ _ ↦ ?_) _ _⟩, ?_⟩ <;>
      simp [reflectionPlaces, Receives, callerIncludes, hstrategy,
        Process.compileLaunch, Process.extraLaunch, Process.linkLaunch]

theorem emitSteps_receive : ∀ step ∈ emitSteps machine inv,
    step.launch.place ∈ reflectionPlaces →
      Receives inv ((laneProcess machine inv .emit).unquoted "NB_GEN_CFLAGS") step.launch := by
  rw [emitSteps, Process.emitReflectionSteps, Process.emitProductionSteps]
  simp only [List.forall_mem_append]
  refine ⟨⟨forall_mem_loopSteps (fun _ _ ↦ ?_) _ _, ?_⟩,
      ⟨?_, forall_mem_loopSteps (fun _ _ ↦ ?_) _ _⟩, ?_⟩ <;>
    simp [reflectionPlaces, Receives, callerIncludes, Process.emitGenExtraLaunch,
      Process.emitGenCompileLaunch, Process.emitCompileLaunch, Process.emitExtraLaunch,
      Process.emitLinkLaunch]

/-- The places where a lane compiles the library sources. -/
def sourcePlaces : Lane → List Place
  | .constexpr => [.extraCompile]
  | .emit => [.emitGenExtra, .emitExtra]

theorem constexprSteps_sources :
    sourcesAt .extraCompile ((constexprSteps machine inv).map Step.launch) =
      (laneProcess machine inv .constexpr).extraSources := by
  unfold constexprSteps
  split
  · rw [Process.codegenSteps, List.map_append, sourcesAt_append,
      sourcesAt_of_place_ne (by simp [Process.genCompileLaunch]), List.nil_append]
    exact Process.moduleSteps_sources _ _ _ _ _
  · exact Process.moduleSteps_sources _ _ _ _ _

theorem emitSteps_sources {place : Place} (hplace : place ∈ sourcePlaces .emit) :
    sourcesAt place ((emitSteps machine inv).map Step.launch) =
      (laneProcess machine inv .emit).extraSources := by
  rw [emitSteps, List.map_append, sourcesAt_append]
  simp only [sourcePlaces, List.mem_cons, List.not_mem_nil, or_false] at hplace
  rcases hplace with rfl | rfl
  · rw [Process.emitReflectionSteps_sources,
      sourcesAt_of_place_ne (Process.emitProductionSteps_place _ _ _ _ _), List.append_nil]
  · rw [Process.emitProductionSteps_sources,
      sourcesAt_of_place_ne (Process.emitReflectionSteps_place _ _ _ _), List.nil_append]

/-! ## The two lanes alike -/

def laneSteps : Lane → List Step
  | .constexpr => constexprSteps machine inv
  | .emit => emitSteps machine inv

/-- The flags that the reflection compiler gets in a lane. -/
def laneFlags : Lane → List String
  | .constexpr => inv.extraCflags
  | .emit => (laneProcess machine inv .emit).unquoted "NB_GEN_CFLAGS"

variable (tools : Tools)

/-- Only the emit build needs the production archive, and it says so before any step. -/
def ArchiveThere (lane : Lane) : Prop :=
  lane = .emit → tools.fileExists (laneProcess machine inv .emit).settings.nbLibProd = true

variable (lane : Lane)

def laneBuild : Completed := completed tools (laneScript machine inv lane)

def laneLaunches : List Launch := launches tools (laneScript machine inv lane)

theorem laneSteps_code_ne_zero : ∀ step ∈ laneSteps machine inv lane, step.code ≠ 0 := by
  cases lane with
  | constexpr => exact constexprSteps_code_ne_zero machine inv
  | emit => exact emitSteps_code_ne_zero machine inv

variable {lane}

theorem laneBuild_eq_steps (harchive : ArchiveThere machine inv tools lane) :
    laneBuild machine inv tools lane = completed tools (runSteps (laneSteps machine inv lane)
      ((laneProcess machine inv lane).printModule inv.toml.moduleName (inv.buildDir lane))) := by
  cases lane with
  | constexpr => rw [laneBuild, laneScript_constexpr]; rfl
  | emit =>
      rw [laneBuild, laneScript_emit, completed_buildModuleEmit_of_archive _ _ _ _ _ _ (harchive rfl),
        emitStages_eq]
      rfl

theorem laneLaunches_of_archive (harchive : ArchiveThere machine inv tools lane) :
    laneLaunches machine inv tools lane =
      (reached tools (laneSteps machine inv lane)).map Step.launch := by
  cases lane with
  | constexpr => rw [laneLaunches, laneScript_constexpr, launches_runSteps]; rfl
  | emit =>
      rw [laneLaunches, laneScript_emit, launches_buildModuleEmit, if_pos (harchive rfl),
        emitStages_eq, launches_runSteps]
      rfl

/-- A build without its archive launches nothing and fails. -/
theorem laneBuild_of_missing (harchive : ¬ ArchiveThere machine inv tools lane) :
    (laneBuild machine inv tools lane).returncode = 35 ∧
      laneLaunches machine inv tools lane = [] := by
  obtain ⟨rfl, hmissing⟩ := Classical.not_imp.mp harchive
  constructor
  · rw [laneBuild, laneScript_emit]
    exact completed_buildModuleEmit_of_missing _ _ _ _ _ _ (Bool.not_eq_true _ ▸ hmissing)
  · rw [laneLaunches, laneScript_emit, launches_buildModuleEmit, if_neg hmissing]

theorem laneBuild_succeeds_iff (harchive : ArchiveThere machine inv tools lane) :
    (laneBuild machine inv tools lane).returncode = 0 ↔
      AllSucceed tools (laneSteps machine inv lane) := by
  rw [laneBuild_eq_steps machine inv tools harchive]
  exact completed_runSteps_returncode _ _ _ _ _ (laneSteps_code_ne_zero machine inv lane)

variable (lane)

theorem laneLaunches_prefixOf :
    laneLaunches machine inv tools lane <+: (laneSteps machine inv lane).map Step.launch := by
  by_cases harchive : ArchiveThere machine inv tools lane
  · rw [laneLaunches_of_archive machine inv tools harchive]
    exact (reached_prefixOf tools _).map _
  · rw [(laneBuild_of_missing machine inv tools harchive).2]
    exact List.nil_prefix

/-- A successful build has launched every step. -/
theorem laneLaunches_of_success (h : (laneBuild machine inv tools lane).returncode = 0) :
    laneLaunches machine inv tools lane = (laneSteps machine inv lane).map Step.launch := by
  by_cases harchive : ArchiveThere machine inv tools lane
  · rw [laneLaunches_of_archive machine inv tools harchive,
      reached_eq_self tools ((laneBuild_succeeds_iff machine inv tools harchive).mp h)]
  · rw [(laneBuild_of_missing machine inv tools harchive).1] at h
    exact absurd h (by decide)

/-- Tools that never fail, with every archive in place. -/
def obliging : Tools := ⟨fun _ ↦ 0, fun _ ↦ "", fun _ ↦ "", fun _ ↦ true⟩

theorem laneBuild_obliging : (laneBuild machine inv obliging lane).returncode = 0 :=
  (laneBuild_succeeds_iff machine inv obliging fun _ ↦ rfl).mpr fun _ _ ↦ rfl

theorem laneSteps_receive : ∀ step ∈ laneSteps machine inv lane,
    step.launch.place ∈ reflectionPlaces →
      Receives inv (laneFlags machine inv lane) step.launch := by
  cases lane with
  | constexpr => exact constexprSteps_receive machine inv
  | emit => exact emitSteps_receive machine inv

theorem exists_reflection_step :
    ∃ step ∈ laneSteps machine inv lane, step.launch.place ∈ reflectionPlaces := by
  cases lane with
  | constexpr =>
      change ∃ step ∈ constexprSteps machine inv, _
      rw [constexprSteps]
      split
      · refine ⟨_, List.mem_append_left _ List.mem_cons_self, ?_⟩
        simp [Process.genCompileLaunch, reflectionPlaces]
      · refine ⟨_, List.mem_append_left _ (List.mem_append_left _ List.mem_cons_self), ?_⟩
        simp [Process.compileLaunch, reflectionPlaces]
  | emit =>
      refine ⟨_, List.mem_append_left _ (List.mem_append_right _ List.mem_cons_self), ?_⟩
      simp [Process.emitGenCompileLaunch, reflectionPlaces]

theorem laneSteps_sources {place : Place} (hplace : place ∈ sourcePlaces lane) :
    sourcesAt place ((laneSteps machine inv lane).map Step.launch) =
      (laneProcess machine inv lane).extraSources := by
  cases lane with
  | constexpr =>
      obtain rfl : place = .extraCompile := by simpa [sourcePlaces] using hplace
      exact constexprSteps_sources machine inv
  | emit => exact emitSteps_sources machine inv hplace

end Lanes

end ReflectNanobind.Scripts
