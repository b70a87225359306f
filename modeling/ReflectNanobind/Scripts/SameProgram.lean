import ReflectNanobind.Scripts.Handover

/-!
# The same program in both lanes

The three-way validation presumes that both lanes compile the same program.  The flags reach the
reflection compiler alike and the library sources are compiled element for element exactly when the
entries of `meta.toml` survive an unquoted expansion.
-/

namespace ReflectNanobind.Scripts

open Gates Library

section SameProgram

variable (machine : Machine) (inv : Invocation)

/-- The reflection compiler gets one list of flags in both lanes, and each lane compiles the resolved
library sources in order: as far as its build gets, and all of them when it succeeds. -/
structure SameProgram (tools : Tools) : Prop where
  flags : ∃ flags, ∀ lane, ∀ launch ∈ laneLaunches machine inv tools lane,
    launch.place ∈ reflectionPlaces → Receives inv flags launch
  sources : ∀ lane, ∀ place ∈ sourcePlaces lane,
    sourcesAt place (laneLaunches machine inv tools lane) <+: inv.extraSources ∧
      ((laneBuild machine inv tools lane).returncode = 0 →
        sourcesAt place (laneLaunches machine inv tools lane) = inv.extraSources)

/-- The file system is changed, and nothing else of the machine. -/
def Machine.withFiles (files : Shell.FileSystem) : Machine := { machine with files := files }

/-- Every flag and every resolved source survives an unquoted expansion, and a run without sources
inherits none. -/
structure SurvivesExpansion (matchesPattern : String → String → Bool) : Prop where
  flags : ∀ flag ∈ inv.extraCflags, Shell.Intact matchesPattern flag
  sources : ∀ source ∈ inv.extraSources, Shell.Intact matchesPattern source
  inherited : inv.extraSources = [] →
    Shell.fields ((inv.environ "NB_EXTRA_SOURCES").getD "") = []

/-! ## What the lanes see -/

theorem orDefault_empty (environ : Environ) (name : String) :
    orDefault environ name "" = (environ name).getD "" := by
  unfold orDefault
  cases environ name with
  | none => rfl
  | some value => by_cases hvalue : value = "" <;> simp [hvalue]

theorem buildEnv_extraSources (lane : Lane) : inv.buildEnv lane "NB_EXTRA_SOURCES" =
    inv.withExtraSources inv.environ "NB_EXTRA_SOURCES" := by
  cases lane with
  | constexpr =>
      unfold Invocation.buildEnv
      by_cases hlibs : inv.extraLibs = "" <;> simp [hlibs, Environ.set]
  | emit =>
      rw [inv.buildEnv_emit (by decide)]
      by_cases hlibs : inv.extraLibs = "" <;> simp [hlibs, Environ.set]

theorem buildEnv_genCflags : inv.buildEnv .emit "NB_GEN_CFLAGS" =
    some (Text.join " " inv.extraCflags) := by
  rw [inv.buildEnv_emit (by decide)]
  simp [Environ.set]

theorem laneProcess_genCflags : (laneProcess machine inv .emit).unquoted "NB_GEN_CFLAGS" =
    Shell.expand machine.matchesPattern machine.files (Text.join " " inv.extraCflags) := by
  rw [Process.unquoted, orDefault_empty]
  change Shell.expand _ _ ((inv.buildEnv .emit "NB_GEN_CFLAGS").getD "") = _
  rw [buildEnv_genCflags]
  rfl

theorem laneProcess_extraSources (lane : Lane) : (laneProcess machine inv lane).extraSources =
    Shell.expand machine.matchesPattern machine.files
      (if inv.extraSources ≠ [] then Text.join " " inv.extraSources
        else (inv.environ "NB_EXTRA_SOURCES").getD "") := by
  rw [Process.extraSources, Process.unquoted, orDefault_empty]
  change Shell.expand _ _ ((inv.buildEnv lane "NB_EXTRA_SOURCES").getD "") = _
  rw [buildEnv_extraSources, Invocation.withExtraSources]
  by_cases hsources : inv.extraSources ≠ []
  · rw [if_pos hsources, if_pos hsources, Environ.set_same]
    rfl
  · rw [if_neg hsources, if_neg hsources]
    rfl

/-- The words of the source variable are the resolved sources, whatever files there are, exactly when
the sources survive the expansion. -/
theorem extraSources_handed_over (lane : Lane) :
    (∀ files, (laneProcess (machine.withFiles files) inv lane).extraSources = inv.extraSources) ↔
      (∀ source ∈ inv.extraSources, Shell.Intact machine.matchesPattern source) ∧
        (inv.extraSources = [] →
          Shell.fields ((inv.environ "NB_EXTRA_SOURCES").getD "") = []) := by
  simp only [laneProcess_extraSources, Machine.withFiles]
  by_cases hnone : inv.extraSources = []
  · simp only [hnone, ne_eq, not_true_eq_false, if_false, List.not_mem_nil, false_implies,
      implies_true, true_and, true_implies]
    constructor
    · intro h
      rw [← Shell.expand_of_no_names machine.matchesPattern]
      exact h _
    · intro h files
      rw [Shell.expand, h]
      rfl
  · simp only [hnone, ne_eq, not_false_eq_true, if_true, false_implies, and_true]
    exact Shell.expand_join_eq_iff inv.extraSources

/-! ## The exact condition -/

/-- Under tools that never fail the lanes agree only if the joined words come back. -/
theorem handed_over_of_sameProgram (h : SameProgram machine inv obliging) :
    (laneProcess machine inv .emit).unquoted "NB_GEN_CFLAGS" = inv.extraCflags ∧
      ∀ lane, (laneProcess machine inv lane).extraSources = inv.extraSources := by
  have hlaunches (lane : Lane) : laneLaunches machine inv obliging lane =
      (laneSteps machine inv lane).map Step.launch :=
    laneLaunches_of_success machine inv obliging lane (laneBuild_obliging machine inv lane)
  constructor
  · obtain ⟨flags, hflags⟩ := h.flags
    have hlane (lane : Lane) : laneFlags machine inv lane = flags := by
      obtain ⟨step, hstep, hplace⟩ := exists_reflection_step machine inv lane
      have hgiven := laneSteps_receive machine inv lane step hstep hplace
      have hreceived := hflags lane step.launch
        (by rw [hlaunches]; exact List.mem_map_of_mem hstep) hplace
      exact List.append_cancel_left (hgiven.symm.trans hreceived)
    exact (hlane .emit).trans (hlane .constexpr).symm
  · intro lane
    have hplace : ∃ place, place ∈ sourcePlaces lane := by
      cases lane with
      | constexpr => exact ⟨.extraCompile, by decide⟩
      | emit => exact ⟨.emitExtra, by decide⟩
    obtain ⟨place, hplace⟩ := hplace
    have hcompiled := (h.sources lane place hplace).2 (laneBuild_obliging machine inv lane)
    rwa [hlaunches, laneSteps_sources machine inv lane hplace] at hcompiled

theorem sameProgram_of_handed_over (tools : Tools)
    (hflags : (laneProcess machine inv .emit).unquoted "NB_GEN_CFLAGS" = inv.extraCflags)
    (hsources : ∀ lane, (laneProcess machine inv lane).extraSources = inv.extraSources) :
    SameProgram machine inv tools where
  flags := by
    refine ⟨inv.extraCflags, fun lane launch hlaunch hplace ↦ ?_⟩
    obtain ⟨step, hstep, rfl⟩ :=
      List.mem_map.mp ((laneLaunches_prefixOf machine inv tools lane).subset hlaunch)
    have hreceived := laneSteps_receive machine inv lane step hstep hplace
    cases lane with
    | constexpr => exact hreceived
    | emit => rwa [laneFlags, hflags] at hreceived
  sources := by
    intro lane place hplace
    have hsteps := laneSteps_sources machine inv lane hplace
    rw [hsources lane] at hsteps
    constructor
    · rw [← hsteps]
      exact sourcesAt_prefixOf (laneLaunches_prefixOf machine inv tools lane)
    · intro hsuccess
      rw [laneLaunches_of_success machine inv tools lane hsuccess, hsteps]

/-- Both lanes hand the compilers the listed flags and sources, whatever files there are and however
the tools answer, exactly when the entries survive an unquoted expansion. -/
theorem lanes_compile_same_program_iff :
    (∀ files tools, SameProgram (machine.withFiles files) inv tools) ↔
      SurvivesExpansion inv machine.matchesPattern := by
  have hexpand : (∀ files, (laneProcess (machine.withFiles files) inv .emit).unquoted
      "NB_GEN_CFLAGS" = inv.extraCflags) ↔
        ∀ flag ∈ inv.extraCflags, Shell.Intact machine.matchesPattern flag := by
    simp only [laneProcess_genCflags]
    exact Shell.expand_join_eq_iff inv.extraCflags
  constructor
  · intro h
    have hover (files : Shell.FileSystem) :=
      handed_over_of_sameProgram (machine.withFiles files) inv (h files obliging)
    have hsources := (extraSources_handed_over machine inv .emit).mp fun files ↦
      (hover files).2 .emit
    exact ⟨hexpand.mp fun files ↦ (hover files).1, hsources.1, hsources.2⟩
  · intro h files tools
    exact sameProgram_of_handed_over (machine.withFiles files) inv tools
      (hexpand.mpr h.flags files)
      fun lane ↦ (extraSources_handed_over machine inv lane).mpr ⟨h.sources, h.inherited⟩ files

end SameProgram

/-- A Linux machine whose patterns match literally. -/
def plainMachine : Machine where
  onLinux := true
  pyInc := "/usr/include/python3"
  extSuffix := ".so"
  sdkRootPath := ""
  directoryOf := fun _ ↦ "/repo/corpus/runs/fmt/binding"
  matchesPattern := fun word name ↦ word == name
  files := ⟨[], List.nodup_nil⟩

/-- A flag with a space in it is one word in the constexpr lane and two in the emit lane. -/
theorem spaced_flag_is_split : ¬ ∀ files tools, SameProgram (plainMachine.withFiles files)
    (Invocation.onLinuxRepo { Meta.required "fmt" "fmt_bind" with
      extraCflags := some ["-DGREETING=hello world"] } (some .both)) tools := by
  intro h
  have hflags := (handed_over_of_sameProgram _ _ (h ⟨[], List.nodup_nil⟩ obliging)).1
  revert hflags
  decide

end ReflectNanobind.Scripts
