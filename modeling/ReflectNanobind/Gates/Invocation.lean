import ReflectNanobind.Gates.Diagnostics

/-!
# One invocation of the orchestrator and the commands it launches

The configuration that `main` reads before any gate (the run's `meta.toml`, the backend, the
environment and the repository paths) and every command line built from it.  A command carries the
place of the source that launches it next to its argument vector and environment.
-/

namespace ReflectNanobind.Gates

open Library

/-! ## Environments -/

/-- The variables of a process environment. -/
abbrev Environ := String → Option String

def Environ.set (environ : Environ) (name value : String) : Environ :=
  fun other ↦ if other = name then some value else environ other

def Environ.pop (environ : Environ) (name : String) : Environ :=
  fun other ↦ if other = name then none else environ other

@[simp] theorem Environ.set_same (environ : Environ) (name value : String) :
    environ.set name value name = some value := by
  simp [Environ.set]

/-! ## meta.toml -/

/-- The `[emit]` table. -/
structure EmitTable where
  enabled : Option Bool
  extraCflags : Option (List String)
  std : Option String
  surfaceDiffIgnore : Option (List String)

/-- The `[gcc16]` table. -/
structure Gcc16Table where
  extraCflags : Option (List String)
  emitEnabled : Option Bool

/-- A well-formed `meta.toml`: the two required keys, and every other key as an option. -/
structure Meta where
  slug : String
  moduleName : String
  url : Option String
  pin : Option String
  tier : Option ℤ
  headerOnly : Option Bool
  includeRoot : Option String
  mainHeaders : Option (List String)
  strategy : Option String
  extraCflags : Option (List String)
  extraSources : Option (List String)
  extraLibs : Option String
  linkAbseil : Option Bool
  reflectArgs : Option (List String)
  subsetRationale : Option String
  skippedFeatures : Option (List String)
  emit : Option EmitTable
  gcc16 : Option Gcc16Table

/-- The smallest `meta.toml`: the two required keys alone. -/
def Meta.required (slug moduleName : String) : Meta where
  slug := slug
  moduleName := moduleName
  url := none
  pin := none
  tier := none
  headerOnly := none
  includeRoot := none
  mainHeaders := none
  strategy := none
  extraCflags := none
  extraSources := none
  extraLibs := none
  linkAbseil := none
  reflectArgs := none
  subsetRationale := none
  skippedFeatures := none
  emit := none
  gcc16 := none

/-- The value of the `--mode` option. -/
inductive Mode where
  | constexpr | emit | both
  deriving DecidableEq, Repr

/-! ## The invocation -/

structure Invocation where
  toml : Meta
  mode : Option Mode
  environ : Environ
  /-- `sys.platform.startswith("linux")`. -/
  onLinux : Bool
  /-- The repository root and the resolved run directory. -/
  repo : String
  run : String
  /-- `str(run / s)` and `str((run / s).resolve())`. -/
  joinRun : String → String
  resolveRun : String → String

namespace Invocation

/-- The invocation of a run directory below `/repo` on Linux, in an empty environment. -/
def onLinuxRepo (toml : Meta) (mode : Option Mode) : Invocation where
  toml := toml
  mode := mode
  environ := fun _ ↦ none
  onLinux := true
  repo := "/repo"
  run := "/repo/corpus/runs/" ++ toml.slug
  joinRun := fun path ↦ "/repo/corpus/runs/" ++ toml.slug ++ "/" ++ path
  resolveRun := fun path ↦ "/repo/corpus/runs/" ++ toml.slug ++ "/" ++ path

variable (inv : Invocation)

/-- `BACKEND`; an empty variable counts as unset. -/
def backend : String :=
  match inv.environ "CORPUS_TOOLCHAIN" with
  | some name => if name ≠ "" then name else if inv.onLinux then "gcc16" else "clang-p2996"
  | none => if inv.onLinux then "gcc16" else "clang-p2996"

def isGcc : Bool := inv.backend == "gcc16"

def suffix : String := if inv.isGcc then "-gcc16" else ""

def lib : String := inv.repo ++ "/corpus/lib"

def venvPy : String :=
  if inv.isGcc then inv.repo ++ "/gcc16-proveout/venv/bin/python"
  else inv.repo ++ "/.venv/bin/python"

def incflags : List String :=
  match inv.toml.includeRoot with
  | some root => if root ≠ "" then ["-I", inv.joinRun root] else []
  | none => []

/-- `translate_cflags`. -/
def translateCflags (flags : List String) : List String :=
  if inv.isGcc then
    flags.map fun flag ↦
      if Text.startsWith flag "-fconstexpr-steps=" then
        "-fconstexpr-ops-limit=" ++ Text.afterEquals flag
      else flag
  else flags

/-- `strip_reflection_flags`. -/
def stripReflectionFlags (flags : List String) : List String :=
  flags.filter fun flag ↦
    !Text.startsWith flag "-fconstexpr-steps" && !Text.startsWith flag "-fconstexpr-ops-limit" &&
      !Text.startsWith flag "-freflection"

/-- The extra flags of the reflection compiles: a `[gcc16]` list replaces the translated one. -/
def extraCflags : List String :=
  match inv.isGcc, inv.toml.gcc16.bind (·.extraCflags) with
  | true, some flags => flags
  | _, _ => inv.translateCflags (inv.toml.extraCflags.getD [])

def extraSources : List String :=
  (inv.toml.extraSources.getD []).map inv.resolveRun

def abseilPrefix : String :=
  (inv.environ "NB_ABSEIL_PREFIX").getD
    (inv.repo ++ "/" ++ (if inv.isGcc then "build-gcc16" else "build") ++ "/abseil-install")

def extraLibs : String :=
  let libs := Text.replace (inv.toml.extraLibs.getD "") "\x7brepo\x7d" inv.repo
  let libs :=
    if inv.isGcc then
      Text.replace libs (inv.repo ++ "/build/") (inv.repo ++ "/build-gcc16/")
    else libs
  if inv.toml.linkAbseil.getD false then
    (if libs ≠ "" then libs ++ " " else "") ++ "-L " ++ inv.abseilPrefix ++ "/lib -labsl_merged" ++
      (if inv.isGcc then "" else " -framework CoreFoundation")
  else libs

def strategy : String := inv.toml.strategy.getD "single_stage"

/-- An `[emit]` table counts unless it is disabled, on either level. -/
def hasEmit : Bool :=
  (match inv.toml.emit with
    | some table => table.enabled.getD true
    | none => false) &&
    !(inv.isGcc && !((inv.toml.gcc16.bind (·.emitEnabled)).getD true))

def lanesToRun : List Lane :=
  match inv.mode with
  | none => if inv.hasEmit then [.constexpr, .emit] else [.constexpr]
  | some .both => [.constexpr, .emit]
  | some .constexpr => [.constexpr]
  | some .emit => [.emit]

/-- The lane list is one lane, or the constexpr lane before the emit lane. -/
theorem lanesToRun_cases :
    inv.lanesToRun = [.constexpr] ∨ inv.lanesToRun = [.emit] ∨
      inv.lanesToRun = [.constexpr, .emit] := by
  unfold lanesToRun
  rcases inv.mode with _ | mode
  · cases inv.hasEmit <;> simp
  · cases mode <;> simp

theorem lanesToRun_ne_nil : inv.lanesToRun ≠ [] := by
  rcases inv.lanesToRun_cases with h | h | h <;> rw [h] <;> simp

/-- Two lanes run exactly when both do. -/
theorem lanesToRun_length_eq_two : inv.lanesToRun.length = 2 ↔
    inv.lanesToRun = [.constexpr, .emit] := by
  rcases inv.lanesToRun_cases with h | h | h <;> rw [h] <;> simp

theorem lanesToRun_eq_both (h : ∀ lane, lane ∈ inv.lanesToRun) :
    inv.lanesToRun = [.constexpr, .emit] := by
  have hconstexpr := h .constexpr
  have hemit := h .emit
  rcases inv.lanesToRun_cases with hlanes | hlanes | hlanes
  · rw [hlanes] at hemit
    exact absurd hemit (by decide)
  · rw [hlanes] at hconstexpr
    exact absurd hconstexpr (by decide)
  · exact hlanes

end Invocation

/-! ## Commands -/

/-- The place in the source that launches a command. -/
inductive LaunchSite where
  | toolchainCommit | binderCommit | prodVersion | probe | oracleBuild | oracle
  | build (lane : Lane)
  | importSmoke (lane : Lane)
  | pytest (lane : Lane)
  | surfaceDiff
  deriving DecidableEq, Repr

structure Command where
  site : LaunchSite
  args : List String
  environ : Environ

/-- What `subprocess.run` returns: the exit status and the decoded streams. -/
structure Completed where
  returncode : ℤ
  stdout : String
  stderr : String
  deriving DecidableEq, Repr

namespace Invocation

variable (inv : Invocation) (lane : Lane)

/-- `run_env`. -/
def runEnv (toolchainDyld : Bool) : Environ :=
  let environ := inv.environ.pop "DYLD_LIBRARY_PATH"
  if toolchainDyld && !inv.isGcc then
    environ.set "DYLD_LIBRARY_PATH" (inv.repo ++ "/toolchain/lib")
  else environ

def toolchainCommitCommand : Command where
  site := .toolchainCommit
  args := if inv.isGcc then ["g++", "-dumpfullversion"]
    else ["git", "-C", inv.repo, "rev-parse", "--short", "HEAD:llvm-project"]
  environ := inv.environ

def binderCommitCommand : Command where
  site := .binderCommit
  args := ["git", "-C", inv.repo, "rev-parse", "--short", "HEAD:nanobind"]
  environ := inv.environ

def prodVersionCommand : Command where
  site := .prodVersion
  args := [(inv.environ "PROD_CXX").getD (if inv.isGcc then "g++" else "/usr/bin/clang++"),
    "--version"]
  environ := inv.environ

def probeCommand : Command where
  site := .probe
  args := ["bash", inv.lib ++ "/probe.sh", inv.run ++ "/probe/probe.cpp"] ++ inv.incflags
  environ := inv.environ

def testsBuild : String := inv.run ++ "/tests/build" ++ inv.suffix

/-- `NB_EXTRA_SOURCES` is set only for a nonempty list; otherwise an inherited value stays. -/
def withExtraSources (environ : Environ) : Environ :=
  if inv.extraSources ≠ [] then
    environ.set "NB_EXTRA_SOURCES" (Text.join " " inv.extraSources)
  else environ

def oracleBuildCommand : Command where
  site := .oracleBuild
  args := ["bash", inv.lib ++ "/build_native.sh", inv.run ++ "/tests/oracle_native.cpp",
    inv.testsBuild ++ "/oracle"] ++ inv.incflags
  environ :=
    let environ := inv.withExtraSources inv.environ
    if inv.extraLibs ≠ "" then environ.set "NB_EXTRA_LIBS" inv.extraLibs else environ

def oracleCommand : Command where
  site := .oracle
  args := [inv.testsBuild ++ "/oracle"]
  environ := inv.runEnv true

def buildDir : String :=
  inv.run ++ "/binding/" ++
    (match lane with
      | .emit => "build-emit"
      | .constexpr => "build") ++ inv.suffix

/-- The production link line: on the clang backend the prebuilt prefixes are renamed textually. -/
def extraLibsProd : String :=
  if inv.isGcc then inv.extraLibs
  else Text.replace (Text.replace inv.extraLibs "-install/lib" "-install-prod/lib")
    "abseil-install/lib" "abseil-install-prod/lib"

/-- The environment of Gate 4. -/
def buildEnv : Environ :=
  let environ := inv.withExtraSources inv.environ
  match lane with
  | .emit =>
      let environ :=
        if inv.extraLibs ≠ "" then environ.set "NB_EXTRA_LIBS_PROD" inv.extraLibsProd else environ
      let environ := environ.set "NB_GEN_CFLAGS" (Text.join " " inv.extraCflags)
      let environ := environ.set "NB_PROD_CFLAGS"
        (Text.join " " (stripReflectionFlags (inv.translateCflags
          ((inv.toml.emit.bind (·.extraCflags)).getD inv.extraCflags))))
      match inv.toml.emit.bind (·.std) with
      | some std => if std ≠ "" then environ.set "NB_PROD_STD" std else environ
      | none => environ
  | .constexpr =>
      if inv.extraLibs ≠ "" then environ.set "NB_EXTRA_LIBS" inv.extraLibs else environ

/-- Behind the link line and the flags the emit lane only sets the standard. -/
theorem buildEnv_emit {name : String} (h : name ≠ "NB_PROD_STD") :
    inv.buildEnv .emit name =
      ((((if inv.extraLibs ≠ "" then
          (inv.withExtraSources inv.environ).set "NB_EXTRA_LIBS_PROD" inv.extraLibsProd
        else inv.withExtraSources inv.environ).set
          "NB_GEN_CFLAGS" (Text.join " " inv.extraCflags)).set
          "NB_PROD_CFLAGS" (Text.join " " (stripReflectionFlags (inv.translateCflags
            ((inv.toml.emit.bind (·.extraCflags)).getD inv.extraCflags)))))) name := by
  unfold buildEnv
  cases inv.toml.emit.bind (·.std) with
  | none => rfl
  | some std => by_cases hstd : std = "" <;> simp [hstd, Environ.set, h]

/-- Gate 4: the emit lane hands its flags over in the environment, the constexpr lane as
arguments. -/
def buildCommand : Command where
  site := .build lane
  args :=
    match lane with
    | .emit => ["bash", inv.lib ++ "/build_module_emit.sh", inv.run ++ "/binding/gen_emit.cpp",
        inv.toml.moduleName, inv.buildDir .emit] ++ inv.incflags
    | .constexpr =>
        if inv.strategy = "two_stage" then
          ["bash", inv.lib ++ "/build_module_codegen.sh", inv.run ++ "/binding/gen.cpp",
            inv.run ++ "/binding/binding.cpp", inv.toml.moduleName, inv.buildDir .constexpr] ++
            inv.incflags ++ inv.extraCflags
        else
          ["bash", inv.lib ++ "/build_module.sh", inv.run ++ "/binding/binding.cpp",
            inv.toml.moduleName, inv.buildDir .constexpr] ++ inv.incflags ++ inv.extraCflags
  environ := inv.buildEnv lane

/-- The environment of Gates 5 and 6: the emit lane never sees the toolchain's libc++. -/
def laneEnv : Environ :=
  (inv.runEnv (lane ≠ .emit)).set "PYTHONPATH" (inv.buildDir lane)

def importCommand : Command where
  site := .importSmoke lane
  args := [inv.venvPy, "-c", "import " ++ inv.toml.moduleName]
  environ := inv.laneEnv lane

def pytestCommand : Command where
  site := .pytest lane
  args := [inv.venvPy, "-m", "pytest", inv.run ++ "/tests/test_bindings.py", "-q", "-o",
    "cache_dir=" ++ inv.testsBuild ++
      (match lane with
        | .emit => "/.pytest_cache_emit"
        | .constexpr => "/.pytest_cache")]
  environ := inv.laneEnv lane

/-- The `surface_diff_ignore` list of the `[emit]` table. -/
def ignores : List String :=
  (inv.toml.emit.bind (·.surfaceDiffIgnore)).getD []

def surfaceDiffCommand : Command where
  site := .surfaceDiff
  args := [inv.venvPy, inv.lib ++ "/surface_diff.py", "compare", inv.run, inv.toml.moduleName] ++
    inv.ignores.flatMap fun pat ↦ ["--ignore", pat]
  environ := inv.environ

/-! Every command knows its place in the source, so that two commands differ when their places do. -/

@[simp] theorem toolchainCommitCommand_site : inv.toolchainCommitCommand.site = .toolchainCommit := rfl

@[simp] theorem binderCommitCommand_site : inv.binderCommitCommand.site = .binderCommit := rfl

@[simp] theorem prodVersionCommand_site : inv.prodVersionCommand.site = .prodVersion := rfl

@[simp] theorem probeCommand_site : inv.probeCommand.site = .probe := rfl

@[simp] theorem oracleBuildCommand_site : inv.oracleBuildCommand.site = .oracleBuild := rfl

@[simp] theorem oracleCommand_site : inv.oracleCommand.site = .oracle := rfl

@[simp] theorem buildCommand_site : (inv.buildCommand lane).site = .build lane := rfl

@[simp] theorem importCommand_site : (inv.importCommand lane).site = .importSmoke lane := rfl

@[simp] theorem pytestCommand_site : (inv.pytestCommand lane).site = .pytest lane := rfl

@[simp] theorem surfaceDiffCommand_site : inv.surfaceDiffCommand.site = .surfaceDiff := rfl

end Invocation

end ReflectNanobind.Gates
