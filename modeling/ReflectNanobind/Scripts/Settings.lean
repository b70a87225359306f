import ReflectNanobind.Gates.Invocation
import ReflectNanobind.Library.Shell

/-!
# The settings of the build scripts

`env.sh`, which every build script sources first: the backend, the compilers, the include directories
and the archives, as functions of the process environment and of what the machine answers.
-/

namespace ReflectNanobind.Scripts

open Gates Library

/-- What the scripts ask the machine. -/
structure Machine where
  onLinux : Bool
  /-- The include directory and the module suffix of the virtual environment's Python. -/
  pyInc : String
  extSuffix : String
  /-- `xcrun --show-sdk-path`. -/
  sdkRootPath : String
  /-- `cd "$(dirname "$path")" && pwd`. -/
  directoryOf : String → String
  /-- Pathname expansion. -/
  matchesPattern : String → String → Bool
  files : Shell.FileSystem

/-- The variables that `env.sh` exports and the build scripts read. -/
structure Settings where
  corpusToolchain : String
  tc : String
  corpusCxx : String
  prodCxx : String
  pyInc : String
  nbInc : String
  mbInc : String
  nbLib : String
  nbLibProd : String
  nbSym : String
  sdkRootPath : String
  isysrootFlags : String
  reflectFlags : String
  extSuffix : String
  prodStdDefault : String

def Settings.isGcc (settings : Settings) : Bool := settings.corpusToolchain == "gcc16"

/-- `${name:-fallback}`: an empty variable counts as unset. -/
def orDefault (environ : Environ) (name fallback : String) : String :=
  match environ name with
  | some value => if value ≠ "" then value else fallback
  | none => fallback

/-- `env.sh` in the repository `repo`. -/
def envSh (machine : Machine) (repo : String) (environ : Environ) : Settings :=
  let corpusToolchain :=
    orDefault environ "CORPUS_TOOLCHAIN" (if machine.onLinux then "gcc16" else "clang-p2996")
  if corpusToolchain = "gcc16" then
    { corpusToolchain := corpusToolchain
      tc := (environ "TC").getD ""
      corpusCxx := "g++"
      prodCxx := orDefault environ "PROD_CXX" "g++"
      pyInc := machine.pyInc
      nbInc := repo ++ "/nanobind/include"
      mbInc := repo ++ "/mirrorbind/include"
      nbLib := repo ++ "/build-gcc16/prod/libnanobind-static.a"
      nbLibProd := repo ++ "/build-gcc16/prod/libnanobind-static.a"
      nbSym := ""
      sdkRootPath := ""
      isysrootFlags := ""
      reflectFlags := "-std=c++26 -freflection"
      extSuffix := machine.extSuffix
      prodStdDefault := "c++20" }
  else
    { corpusToolchain := corpusToolchain
      tc := repo ++ "/toolchain"
      corpusCxx := repo ++ "/toolchain/bin/clang++"
      prodCxx := orDefault environ "PROD_CXX" "/usr/bin/clang++"
      pyInc := machine.pyInc
      nbInc := repo ++ "/nanobind/include"
      mbInc := repo ++ "/mirrorbind/include"
      nbLib := repo ++ "/build/tests/libnanobind-static.a"
      nbLibProd := repo ++ "/build/prod/libnanobind-static.a"
      nbSym := repo ++ "/nanobind/cmake/darwin-ld-cpython.sym"
      sdkRootPath := machine.sdkRootPath
      isysrootFlags := "-isysroot " ++ machine.sdkRootPath
      reflectFlags := "-std=c++26 -freflection-latest -stdlib=libc++"
      extSuffix := machine.extSuffix
      prodStdDefault := "c++20" }

/-- Scripts and orchestrator agree on the backend when they run on the same machine. -/
theorem envSh_corpusToolchain (machine : Machine) (inv : Invocation)
    (hmachine : machine.onLinux = inv.onLinux) :
    (envSh machine inv.repo inv.environ).corpusToolchain = inv.backend := by
  have hbackend : inv.backend = orDefault inv.environ "CORPUS_TOOLCHAIN"
      (if machine.onLinux then "gcc16" else "clang-p2996") := by
    rw [hmachine]
    rfl
  rw [hbackend]
  unfold envSh
  generalize orDefault inv.environ "CORPUS_TOOLCHAIN" _ = toolchain
  by_cases hgcc : toolchain = "gcc16" <;> simp [hgcc]

end ReflectNanobind.Scripts
