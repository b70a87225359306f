import ReflectNanobind.Library.Host
import ReflectNanobind.Scripts.Settings

/-!
# The scripts that build the archives

`build_cmake_lib.sh`, `build_abseil.sh`, `build_nanobind_prod.sh` and `ci_prepare.sh` on both backends,
as programs that launch tools and look at files.  They run under `set -e`: the first tool that fails
ends a script with its status.  The first two differ in their values and in one check, and share one
definition.
-/

namespace ReflectNanobind.Scripts.Prebuilt

open Gates Library

/-! ## Effects -/

/-- The tools that the scripts launch. -/
inductive Tool where
  /-- `cmake -S source -B buildDir -G Ninja`, then `-Dname=value` for each definition, then the other
  arguments. -/
  | configure (source buildDir : String) (definitions : List (String × String))
      (extra : List String)
  /-- `ninja -C buildDir`. -/
  | build (buildDir : String)
  /-- `cmake --install buildDir`. -/
  | install (buildDir : String)
  /-- `rm -f path`. -/
  | remove (path : String)
  /-- `libtool -static -o output inputs…`. -/
  | libtool (output : String) (inputs : List String)
  /-- `ar -M` over `create output`, one `addlib` for each input, `save` and `end`. -/
  | arScript (output : String) (inputs : List String)
  /-- `ar rcs output inputs…`. -/
  | arReplace (output : String) (inputs : List String)
  /-- `compiler options… -c source -o object`. -/
  | compile (compiler : String) (options : List String) (source object : String)
  /-- `mkdir -p dir`. -/
  | mkdir (dir : String)
  /-- `ls -la path`. -/
  | list (path : String)
  /-- `git submodule update --init --depth 1 path` in the repository `root`. -/
  | updateSubmodule (root path : String)

inductive Request where
  | run (tool : Tool)
  /-- `[ -f path ]`. -/
  | isFile (path : String)
  /-- `find dir -name pattern ! -name excluded`. -/
  | find (dir pattern excluded : String)
  | echo (line : String)
  | echoError (line : String)

abbrev Reply : Request → Type
  | .run _ => ℤ
  | .isFile _ => Bool
  | .find .. => ℤ × List String
  | .echo _ | .echoError _ => Unit

/-- A script ends with its exit code. -/
abbrev Script := Program Request Reply ℤ

def run (tool : Tool) : Program Request Reply ℤ := Program.ask (Request.run tool)

def isFile (path : String) : Program Request Reply Bool := Program.ask (Request.isFile path)

def find (dir pattern excluded : String) : Program Request Reply (ℤ × List String) :=
  Program.ask (Request.find dir pattern excluded)

def echo (line : String) : Program Request Reply Unit := Program.ask (Request.echo line)

def echoError (line : String) : Program Request Reply Unit := Program.ask (Request.echoError line)

/-- `set -e`: a failing tool ends the script with its status. -/
def andThen (tool : Tool) (rest : Script) : Script := do
  let status ← run tool
  if status = 0 then rest else pure status

/-! ## Callers -/

/-- A process that starts a script of the repository. -/
structure Caller where
  machine : Machine
  repo : String
  environ : Environ

namespace Caller

variable (caller : Caller)

def settings : Settings := envSh caller.machine caller.repo caller.environ

def isGcc : Bool := caller.settings.isGcc

/-- `PROD_CC` of `env.sh`. -/
def prodCc : String :=
  orDefault caller.environ "PROD_CC" (if caller.isGcc then "gcc" else "/usr/bin/clang")

def gccBuildRoot : String := caller.repo ++ "/build-gcc16"

/-- An unquoted expansion of a text. -/
def words (value : String) : List String :=
  Shell.expand caller.machine.matchesPattern caller.machine.files value

/-- The C++ flags of the production compiler. -/
def prodFlags : String :=
  if caller.isGcc then "-fPIC" else "-isysroot " ++ caller.settings.sdkRootPath ++ " -fPIC"

def toolchainFlags : String :=
  "-stdlib=libc++ -nostdinc++ -isystem " ++ caller.settings.tc ++ "/include/c++/v1 -isysroot " ++
    caller.settings.sdkRootPath ++ " -fPIC"

def toolchainCxx : String := caller.settings.tc ++ "/bin/clang++"

/-- The libraries of the toolchain for the executables of a project. -/
def rpath : String :=
  "-L " ++ caller.settings.tc ++ "/lib -Wl,-rpath," ++ caller.settings.tc ++ "/lib"

end Caller

/-! ## The build of a merged archive -/

/-- What one of the two scripts sets before it builds. -/
structure Recipe where
  source : String
  buildDir : String
  installPrefix : String
  /-- The name of the merged archive in the library directory. -/
  mergedName : String
  pattern : String
  definitions : List (String × String)
  extra : List String
  forced : Bool
  /-- An installation without archives is an error. -/
  rejectsEmpty : Bool
  alreadyBuilt : String → String
  notInitialized : String
  built : String → String

namespace Recipe

variable (caller : Caller) (recipe : Recipe)

def libDir : String := recipe.installPrefix ++ "/lib"

def merged : String := recipe.libDir ++ "/" ++ recipe.mergedName

def merge (inputs : List String) : Tool :=
  if caller.isGcc then .arScript recipe.merged inputs else .libtool recipe.merged inputs

/-- From the list of installed archives on. -/
def mergeInstalled : Script := do
  let (status, libs) ← find recipe.libDir recipe.pattern recipe.mergedName
  if status ≠ 0 then pure status
  else if recipe.rejectsEmpty && libs.isEmpty then
    echoError ("no static libs installed under " ++ recipe.libDir)
    pure 1
  else
    andThen (recipe.merge caller (caller.words (Text.join "\n" libs))) do
      echo (recipe.built recipe.merged)
      run (.list recipe.merged)

/-- From the check of the checkout on. -/
def rebuild : Script := do
  let initialized ← isFile (recipe.source ++ "/CMakeLists.txt")
  if !initialized then
    echoError recipe.notInitialized
    pure 1
  else
    andThen (.configure recipe.source recipe.buildDir recipe.definitions recipe.extra) <|
    andThen (.build recipe.buildDir) <|
    andThen (.install recipe.buildDir) <|
    andThen (.remove recipe.merged) <|
    recipe.mergeInstalled caller

/-- An archive that is there is kept, unless the build is forced. -/
def buildAndMerge : Script := do
  let cached ← if recipe.forced then pure false else isFile recipe.merged
  if cached then
    echo (recipe.alreadyBuilt recipe.merged)
    pure 0
  else recipe.rebuild caller

end Recipe

namespace Caller

variable (caller : Caller)

/-! ## build_cmake_lib.sh -/

/-- The suffix of the build tree and of the installation for the emit lane on the clang backend. -/
def prodSuffix (prod : Bool) : String := if prod then "-prod" else ""

def cmakeDir (prod : Bool) (stem : String) : String :=
  if caller.isGcc then caller.gccBuildRoot ++ "/" ++ stem
  else caller.repo ++ "/build/" ++ stem ++ prodSuffix prod

def cmakeDefinitions (prod : Bool) (installPrefix std : String) : List (String × String) :=
  ("CMAKE_BUILD_TYPE", "Release") ::
    (if caller.isGcc then
      [("CMAKE_C_COMPILER", caller.prodCc),
        ("CMAKE_CXX_COMPILER", caller.settings.prodCxx),
        ("CMAKE_CXX_STANDARD", std),
        ("CMAKE_CXX_FLAGS", caller.prodFlags),
        ("CMAKE_C_FLAGS", "-fPIC")]
    else if prod then
      [("CMAKE_C_COMPILER", caller.prodCc),
        ("CMAKE_CXX_COMPILER", caller.settings.prodCxx),
        ("CMAKE_CXX_STANDARD", std),
        ("CMAKE_CXX_FLAGS", caller.prodFlags),
        ("CMAKE_C_FLAGS", "-isysroot " ++ caller.settings.sdkRootPath ++ " -fPIC")]
    else
      [("CMAKE_C_COMPILER", caller.settings.tc ++ "/bin/clang"),
        ("CMAKE_CXX_COMPILER", caller.toolchainCxx),
        ("CMAKE_CXX_STANDARD", std),
        ("CMAKE_CXX_FLAGS", caller.toolchainFlags),
        ("CMAKE_C_FLAGS", "-isysroot " ++ caller.settings.sdkRootPath ++ " -fPIC"),
        ("CMAKE_EXE_LINKER_FLAGS", caller.rpath)]) ++
    [("CMAKE_INSTALL_PREFIX", installPrefix), ("BUILD_SHARED_LIBS", "OFF")]

def cmakeRecipe (prod : Bool) (slug std : String) (extra : List String) : Recipe where
  source := caller.repo ++ "/corpus/libs/" ++ slug
  buildDir := caller.cmakeDir prod (slug ++ "-build")
  installPrefix := caller.cmakeDir prod (slug ++ "-install")
  mergedName := "lib" ++ slug ++ "_merged.a"
  pattern := "lib*.a"
  definitions := caller.cmakeDefinitions prod (caller.cmakeDir prod (slug ++ "-install")) std
  extra := extra
  forced := orDefault caller.environ "NB_FORCE_REBUILD" "0" == "1"
  rejectsEmpty := true
  alreadyBuilt merged :=
    slug ++ " already built: " ++ merged ++ " (NB_FORCE_REBUILD=1 to rebuild)"
  notInitialized :=
    slug ++ " submodule not initialized at " ++ caller.repo ++ "/corpus/libs/" ++ slug
  built merged := "built merged static lib: " ++ merged

/-- `--prod` counts only as the first argument. -/
def isProd (arguments : List String) : Bool := arguments.head? == some "--prod"

def afterProd (arguments : List String) : List String :=
  if isProd arguments then arguments.tail else arguments

/-- Without a slug and a standard `set -u` ends the script. -/
def buildCmakeLib (arguments : List String) : Script :=
  match afterProd arguments with
  | slug :: std :: extra =>
      (caller.cmakeRecipe (isProd arguments) slug std extra).buildAndMerge caller
  | _ => pure 1

/-! ## build_abseil.sh -/

def abseilInstallDir (prod : Bool) : String :=
  if caller.isGcc then
    orDefault caller.environ "NB_ABSEIL_PREFIX" (caller.gccBuildRoot ++ "/abseil-install")
  else if prod then
    orDefault caller.environ "NB_ABSEIL_PREFIX_PROD" (caller.repo ++ "/build/abseil-install-prod")
  else orDefault caller.environ "NB_ABSEIL_PREFIX" (caller.repo ++ "/build/abseil-install")

def abseilDefinitions (prod : Bool) (installPrefix : String) : List (String × String) :=
  ("CMAKE_BUILD_TYPE", "Release") ::
    (if caller.isGcc then
      [("CMAKE_CXX_COMPILER", caller.settings.prodCxx),
        ("CMAKE_CXX_STANDARD", "17"),
        ("CMAKE_CXX_FLAGS", caller.prodFlags)]
    else if prod then
      [("CMAKE_CXX_COMPILER", caller.settings.prodCxx),
        ("CMAKE_CXX_STANDARD", "17"),
        ("CMAKE_CXX_FLAGS", caller.prodFlags),
        ("CMAKE_EXE_LINKER_FLAGS", caller.rpath)]
    else
      [("CMAKE_CXX_COMPILER", caller.toolchainCxx),
        ("CMAKE_CXX_STANDARD", "17"),
        ("CMAKE_CXX_FLAGS", caller.toolchainFlags),
        ("CMAKE_EXE_LINKER_FLAGS", caller.rpath)]) ++
    [("CMAKE_INSTALL_PREFIX", installPrefix), ("ABSL_ENABLE_INSTALL", "ON"),
      ("BUILD_SHARED_LIBS", "OFF"), ("ABSL_PROPAGATE_CXX_STD", "ON"),
      ("ABSL_BUILD_TESTING", "OFF")]

def abseilRecipe (prod forced : Bool) : Recipe where
  source := caller.repo ++ "/corpus/libs/abseil"
  buildDir := caller.cmakeDir prod "abseil-build"
  installPrefix := caller.abseilInstallDir prod
  mergedName := "libabsl_merged.a"
  pattern := "libabsl_*.a"
  definitions := caller.abseilDefinitions prod (caller.abseilInstallDir prod)
  extra := []
  forced := forced
  rejectsEmpty := false
  alreadyBuilt merged := "abseil already built: " ++ merged ++ " (pass --force to rebuild)"
  notInitialized :=
    "abseil submodule not initialized at " ++ caller.repo ++ "/corpus/libs/abseil"
  built merged := "built merged Abseil static lib: " ++ merged

/-- `--force` is looked for behind `--prod`. -/
def buildAbseil (arguments : List String) : Script :=
  (caller.abseilRecipe (isProd arguments)
    ((afterProd arguments).head? == some "--force")).buildAndMerge caller

/-! ## build_nanobind_prod.sh -/

/-- `dirname` of a path with a directory. -/
def dirname (path : String) : String :=
  String.ofList ((path.toList.reverse.dropWhile (· ≠ '/')).drop 1).reverse

def nanobindOptions : List String :=
  (if caller.isGcc then ["-std=c++17", "-O3", "-DNDEBUG"]
  else
    ["-std=c++17", "-O3", "-DNDEBUG", "-arch", "arm64", "-isysroot", caller.settings.sdkRootPath]) ++
  ["-fPIC", "-fvisibility=hidden", "-fno-strict-aliasing", "-DNB_COMPACT_ASSERTIONS",
    "-DNB_ABORT_ON_LEAK", "-I", caller.settings.pyInc, "-I", caller.settings.nbInc, "-I",
    caller.repo ++ "/nanobind/ext/robin_map/include"]

def buildNanobindProd (arguments : List String) : Script := do
  let lib := caller.settings.nbLibProd
  let outDir := dirname lib
  let obj := outDir ++ "/nb_combined.o"
  let built ← isFile lib
  if built && arguments.head? != some "--force" then
    echo (lib ++ " (cached; --force to rebuild)")
    pure 0
  else
    andThen (.mkdir outDir) <|
    andThen (.compile caller.settings.prodCxx caller.nanobindOptions
      (caller.repo ++ "/nanobind/src/nb_combined.cpp") obj) <|
    andThen (if caller.isGcc then .arReplace lib [obj] else .libtool lib [obj]) do
      echo lib
      pure 0

/-! ## ci_prepare.sh -/

/-- `case "$SLUG"`: the library below `corpus/libs` that a run needs. -/
def libOf (slug : String) : Option String :=
  if "_fixture_".toList.isPrefixOf slug.toList then none
  else if "abseil_".toList.isPrefixOf slug.toList then some "abseil"
  else if slug = "" then none
  else some slug

/-- The arguments of `build_cmake_lib.sh` for the compiled runs. -/
def cmakeRun : String → Option (List String)
  | "box2d" => some ["box2d", "17", "-DBOX2D_BUILD_TESTBED=OFF", "-DBOX2D_BUILD_UNIT_TESTS=OFF"]
  | "leveldb" =>
      some ["leveldb", "17", "-DLEVELDB_BUILD_BENCHMARKS=OFF", "-DLEVELDB_BUILD_TESTS=OFF"]
  | "sqlitecpp" =>
      some ["sqlitecpp", "17", "-DSQLITECPP_BUILD_EXAMPLES=OFF", "-DSQLITECPP_BUILD_TESTS=OFF"]
  | "yamlcpp" => some ["yamlcpp", "17", "-DYAML_CPP_BUILD_TESTS=OFF"]
  | _ => none

/-- The script that builds what a compiled run links. -/
def buildRun (slug : String) : Script :=
  if "abseil_".toList.isPrefixOf slug.toList then caller.buildAbseil []
  else
    match cmakeRun slug with
    | some arguments => caller.buildCmakeLib arguments
    | none => pure 0

/-- `set -e` over a script that is started. -/
def succeeding (script rest : Script) : Script := do
  let status ← script
  if status = 0 then rest else pure status

def updateLib (slug : String) (rest : Script) : Script :=
  match libOf slug with
  | some lib => andThen (.updateSubmodule caller.repo ("corpus/libs/" ++ lib)) rest
  | none => rest

def ciPrepare (arguments : List String) : Script :=
  match arguments with
  | [] => pure 1
  | slug :: _ =>
      andThen (.updateSubmodule caller.repo "mirrorbind") <|
      caller.updateLib slug <|
      succeeding (caller.buildNanobindProd []) <|
      succeeding (caller.buildRun slug) do
        echo ("ci_prepare: " ++ slug ++ " ready")
        pure 0

end Caller

end ReflectNanobind.Scripts.Prebuilt
