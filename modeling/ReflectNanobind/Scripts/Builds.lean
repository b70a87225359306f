import ReflectNanobind.Library.Program
import ReflectNanobind.Scripts.Settings

/-!
# The build scripts of Gate 4

`build_module.sh`, `build_module_codegen.sh` and `build_module_emit.sh` on both backends, as programs
that launch tools, print, and end with an exit code.  Every step of a script is a tool call that stops
the script with its marker and its code when the tool fails.  A launch records its words in three
parts, the options of the script, the words that come from the caller, and the files; the tool sees
their concatenation.
-/

namespace ReflectNanobind.Scripts

open Gates Library

/-! ## Effects -/

/-- The steps of the build scripts that launch a tool. -/
inductive Place where
  | compile | extraCompile | link
  | genCompile | genRun
  | emitGenExtra | emitGenCompile | emitGenRun | emitCompile | emitExtra | emitLink
  deriving DecidableEq, Repr

structure Launch where
  place : Place
  options : List String
  fromCaller : List String
  files : List String

/-- The source of a compile step, `-c src -o obj`. -/
def Launch.source (launch : Launch) : Option String :=
  match launch.files with
  | "-c" :: source :: _ => some source
  | _ => none

inductive Request where
  | run (launch : Launch)
  | exists (path : String)
  | echo (line : String)
  | echoError (line : String)

abbrev Reply : Request → Type
  | .run _ => ℤ
  | .exists _ => Bool
  | .echo _ | .echoError _ => Unit

/-- A script ends with its exit code. -/
abbrev Script := Program Request Reply ℤ

def run (launch : Launch) : Program Request Reply ℤ := Program.ask (Request.run launch)

def fileExists (path : String) : Program Request Reply Bool := Program.ask (Request.exists path)

def echo (line : String) : Program Request Reply Unit := Program.ask (Request.echo line)

def echoError (line : String) : Program Request Reply Unit := Program.ask (Request.echoError line)

/-- `tool … || { echo "BUILD_FAIL_STAGE=stage" >&2; exit code; }`, and the rest of the script. -/
def orExit (launch : Launch) (stage : String) (code : ℤ) (rest : Script) : Script := do
  let status ← run launch
  if status = 0 then rest
  else
    echoError (stageMarker ++ stage)
    pure code

/-- The loop over the library sources; `index` numbers the object files. -/
def compileAll (launch : ℕ → String → Launch) (stage : String) (code : ℤ) (rest : Script) :
    ℕ → List String → Script
  | _, [] => rest
  | index, source :: sources =>
      orExit (launch index source) stage code
        (compileAll launch stage code rest (index + 1) sources)

/-! ## What a script sees -/

/-- A script's process: the machine, the settings of `env.sh` and the environment. -/
structure Process where
  machine : Machine
  settings : Settings
  environ : Environ

namespace Process

variable (process : Process)

/-- An unquoted expansion of a text. -/
def words (value : String) : List String :=
  Shell.expand process.machine.matchesPattern process.machine.files value

/-- `${name:-}` without quotes. -/
def unquoted (name : String) : List String := process.words (orDefault process.environ name "")

/-- The words of `for esrc in $NB_EXTRA_SOURCES`. -/
def extraSources : List String := process.unquoted "NB_EXTRA_SOURCES"

def objects (outDir stem : String) : List String :=
  (List.range process.extraSources.length).map fun index ↦
    outDir ++ "/" ++ stem ++ toString index ++ ".o"

def includes : List String :=
  ["-I", process.settings.pyInc, "-I", process.settings.nbInc, "-I", process.settings.mbInc]

/-- The toolchain's own libc++ on the clang backend. -/
def libcxx : List String :=
  ["-nostdinc++", "-isystem", process.settings.tc ++ "/include/c++/v1"]

/-! ## build_module.sh -/

def compileLaunch (args : List String) (src obj : String) : Launch where
  place := .compile
  options :=
    if process.settings.isGcc then
      [process.settings.corpusCxx, "-O2", "-DNDEBUG", "-fPIC", "-fvisibility=hidden"] ++
        process.words process.settings.reflectFlags ++ ["-DNB_ABORT_ON_LEAK"] ++ process.includes
    else
      [process.settings.corpusCxx, "-O3", "-DNDEBUG", "-arch", "arm64"] ++
        process.words process.settings.isysrootFlags ++
        ["-fPIC", "-fvisibility=hidden", "-fno-stack-protector", "-Os"] ++
        process.words process.settings.reflectFlags ++ ["-DNB_ABORT_ON_LEAK"] ++ process.includes
  fromCaller := args
  files := ["-c", src, "-o", obj]

def extraLaunch (args : List String) (outDir : String) (index : ℕ) (source : String) : Launch where
  place := .extraCompile
  options :=
    if process.settings.isGcc then
      [process.settings.corpusCxx, "-std=c++26", "-O2", "-DNDEBUG", "-fPIC",
        "-fvisibility=hidden"] ++ process.includes
    else
      [process.settings.corpusCxx, "-std=c++26", "-stdlib=libc++", "-O2", "-DNDEBUG", "-arch",
        "arm64"] ++ process.words process.settings.isysrootFlags ++ process.libcxx ++
        ["-fPIC", "-fvisibility=hidden"] ++ process.includes
  fromCaller := args
  files := ["-c", source, "-o", outDir ++ "/extra_" ++ toString index ++ ".o"]

def linkLaunch (obj outDir so : String) : Launch where
  place := .link
  options :=
    if process.settings.isGcc then
      [process.settings.corpusCxx, "-shared", "-fvisibility=hidden", "-O2"]
    else
      [process.settings.corpusCxx, "-bundle", "-Wl,-headerpad_max_install_names", "-arch",
        "arm64"] ++ process.words process.settings.isysrootFlags ++
        ["-L", process.settings.tc ++ "/lib", "-Wl,-rpath," ++ process.settings.tc ++ "/lib",
          "-Wl,@" ++ process.settings.nbSym, "-Wl,-dead_strip"] ++
        process.words process.settings.reflectFlags ++ ["-O3", "-DNDEBUG"]
  fromCaller := []
  files := [obj] ++ process.objects outDir "extra_" ++ [process.settings.nbLib] ++
    process.unquoted "NB_EXTRA_LIBS" ++ ["-o", so]

/-- `build_module.sh`; a missing positional argument is an unbound variable. -/
def buildModule : List String → Script
  | src :: mod :: outDir :: args =>
      let obj := outDir ++ "/" ++ mod ++ ".o"
      let so := outDir ++ "/" ++ mod ++ process.settings.extSuffix
      orExit (process.compileLaunch args src obj) "compile" 11 <|
        compileAll (process.extraLaunch args outDir) "extra_compile" 12
          (orExit (process.linkLaunch obj outDir so) "link" 13 do
            echo so
            pure 0)
          0 process.extraSources
  | _ => pure 1

/-! ## build_module_codegen.sh -/

def genCompileLaunch (args : List String) (genSrc genBin : String) : Launch where
  place := .genCompile
  options :=
    if process.settings.isGcc then
      [process.settings.corpusCxx] ++ process.words process.settings.reflectFlags ++
        process.includes
    else
      [process.settings.corpusCxx] ++ process.words process.settings.reflectFlags ++
        process.words process.settings.isysrootFlags ++ process.libcxx ++ process.includes
  fromCaller := args
  files := [genSrc, "-o", genBin]

def buildModuleCodegen : List String → Script
  | genSrc :: bindSrc :: mod :: outDir :: args =>
      let genBin := outDir ++ "/gen"
      orExit (process.genCompileLaunch args genSrc genBin) "gen_compile" 21 <|
        orExit ⟨.genRun, [genBin], [], [outDir ++ "/trampolines.gen.h"]⟩ "gen_run" 22 <|
          process.buildModule (bindSrc :: mod :: outDir :: "-I" :: outDir :: args)
  | _ => pure 1

/-! ## build_module_emit.sh -/

def emitGenExtraLaunch (args : List String) (bindDir outDir : String) (index : ℕ)
    (source : String) : Launch where
  place := .emitGenExtra
  options :=
    if process.settings.isGcc then
      [process.settings.corpusCxx, "-std=c++26", "-O2", "-DNDEBUG", "-fPIC",
        "-fvisibility=hidden"] ++ process.includes ++ ["-I", bindDir]
    else
      [process.settings.corpusCxx, "-std=c++26", "-stdlib=libc++", "-O2", "-DNDEBUG", "-arch",
        "arm64"] ++ process.words process.settings.isysrootFlags ++ process.libcxx ++
        process.includes ++ ["-I", bindDir]
  fromCaller := args
  files := ["-c", source, "-o", outDir ++ "/gen_extra_" ++ toString index ++ ".o"]

/-- The generator's compile takes the run's flags from `NB_GEN_CFLAGS`. -/
def emitGenCompileLaunch (args : List String) (bindDir outDir genSrc genBin : String) :
    Launch where
  place := .emitGenCompile
  options :=
    if process.settings.isGcc then
      [process.settings.corpusCxx] ++ process.words process.settings.reflectFlags ++
        ["-fconstexpr-ops-limit=1000000000"] ++ process.includes ++ ["-I", bindDir]
    else
      [process.settings.corpusCxx] ++ process.words process.settings.reflectFlags ++
        process.words process.settings.isysrootFlags ++ process.libcxx ++
        ["-fconstexpr-steps=1000000000"] ++ process.includes ++ ["-I", bindDir]
  fromCaller := args ++ process.unquoted "NB_GEN_CFLAGS"
  files := [genSrc] ++ process.objects outDir "gen_extra_" ++ ["-o", genBin]

/-- `-std="${NB_PROD_STD:-$PROD_STD_DEFAULT}"` and the options that follow it. -/
def prodOptions : List String :=
  ["-std=" ++ orDefault process.environ "NB_PROD_STD" process.settings.prodStdDefault, "-O2",
    "-DNDEBUG"] ++
    (if process.settings.isGcc then []
      else ["-arch", "arm64", "-isysroot", process.settings.sdkRootPath]) ++
    ["-fPIC", "-fvisibility=hidden"]

def emitCompileLaunch (args : List String) (bindDir genCpp obj : String) : Launch where
  place := .emitCompile
  options := [process.settings.prodCxx] ++ process.prodOptions ++ ["-DNB_ABORT_ON_LEAK"] ++
    process.includes ++ ["-I", bindDir]
  fromCaller := args ++ process.unquoted "NB_PROD_CFLAGS"
  files := ["-c", genCpp, "-o", obj]

def emitExtraLaunch (args : List String) (outDir : String) (index : ℕ) (source : String) :
    Launch where
  place := .emitExtra
  options := [process.settings.prodCxx] ++ process.prodOptions ++ process.includes
  fromCaller := args ++ process.unquoted "NB_PROD_CFLAGS"
  files := ["-c", source, "-o", outDir ++ "/extra_" ++ toString index ++ ".o"]

def emitLinkLaunch (obj outDir so : String) : Launch where
  place := .emitLink
  options :=
    if process.settings.isGcc then
      [process.settings.prodCxx, "-shared", "-fvisibility=hidden", "-O2"]
    else
      [process.settings.prodCxx, "-bundle", "-Wl,-headerpad_max_install_names", "-arch", "arm64",
        "-isysroot", process.settings.sdkRootPath, "-Wl,@" ++ process.settings.nbSym,
        "-Wl,-dead_strip", "-O2"]
  fromCaller := []
  files := [obj] ++ process.objects outDir "extra_" ++ [process.settings.nbLibProd] ++
    process.unquoted "NB_EXTRA_LIBS_PROD" ++ ["-o", so]

/-- The stages of `build_module_emit.sh` once the production archive is there. -/
def emitStages (genSrc mod outDir : String) (args : List String) : Script :=
  let genBin := outDir ++ "/gen_emit"
  let genCpp := outDir ++ "/binding.gen.cpp"
  let obj := outDir ++ "/" ++ mod ++ ".o"
  let so := outDir ++ "/" ++ mod ++ process.settings.extSuffix
  let bindDir := process.machine.directoryOf genSrc
  -- stage 1: the generator, with the library sources it may link against
  compileAll (process.emitGenExtraLaunch args bindDir outDir) "emit_gen_compile" 31
    (orExit (process.emitGenCompileLaunch args bindDir outDir genSrc genBin)
      "emit_gen_compile" 31 <|
    orExit ⟨.emitGenRun, [genBin], [], [genCpp]⟩ "emit_gen_run" 32 <|
    -- stage 2: the generated source, with the production compiler
    orExit (process.emitCompileLaunch args bindDir genCpp obj) "emit_compile" 33 <|
    compileAll (process.emitExtraLaunch args outDir) "emit_extra_compile" 34
      (orExit (process.emitLinkLaunch obj outDir so) "emit_link" 35 do
        echo so
        pure 0)
      0 process.extraSources)
    0 process.extraSources

def buildModuleEmit : List String → Script
  | genSrc :: mod :: outDir :: args => do
      if ← fileExists process.settings.nbLibProd then process.emitStages genSrc mod outDir args
      else
        echoError ("missing " ++ process.settings.nbLibProd ++
          " -- run corpus/lib/build_nanobind_prod.sh first")
        pure 35
  | _ => pure 1

end Process

end ReflectNanobind.Scripts
