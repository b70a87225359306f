import ReflectNanobind.Surface.Reasons

/-!
# The comparison script and its dump processes

`surface_diff.py` as the orchestrator starts it: in the `compare` mode it starts itself twice in the
`dump` mode, each time in an environment of its own, reads what the two processes print, stores both
surfaces below the tests of the run, and compares them.  A program over these effects follows the
source; a machine answers it, whose interpreters load modules and whose codec writes and reads JSON.  A
module may print while it is loaded or when its interpreter ends, and the interpreter may fail after the
surface is printed.  Whatever the machine does, the process ends in one of the ways that Gate 6b is
prepared for.
-/

namespace ReflectNanobind.Surface

open Gates Library

/-! ## What the script sees -/

/-- The script in the repository `repo`, with its environment. -/
structure ScriptProcess where
  repo : String
  environ : Environ
  /-- `sys.platform.startswith("linux")`. -/
  onLinux : Bool

/-- A subprocess that is started with its output captured. -/
structure Spawn where
  args : List String
  environ : Environ

/-- An exception that nothing catches. -/
inductive Uncaught where
  /-- The strict decoding of what a dump printed. -/
  | undecodable
  /-- `json.loads` of a dump. -/
  | unreadable
  /-- `json.dumps` of a loaded surface. -/
  | unwritable
  /-- `re.compile`. -/
  | badPattern (pattern : String)

/-- What a dump process prints to stdout. -/
inductive Output (codec : JsonCodec) where
  /-- Text of the module, without a surface. -/
  | text (printed : String)
  /-- The surface, between what the module prints before it and after it. -/
  | surface (before : String) (json : codec.Wire) (after : String)

/-- White space to `json.loads`. -/
def blank (text : String) : Bool := text.toList.all [' ', '\t', '\n', '\r'].contains

/-- `json.loads`. What a module prints of its own is taken to be no JSON text, nor to make up another
one with the surface inside. -/
def Output.loads {codec : JsonCodec} : Output codec → Option Description
  | .text _ => none
  | .surface before json after =>
      if blank before && blank after then codec.loads json else none

/-- What a dump process leaves: its exit status, and stdout and stderr if they are text. -/
structure Dumped (codec : JsonCodec) where
  returncode : ℤ
  streams : Option (Output codec × String)

inductive ScriptRequest (codec : JsonCodec) where
  | spawn (command : Spawn)
  | mkdir (path : String)
  /-- The text and a line feed. -/
  | writeText (path : String) (text : codec.Wire)
  | print (line : String)
  | printError (text : String)
  | raise (uncaught : Uncaught)

abbrev ScriptReply (codec : JsonCodec) : ScriptRequest codec → Type
  | .spawn _ => Dumped codec
  | .mkdir _ | .writeText _ _ | .print _ | .printError _ | .raise _ => Unit

/-- The script ends with its exit code. -/
abbrev ScriptProgram (codec : JsonCodec) := Program (ScriptRequest codec) (ScriptReply codec)

namespace ScriptProcess

section Program

variable {codec : JsonCodec}

def spawn (command : Spawn) : ScriptProgram codec (Dumped codec) :=
  Program.ask (ScriptRequest.spawn command)

def mkdir (path : String) : ScriptProgram codec Unit := Program.ask (ScriptRequest.mkdir path)

def writeText (path : String) (text : codec.Wire) : ScriptProgram codec Unit :=
  Program.ask (ScriptRequest.writeText path text)

def print (line : String) : ScriptProgram codec Unit := Program.ask (ScriptRequest.print line)

def printError (text : String) : ScriptProgram codec Unit :=
  Program.ask (ScriptRequest.printError text)

/-- An uncaught exception prints its traceback, and the interpreter exits with 1. -/
def raise (uncaught : Uncaught) : ScriptProgram codec ℤ := do
  Program.ask (ScriptRequest.raise uncaught)
  pure 1

def printAll : List String → ScriptProgram codec Unit
  | [] => pure ()
  | line :: rest => do
      print line
      printAll rest

variable (process : ScriptProcess)

/-! ## compare -/

def backend : String :=
  match process.environ "CORPUS_TOOLCHAIN" with
  | some name => if name ≠ "" then name else if process.onLinux then "gcc16" else "clang-p2996"
  | none => if process.onLinux then "gcc16" else "clang-p2996"

def isGcc : Bool := process.backend == "gcc16"

def suffix : String := if process.isGcc then "-gcc16" else ""

def venvPy : String :=
  if process.isGcc then process.repo ++ "/gcc16-proveout/venv/bin/python"
  else process.repo ++ "/.venv/bin/python"

/-- The script's own path. -/
def me : String := process.repo ++ "/corpus/lib/surface_diff.py"

def dumpEnv (dyld : Bool) : Environ :=
  let environ := process.environ.pop "DYLD_LIBRARY_PATH"
  if dyld && !process.isGcc then
    environ.set "DYLD_LIBRARY_PATH" (process.repo ++ "/toolchain/lib")
  else environ

def dumpCommand (buildDir moduleName : String) (dyld : Bool) : Spawn where
  args := [process.venvPy, process.me, "dump", buildDir, moduleName]
  environ := process.dumpEnv dyld

/-- `dump_lane`, and the rest of the script with the loaded surface. -/
def dumpLane (buildDir moduleName : String) (dyld : Bool)
    (rest : Description → ScriptProgram codec ℤ) : ScriptProgram codec ℤ := do
  let p ← spawn (process.dumpCommand buildDir moduleName dyld)
  match p.streams with
  | none => raise .undecodable
  | some (stdout, stderr) =>
      if p.returncode ≠ 0 then
        printError ("surface dump failed for " ++ buildDir ++ ":\n" ++ stderr ++ "\n")
        pure 3
      else
        match stdout.loads with
        | some loaded => rest loaded
        | none => raise .unreadable

/-- `path.write_text(json.dumps(surface, …) + "\n")`, and the rest of the script. -/
def store (path : String) (surface : Description) (rest : ScriptProgram codec ℤ) :
    ScriptProgram codec ℤ :=
  match codec.dumps surface with
  | some text => do
      writeText path text
      rest
  | none => raise .unwritable

/-- The build directories of the two lanes. -/
def laneDir (runDir : String) : Lane → String
  | .constexpr => runDir ++ "/binding/build" ++ process.suffix
  | .emit => runDir ++ "/binding/build-emit" ++ process.suffix

def artifacts (runDir : String) : String := runDir ++ "/tests/build" ++ process.suffix

variable (compiles : String → Bool) (search : String → String → Bool)
  (pyRepr : Description → String)

/-- The patterns are compiled, and what differs is printed. -/
def judge (cx em : Description) (ignorePatterns : List String) : ScriptProgram codec ℤ :=
  match ignorePatterns.find? fun pattern ↦ !compiles pattern with
  | some pattern => raise (.badPattern pattern)
  | none => do
      let report := Surface.compare search Value.same pyRepr cx em ignorePatterns
      printAll report.mismatches
      print report.summary
      pure report.returncode

/-- `compare(run_dir, module_name, ignore_patterns)` in a resolved run directory. -/
def compare (runDir moduleName : String) (ignorePatterns : List String) : ScriptProgram codec ℤ :=
  process.dumpLane (process.laneDir runDir .constexpr) moduleName true fun cx ↦
    process.dumpLane (process.laneDir runDir .emit) moduleName false fun em ↦ do
      mkdir (process.artifacts runDir)
      store (process.artifacts runDir ++ "/surface_constexpr.json") cx <|
        store (process.artifacts runDir ++ "/surface_emit.json") em <|
          judge compiles search pyRepr cx em ignorePatterns

end Program

/-! ## The machine -/

/-- An interpreter that ends without having printed a surface, whatever its exit status. -/
structure Failure where
  status : ℤ
  stdout : ByteArray
  stderr : ByteArray

/-- An interpreter that loads a module: what the module prints while it is loaded and described, and
until the interpreter ends, and the exit status of a dump that raises nothing. -/
structure Loaded where
  surface : ModuleSurface
  before : ByteArray
  after : ByteArray
  stderr : ByteArray
  status : ℤ

/-- What the machine does: in a dump process an interpreter with a library path loads a module from a
directory, or it ends without. -/
structure Machine where
  load : (python : String) → (libraryPath : Option String) → (directory moduleName : String) →
    Except Failure Loaded
  /-- How a dump ends whose surface raises. -/
  raised : Loaded → Failure
  traceback : Uncaught → String

section Machine

variable (codec : JsonCodec) (parseInt : String → Option ℤ) (machine : Machine)

def Failure.dumped (failure : Failure) : Dumped codec where
  returncode := failure.status
  streams := do
    let stdout ← Text.decode failure.stdout
    let stderr ← Text.decode failure.stderr
    pure (.text stdout, stderr)

def Loaded.dumped {codec : JsonCodec} (loaded : Loaded) (json : codec.Wire) : Dumped codec where
  returncode := loaded.status
  streams := do
    let before ← Text.decode loaded.before
    let after ← Text.decode loaded.after
    let stderr ← Text.decode loaded.stderr
    pure (.surface before json after, stderr)

/-- The dump process: it loads the module and prints the surface. The other modes are not started. -/
def Machine.dump (command : Spawn) : Dumped codec :=
  match Surface.main (command.args.drop 1) with
  | .dump buildDir moduleName =>
      match machine.load (command.args.head?.getD "") (command.environ "DYLD_LIBRARY_PATH") buildDir
          moduleName with
      | .error failure => failure.dumped codec
      | .ok loaded =>
          match Surface.dump codec parseInt loaded.surface with
          | some json => loaded.dumped json
          | none => (machine.raised loaded).dumped codec
  | .compare _ _ _ | .usage => ⟨2, some (.text "", "")⟩

/-- What the process has printed and written. -/
structure Desk where
  out : List String
  err : String
  files : String → Option codec.Wire

def Desk.empty : Desk codec := ⟨[], "", fun _ ↦ none⟩

def Desk.write {codec : JsonCodec} (desk : Desk codec) (path : String) (text : codec.Wire) :
    Desk codec :=
  { desk with files := fun other ↦ if other = path then some text else desk.files other }

def Machine.handler : Program.Handler (ScriptRequest codec) (ScriptReply codec) (Desk codec)
  | .spawn command, desk => (machine.dump codec parseInt command, desk)
  | .mkdir _, desk => ((), desk)
  | .writeText path text, desk => ((), desk.write path text)
  | .print line, desk => ((), { desk with out := desk.out ++ [line] })
  | .printError text, desk => ((), { desk with err := desk.err ++ text })
  | .raise uncaught, desk => ((), { desk with err := desk.err ++ machine.traceback uncaught })

/-- What the orchestrator captures of a script's run. -/
def Machine.completed (program : ScriptProgram codec ℤ) : Completed :=
  let (status, desk) := program.run (machine.handler codec parseInt) (Desk.empty codec)
  ⟨status, Text.captured (Text.printLines desk.out), desk.err⟩

/-- The files that a script's run leaves. -/
def Machine.files (program : ScriptProgram codec ℤ) : String → Option codec.Wire :=
  (program.run (machine.handler codec parseInt) (Desk.empty codec)).2.files

end Machine

end ScriptProcess

end ReflectNanobind.Surface
