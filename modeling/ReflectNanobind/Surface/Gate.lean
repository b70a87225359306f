import ReflectNanobind.Surface.Agreement
import ReflectNanobind.Surface.Script

/-!
# What Gate 6b decides

The run of the comparison script on any machine, and the gate that rests on it.  The script ends in one
of the ways `CompareEnd`, and it exits with 0 exactly when both dumps print a surface and nothing else,
every ignore pattern compiles, and the surfaces agree wherever no pattern hides a path; on modules that
print nothing of their own it ends as their comparison does.  The dumps are started with the
interpreter, the directory and the library path of the import smoke of Gate 5.  So Gate 6b passes in a
whole run exactly when the two lanes bind the same surface.
-/

namespace ReflectNanobind.Surface

open Gates Library

namespace ScriptProcess

variable {codec : JsonCodec} (parseInt : String → Option ℤ) (machine : Machine)

/-! ## The effects -/

section Effects

variable (desk : Desk codec)

@[simp] theorem spawn_run (command : Spawn) :
    (spawn command : ScriptProgram codec (Dumped codec)).run (machine.handler codec parseInt) desk =
      (machine.dump codec parseInt command, desk) := rfl

@[simp] theorem mkdir_run (path : String) :
    (mkdir path : ScriptProgram codec Unit).run (machine.handler codec parseInt) desk = ((), desk) := rfl

@[simp] theorem writeText_run (path : String) (text : codec.Wire) :
    (writeText path text).run (machine.handler codec parseInt) desk = ((), desk.write path text) := rfl

@[simp] theorem print_run (line : String) :
    (print line : ScriptProgram codec Unit).run (machine.handler codec parseInt) desk =
      ((), { desk with out := desk.out ++ [line] }) := rfl

@[simp] theorem printError_run (text : String) :
    (printError text : ScriptProgram codec Unit).run (machine.handler codec parseInt) desk =
      ((), { desk with err := desk.err ++ text }) := rfl

@[simp] theorem raise_run (uncaught : Uncaught) :
    (raise uncaught : ScriptProgram codec ℤ).run (machine.handler codec parseInt) desk =
      (1, { desk with err := desk.err ++ machine.traceback uncaught }) := rfl

theorem printAll_run (lines : List String) :
    (printAll lines : ScriptProgram codec Unit).run (machine.handler codec parseInt) desk =
      ((), { desk with out := desk.out ++ lines }) := by
  induction lines generalizing desk with
  | nil => simp [printAll]
  | cons line rest ih =>
      rw [printAll, Program.run_bind, print_run, ih]
      simp

end Effects

/-! ## The ends of the script -/

section Ends

variable (codec) (process : ScriptProcess) (runDir moduleName : String)

/-- The argument `dyld` of a lane's dump. -/
def dyldOf : Lane → Bool
  | .constexpr => true
  | .emit => false

/-- The module of a lane, as its dump process loads it. -/
def laneLoad (lane : Lane) : Except Failure Loaded :=
  machine.load process.venvPy (process.dumpEnv (dyldOf lane) "DYLD_LIBRARY_PATH")
    (process.laneDir runDir lane) moduleName

def laneDumped (lane : Lane) : Dumped codec :=
  machine.dump codec parseInt
    (process.dumpCommand (process.laneDir runDir lane) moduleName (dyldOf lane))

/-- The surface that a dump gives, or the end of the script. -/
def dumpEnd (buildDir : String) (p : Dumped codec) : Except CompareEnd Description :=
  match p.streams with
  | none => .error (.raised (machine.traceback .undecodable))
  | some (stdout, stderr) =>
      if p.returncode ≠ 0 then .error (.dumpFailed buildDir stderr)
      else
        match stdout.loads with
        | some loaded => .ok loaded
        | none => .error (.raised (machine.traceback .unreadable))

def laneEnd (lane : Lane) : Except CompareEnd Description :=
  dumpEnd codec machine (process.laneDir runDir lane)
    (laneDumped codec parseInt machine process runDir moduleName lane)

variable (compiles : String → Bool)

/-- The end of the script once both surfaces are stored. -/
def judgedEnd (cx em : Description) (ignorePatterns : List String) : CompareEnd :=
  match ignorePatterns.find? fun pattern ↦ !compiles pattern with
  | some pattern => .raised (machine.traceback (.badPattern pattern))
  | none => .compared cx em

/-- The files below the tests of the run when the first surface is stored, and when both are. -/
def firstStored (cx : codec.Wire) : String → Option codec.Wire :=
  ((Desk.empty codec).write (process.artifacts runDir ++ "/surface_constexpr.json") cx).files

def bothStored (cx em : codec.Wire) : String → Option codec.Wire :=
  (((Desk.empty codec).write (process.artifacts runDir ++ "/surface_constexpr.json") cx).write
    (process.artifacts runDir ++ "/surface_emit.json") em).files

/-- The files that the script leaves. -/
def leftFiles : String → Option codec.Wire :=
  match laneEnd codec parseInt machine process runDir moduleName .constexpr,
    laneEnd codec parseInt machine process runDir moduleName .emit with
  | .ok cx, .ok em =>
      match codec.dumps cx, codec.dumps em with
      | some cxText, some emText => bothStored codec process runDir cxText emText
      | some cxText, none => firstStored codec process runDir cxText
      | none, _ => (Desk.empty codec).files
  | _, _ => (Desk.empty codec).files

/-- How the script ends. -/
def ends (ignorePatterns : List String) : CompareEnd :=
  match laneEnd codec parseInt machine process runDir moduleName .constexpr with
  | .error ended => ended
  | .ok cx =>
      match laneEnd codec parseInt machine process runDir moduleName .emit with
      | .error ended => ended
      | .ok em =>
          if (codec.dumps cx).isSome ∧ (codec.dumps em).isSome then
            judgedEnd machine compiles cx em ignorePatterns
          else .raised (machine.traceback .unwritable)

variable (search : String → String → Bool) (pyRepr : Description → String)
  (ignorePatterns : List String)

/-- A run of which the orchestrator captures the end, and that leaves these files. -/
structure Reaches (ended : CompareEnd) (files : String → Option codec.Wire)
    (result : ℤ × Desk codec) : Prop where
  completed : ⟨result.1, Text.captured (Text.printLines result.2.out), result.2.err⟩ =
    ended.completed search pyRepr ignorePatterns
  files : result.2.files = files

variable {codec parseInt machine process runDir moduleName}

/-- A dump gives a surface when it exits with 0 and stdout is the surface's text. -/
theorem dumpEnd_eq_ok_iff {buildDir : String} {p : Dumped codec} {description : Description} :
    dumpEnd codec machine buildDir p = .ok description ↔ p.returncode = 0 ∧
      ∃ stdout stderr, p.streams = some (stdout, stderr) ∧ stdout.loads = some description := by
  unfold dumpEnd
  cases hstreams : p.streams with
  | none => simp
  | some streams =>
      obtain ⟨stdout, stderr⟩ := streams
      by_cases hstatus : p.returncode = 0
      · cases hloads : stdout.loads <;> simp [hstatus, hloads]
      · simp [hstatus]

/-! ## The run of the script -/

section Run

variable (files : String → Option codec.Wire)

theorem dumpLane_reaches {lane : Lane} {dyld : Bool} (hdyld : dyld = dyldOf lane)
    {ended : CompareEnd}
    (h : laneEnd codec parseInt machine process runDir moduleName lane = .error ended)
    (rest : Description → ScriptProgram codec ℤ) :
    Reaches codec search pyRepr ignorePatterns ended files
      ((process.dumpLane (process.laneDir runDir lane) moduleName dyld rest).run
        (machine.handler codec parseInt) ⟨[], "", files⟩) := by
  unfold laneEnd laneDumped dumpEnd at h
  rw [dumpLane, Program.run_bind, spawn_run, hdyld]
  dsimp only at h ⊢
  generalize machine.dump codec parseInt _ = p at h ⊢
  obtain ⟨status, streams⟩ := p
  cases streams with
  | none =>
      obtain rfl := Except.error.inj h
      dsimp only
      rw [raise_run, String.empty_append]
      exact ⟨rfl, rfl⟩
  | some streams =>
      dsimp only at h ⊢
      by_cases hstatus : status ≠ 0
      · rw [if_pos hstatus] at h
        obtain rfl := Except.error.inj h
        rw [if_pos hstatus, Program.run_bind, printError_run, String.empty_append]
        exact ⟨rfl, rfl⟩
      · rw [if_neg hstatus] at h ⊢
        generalize streams.1.loads = found at h ⊢
        cases found with
        | some loaded => cases h
        | none =>
            obtain rfl := Except.error.inj h
            dsimp only
            rw [raise_run, String.empty_append]
            exact ⟨rfl, rfl⟩

theorem dumpLane_run {lane : Lane} {dyld : Bool} (hdyld : dyld = dyldOf lane)
    {loaded : Description}
    (h : laneEnd codec parseInt machine process runDir moduleName lane = .ok loaded)
    (rest : Description → ScriptProgram codec ℤ) (desk : Desk codec) :
    (process.dumpLane (process.laneDir runDir lane) moduleName dyld rest).run
        (machine.handler codec parseInt) desk =
      (rest loaded).run (machine.handler codec parseInt) desk := by
  unfold laneEnd laneDumped at h
  obtain ⟨hstatus, stdout, stderr, hstreams, hloads⟩ := dumpEnd_eq_ok_iff.mp h
  rw [dumpLane, Program.run_bind, spawn_run, hdyld]
  dsimp only
  rw [hstreams]
  dsimp only
  rw [if_neg (not_not.mpr hstatus), hloads]

theorem store_reaches {surface : Description} (h : codec.dumps surface = none) (path : String)
    (rest : ScriptProgram codec ℤ) :
    Reaches codec search pyRepr ignorePatterns (.raised (machine.traceback .unwritable)) files
      ((store path surface rest).run (machine.handler codec parseInt) ⟨[], "", files⟩) := by
  rw [store, h]
  dsimp only
  rw [raise_run, String.empty_append]
  exact ⟨rfl, rfl⟩

theorem store_run {surface : Description} {text : codec.Wire} (h : codec.dumps surface = some text)
    (path : String) (rest : ScriptProgram codec ℤ) (desk : Desk codec) :
    (store path surface rest).run (machine.handler codec parseInt) desk =
      rest.run (machine.handler codec parseInt) (desk.write path text) := by
  rw [store, h]
  rfl

theorem judge_reaches (cx em : Description) :
    Reaches codec search pyRepr ignorePatterns (judgedEnd machine compiles cx em ignorePatterns)
      files ((judge compiles search pyRepr cx em ignorePatterns).run
        (machine.handler codec parseInt) ⟨[], "", files⟩) := by
  unfold judge judgedEnd
  cases ignorePatterns.find? fun pattern ↦ !compiles pattern with
  | some pattern =>
      dsimp only
      rw [raise_run, String.empty_append]
      exact ⟨rfl, rfl⟩
  | none =>
      dsimp only
      rw [Program.run_bind, printAll_run, Program.run_bind, print_run]
      exact ⟨rfl, rfl⟩

end Run

/-- The run of the script on any machine. -/
theorem compare_reaches : Reaches codec search pyRepr ignorePatterns
    (ends codec parseInt machine process runDir moduleName compiles ignorePatterns)
    (leftFiles codec parseInt machine process runDir moduleName)
    ((process.compare compiles search pyRepr runDir moduleName ignorePatterns).run
      (machine.handler codec parseInt) (Desk.empty codec)) := by
  unfold ends leftFiles
  unfold ScriptProcess.compare
  cases hcx : laneEnd codec parseInt machine process runDir moduleName .constexpr with
  | error ended => exact dumpLane_reaches search pyRepr ignorePatterns _ rfl hcx _
  | ok cx =>
      rw [dumpLane_run (by rfl) hcx]
      cases hem : laneEnd codec parseInt machine process runDir moduleName .emit with
      | error ended => exact dumpLane_reaches search pyRepr ignorePatterns _ rfl hem _
      | ok em =>
          rw [dumpLane_run (by rfl) hem, Program.run_bind, mkdir_run]
          dsimp only
          cases hcxText : codec.dumps cx with
          | none =>
              rw [if_neg (by simp)]
              exact store_reaches search pyRepr ignorePatterns _ hcxText _ _
          | some cxText =>
              rw [store_run hcxText]
              cases hemText : codec.dumps em with
              | none =>
                  rw [if_neg (by simp)]
                  exact store_reaches search pyRepr ignorePatterns _ hemText _ _
              | some emText =>
                  rw [store_run hemText, if_pos (by simp)]
                  exact judge_reaches compiles search pyRepr ignorePatterns _ cx em

/-- Whatever the machine does, the orchestrator captures one of the ends. -/
theorem completed_compare : machine.completed codec parseInt
      (process.compare compiles search pyRepr runDir moduleName ignorePatterns) =
    (ends codec parseInt machine process runDir moduleName compiles ignorePatterns).completed search
      pyRepr ignorePatterns :=
  (compare_reaches compiles search pyRepr ignorePatterns).completed

theorem files_compare : machine.files codec parseInt
      (process.compare compiles search pyRepr runDir moduleName ignorePatterns) =
    leftFiles codec parseInt machine process runDir moduleName :=
  (compare_reaches compiles search pyRepr ignorePatterns).files

end Ends

/-! ## When the script exits with 0 -/

section Accepts

variable (codec) (process : ScriptProcess) (runDir moduleName : String)

variable {codec parseInt machine process runDir moduleName}

theorem laneDumped_eq (lane : Lane) : laneDumped codec parseInt machine process runDir moduleName lane =
    match laneLoad machine process runDir moduleName lane with
    | .error failure => failure.dumped codec
    | .ok loaded =>
        match Surface.dump codec parseInt loaded.surface with
        | some json => loaded.dumped json
        | none => (machine.raised loaded).dumped codec := rfl

/-- A process that prints no surface gives none. -/
theorem loads_of_failure {failure : Failure} {stdout : Output codec} {stderr : String}
    (h : (failure.dumped codec).streams = some (stdout, stderr)) : stdout.loads = none := by
  obtain ⟨printed, -, h⟩ := Option.bind_eq_some_iff.mp h
  obtain ⟨errors, -, h⟩ := Option.bind_eq_some_iff.mp h
  obtain ⟨rfl, -⟩ := Prod.mk.inj (Option.some.inj h)
  rfl

/-- A process that prints a surface prints it between two texts of the module. -/
theorem surface_of_loaded {loaded : Loaded} {json : codec.Wire} {stdout : Output codec}
    {stderr : String} (h : (loaded.dumped json).streams = some (stdout, stderr)) :
    ∃ before after, stdout = .surface before json after := by
  obtain ⟨before, -, h⟩ := Option.bind_eq_some_iff.mp h
  obtain ⟨after, -, h⟩ := Option.bind_eq_some_iff.mp h
  obtain ⟨errors, -, h⟩ := Option.bind_eq_some_iff.mp h
  exact ⟨before, after, (Prod.mk.inj (Option.some.inj h)).1.symm⟩

/-- The dump prints nothing but its surface, and exits with 0. -/
structure Loaded.Clean (loaded : Loaded) : Prop where
  before : ∃ text, Text.decode loaded.before = some text ∧ blank text = true
  after : ∃ text, Text.decode loaded.after = some text ∧ blank text = true
  stderr : (Text.decode loaded.stderr).isSome
  status : loaded.status = 0

theorem clean_iff (loaded : Loaded) (json : codec.Wire) : loaded.Clean ↔
    ∃ before after stderr, (loaded.dumped json).streams = some (.surface before json after, stderr) ∧
      (blank before && blank after) = true ∧ loaded.status = 0 := by
  constructor
  · rintro ⟨⟨before, hbefore, hblank⟩, ⟨after, hafter, hblankAfter⟩, hstderr, hstatus⟩
    obtain ⟨stderr, hstderr⟩ := Option.isSome_iff_exists.mp hstderr
    refine ⟨before, after, stderr, ?_, by rw [hblank, hblankAfter]; rfl, hstatus⟩
    simp [Loaded.dumped, hbefore, hafter, hstderr]
  · rintro ⟨before, after, stderr, hstreams, hblank, hstatus⟩
    rw [Bool.and_eq_true] at hblank
    obtain ⟨text, hbefore, hstreams⟩ := Option.bind_eq_some_iff.mp hstreams
    obtain ⟨behind, hafter, hstreams⟩ := Option.bind_eq_some_iff.mp hstreams
    obtain ⟨errors, hstderr, hstreams⟩ := Option.bind_eq_some_iff.mp hstreams
    obtain ⟨houtput, -⟩ := Prod.mk.inj (Option.some.inj hstreams)
    obtain ⟨rfl, -, rfl⟩ := Output.surface.inj houtput
    exact ⟨⟨text, hbefore, hblank.1⟩, ⟨behind, hafter, hblank.2⟩, by rw [hstderr]; rfl, hstatus⟩

/-- The text of the surface is read back when the dump is clean, and only then. -/
theorem dumpEnd_loaded_iff {buildDir : String} {loaded : Loaded} {json : codec.Wire}
    {description : Description} :
    dumpEnd codec machine buildDir (loaded.dumped json) = .ok description ↔
      loaded.Clean ∧ codec.loads json = some description := by
  rw [dumpEnd_eq_ok_iff, clean_iff loaded json]
  constructor
  · rintro ⟨hstatus, stdout, stderr, hstreams, hloads⟩
    obtain ⟨before, after, rfl⟩ := surface_of_loaded hstreams
    rw [Output.loads] at hloads
    split at hloads
    · next hblank => exact ⟨⟨before, after, stderr, hstreams, hblank, hstatus⟩, hloads⟩
    · cases hloads
  · rintro ⟨⟨before, after, stderr, hstreams, hblank, hstatus⟩, hloads⟩
    exact ⟨hstatus, _, stderr, hstreams, by rw [Output.loads, if_pos hblank, hloads]⟩

theorem laneEnd_eq_ok_iff {lane : Lane} {description : Description} :
    laneEnd codec parseInt machine process runDir moduleName lane = .ok description ↔
      ∃ loaded json, laneLoad machine process runDir moduleName lane = .ok loaded ∧ loaded.Clean ∧
        Surface.dump codec parseInt loaded.surface = some json ∧
          codec.loads json = some description := by
  have hfailure (failure : Failure) : dumpEnd codec machine (process.laneDir runDir lane)
      (failure.dumped codec) ≠ .ok description := by
    rw [Ne, dumpEnd_eq_ok_iff]
    rintro ⟨-, stdout, stderr, hstreams, hloads⟩
    rw [loads_of_failure hstreams] at hloads
    cases hloads
  rw [laneEnd, laneDumped_eq]
  cases laneLoad machine process runDir moduleName lane with
  | error failure => simp [hfailure]
  | ok loaded =>
      cases hdump : Surface.dump codec parseInt loaded.surface with
      | none => simp [hdump, hfailure]
      | some json => simp [hdump, dumpEnd_loaded_iff]

variable (codec parseInt machine process runDir moduleName) in
/-- The dump process of a lane loads a module with this surface, prints the surface and nothing else, and
exits with 0. -/
def DumpsSurface (lane : Lane) (surface : ModuleSurface) : Prop :=
  ∃ loaded, laneLoad machine process runDir moduleName lane = .ok loaded ∧ loaded.Clean ∧
    loaded.surface = surface ∧ Writable codec parseInt surface

/-- A lane whose dump prints a surface gives it as it is read back. -/
theorem exists_laneEnd_ok {lane : Lane} {surface : ModuleSurface}
    (h : DumpsSurface codec parseInt machine process runDir moduleName lane surface) :
    ∃ description, laneEnd codec parseInt machine process runDir moduleName lane = .ok description ∧
      LoadedFrom (rendering parseInt surface) description := by
  obtain ⟨loaded, hload, hclean, rfl, hwritable⟩ := h
  obtain ⟨json, hjson⟩ := Option.isSome_iff_exists.mp (writable_iff.mp hwritable)
  obtain ⟨description, hdescription, hview⟩ := codec.loads_dumps _ json (dump_eq_some_iff.mp hjson).2
  exact ⟨description,
    laneEnd_eq_ok_iff.mpr ⟨loaded, json, hload, hclean, hjson, hdescription⟩, hview⟩

/-- What a lane gives is the surface of its module. -/
theorem loadedFrom_of_laneEnd {lane : Lane} {description : Description}
    (h : laneEnd codec parseInt machine process runDir moduleName lane = .ok description) :
    ∃ surface, DumpsSurface codec parseInt machine process runDir moduleName lane surface ∧
      LoadedFrom (rendering parseInt surface) description := by
  obtain ⟨loaded, json, hload, hclean, hjson, hloads⟩ := laneEnd_eq_ok_iff.mp h
  obtain ⟨found, hfound, hview⟩ := codec.loads_dumps _ json (dump_eq_some_iff.mp hjson).2
  obtain rfl := Option.some.inj (hfound.symm.trans hloads)
  exact ⟨loaded.surface,
    ⟨loaded, hload, hclean, rfl, writable_iff.mpr (by rw [hjson]; rfl)⟩, hview⟩

/-- A dump prints one surface at most. -/
theorem DumpsSurface.unique {lane : Lane} {surface other : ModuleSurface}
    (h : DumpsSurface codec parseInt machine process runDir moduleName lane surface)
    (hother : DumpsSurface codec parseInt machine process runDir moduleName lane other) :
    surface = other := by
  obtain ⟨loaded, hload, -, rfl, -⟩ := h
  obtain ⟨loaded', hload', -, rfl, -⟩ := hother
  rw [Except.ok.inj (hload.symm.trans hload')]

theorem DumpsSurface.writable {lane : Lane} {surface : ModuleSurface}
    (h : DumpsSurface codec parseInt machine process runDir moduleName lane surface) :
    Writable codec parseInt surface := by
  obtain ⟨-, -, -, -, hwritable⟩ := h
  exact hwritable

/-- What was read back can be written again. -/
theorem dumps_loaded_isSome {surface : ModuleSurface} {loaded : Description}
    (hwritable : Writable codec parseInt surface)
    (hloaded : LoadedFrom (rendering parseInt surface) loaded) : (codec.dumps loaded).isSome := by
  obtain ⟨wire, hwire⟩ := Option.isSome_iff_exists.mp (writable_iff.mp hwritable)
  have hleaves := (codec.dumps_isSome (rendering parseInt surface)).mp
    (by rw [(dump_eq_some_iff.mp hwire).2]; rfl)
  rw [codec.dumps_isSome]
  intro path value hvalue number hnumber
  rw [hloaded, Option.map_eq_some_iff] at hvalue
  obtain ⟨found, hfound, hread⟩ := hvalue
  obtain ⟨written, rfl, rfl⟩ := Option.map_eq_some_iff.mp hread
  apply hleaves path written hfound
  cases written with
  | float value =>
      rw [Value.readBack] at hnumber
      split at hnumber <;> cases hnumber
  | _ => exact hnumber

variable {compiles : String → Bool} {ignorePatterns : List String}

theorem laneEnd_ne_compared {lane : Lane} {ended : CompareEnd} (cx em : Description)
    (h : laneEnd codec parseInt machine process runDir moduleName lane = .error ended) :
    ended ≠ .compared cx em := by
  rintro rfl
  unfold laneEnd dumpEnd at h
  cases hstreams : (laneDumped codec parseInt machine process runDir moduleName lane).streams with
  | none =>
      rw [hstreams] at h
      cases h
  | some streams =>
      rw [hstreams] at h
      dsimp only at h
      split at h
      · cases h
      · split at h <;> cases h

theorem dumps_laneEnd_isSome {lane : Lane} {loaded : Description}
    (h : laneEnd codec parseInt machine process runDir moduleName lane = .ok loaded) :
    (codec.dumps loaded).isSome := by
  obtain ⟨surface, hsurface, hloaded⟩ := loadedFrom_of_laneEnd h
  exact dumps_loaded_isSome hsurface.writable hloaded

/-- The script comes to a comparison exactly when both lanes give a surface and every pattern
compiles. -/
theorem ends_eq_compared_iff {cx em : Description} :
    ends codec parseInt machine process runDir moduleName compiles ignorePatterns =
        .compared cx em ↔
      laneEnd codec parseInt machine process runDir moduleName .constexpr = .ok cx ∧
        laneEnd codec parseInt machine process runDir moduleName .emit = .ok em ∧
        ∀ pattern ∈ ignorePatterns, compiles pattern = true := by
  unfold ends
  cases hcx : laneEnd codec parseInt machine process runDir moduleName .constexpr with
  | error ended => simp [laneEnd_ne_compared cx em hcx]
  | ok cxLoaded =>
      cases hem : laneEnd codec parseInt machine process runDir moduleName .emit with
      | error ended => simp [laneEnd_ne_compared cx em hem]
      | ok emLoaded =>
          dsimp only
          rw [if_pos ⟨dumps_laneEnd_isSome hcx, dumps_laneEnd_isSome hem⟩, judgedEnd]
          cases hfind : ignorePatterns.find? fun pattern ↦ !compiles pattern with
          | none =>
              rw [List.find?_eq_none] at hfind
              simp only [CompareEnd.compared.injEq, Except.ok.injEq]
              simp_all
          | some pattern =>
              have hmem := List.mem_of_find?_eq_some hfind
              have hpattern := List.find?_some hfind
              simp only [reduceCtorEq, false_iff, not_and]
              intro _ _ hall
              rw [hall pattern hmem] at hpattern
              exact absurd hpattern (by decide)

variable (search : String → String → Bool) (pyRepr : Description → String)

/-- Only a comparison without mismatches exits with 0. -/
theorem completed_returncode_iff (ended : CompareEnd) :
    (ended.completed search pyRepr ignorePatterns).returncode = 0 ↔
      ∃ cx em, ended = .compared cx em ∧ Agree search ignorePatterns cx em := by
  cases ended with
  | compared cx em =>
      have hreturncode : (CompareEnd.completed search pyRepr ignorePatterns
          (.compared cx em)).returncode =
            if diff search Value.same pyRepr cx em "" ignorePatterns ≠ [] then 1 else 0 := rfl
      rw [hreturncode]
      simp only [← diff_eq_nil_iff_agree search pyRepr]
      split
      next h => simp [h]
      next h => simpa using h
  | dumpFailed buildDir stderr => simp [CompareEnd.completed]
  | raised traceback => simp [CompareEnd.completed]
  | exited status hstatus stdout stderr => simp [CompareEnd.completed, hstatus]

variable (codec parseInt compiles ignorePatterns)

/-- Both lanes print a surface, the surfaces agree, and every pattern compiles. -/
def SameSurface (dumps : Lane → ModuleSurface → Prop) : Prop :=
  ∃ cx em, dumps .constexpr cx ∧ dumps .emit em ∧
    (∀ pattern ∈ ignorePatterns, compiles pattern = true) ∧
    Agree search ignorePatterns (rendering parseInt cx) (rendering parseInt em)

variable {codec parseInt compiles ignorePatterns}

/-- The script exits with 0 exactly when the two dumps print the same surface. -/
theorem compare_succeeds_iff : (machine.completed codec parseInt
      (process.compare compiles search pyRepr runDir moduleName ignorePatterns)).returncode = 0 ↔
    SameSurface parseInt compiles ignorePatterns search
      (DumpsSurface codec parseInt machine process runDir moduleName) := by
  rw [completed_compare, completed_returncode_iff]
  simp only [ends_eq_compared_iff]
  constructor
  · rintro ⟨cxLoaded, emLoaded, ⟨hcx, hem, hcompiles⟩, hagree⟩
    obtain ⟨cx, hcxDumps, hcxLoaded⟩ := loadedFrom_of_laneEnd hcx
    obtain ⟨em, hemDumps, hemLoaded⟩ := loadedFrom_of_laneEnd hem
    exact ⟨cx, em, hcxDumps, hemDumps, hcompiles, (agree_loaded_iff hcxLoaded hemLoaded).mp hagree⟩
  · rintro ⟨cx, em, hcxDumps, hemDumps, hcompiles, hagree⟩
    obtain ⟨cxLoaded, hcx, hcxLoaded⟩ := exists_laneEnd_ok hcxDumps
    obtain ⟨emLoaded, hem, hemLoaded⟩ := exists_laneEnd_ok hemDumps
    exact ⟨cxLoaded, emLoaded, ⟨hcx, hem, hcompiles⟩,
      (agree_loaded_iff hcxLoaded hemLoaded).mpr hagree⟩

/-- Without patterns the surfaces are the same when they are indistinct. -/
theorem sameSurface_nil_iff (dumps : Lane → ModuleSurface → Prop) :
    SameSurface parseInt compiles [] search dumps ↔
      ∃ cx em, dumps .constexpr cx ∧ dumps .emit em ∧ cx.Indistinct em := by
  simp [SameSurface, agree_rendering_iff]

/-! ## Modules that print nothing of their own -/

section Quiet

variable (codec machine) in
/-- Such a module; a dump of it that raises fails. -/
structure Loaded.Quiet (loaded : Loaded) : Prop where
  clean : loaded.Clean
  raised : ∃ stdout stderr, ((machine.raised loaded).dumped codec).streams = some (stdout, stderr)
  failed : (machine.raised loaded).status ≠ 0

theorem laneEnd_quiet {lane : Lane} {loaded : Loaded}
    (hload : laneLoad machine process runDir moduleName lane = .ok loaded)
    (hquiet : loaded.Quiet codec machine) :
    (∃ description, Surface.dumpLane codec parseInt loaded.surface = .ok description ∧
        laneEnd codec parseInt machine process runDir moduleName lane = .ok description) ∨
      Surface.dumpLane codec parseInt loaded.surface = .error 3 ∧
        ∃ stderr, laneEnd codec parseInt machine process runDir moduleName lane =
          .error (.dumpFailed (process.laneDir runDir lane) stderr) := by
  rw [laneEnd, laneDumped_eq, hload]
  unfold Surface.dumpLane
  dsimp only
  cases hdump : Surface.dump codec parseInt loaded.surface with
  | none =>
      right
      obtain ⟨stdout, stderr, hstreams⟩ := hquiet.raised
      refine ⟨rfl, stderr, ?_⟩
      unfold dumpEnd
      rw [hstreams]
      exact if_pos hquiet.failed
  | some json =>
      left
      obtain ⟨description, hloads, -⟩ := codec.loads_dumps _ json (dump_eq_some_iff.mp hdump).2
      refine ⟨description, ?_, dumpEnd_loaded_iff.mpr ⟨hquiet.clean, hloads⟩⟩
      dsimp only
      rw [hloads]

theorem returncode_judgedEnd (cx em : Description) :
    ((judgedEnd machine compiles cx em ignorePatterns).completed search pyRepr
        ignorePatterns).returncode =
      if ignorePatterns.all compiles = true then
        (Surface.compare search Value.same pyRepr cx em ignorePatterns).returncode
      else 1 := by
  unfold judgedEnd
  cases hfind : ignorePatterns.find? fun pattern ↦ !compiles pattern with
  | none =>
      have hall : ignorePatterns.all compiles = true := by simpa using hfind
      rw [if_pos hall]
      rfl
  | some pattern =>
      have hpattern : compiles pattern = false := by simpa using List.find?_some hfind
      have hall : ¬ ignorePatterns.all compiles = true := by
        rw [List.all_eq_true]
        intro hall
        rw [hall pattern (List.mem_of_find?_eq_some hfind)] at hpattern
        cases hpattern
      rw [if_neg hall]
      rfl

/-- The run of the script on such modules ends as their comparison does. -/
theorem completed_returncode_quiet {cx em : Loaded}
    (hcx : laneLoad machine process runDir moduleName .constexpr = .ok cx)
    (hem : laneLoad machine process runDir moduleName .emit = .ok em)
    (hcxQuiet : cx.Quiet codec machine) (hemQuiet : em.Quiet codec machine) :
    (machine.completed codec parseInt
        (process.compare compiles search pyRepr runDir moduleName ignorePatterns)).returncode =
      match compareCompiled codec search pyRepr parseInt ignorePatterns compiles cx.surface
        em.surface with
      | .ok report => report.returncode
      | .error status => status := by
  rw [completed_compare]
  unfold ends compareCompiled
  rcases laneEnd_quiet hcx hcxQuiet with ⟨cxLoaded, hcxDump, hcxEnd⟩ | ⟨hcxDump, stderr, hcxEnd⟩
  · rcases laneEnd_quiet hem hemQuiet with ⟨emLoaded, hemDump, hemEnd⟩ | ⟨hemDump, stderr, hemEnd⟩
    · rw [hcxDump, hemDump, hcxEnd, hemEnd]
      dsimp only
      rw [if_pos ⟨dumps_laneEnd_isSome hcxEnd, dumps_laneEnd_isSome hemEnd⟩, returncode_judgedEnd]
      change _ = match (if ignorePatterns.all compiles = true then
        Except.ok (Surface.compare search Value.same pyRepr cxLoaded emLoaded ignorePatterns)
        else .error 1) with
        | .ok report => report.returncode
        | .error status => status
      split <;> rfl
    · rw [hcxDump, hemDump, hcxEnd, hemEnd]
      rfl
  · rw [hcxDump, hcxEnd]
    rfl

end Quiet

/-! ## The stored surfaces -/

variable (codec parseInt process runDir compiles ignorePatterns)

def constexprPath : String := process.artifacts runDir ++ "/surface_constexpr.json"

def emitPath : String := process.artifacts runDir ++ "/surface_emit.json"

/-- A script that left these files and exited with this status has stored two surfaces, each as it is
read back from its file, and nothing else; whether they agree decides the status. -/
structure Evidence (status : ℤ) (files : String → Option codec.Wire) (cx em : Description) : Prop where
  stored : ∃ cxText emText cxStored emStored,
    files (constexprPath process runDir) = some cxText ∧ files (emitPath process runDir) = some emText ∧
      codec.loads cxText = some cxStored ∧ codec.loads emText = some emStored ∧
      LoadedFrom cx cxStored ∧ LoadedFrom em emStored ∧
      (status = 0 ↔ (∀ pattern ∈ ignorePatterns, compiles pattern = true) ∧
        Agree search ignorePatterns cxStored emStored)
  only : ∀ path, path ≠ constexprPath process runDir → path ≠ emitPath process runDir →
    files path = none

variable {codec parseInt process runDir compiles ignorePatterns}

/-- Two lanes that dump surfaces leave both of them stored. -/
theorem leftFiles_of_dumpsSurface {cx em : ModuleSurface}
    (hcxDumps : DumpsSurface codec parseInt machine process runDir moduleName .constexpr cx)
    (hemDumps : DumpsSurface codec parseInt machine process runDir moduleName .emit em) :
    ∃ cxLoaded emLoaded cxText emText, LoadedFrom (rendering parseInt cx) cxLoaded ∧
      LoadedFrom (rendering parseInt em) emLoaded ∧ codec.dumps cxLoaded = some cxText ∧
      codec.dumps emLoaded = some emText ∧
      leftFiles codec parseInt machine process runDir moduleName =
        bothStored codec process runDir cxText emText := by
  obtain ⟨cxLoaded, hcx, hcxLoaded⟩ := exists_laneEnd_ok hcxDumps
  obtain ⟨emLoaded, hem, hemLoaded⟩ := exists_laneEnd_ok hemDumps
  obtain ⟨cxText, hcxText⟩ := Option.isSome_iff_exists.mp (dumps_laneEnd_isSome hcx)
  obtain ⟨emText, hemText⟩ := Option.isSome_iff_exists.mp (dumps_laneEnd_isSome hem)
  refine ⟨cxLoaded, emLoaded, cxText, emText, hcxLoaded, hemLoaded, hcxText, hemText, ?_⟩
  rw [leftFiles, hcx, hem]
  dsimp only
  rw [hcxText, hemText]

/-- Unless both lanes dump surfaces, nothing is stored. -/
theorem leftFiles_of_not_dumpsSurface
    (h : ¬ ∃ cx em, DumpsSurface codec parseInt machine process runDir moduleName .constexpr cx ∧
      DumpsSurface codec parseInt machine process runDir moduleName .emit em) (path : String) :
    leftFiles codec parseInt machine process runDir moduleName path = none := by
  unfold leftFiles
  cases hcx : laneEnd codec parseInt machine process runDir moduleName .constexpr with
  | error ended => rfl
  | ok cxLoaded =>
      cases hem : laneEnd codec parseInt machine process runDir moduleName .emit with
      | error ended => rfl
      | ok emLoaded =>
          obtain ⟨cx, hcxDumps, -⟩ := loadedFrom_of_laneEnd hcx
          obtain ⟨em, hemDumps, -⟩ := loadedFrom_of_laneEnd hem
          exact absurd ⟨cx, em, hcxDumps, hemDumps⟩ h

theorem constexprPath_ne_emitPath (process : ScriptProcess) (runDir : String) :
    constexprPath process runDir ≠ emitPath process runDir := by
  rw [constexprPath, emitPath, Ne, String.append_right_inj]
  decide

/-- The verdict is that on the two surfaces, or on any descriptions that were read back of them. -/
theorem compare_succeeds_iff_agree {cx em : ModuleSurface} {cxStored emStored : Description}
    (hcxDumps : DumpsSurface codec parseInt machine process runDir moduleName .constexpr cx)
    (hemDumps : DumpsSurface codec parseInt machine process runDir moduleName .emit em)
    (hcx : LoadedFrom (rendering parseInt cx) cxStored)
    (hem : LoadedFrom (rendering parseInt em) emStored) : (machine.completed codec parseInt
      (process.compare compiles search pyRepr runDir moduleName ignorePatterns)).returncode = 0 ↔
        (∀ pattern ∈ ignorePatterns, compiles pattern = true) ∧
          Agree search ignorePatterns cxStored emStored := by
  rw [compare_succeeds_iff, agree_loaded_iff hcx hem]
  constructor
  · rintro ⟨cx', em', hcx', hem', hcompiles, hagree⟩
    rw [hcxDumps.unique hcx', hemDumps.unique hem']
    exact ⟨hcompiles, hagree⟩
  · rintro ⟨hcompiles, hagree⟩
    exact ⟨cx, em, hcxDumps, hemDumps, hcompiles, hagree⟩

variable (machine moduleName)

/-- The files of a script are the evidence for its verdict: when both dumps print a surface, both are
stored and the stored surfaces decide the exit status; otherwise nothing is stored and the script
fails. -/
theorem compare_stores_evidence :
    let script : ScriptProgram codec ℤ :=
      process.compare compiles search pyRepr runDir moduleName ignorePatterns
    (∀ cx em, DumpsSurface codec parseInt machine process runDir moduleName .constexpr cx →
      DumpsSurface codec parseInt machine process runDir moduleName .emit em →
      Evidence codec process runDir compiles ignorePatterns search
        (machine.completed codec parseInt script).returncode (machine.files codec parseInt script)
        (rendering parseInt cx) (rendering parseInt em)) ∧
      ((¬ ∃ cx em, DumpsSurface codec parseInt machine process runDir moduleName .constexpr cx ∧
          DumpsSurface codec parseInt machine process runDir moduleName .emit em) →
        (machine.completed codec parseInt script).returncode ≠ 0 ∧
          ∀ path, machine.files codec parseInt script path = none) := by
  intro script
  rw [files_compare]
  constructor
  · intro cx em hcxDumps hemDumps
    obtain ⟨cxLoaded, emLoaded, cxText, emText, hcxLoaded, hemLoaded, hcxText, hemText, hfiles⟩ :=
      leftFiles_of_dumpsSurface hcxDumps hemDumps
    obtain ⟨cxStored, hcxStored, hcxView⟩ := codec.loads_dumps _ _ hcxText
    obtain ⟨emStored, hemStored, hemView⟩ := codec.loads_dumps _ _ hemText
    have hcx := hcxLoaded.again hcxView
    have hem := hemLoaded.again hemView
    have hpaths := constexprPath_ne_emitPath process runDir
    rw [hfiles]
    constructor
    · exact ⟨cxText, emText, cxStored, emStored, (if_neg hpaths).trans (if_pos rfl), if_pos rfl,
        hcxStored, hemStored, hcx, hem,
        compare_succeeds_iff_agree search pyRepr hcxDumps hemDumps hcx hem⟩
    · intro path hconstexpr hemit
      exact (if_neg hemit).trans (if_neg hconstexpr)
  · intro hnone
    constructor
    · rw [Ne, compare_succeeds_iff]
      rintro ⟨cx, em, hcxDumps, hemDumps, -⟩
      exact hnone ⟨cx, em, hcxDumps, hemDumps⟩
    · exact leftFiles_of_not_dumpsSurface hnone

end Accepts

/-! ## Two modules that load -/

/-- A module that prints nothing of its own, in an interpreter that ends with 0. -/
def loadedSilently (surface : ModuleSurface) : Loaded := ⟨surface, ⟨#[]⟩, ⟨#[]⟩, ⟨#[]⟩, 0⟩

theorem clean_loadedSilently (surface : ModuleSurface) : (loadedSilently surface).Clean where
  before := ⟨"", rfl, by decide⟩
  after := ⟨"", rfl, by decide⟩
  stderr := rfl
  status := rfl

/-- The two lanes load modules with a static property that only one of them can write; the other prints
something while it is loaded. -/
def staticPropertyMachine (printed : ByteArray) : Machine where
  load := fun _ _ directory _ ↦
    if directory = "/repo/corpus/runs/fmt/binding/build-gcc16" then
      .ok (loadedSilently (staticPropertyModule true))
    else .ok { loadedSilently (staticPropertyModule false) with before := printed }
  raised := fun _ ↦ ⟨1, ⟨#[]⟩, ⟨#[]⟩⟩
  traceback := fun _ ↦ ""

theorem writable_staticProperty (writable : Bool) :
    Writable plainCodec (fun _ ↦ none) (staticPropertyModule writable) := by
  constructor
  · unfold ModuleSurface.Describable
    cases writable <;> decide
  · exact fun _ _ _ _ ↦ trivial

theorem indistinct_staticProperty (left right : Bool) :
    (staticPropertyModule left).Indistinct (staticPropertyModule right) := by
  simp [ModuleSurface.Indistinct, staticPropertyModule, IndistinctItems, Attribute.Indistinct,
    Leaf.Indistinct, Leaf.bare?]

theorem dumpsSurface_staticProperty {process : ScriptProcess} (hsuffix : process.suffix = "-gcc16")
    (moduleName : String) (lane : Lane) :
    DumpsSurface plainCodec (fun _ ↦ none) (staticPropertyMachine ⟨#[]⟩) process
      "/repo/corpus/runs/fmt" moduleName lane (staticPropertyModule (lane == .constexpr)) := by
  refine ⟨loadedSilently (staticPropertyModule (lane == .constexpr)), ?_, clean_loadedSilently _, rfl,
    writable_staticProperty _⟩
  unfold laneLoad
  cases lane with
  | constexpr =>
      rw [laneDir, hsuffix]
      rfl
  | emit =>
      rw [laneDir, hsuffix]
      rfl

/-- A full stop is no white space. -/
theorem not_dumpsSurface_staticProperty {process : ScriptProcess} (hsuffix : process.suffix = "-gcc16")
    (moduleName : String) (surface : ModuleSurface) :
    ¬ DumpsSurface plainCodec (fun _ ↦ none) (staticPropertyMachine ⟨#[0x2e]⟩) process
      "/repo/corpus/runs/fmt" moduleName .emit surface := by
  rintro ⟨loaded, hload, hclean, -⟩
  rw [laneLoad, laneDir, hsuffix] at hload
  obtain rfl := Except.ok.inj hload
  obtain ⟨text, hdecode, hblank⟩ := hclean.before
  have hstop : Text.decode ⟨#[0x2e]⟩ = some "." := by decide
  obtain rfl := Option.some.inj (hstop.symm.trans hdecode)
  exact absurd hblank (by decide)

/-- A script of the gcc16 backend. -/
def linuxProcess : ScriptProcess := ⟨"/repo", fun _ ↦ none, true⟩

/-- Both surfaces are stored and agree, unless one module prints a full stop. -/
theorem compare_stores_evidence_staticProperty :
    let script : ScriptProgram plainCodec ℤ := linuxProcess.compare (fun _ ↦ true) (fun _ _ ↦ false)
      (fun _ ↦ "") "/repo/corpus/runs/fmt" "fmt" []
    let quiet := staticPropertyMachine ⟨#[]⟩
    let stops := staticPropertyMachine ⟨#[0x2e]⟩
    Evidence plainCodec linuxProcess "/repo/corpus/runs/fmt" (fun _ ↦ true) [] (fun _ _ ↦ false)
        (quiet.completed plainCodec (fun _ ↦ none) script).returncode
        (quiet.files plainCodec (fun _ ↦ none) script)
        (rendering (fun _ ↦ none) (staticPropertyModule true))
        (rendering (fun _ ↦ none) (staticPropertyModule false)) ∧
      ∀ path, stops.files plainCodec (fun _ ↦ none) script path = none := by
  intro script quiet stops
  constructor
  · exact (compare_stores_evidence quiet "fmt" (fun _ _ ↦ false) fun _ ↦ "").1 _ _
      (dumpsSurface_staticProperty rfl "fmt" .constexpr) (dumpsSurface_staticProperty rfl "fmt" .emit)
  · apply ((compare_stores_evidence stops "fmt" (fun _ _ ↦ false) fun _ ↦ "").2 _).2
    rintro ⟨cx, em, -, hem⟩
    exact not_dumpsSurface_staticProperty rfl "fmt" em hem

/-! ## Gate 6b in a run -/

section Run

variable (codec) (compiles : String → Bool) (search : String → String → Bool)
  (pyRepr : Description → String) (inv : Invocation)

/-- The script as the orchestrator starts it. -/
def ofInvocation : ScriptProcess where
  repo := inv.repo
  environ := inv.surfaceDiffCommand.environ
  onLinux := inv.onLinux

/-- `surface_diff.py` on the command line of the orchestrator, which starts no other mode. -/
def surfaceDiff : Completed :=
  match Surface.main (inv.surfaceDiffCommand.args.drop 1) with
  | .compare runDir moduleName ignorePatterns =>
      machine.completed codec parseInt
        ((ofInvocation inv).compare compiles search pyRepr runDir moduleName ignorePatterns)
  | .dump _ _ | .usage => ⟨2, "", ""⟩

/-- The dump of a lane is started with what Gate 5 gave its import: the interpreter, the directory in
which the module is looked up first, and the library path. -/
structure StartedAlike (lane : Lane) (dump : Spawn) : Prop where
  interpreter : dump.args.head? = (inv.importCommand lane).args.head?
  directory : dump.args[3]? = (inv.importCommand lane).environ "PYTHONPATH"
  libraryPath : dump.environ "DYLD_LIBRARY_PATH" =
    (inv.importCommand lane).environ "DYLD_LIBRARY_PATH"

/-- The dump command of a lane, as the script that Gate 6b starts launches it. -/
def laneCommand (lane : Lane) : Spawn :=
  (ofInvocation inv).dumpCommand ((ofInvocation inv).laneDir inv.run lane) inv.toml.moduleName
    (dyldOf lane)

theorem startedAlike_laneCommand (lane : Lane) : StartedAlike inv lane (laneCommand inv lane) where
  interpreter := rfl
  directory := by
    have hdirectory : (ofInvocation inv).laneDir inv.run lane = inv.buildDir lane := by
      cases lane <;> simp [laneDir, Invocation.buildDir, String.append_assoc] <;> rfl
    have hpythonPath : (inv.importCommand lane).environ "PYTHONPATH" = some (inv.buildDir lane) := by
      simp [Invocation.importCommand, Invocation.laneEnv]
    rw [hpythonPath, ← hdirectory]
    rfl
  libraryPath := by cases lane <;> rfl

/-- What the dump of a lane prints in the script that Gate 6b starts. -/
def PrintsSurface (lane : Lane) (surface : ModuleSurface) : Prop :=
  DumpsSurface codec parseInt machine (ofInvocation inv) inv.run inv.toml.moduleName lane surface

theorem surfaceDiff_succeeds_iff :
    (surfaceDiff codec parseInt machine compiles search pyRepr inv).returncode = 0 ↔
      SameSurface parseInt compiles inv.ignores search
        (PrintsSurface codec parseInt machine inv) := by
  rw [surfaceDiff, main_surfaceDiffCommand]
  exact compare_succeeds_iff search pyRepr

/-- In a whole run, Gate 6b passes exactly when both lanes were executed, built and imported and the two
dump processes, which are started as the imports of Gate 5 were, print the same surface; without ignore
patterns that means indistinct surfaces. -/
theorem main_surfaceGate_iff (host : Host) (dir : RunDir)
    (hscript : host.sh inv.surfaceDiffCommand =
      surfaceDiff codec parseInt machine compiles search pyRepr inv) :
    (∀ lane, StartedAlike inv lane (laneCommand inv lane)) ∧
    ∃ r, ((Gates.main inv).run host.handler dir).2.result = some r ∧
      (r.surfaceDiff.status = .pass ↔
        host.Succeeds inv.probeCommand ∧ ComparesSurfaces host inv ∧
          SameSurface parseInt compiles inv.ignores search
            (PrintsSurface codec parseInt machine inv)) ∧
      (inv.ignores = [] → (r.surfaceDiff.status = .pass ↔
        host.Succeeds inv.probeCommand ∧ ComparesSurfaces host inv ∧
          ∃ cx em, PrintsSurface codec parseInt machine inv .constexpr cx ∧
            PrintsSurface codec parseInt machine inv .emit em ∧ cx.Indistinct em)) := by
  have hstatus : (document host inv dir).surfaceDiff.status = .pass ↔
      host.Succeeds inv.probeCommand ∧ ComparesSurfaces host inv ∧
        SameSurface parseInt compiles inv.ignores search
          (PrintsSurface codec parseInt machine inv) := by
    rw [document_surfaceDiff_status, ← surfaceDiff_succeeds_iff codec parseInt machine compiles search
      pyRepr inv, ← hscript]
    change _ ↔ _ ∧ _ ∧ host.Succeeds inv.surfaceDiffCommand
    rw [← and_assoc]
    by_cases hcompares : host.Succeeds inv.probeCommand ∧ ComparesSurfaces host inv <;>
      by_cases hsucceeds : host.Succeeds inv.surfaceDiffCommand <;> simp [hcompares, hsucceeds]
  refine ⟨startedAlike_laneCommand inv, document host inv dir, by rw [main_run], hstatus,
    fun hnone ↦ ?_⟩
  rw [hstatus, hnone, sameSurface_nil_iff]

end Run

/-- The host on which every command succeeds and the script runs on that machine. -/
def staticPropertyHost : Host where
  sh := fun command ↦
    if command.site = .surfaceDiff then
      surfaceDiff plainCodec (fun _ ↦ none) (staticPropertyMachine ⟨#[]⟩) (fun _ ↦ true)
        (fun _ _ ↦ false) (fun _ ↦ "") comparingInvocation
    else ⟨0, "", ""⟩
  elapsed := fun _ ↦ 0
  generatedTu := none

theorem main_surfaceGate_iff_staticProperty : ∃ r,
    ((Gates.main comparingInvocation).run staticPropertyHost.handler
        ⟨none, false, false, none, none⟩).2.result = some r ∧ r.surfaceDiff.status = .pass := by
  obtain ⟨-, r, hresult, -, hpass⟩ := main_surfaceGate_iff plainCodec (fun _ ↦ none)
    (staticPropertyMachine ⟨#[]⟩) (fun _ ↦ true) (fun _ _ ↦ false) (fun _ ↦ "") comparingInvocation
    staticPropertyHost ⟨none, false, false, none, none⟩ rfl
  exact ⟨r, hresult, (hpass rfl).mpr ⟨by decide, by decide, _, _,
    dumpsSurface_staticProperty rfl _ .constexpr, dumpsSurface_staticProperty rfl _ .emit,
    indistinct_staticProperty true false⟩⟩

end ScriptProcess

end ReflectNanobind.Surface
