import ReflectNanobind.Library.Plan
import ReflectNanobind.Scripts.SameProgram

/-!
# Builds in a used run directory

Nothing empties the build directories of a run, so that a build finds the objects, generators and
generated sources of earlier ones.  Here the tools work on files.  Of such products, a step of a Gate 4
build reads only what an earlier step of the same build has written, so that earlier builds, of either
lane and however they ended, have no say in its result.
-/

namespace ReflectNanobind.Scripts

open Gates Library Library.Plan

/-! ## Paths -/

/-- The names of a run's build directories, for both lanes and both backends. -/
def buildStems : List String := ["build", "build-gcc16", "build-emit", "build-emit-gcc16"]

/-- How the paths end that the steps of a build write. -/
def productEndings : List String :=
  ["/gen", "/gen_emit", "/binding.gen.cpp", "/trampolines.gen.h", ".o", ".so"]

/-- The path is one that a build may have written in a build directory of the run. -/
def BuildProduct (run path : String) : Prop :=
  (∃ stem ∈ buildStems, (run ++ "/binding/" ++ stem ++ "/").toList <+: path.toList) ∧
    ∃ ending ∈ productEndings, ending.toList <:+ path.toList

instance (run path : String) : Decidable (BuildProduct run path) :=
  inferInstanceAs (Decidable ((∃ stem ∈ buildStems, _) ∧ ∃ ending ∈ productEndings, _))

theorem buildProduct_of_buildDir (inv : Invocation) (lane : Lane) {name : String}
    (hslash : "/".toList <+: name.toList)
    (hending : ∃ ending ∈ productEndings, ending.toList <:+ name.toList) :
    BuildProduct inv.run (inv.buildDir lane ++ name) := by
  constructor
  · unfold Invocation.buildDir Invocation.suffix
    cases lane <;> cases inv.isGcc
    · exact ⟨"build", by decide, by simpa using hslash⟩
    · exact ⟨"build-gcc16", by decide, by simpa using hslash⟩
    · exact ⟨"build-emit", by decide, by simpa using hslash⟩
    · exact ⟨"build-emit-gcc16", by decide, by simpa using hslash⟩
  · obtain ⟨ending, hmem, hsuffix⟩ := hending
    rw [String.toList_append]
    exact ⟨ending, hmem, hsuffix.trans (List.suffix_append _ _)⟩

/-- A path made of a stem, a name and an ending. -/
theorem buildProduct_of_parts (inv : Invocation) (lane : Lane) {stem ending : String} (name : String)
    (hslash : "/".toList <+: stem.toList)
    (hending : ∃ known ∈ productEndings, known.toList <:+ ending.toList) :
    BuildProduct inv.run (inv.buildDir lane ++ stem ++ name ++ ending) := by
  rw [String.append_assoc, String.append_assoc]
  apply buildProduct_of_buildDir
  · rw [String.toList_append]
    exact hslash.trans (List.prefix_append _ _)
  · obtain ⟨known, hmem, hsuffix⟩ := hending
    rw [String.toList_append, String.toList_append, ← List.append_assoc]
    exact ⟨known, hmem, hsuffix.trans (List.suffix_append _ _)⟩

/-- A word with fewer than three slashes is not a path into a build directory. -/
theorem not_buildProduct_of_count {run word : String} (h : word.toList.count '/' < 3) :
    ¬ BuildProduct run word := by
  rintro ⟨⟨stem, -, hprefix⟩, -⟩
  have hcount := hprefix.sublist.count_le '/'
  simp only [String.toList_append, List.count_append] at hcount
  have hbinding : "/binding/".toList.count '/' = 2 := by decide
  have hslash : "/".toList.count '/' = 1 := by decide
  omega

/-- Neither are the binding's own sources. -/
theorem not_buildProduct_source (run : String) {name : String}
    (hname : ∀ stem ∈ buildStems, ¬ ("/binding/" ++ stem ++ "/").toList <+: name.toList) :
    ¬ BuildProduct run (run ++ name) := by
  rintro ⟨⟨stem, hstem, hprefix⟩, -⟩
  apply hname stem hstem
  simpa [List.prefix_append_right_inj] using hprefix

/-- The generated header of the directory that an include flag names, joined to the flag or not. -/
def trampolines (word : String) : String :=
  (if "-I".toList <+: word.toList then String.ofList (word.toList.drop 2) else word) ++
    "/trampolines.gen.h"

theorem trampolines_of_absolute {directory : String} (h : directory.toList.head? = some '/') :
    trampolines directory = directory ++ "/trampolines.gen.h" := by
  rw [trampolines, if_neg]
  rintro ⟨rest, hrest⟩
  simp [← hrest] at h

/-! ## Tools that work on files -/

/-- The file that a launch writes is the last one that it names. -/
def Launch.output (launch : Launch) : String := launch.files.getLast?.getD ""

theorem Launch.output_of_files {launch : Launch} {words : List String} {path : String}
    (h : launch.files = words ++ ["-o", path]) : launch.output = path := by
  simp [Launch.output, h]

/-- The program of a launch and the other files that it names. -/
def Launch.Names (launch : Launch) (path : String) : Prop :=
  launch.options.head? = some path ∨ path ∈ launch.files.dropLast

/-- What a launch may read of a run: everything that is not a build product, but of those only what it
names and the generated header of a directory that it is given to search. -/
def Launch.Reads (run : String) (launch : Launch) (path : String) : Prop :=
  ¬ BuildProduct run path ∨ launch.Names path ∨ ∃ word ∈ launch.fromCaller, path = trampolines word

abbrev Files (Content : Type) := Store String Content

/-- How the tools answer, and what they write. -/
structure FileTools (Content : Type) where
  status : Launch → Files Content → ℤ
  written : Launch → Files Content → Option Content

namespace FileTools

variable {Content : Type} (tools : FileTools Content)

/-- The steps of a script as the jobs of a plan. -/
def rules (run : String) : Rules Step String Content where
  target step := step.launch.output
  Reads step := step.launch.Reads run
  answer step files := (tools.status step.launch files == 0, tools.written step.launch files)

def handler : Program.Handler Request Reply (Files Content)
  | .run launch, files =>
      (tools.status launch files,
        (tools.written launch files).elim files fun content ↦
          Function.update files launch.output (some content))
  | .exists path, files => ((files path).isSome, files)
  | .echo _, files | .echoError _, files => ((), files)

/-- A tool's answer depends on what it reads, and a tool that exits with 0 has written its file. -/
abbrev Sound (run : String) : Prop := (tools.rules run).Sound

/-- A script runs as a plan does, and ends with 0 or with the code of the step that failed. -/
theorem run_runSteps_printModule (run : String) (process : Process) (mod outDir : String)
    (steps : List Step) (files : Files Content) :
    (runSteps steps (process.printModule mod outDir)).run tools.handler files =
      let built := (tools.rules run).build steps files
      (built.1.elim 0 Step.code, built.2) := by
  induction steps generalizing files with
  | nil => simp [runSteps, Process.printModule, echo, handler, Rules.build]
  | cons step steps ih =>
      rw [runSteps_cons, Rules.build]
      by_cases hstatus : tools.status step.launch files = 0
      · have hsuccess : ((tools.rules run).answer step files).1 = true := by
          simpa [rules] using hstatus
        rw [if_pos hsuccess, ← ih]
        simp [orExit, Scripts.run, handler, hstatus, Rules.perform, rules]
      · have hfailure : ¬ ((tools.rules run).answer step files).1 = true := by
          simpa [rules] using hstatus
        rw [if_neg hfailure]
        simp [orExit, Scripts.run, echoError, handler, hstatus, Rules.perform, rules]

end FileTools

/-! ## The steps read nothing else -/

theorem mem_loopSteps {launch : ℕ → String → Launch} {stage : String} {code : ℤ} {index : ℕ}
    {sources : List String} {step : Step} (h : step ∈ loopSteps launch stage code index sources) :
    ∃ i source, source ∈ sources ∧ step = ⟨launch i source, stage, code⟩ := by
  induction sources generalizing index with
  | nil => simp [loopSteps] at h
  | cons source sources ih =>
      rcases List.mem_cons.mp h with rfl | hrest
      · exact ⟨index, source, List.mem_cons_self, rfl⟩
      · obtain ⟨i, other, hother, hstep⟩ := ih hrest
        exact ⟨i, other, List.mem_cons_of_mem _ hother, hstep⟩

/-- The loop writes an object file for each source. -/
theorem mem_outputs_loopSteps {launch : ℕ → String → Launch} {path : ℕ → String}
    (houtput : ∀ index source, (launch index source).output = path index) (stage : String) (code : ℤ)
    (index : ℕ) {sources : List String} {i : ℕ} (h : i < sources.length) :
    path (index + i) ∈
      (loopSteps launch stage code index sources).map fun step ↦ step.launch.output := by
  induction sources generalizing index i with
  | nil => simp at h
  | cons source sources ih =>
      rw [loopSteps, List.map_cons]
      cases i with
      | zero => exact List.mem_cons.mpr (.inl (houtput index source).symm)
      | succ i =>
          have hrest := ih (index + 1) (Nat.lt_of_succ_lt_succ h)
          rw [Nat.add_right_comm, Nat.add_assoc] at hrest
          exact List.mem_cons_of_mem _ hrest

theorem output_mem_of_last {steps : List Step} {last : Step} {words : List String} {path : String}
    (h : last.launch.files = words ++ ["-o", path]) :
    path ∈ (steps ++ [last]).map fun step ↦ step.launch.output := by
  simp [Launch.output_of_files h]

theorem Launch.reads_imp {run : String} {launch : Launch} {base : String → Prop}
    (hbase : ∀ path, ¬ BuildProduct run path → base path)
    (hnames : ∀ path, launch.Names path → base path)
    (hincludes : ∀ word ∈ launch.fromCaller, base (trampolines word)) (path : String)
    (h : launch.Reads run path) : base path := by
  rcases h with hout | hnamed | ⟨word, hword, rfl⟩
  · exact hbase path hout
  · exact hnames path hnamed
  · exact hincludes word hword

/-- The words that a launch may get from its caller. -/
def Process.callerWords (process : Process) (args : List String) : List String :=
  args ++ process.unquoted "NB_GEN_CFLAGS" ++ process.unquoted "NB_PROD_CFLAGS"

/-- The base holds everything that is no build product, the tools, the archives, the library words and
sources, and the generated header that an include flag leads to. -/
structure Process.Given (process : Process) (run : String) (args : List String)
    (base : String → Prop) : Prop where
  outside : ∀ path, ¬ BuildProduct run path → base path
  corpusCxx : base process.settings.corpusCxx
  prodCxx : base process.settings.prodCxx
  archives : ∀ path ∈ [process.settings.nbLib, process.settings.nbLibProd], base path
  libraries : ∀ name ∈ ["NB_EXTRA_LIBS", "NB_EXTRA_LIBS_PROD"],
    ∀ word ∈ process.unquoted name, base word
  sources : ∀ source ∈ process.extraSources, base source
  includes : ∀ word ∈ process.callerWords args, base (trampolines word)

namespace Process

variable {process : Process} {run : String} {args : List String} {base base' : String → Prop}

theorem Given.mono (h : process.Given run args base) (hbase : ∀ path, base path → base' path) :
    process.Given run args base' where
  outside path hpath := hbase path (h.outside path hpath)
  corpusCxx := hbase _ h.corpusCxx
  prodCxx := hbase _ h.prodCxx
  archives path hpath := hbase path (h.archives path hpath)
  libraries name hname word hword := hbase word (h.libraries name hname word hword)
  sources source hsource := hbase source (h.sources source hsource)
  includes word hword := hbase _ (h.includes word hword)

/-- A short option is not a file of a build directory. -/
theorem Given.option (h : process.Given run args base) {word : String}
    (hword : word.toList.count '/' < 3) : base word :=
  h.outside word (not_buildProduct_of_count hword)

/-- The include flags may grow by a directory whose generated header is there. -/
theorem Given.cons (h : process.Given run args base) {directory : String}
    (hdirectory : base (trampolines directory)) :
    process.Given run ("-I" :: directory :: args) base :=
  { h with
    includes := by
      simp only [callerWords, List.cons_append, List.forall_mem_cons]
      exact ⟨h.option (by decide), hdirectory, h.includes⟩ }

/-- A launch whose files and include flags are given reads nothing else. -/
theorem Given.reads (h : process.Given run args base) {launch : Launch}
    (hnames : ∀ path, launch.Names path → base path)
    (hcaller : launch.fromCaller ⊆ process.callerWords args) (path : String)
    (hpath : launch.Reads run path) : base path :=
  launch.reads_imp h.outside hnames (fun word hword ↦ h.includes word (hcaller hword)) path hpath

/-- The loop over the library sources. -/
theorem Given.loop {Content : Type} {tools : FileTools Content} (h : process.Given run args base)
    {launch : ℕ → String → Launch} {stage : String} {code : ℤ} (index : ℕ)
    (hnames : ∀ i, ∀ source ∈ process.extraSources, ∀ path, (launch i source).Names path → base path)
    (hcaller : ∀ i source, (launch i source).fromCaller ⊆ process.callerWords args) :
    (tools.rules run).Clean base (loopSteps launch stage code index process.extraSources) := by
  apply Rules.clean_of_forall
  intro step hstep
  obtain ⟨i, source, hsource, rfl⟩ := mem_loopSteps hstep
  exact h.reads (hnames i source hsource) (hcaller i source)

/-- A launch with `-o` names its program, the words before and the flag itself. -/
theorem Given.names (h : process.Given run args base) {launch : Launch} {program target : String}
    {words : List String} (hprogram : launch.options.head? = some program)
    (hfiles : launch.files = words ++ ["-o", target]) (hbase : base program)
    (hwords : ∀ path ∈ words, base path) (path : String) (hpath : launch.Names path) : base path := by
  rw [Launch.Names, hprogram, hfiles, List.append_cons, List.dropLast_concat, List.mem_append,
    List.mem_singleton, Option.some_inj] at hpath
  rcases hpath with rfl | hword | rfl
  · exact hbase
  · exact hwords path hword
  · exact h.option (by decide)

theorem Given.source (h : process.Given run args base) {src : String} (hsrc : base src) :
    ∀ path ∈ ["-c", src], base path := by
  rw [List.forall_mem_cons, List.forall_mem_singleton]
  exact ⟨h.option (by decide), hsrc⟩

/-! Each script reads what it was given and what its earlier steps wrote. -/

section Clean

variable {Content : Type} {tools : FileTools Content} {outDir : String}

/-- The object files of the library sources are there after the loop. -/
theorem objects_written {launch : ℕ → String → Launch} {stem name : String}
    (hname : "/" ++ stem = name)
    (houtput : ∀ index source,
      (launch index source).output = outDir ++ name ++ toString index ++ ".o")
    (stage : String) (code : ℤ) {path : String} (h : path ∈ process.objects outDir stem) :
    path ∈ (loopSteps launch stage code 0 process.extraSources).map (tools.rules run).target := by
  obtain ⟨index, hindex, rfl⟩ := List.mem_map.mp h
  have hmem := mem_outputs_loopSteps houtput stage code 0 (List.mem_range.mp hindex)
  rwa [Nat.zero_add, ← hname, ← String.append_assoc] at hmem

/-- A compile of a source, compiles of the library sources, and a link of their objects with an archive
and the library words of a variable. -/
structure Linked (process : Process) (args : List String)
    (outDir program src obj archive name so : String) (compile : Launch) (extra : ℕ → String → Launch)
    (link : Launch) : Prop where
  compile_program : compile.options.head? = some program
  extra_program : ∀ i source, (extra i source).options.head? = some program
  link_program : link.options.head? = some program
  compile_caller : compile.fromCaller ⊆ process.callerWords args
  extra_caller : ∀ i source, (extra i source).fromCaller ⊆ process.callerWords args
  link_caller : link.fromCaller = []
  compile_files : compile.files = ["-c", src] ++ ["-o", obj]
  extra_files : ∀ i source,
    (extra i source).files = ["-c", source] ++ ["-o", outDir ++ "/extra_" ++ toString i ++ ".o"]
  link_files : link.files = [obj] ++ process.objects outDir "extra_" ++ [archive] ++
    process.unquoted name ++ ["-o", so]

section Linked

variable {program src obj archive name so : String} {compile link : Launch}
  {extra : ℕ → String → Launch}
  (hlinked : process.Linked args outDir program src obj archive name so compile extra link)

include hlinked

theorem Linked.extra_output (i : ℕ) (source : String) :
    (extra i source).output = outDir ++ "/extra_" ++ toString i ++ ".o" :=
  Launch.output_of_files (hlinked.extra_files i source)

theorem Linked.compile_output : compile.output = obj :=
  Launch.output_of_files hlinked.compile_files

theorem Given.linked (h : process.Given run args base) (hprogram : base program) (hsrc : base src)
    (harchive : archive ∈ [process.settings.nbLib, process.settings.nbLibProd])
    (hname : name ∈ ["NB_EXTRA_LIBS", "NB_EXTRA_LIBS_PROD"]) (stage stage' stage'' : String)
    (code code' code'' : ℤ) :
    (tools.rules run).Clean base ([⟨compile, stage, code⟩] ++
      loopSteps extra stage' code' 0 process.extraSources ++ [⟨link, stage'', code''⟩]) := by
  rw [Rules.clean_append, Rules.clean_append]
  refine ⟨⟨⟨h.reads ?_ hlinked.compile_caller, trivial⟩,
    (h.mono fun _ ↦ .inl).loop 0 ?_ hlinked.extra_caller⟩,
    (h.mono fun _ ↦ .inl).reads ?_ (by simp [hlinked.link_caller]), trivial⟩
  · exact h.names hlinked.compile_program hlinked.compile_files hprogram (h.source hsrc)
  · exact fun i source hsource path hpath ↦ .inl (h.names (hlinked.extra_program i source)
      (hlinked.extra_files i source) hprogram (h.source (h.sources source hsource)) path hpath)
  · refine (h.mono fun _ ↦ .inl).names hlinked.link_program hlinked.link_files (.inl hprogram) ?_
    simp only [List.forall_mem_append, List.forall_mem_singleton, List.map_append]
    -- the object, the objects of the loop, the archive and the library words
    refine ⟨⟨⟨.inr (List.mem_append_left _ ?_), fun path hobject ↦
        .inr (List.mem_append_right _ ?_)⟩, .inl (h.archives _ harchive)⟩,
      fun path hlibrary ↦ .inl (h.libraries name hname path hlibrary)⟩
    · simp [FileTools.rules, hlinked.compile_output]
    · exact objects_written (by decide) hlinked.extra_output stage' code' hobject

end Linked

theorem linked_module (process : Process) (args : List String) (src obj outDir so : String) :
    process.Linked args outDir process.settings.corpusCxx src obj process.settings.nbLib
      "NB_EXTRA_LIBS" so (process.compileLaunch args src obj) (process.extraLaunch args outDir)
      (process.linkLaunch obj outDir so) where
  compile_program := by rw [compileLaunch]; split <;> rfl
  extra_program i source := by rw [extraLaunch]; split <;> rfl
  link_program := by rw [linkLaunch]; split <;> rfl
  compile_caller := by simp [compileLaunch, callerWords]
  extra_caller _ _ := by simp [extraLaunch, callerWords]
  link_caller := rfl
  compile_files := rfl
  extra_files _ _ := rfl
  link_files := rfl

theorem linked_emit (process : Process) (args : List String)
    (bindDir genCpp obj outDir so : String) :
    process.Linked args outDir process.settings.prodCxx genCpp obj process.settings.nbLibProd
      "NB_EXTRA_LIBS_PROD" so (process.emitCompileLaunch args bindDir genCpp obj)
      (process.emitExtraLaunch args outDir) (process.emitLinkLaunch obj outDir so) where
  compile_program := rfl
  extra_program _ _ := rfl
  link_program := by rw [emitLinkLaunch]; split <;> rfl
  compile_caller := by simp [emitCompileLaunch, callerWords]
  extra_caller _ _ := by simp [emitExtraLaunch, callerWords]
  link_caller := rfl
  compile_files := rfl
  extra_files _ _ := rfl
  link_files := rfl

theorem clean_moduleSteps (h : process.Given run args base) {src : String} (hsrc : base src)
    (mod : String) : (tools.rules run).Clean base (process.moduleSteps src mod outDir args) :=
  h.linked (linked_module process args src _ outDir _) h.corpusCxx hsrc (by simp) (by simp) ..

/-- A generator that is compiled and run. -/
theorem Given.generated (h : process.Given run args base) {compile : Launch} {words : List String}
    {genBin : String} (hprogram : compile.options.head? = some process.settings.corpusCxx)
    (hfiles : compile.files = words ++ ["-o", genBin]) (hwords : ∀ path ∈ words, base path)
    (hcaller : compile.fromCaller ⊆ process.callerWords args) (place : Place)
    (target stage stage' : String) (code code' : ℤ) :
    (tools.rules run).Clean base
      [⟨compile, stage, code⟩, ⟨⟨place, [genBin], [], [target]⟩, stage', code'⟩] := by
  refine ⟨h.reads (h.names hprogram hfiles h.corpusCxx hwords) hcaller,
    (h.mono fun _ ↦ .inl).reads ?_ (by simp), trivial⟩
  intro path hpath
  right
  simpa [Launch.Names, FileTools.rules, Launch.output_of_files hfiles, eq_comm] using hpath

theorem clean_codegenSteps (h : process.Given run args base) {genSrc bindSrc : String}
    (hgen : base genSrc) (hbind : base bindSrc) (mod : String)
    (houtDir : trampolines outDir = outDir ++ "/trampolines.gen.h") :
    (tools.rules run).Clean base (process.codegenSteps genSrc bindSrc mod outDir args) := by
  rw [codegenSteps, Rules.clean_append]
  constructor
  · exact h.generated (by rw [genCompileLaunch]; split <;> rfl)
      (rfl : _ = [genSrc] ++ ["-o", outDir ++ "/gen"]) (by simpa using hgen)
      (by simp [genCompileLaunch, callerWords]) ..
  · -- the build directory joins the include flags, and the generator has just written its header
    refine clean_moduleSteps ((h.mono fun _ ↦ .inl).cons (.inr ?_)) (.inl hbind) mod
    rw [houtDir]
    simp [FileTools.rules, Launch.output]

theorem clean_emitSteps (h : process.Given run args base) {genSrc : String} (hgen : base genSrc)
    (mod : String) :
    (tools.rules run).Clean base (process.emitReflectionSteps genSrc outDir args ++
      process.emitProductionSteps genSrc mod outDir args) := by
  rw [Rules.clean_append, emitReflectionSteps, Rules.clean_append]
  refine ⟨⟨h.loop 0 ?_ (by simp [emitGenExtraLaunch, callerWords]), ?_⟩, ?_⟩
  · exact fun i source hsource ↦ h.names (by rw [emitGenExtraLaunch]; split <;> rfl)
      (rfl : _ = ["-c", source] ++ ["-o", _]) h.corpusCxx (h.source (h.sources source hsource))
  · apply (h.mono fun _ ↦ .inl).generated (by rw [emitGenCompileLaunch]; split <;> rfl) rfl
    · rw [List.forall_mem_append, List.forall_mem_singleton]
      exact ⟨.inl hgen, fun path hobject ↦ .inr (objects_written
        (by decide : "/" ++ "gen_extra_" = "/gen_extra_") (fun _ _ ↦ rfl) _ _ hobject)⟩
    · simp [emitGenCompileLaunch, callerWords]
  · exact (h.mono fun _ ↦ .inl).linked (linked_emit process args _ _ _ outDir _) (.inl h.prodCxx)
      (.inr (by simp [FileTools.rules, Launch.output])) (by simp) (by simp) ..

end Clean

/-! Each script writes products. -/

section Products

variable {inv : Invocation} {lane : Lane}

theorem Linked.product {program src obj archive name so : String} {compile link : Launch}
    {extra : ℕ → String → Launch}
    (hlinked : process.Linked args (inv.buildDir lane) program src obj archive name so compile extra
      link)
    (hobj : BuildProduct inv.run obj) (hso : BuildProduct inv.run so)
    (stage stage' stage'' : String) (code code' code'' : ℤ) :
    ∀ step ∈ [⟨compile, stage, code⟩] ++ loopSteps extra stage' code' 0 process.extraSources ++
      [⟨link, stage'', code''⟩], BuildProduct inv.run step.launch.output := by
  simp only [List.forall_mem_append, List.forall_mem_singleton, hlinked.compile_output,
    Launch.output_of_files hlinked.link_files]
  refine ⟨⟨hobj, forall_mem_loopSteps (fun index source ↦ ?_) _ _⟩, hso⟩
  rw [hlinked.extra_output]
  exact buildProduct_of_parts inv lane _ (by decide) (by decide)

theorem module_product (hsuffix : ".so".toList <:+ process.settings.extSuffix.toList) (mod : String) :
    BuildProduct inv.run (inv.buildDir lane ++ "/" ++ mod ++ process.settings.extSuffix) :=
  buildProduct_of_parts inv lane mod (by decide) ⟨".so", by decide, hsuffix⟩

theorem moduleSteps_product (hsuffix : ".so".toList <:+ process.settings.extSuffix.toList)
    (src mod : String) : ∀ step ∈ process.moduleSteps src mod (inv.buildDir lane) args,
      BuildProduct inv.run step.launch.output := by
  apply (linked_module process args src _ (inv.buildDir lane) _).product
  · exact buildProduct_of_parts inv lane mod (by decide) (by decide)
  · exact module_product hsuffix mod

theorem codegenSteps_product (hsuffix : ".so".toList <:+ process.settings.extSuffix.toList)
    (genSrc bindSrc mod : String) :
    ∀ step ∈ process.codegenSteps genSrc bindSrc mod (inv.buildDir lane) args,
      BuildProduct inv.run step.launch.output := by
  rw [codegenSteps, List.forall_mem_append]
  refine ⟨?_, moduleSteps_product hsuffix bindSrc mod⟩
  rw [List.forall_mem_cons, List.forall_mem_singleton]
  exact ⟨buildProduct_of_buildDir inv lane (by decide) (by decide),
    buildProduct_of_buildDir inv lane (by decide) (by decide)⟩

theorem emitSteps_product (hsuffix : ".so".toList <:+ process.settings.extSuffix.toList)
    (genSrc mod : String) :
    ∀ step ∈ process.emitReflectionSteps genSrc (inv.buildDir lane) args ++
        process.emitProductionSteps genSrc mod (inv.buildDir lane) args,
      BuildProduct inv.run step.launch.output := by
  rw [List.forall_mem_append, emitReflectionSteps, List.forall_mem_append]
  refine ⟨⟨forall_mem_loopSteps (fun index source ↦ ?_) _ _, ?_⟩, ?_⟩
  · exact buildProduct_of_parts inv lane _ (by decide) (by decide)
  · rw [List.forall_mem_cons, List.forall_mem_singleton, Launch.output_of_files rfl]
    exact ⟨buildProduct_of_buildDir inv lane (by decide) (by decide),
      buildProduct_of_buildDir inv lane (by decide) (by decide)⟩
  · apply (linked_emit process args _ _ _ (inv.buildDir lane) _).product
    · exact buildProduct_of_parts inv lane mod (by decide) (by decide)
    · exact module_product hsuffix mod

end Products

end Process

/-! ## A lane's build -/

section Lanes

variable (machine : Machine) (inv : Invocation)

/-- The words after the module's name and the build directory. -/
def laneArgs : Lane → List String
  | .constexpr => inv.incflags ++ inv.extraCflags
  | .emit => inv.incflags

/-- The run is an absolute path, modules are shared objects, and none of the files that the build is
handed is a build product. -/
structure HandedOutside (lane : Lane) : Prop where
  run_absolute : inv.run.toList.head? = some '/'
  shared_object : ".so".toList <:+ machine.extSuffix.toList
  given : (laneProcess machine inv lane).Given inv.run (laneArgs inv lane) fun path ↦
    ¬ BuildProduct inv.run path

theorem laneProcess_extSuffix (lane : Lane) :
    (laneProcess machine inv lane).settings.extSuffix = machine.extSuffix := by
  simp only [laneProcess, envSh, apply_ite Settings.extSuffix, ite_self]

variable {machine inv} {lane : Lane} (houtside : HandedOutside machine inv lane)

include houtside

theorem HandedOutside.clean {Content : Type} (tools : FileTools Content) :
    (tools.rules inv.run).Clean (fun path ↦ ¬ BuildProduct inv.run path)
      (laneSteps machine inv lane) := by
  have hgiven := houtside.given
  cases lane with
  | constexpr =>
      rw [laneSteps, constexprSteps]
      split
      · apply Process.clean_codegenSteps hgiven (not_buildProduct_source _ (by decide))
          (not_buildProduct_source _ (by decide))
        apply trampolines_of_absolute
        rw [Invocation.buildDir, String.append_assoc, String.append_assoc, String.toList_append,
          List.head?_append, houtside.run_absolute, Option.some_or]
      · exact Process.clean_moduleSteps hgiven (not_buildProduct_source _ (by decide)) _
  | emit => exact Process.clean_emitSteps hgiven (not_buildProduct_source _ (by decide)) _

theorem HandedOutside.product :
    ∀ step ∈ laneSteps machine inv lane, BuildProduct inv.run step.launch.output := by
  have hsuffix : ".so".toList <:+ (laneProcess machine inv lane).settings.extSuffix.toList := by
    rw [laneProcess_extSuffix]
    exact houtside.shared_object
  cases lane with
  | constexpr =>
      rw [laneSteps, constexprSteps]
      split
      · exact Process.codegenSteps_product hsuffix _ _ _
      · exact Process.moduleSteps_product hsuffix _ _
  | emit => exact Process.emitSteps_product hsuffix _ _

/-- The file that a build is for. -/
def moduleFile (machine : Machine) (inv : Invocation) (lane : Lane) : String :=
  inv.buildDir lane ++ "/" ++ inv.toml.moduleName ++ machine.extSuffix

omit houtside in
theorem moduleFile_mem :
    moduleFile machine inv lane ∈ (laneSteps machine inv lane).map fun step ↦ step.launch.output := by
  rw [moduleFile, ← laneProcess_extSuffix machine inv lane]
  cases lane with
  | constexpr =>
      rw [laneSteps, constexprSteps]
      split
      · rw [Process.codegenSteps, List.map_append]
        exact List.mem_append_right _ (output_mem_of_last rfl)
      · exact output_mem_of_last rfl
  | emit =>
      rw [laneSteps, emitSteps, List.map_append]
      exact List.mem_append_right _ (output_mem_of_last rfl)

variable {Content : Type} (tools : FileTools Content)

/-- A lane's script, run on files. -/
def laneRun (machine : Machine) (inv : Invocation) (lane : Lane) (files : Files Content) :
    ℤ × Files Content :=
  (laneScript machine inv lane).run tools.handler files

omit houtside in
/-- Only the emit script looks for its archive first. -/
theorem laneRun_eq (files : Files Content) : laneRun tools machine inv lane files =
    if lane = .emit ∧ files (laneProcess machine inv lane).settings.nbLibProd = none then (35, files)
    else
      let built := (tools.rules inv.run).build (laneSteps machine inv lane) files
      (built.1.elim 0 Step.code, built.2) := by
  rw [laneRun]
  cases lane with
  | constexpr =>
      rw [laneScript_constexpr, tools.run_runSteps_printModule inv.run, if_neg (by simp)]
      rfl
  | emit =>
      rw [laneScript_emit, Process.buildModuleEmit, emitStages_eq]
      cases harchive : files (laneProcess machine inv .emit).settings.nbLibProd with
      | none => simp [fileExists, echoError, FileTools.handler, harchive]
      | some archive =>
          simp only [fileExists, FileTools.handler, harchive, Program.run_bind, Program.run_ask,
            Option.isSome_some, if_true, reduceCtorEq, and_false, if_false]
          exact tools.run_runSteps_printModule inv.run _ _ _ _ _

/-- The files without what earlier builds may have left. -/
def withoutProducts (run : String) (files : Files Content) : Files Content :=
  fun path ↦ if BuildProduct run path then none else files path

/-- Whatever earlier builds left behind, a build ends with the exit code that it has without, changes
nothing but products, and when it succeeds, its module and every other file that it writes are those of
a build without. -/
theorem products_have_no_say (hsound : tools.Sound inv.run) (files : Files Content) :
    let ended := laneRun tools machine inv lane files
    let fresh := laneRun tools machine inv lane (withoutProducts inv.run files)
    ended.1 = fresh.1 ∧
      (∀ path, ¬ BuildProduct inv.run path → ended.2 path = files path) ∧
      (ended.1 = 0 → ∀ path, path = moduleFile machine inv lane ∨
          (∃ step ∈ laneSteps machine inv lane, path = step.launch.output) →
        ended.2 path ≠ none ∧ ended.2 path = fresh.2 path) := by
  intro ended fresh
  have hagree (path : String) (hpath : ¬ BuildProduct inv.run path) :
      files path = withoutProducts inv.run files path := (if_neg hpath).symm
  -- the archive is no product, so that the emit script finds it in both or in neither
  have harchive := hagree _ (houtside.given.archives _ (by simp :
    (laneProcess machine inv lane).settings.nbLibProd ∈ [_, _]))
  have hended : ended = _ := laneRun_eq tools files
  have hfresh : fresh = _ := laneRun_eq tools (withoutProducts inv.run files)
  rw [← harchive] at hfresh
  split at hended
  · next hmissing =>
      rw [if_pos hmissing] at hfresh
      rw [hended, hfresh]
      exact ⟨rfl, fun _ _ ↦ rfl, fun h ↦ by simp at h⟩
  · next hthere =>
      rw [if_neg hthere] at hfresh
      rw [hended, hfresh]
      obtain ⟨hfailed, hsame⟩ := Rules.build_agree hsound (houtside.clean tools) hagree
      refine ⟨congrArg (Option.elim · 0 Step.code) hfailed, fun path hpath ↦ ?_, fun hzero ↦ ?_⟩
      · apply Rules.build_frame
        intro htarget
        obtain ⟨step, hstep, rfl⟩ := List.mem_map.mp htarget
        exact hpath (houtside.product step hstep)
      · have hnone : ((tools.rules inv.run).build (laneSteps machine inv lane) files).1 = none := by
          cases hstopped : ((tools.rules inv.run).build (laneSteps machine inv lane) files).1 with
          | none => rfl
          | some step =>
              have hcode := laneSteps_code_ne_zero machine inv lane step
                (Rules.build_failed_mem hstopped)
              exact absurd (by simpa [hstopped] using hzero) hcode
        intro path hpath
        have hwritten : path ∈ (laneSteps machine inv lane).map (tools.rules inv.run).target := by
          rcases hpath with rfl | ⟨step, hstep, rfl⟩
          · exact moduleFile_mem
          · exact List.mem_map_of_mem hstep
        exact ⟨Rules.build_written hsound hnone hwritten, hsame hnone path (.inr hwritten)⟩

end Lanes

/-! ## A stale header -/

/-- Tools that put together whatever they read. -/
def joining : FileTools String where
  status _ _ := 0
  written launch files :=
    let inputs := launch.options.take 1 ++ launch.files.dropLast ++ launch.fromCaller.map trampolines
    some ((inputs.filterMap files).foldr (· ++ ·) "")

theorem joining_sound (run : String) : joining.Sound run where
  reads step store store' hagree := by
    simp only [FileTools.rules, joining]
    rw [List.filterMap_congr]
    intro path hpath
    apply hagree
    rcases List.mem_append.mp hpath with hnamed | hincluded
    · apply Or.inr ∘ Or.inl
      rcases List.mem_append.mp hnamed with hprogram | hfile
      · cases hoptions : step.launch.options with
        | nil => simp [hoptions] at hprogram
        | cons program options =>
            left
            simpa [hoptions, eq_comm] using hprogram
      · exact .inr hfile
    · obtain ⟨word, hword, rfl⟩ := List.mem_map.mp hincluded
      exact .inr (.inr ⟨word, hword, rfl⟩)
  writes _ _ _ := Option.some_ne_none _

/-- A run in two stages. -/
def twoStage : Invocation :=
  Invocation.onLinuxRepo { Meta.required "fmt" "fmt_bind" with strategy := some "two_stage" } none

theorem handedOutside_twoStage : HandedOutside plainMachine twoStage .constexpr where
  run_absolute := by decide
  shared_object := by decide
  given :=
    { outside := fun _ hpath ↦ hpath
      corpusCxx := by decide +kernel
      prodCxx := by decide +kernel
      archives := by decide +kernel
      libraries := by decide +kernel
      sources := by decide +kernel
      includes := by decide +kernel }

/-- The binding, its generator, and a header that an earlier build generated. -/
def usedDirectory : Files String := fun path ↦
  if path = "/repo/corpus/runs/fmt/binding/gen.cpp" then some "generator;"
  else if path = "/repo/corpus/runs/fmt/binding/binding.cpp" then some "binding;"
  else if path = "/repo/corpus/runs/fmt/binding/build-gcc16/trampolines.gen.h" then some "stale;"
  else none

/-- The generator writes the header anew before the binding is compiled. -/
theorem products_have_no_say_stale_header :
    joining.Sound twoStage.run ∧ HandedOutside plainMachine twoStage .constexpr ∧
      let ended := laneRun joining plainMachine twoStage .constexpr usedDirectory
      let fresh := laneRun joining plainMachine twoStage .constexpr
        (withoutProducts twoStage.run usedDirectory)
      ended.1 = fresh.1 ∧
        (∀ path, ¬ BuildProduct twoStage.run path → ended.2 path = usedDirectory path) ∧
        (ended.1 = 0 → ∀ path, path = moduleFile plainMachine twoStage .constexpr ∨
            (∃ step ∈ laneSteps plainMachine twoStage .constexpr, path = step.launch.output) →
          ended.2 path ≠ none ∧ ended.2 path = fresh.2 path) :=
  ⟨joining_sound _, handedOutside_twoStage,
    products_have_no_say handedOutside_twoStage joining (joining_sound _) usedDirectory⟩

example : (laneRun joining plainMachine twoStage .constexpr usedDirectory).2
    (moduleFile plainMachine twoStage .constexpr) = some "binding;generator;" := by
  decide +kernel

end ReflectNanobind.Scripts
