import ReflectNanobind.Scripts.Prebuilt

/-!
# What the tools do to the tree

The files of the tree with the origins of the C++ code in them, and the build trees as they were last
configured.  CMake, Ninja, the archivers, the compiler and Git are parameters: at most they have the
effect stated here, whether they succeed, fail or are interrupted, and on success they have done what
they were asked to.
-/

namespace ReflectNanobind.Scripts.Prebuilt

open Library

/-! ## The tree -/

/-- The compiler and the flags that C++ code was compiled with; CMake chooses what is not defined. -/
structure Origin where
  compiler : Option String
  flags : Option String
  deriving DecidableEq, Repr

structure Configuration where
  origin : Origin
  installPrefix : String
  deriving DecidableEq, Repr

structure Tree where
  /-- The regular files, each with the origins of the C++ code in it. -/
  files : String → Option (List Origin)
  /-- The build trees. -/
  configured : String → Option Configuration

/-- The path lies below the directory. -/
def Under (dir path : String) : Prop := ∃ rest, path = dir ++ "/" ++ rest

/-- Code of this origin is in a file at the place. -/
def Tree.Holds (tree : Tree) (place : String → Prop) (origin : Origin) : Prop :=
  ∃ path origins, place path ∧ tree.files path = some origins ∧ origin ∈ origins

/-! ## Definitions on a command line of CMake -/

def afterStart (start text : String) : Option String :=
  if start.toList <+: text.toList then some (String.ofList (text.toList.drop start.toList.length))
  else none

/-- The last definition of a name counts. -/
def definition (name : String) (definitions : List (String × String)) (extra : List String) :
    Option String :=
  (extra.filterMap (afterStart ("-D" ++ name ++ "="))).getLast?.or
    ((definitions.filter fun entry ↦ entry.1 = name).getLast?.map Prod.snd)

def configurationOf (definitions : List (String × String)) (extra : List String) :
    Configuration where
  origin :=
    ⟨definition "CMAKE_CXX_COMPILER" definitions extra,
      definition "CMAKE_CXX_FLAGS" definitions extra⟩
  installPrefix := (definition "CMAKE_INSTALL_PREFIX" definitions extra).getD "/usr/local"

/-! ## Effects and results -/

/-- Files change in the region only, and what is new there is made of this code. -/
structure Writes (region : String → Prop) (made : Origin → Prop) (before after : Tree) :
    Prop where
  elsewhere : ∀ path, ¬ region path → after.files path = before.files path
  contents : ∀ path origins, after.files path = some origins →
    before.files path = some origins ∨ region path ∧ ∀ origin ∈ origins, made origin

/-- The most that a tool does, however it ends. -/
def Effect (before after : Tree) : Tool → Prop
  | .configure _ buildDir definitions extra =>
      Writes (Under buildDir) (· = (configurationOf definitions extra).origin) before after ∧
        (∀ dir, dir ≠ buildDir → after.configured dir = before.configured dir) ∧
        ∀ configuration, after.configured buildDir = some configuration →
          before.configured buildDir = some configuration ∨
            configuration = configurationOf definitions extra
  | .build buildDir =>
      Writes (Under buildDir)
        (fun origin ↦ before.Holds (Under buildDir) origin ∨
          ∃ configuration, before.configured buildDir = some configuration ∧
            origin = configuration.origin) before after ∧
        after.configured = before.configured
  | .install buildDir =>
      Writes
        (fun path ↦ Under buildDir path ∨
          ∃ configuration, before.configured buildDir = some configuration ∧
            Under configuration.installPrefix path)
        (before.Holds (Under buildDir)) before after ∧
        after.configured = before.configured
  | .remove path =>
      Writes (· = path) (fun _ ↦ False) before after ∧ after.configured = before.configured
  | .libtool output inputs | .arScript output inputs | .arReplace output inputs =>
      Writes (· = output) (before.Holds fun path ↦ path = output ∨ path ∈ inputs) before after ∧
        after.configured = before.configured
  | .compile compiler options _ object =>
      Writes (· = object) (· = ⟨some compiler, some (Text.join " " options)⟩) before after ∧
        after.configured = before.configured
  | .mkdir _ | .list _ => after = before
  | .updateSubmodule root path =>
      Writes (fun file ↦ Under (root ++ "/.git") file ∨ Under (root ++ "/" ++ path) file)
        (fun _ ↦ True) before after ∧
        after.configured = before.configured

/-- What a tool has done when it exits with 0. -/
def Finished (after : Tree) : Tool → Prop
  | .configure _ buildDir definitions extra =>
      after.configured buildDir = some (configurationOf definitions extra)
  | .libtool output _ | .arScript output _ | .arReplace output _ => (after.files output).isSome
  | .compile _ _ _ object => (after.files object).isSome
  | .list path => (after.files path).isSome
  | .build _ | .install _ | .remove _ | .mkdir _ | .updateSubmodule .. => True

/-- Neither a blank nor a character with a meaning in a pattern. -/
def isPlainChar (char : Char) : Bool :=
  !Shell.isSeparator char && !(['*', '?', '[', '\\'].contains char)

def Plain (text : String) : Prop := text.toList.all isPlainChar = true

instance : DecidablePred Plain := fun text ↦
  inferInstanceAs (Decidable (text.toList.all isPlainChar = true))

/-- The tools of a machine, and its file system. -/
structure Toolbox where
  host : Program.Host Request Reply Tree
  effect : ∀ {tool before status after}, host (.run tool) before status after →
    Effect before after tool
  finished : ∀ {tool before after}, host (.run tool) before 0 after → Finished after tool
  isFile : ∀ {path before reply after}, host (.isFile path) before reply after →
    after = before ∧ reply = (before.files path).isSome
  /-- The libraries install their archives under names without blanks and pattern characters. -/
  find : ∀ {dir pattern excluded before reply after},
    host (.find dir pattern excluded) before reply after → after = before ∧
      ∀ path ∈ reply.2, (before.files path).isSome ∧ ∃ rest, Plain rest ∧ path = dir ++ "/" ++ rest
  echo : ∀ {line before reply after}, host (.echo line) before reply after → after = before
  echoError : ∀ {line before reply after}, host (.echoError line) before reply after →
    after = before

/-! ## Small facts -/

theorem under_append (dir rest : String) : Under dir (dir ++ "/" ++ rest) := ⟨rest, rfl⟩

theorem under_text (dir rest : String) {text : String} (h : text = "/" ++ rest) :
    Under dir (dir ++ text) := ⟨rest, by rw [h, String.append_assoc]⟩

theorem Under.trans {dir between path : String} (h : Under dir between) (hpath : Under between path) :
    Under dir path := by
  obtain ⟨first, rfl⟩ := h
  obtain ⟨second, rfl⟩ := hpath
  exact ⟨first ++ "/" ++ second, by simp only [String.append_assoc]⟩

theorem Writes.origins {region : String → Prop} {made : Origin → Prop} {before after : Tree}
    (h : Writes region made before after) {place : String → Prop} {origin : Origin}
    (hholds : after.Holds place origin) :
    before.Holds place origin ∨ (∃ path, place path ∧ region path) ∧ made origin := by
  obtain ⟨path, origins, hplace, hfile, horigin⟩ := hholds
  rcases h.contents path origins hfile with hold | ⟨hregion, hmade⟩
  · exact .inl ⟨path, origins, hplace, hold, horigin⟩
  · exact .inr ⟨⟨path, hplace, hregion⟩, hmade origin horigin⟩

theorem plain_append {first second : String} :
    Plain (first ++ second) ↔ Plain first ∧ Plain second := by
  simp only [Plain, String.toList_append, List.all_append, Bool.and_eq_true]

/-- The shell takes words without pattern characters as they are. -/
def TakesLiterally (machine : Machine) : Prop :=
  ∀ word, Plain word → ∀ name, machine.matchesPattern word name = true → name = word

/-- The paths that were found are handed on as they are. -/
theorem Caller.words_found (caller : Caller) (hmachine : TakesLiterally caller.machine)
    {dir : String} (hdir : Plain dir) {paths : List String}
    (h : ∀ path ∈ paths, ∃ rest, Plain rest ∧ path = dir ++ "/" ++ rest) :
    caller.words (Text.join "\n" paths) = paths := by
  refine Shell.expand_lines _ fun path hpath ↦ ?_
  obtain ⟨rest, hrest, rfl⟩ := h path hpath
  have hplain : Plain (dir ++ "/" ++ rest) :=
    plain_append.mpr ⟨plain_append.mpr ⟨hdir, by decide⟩, hrest⟩
  exact {
    nonempty := by simp
    plain := fun char hchar ↦ by
      have hchar := List.all_eq_true.mp hplain char hchar
      simp only [isPlainChar, Bool.and_eq_true, Bool.not_eq_true'] at hchar
      exact hchar.1
    literal := hmachine _ hplain }

/-- An option of the project, which says nothing to CMake itself. -/
def isProjectOption (argument : String) : Bool :=
  "-D".toList.isPrefixOf argument.toList && !"-DCMAKE_".toList.isPrefixOf argument.toList

theorem definition_of_projectOptions {name : String} (hname : "CMAKE_".toList <+: name.toList)
    (definitions : List (String × String)) {extra : List String}
    (hextra : ∀ argument ∈ extra, isProjectOption argument = true) :
    definition name definitions extra =
      (definitions.filter fun entry ↦ entry.1 = name).getLast?.map Prod.snd := by
  have hnone : extra.filterMap (afterStart ("-D" ++ name ++ "=")) = [] := by
    refine List.filterMap_eq_nil_iff.mpr fun argument hargument ↦ ?_
    have hoption := hextra argument hargument
    refine if_neg fun hstart ↦ ?_
    have hcmake : "-DCMAKE_".toList <+: argument.toList := by
      refine List.IsPrefix.trans ?_ hstart
      obtain ⟨rest, hrest⟩ := hname
      refine ⟨rest ++ ['='], ?_⟩
      rw [String.toList_append, String.toList_append, ← hrest]
      simp
    rw [isProjectOption, List.isPrefixOf_iff_prefix.mpr hcmake] at hoption
    simp at hoption
  rw [definition, hnone]
  rfl

/-! ## A machine that builds one archive for each project -/

def Tree.write (tree : Tree) (path : String) (origins : Option (List Origin)) : Tree :=
  { tree with files := fun other ↦ if other = path then origins else tree.files other }

theorem writes_write {tree : Tree} {path : String} {origins : Option (List Origin)}
    {region : String → Prop} {made : Origin → Prop} (hregion : region path)
    (hmade : ∀ list, origins = some list → ∀ origin ∈ list, made origin) :
    Writes region made tree (tree.write path origins) where
  elsewhere other hother := if_neg (by rintro rfl; exact hother hregion)
  contents other list hlist := by
    by_cases hother : other = path
    · subst hother
      exact .inr ⟨hregion, hmade list (by simpa [Tree.write] using hlist)⟩
    · exact .inl (by simpa [Tree.write, hother] using hlist)

theorem writes_refl (tree : Tree) (region : String → Prop) (made : Origin → Prop) :
    Writes region made tree tree := ⟨fun _ _ ↦ rfl, fun _ _ h ↦ .inl h⟩

namespace OneArchive

def archiveOf (dir : String) : String := dir ++ "/" ++ "libabsl_base.a"

theorem under_archiveOf (dir : String) : Under dir (archiveOf dir) := under_append dir _

def merge (tree : Tree) (output : String) (inputs : List String) : ℤ × Tree :=
  if inputs.all fun input ↦ (tree.files input).isSome then
    (0, tree.write output (some (inputs.flatMap fun input ↦ (tree.files input).getD [])))
  else (1, tree)

/-- Every project is made of the one archive `libabsl_base.a`. -/
def runTool (tree : Tree) : Tool → ℤ × Tree
  | .configure source buildDir definitions extra =>
      if (tree.files (source ++ "/CMakeLists.txt")).isSome then
        (0, { tree with configured := fun dir ↦
          if dir = buildDir then some (configurationOf definitions extra)
          else tree.configured dir })
      else (1, tree)
  | .build buildDir =>
      match tree.configured buildDir with
      | some configuration =>
          (0, tree.write (archiveOf buildDir) (some [configuration.origin]))
      | none => (1, tree)
  | .install buildDir =>
      match tree.configured buildDir, tree.files (archiveOf buildDir) with
      | some configuration, some origins =>
          (0, tree.write (archiveOf (configuration.installPrefix ++ "/lib")) (some origins))
      | _, _ => (1, tree)
  | .remove path => (0, tree.write path none)
  | .libtool output inputs | .arScript output inputs | .arReplace output inputs =>
      merge tree output inputs
  | .compile compiler options _ object =>
      (0, tree.write object (some [⟨some compiler, some (Text.join " " options)⟩]))
  | .mkdir _ => (0, tree)
  | .list path => (if (tree.files path).isSome then 0 else 2, tree)
  | .updateSubmodule root path =>
      (0, tree.write (root ++ "/" ++ path ++ "/CMakeLists.txt") (some []))

def handler : Program.Handler Request Reply Tree
  | .run tool, tree => runTool tree tool
  | .isFile path, tree => ((tree.files path).isSome, tree)
  | .find dir _ _, tree =>
      ((0, if (tree.files (archiveOf dir)).isSome then [archiveOf dir] else []), tree)
  | .echo _, tree | .echoError _, tree => ((), tree)

theorem merge_effect {tree after : Tree} {output : String} {inputs : List String} {status : ℤ}
    (h : (status, after) = merge tree output inputs) :
    (Writes (· = output) (tree.Holds fun path ↦ path = output ∨ path ∈ inputs) tree after ∧
      after.configured = tree.configured) ∧ (status = 0 → (after.files output).isSome) := by
  unfold merge at h
  split at h
  · cases h
    refine ⟨⟨writes_write rfl ?_, rfl⟩, fun _ ↦ by simp [Tree.write]⟩
    rintro list hlist origin horigin
    cases hlist
    obtain ⟨input, hinput, hmem⟩ := List.mem_flatMap.mp horigin
    cases hfile : tree.files input with
    | none => simp [hfile] at hmem
    | some origins => exact ⟨input, origins, .inr hinput, hfile, by simpa [hfile] using hmem⟩
  · cases h
    exact ⟨⟨writes_refl _ _ _, rfl⟩, fun hstatus ↦ absurd hstatus (by decide)⟩

theorem runTool_spec {tree after : Tree} {tool : Tool} {status : ℤ}
    (h : (status, after) = runTool tree tool) :
    Effect tree after tool ∧ (status = 0 → Finished after tool) := by
  cases tool with
  | configure source buildDir definitions extra =>
      simp only [runTool] at h
      split at h
      · cases h
        refine ⟨⟨⟨fun _ _ ↦ rfl, fun _ _ hfile ↦ .inl hfile⟩, fun dir hdir ↦ if_neg hdir, ?_⟩,
          fun _ ↦ if_pos rfl⟩
        intro configuration hconfiguration
        exact .inr (by simpa using hconfiguration.symm)
      · cases h
        exact ⟨⟨writes_refl _ _ _, fun _ _ ↦ rfl, fun _ hold ↦ .inl hold⟩,
          fun hstatus ↦ absurd hstatus (by decide)⟩
  | build buildDir =>
      simp only [runTool] at h
      split at h
      next configuration hconfiguration =>
        cases h
        refine ⟨⟨writes_write (under_archiveOf _) ?_, rfl⟩, fun _ ↦ trivial⟩
        rintro list hlist origin horigin
        cases hlist
        exact .inr ⟨configuration, hconfiguration, by simpa using horigin⟩
      next => cases h; exact ⟨⟨writes_refl _ _ _, rfl⟩, fun _ ↦ trivial⟩
  | install buildDir =>
      simp only [runTool] at h
      split at h
      next configuration origins hconfiguration hfile =>
        cases h
        refine ⟨⟨writes_write (.inr ⟨configuration, hconfiguration, ?_⟩) ?_, rfl⟩,
          fun _ ↦ trivial⟩
        · exact (under_text _ "lib" rfl).trans (under_archiveOf _)
        · rintro list hlist origin horigin
          cases hlist
          exact ⟨archiveOf buildDir, origins, under_archiveOf _, hfile, horigin⟩
      next => cases h; exact ⟨⟨writes_refl _ _ _, rfl⟩, fun _ ↦ trivial⟩
  | remove path =>
      cases h
      exact ⟨⟨writes_write rfl nofun, rfl⟩, fun _ ↦ trivial⟩
  | libtool output inputs => exact merge_effect h
  | arScript output inputs => exact merge_effect h
  | arReplace output inputs => exact merge_effect h
  | compile compiler options source object =>
      cases h
      refine ⟨⟨writes_write rfl ?_, rfl⟩, fun _ ↦ by simp [Finished, Tree.write]⟩
      rintro list hlist origin horigin
      cases hlist
      simpa using horigin
  | mkdir dir => cases h; exact ⟨rfl, fun _ ↦ trivial⟩
  | list path =>
      cases h
      refine ⟨rfl, fun hstatus ↦ ?_⟩
      by_contra hfile
      simp [Finished] at hfile
      simp [hfile] at hstatus
  | updateSubmodule root path =>
      cases h
      exact ⟨⟨writes_write (.inr (under_text _ "CMakeLists.txt" rfl)) fun _ _ _ _ ↦ trivial, rfl⟩,
        fun _ ↦ trivial⟩

theorem plain_archive : Plain "libabsl_base.a" := by decide

def toolbox : Toolbox where
  host question tree reply after := (reply, after) = handler question tree
  effect h := (runTool_spec h).1
  finished h := (runTool_spec h).2 rfl
  isFile h := by
    cases h
    exact ⟨rfl, rfl⟩
  find h := by
    cases h
    refine ⟨rfl, fun path hpath ↦ ?_⟩
    split at hpath
    next hfile =>
      obtain rfl := List.mem_singleton.mp hpath
      exact ⟨hfile, "libabsl_base.a", plain_archive, rfl⟩
    next => cases hpath
  echo h := by
    cases h
    rfl
  echoError h := by
    cases h
    rfl

/-- A machine whose patterns match literally. -/
def machine (onLinux : Bool) : Machine where
  onLinux := onLinux
  pyInc := "/venv/include/python3"
  extSuffix := ".so"
  sdkRootPath := "/sdk"
  directoryOf := fun _ ↦ "/repo"
  matchesPattern := fun word name ↦ word == name
  files := ⟨[], List.nodup_nil⟩

end OneArchive

end ReflectNanobind.Scripts.Prebuilt
