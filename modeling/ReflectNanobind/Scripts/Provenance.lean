import ReflectNanobind.Scripts.Archives
import ReflectNanobind.Scripts.Zones

/-!
# The origins of the prebuilt code

A module that is linked against one C++ runtime must not link an archive built for the other.  Every
archive is built once and then taken from the tree, so that this is a fact about all script calls that
ever ran there, finished, failed or interrupted: the code in a zone was compiled as some caller compiles
for this zone.
-/

namespace ReflectNanobind.Scripts.Prebuilt

open Gates Library

/-- What C++ code is compiled with for a zone, the archive of nanobind included. -/
def Caller.origins (caller : Caller) (zone : Zone) : List Origin :=
  (if caller.zone false = zone then [caller.origin false] else []) ++
    (if caller.zone true = zone then
      [caller.origin true,
        ⟨some caller.settings.prodCxx, some (Text.join " " caller.nanobindOptions)⟩]
    else [])

/-- Some of these callers compiles so for the zone. -/
def Permitted (callers : Caller → Prop) (zone : Zone) (origin : Origin) : Prop :=
  ∃ caller, callers caller ∧ origin ∈ caller.origins zone

/-- All code in a zone is permitted there, and its build trees are configured for it. -/
structure Sound (repo : String) (callers : Caller → Prop) (tree : Tree) : Prop where
  files : ∀ path zone origins, zoneOf repo path = some zone → tree.files path = some origins →
    ∀ origin ∈ origins, Permitted callers zone origin
  configured : ∀ dir zone configuration, zoneOf repo dir = some zone →
    tree.configured dir = some configuration → Permitted callers zone configuration.origin ∧
      zoneOf repo configuration.installPrefix = some zone

/-- A launch stays in a zone and compiles as it is permitted there. -/
def Confined (repo : String) (callers : Caller → Prop) : Tool → Prop
  | .configure _ buildDir definitions extra =>
      ∃ zone, zoneOf repo buildDir = some zone ∧
        Permitted callers zone (configurationOf definitions extra).origin ∧
        zoneOf repo (configurationOf definitions extra).installPrefix = some zone
  | .build buildDir | .install buildDir => ∃ zone, zoneOf repo buildDir = some zone
  | .libtool output inputs | .arScript output inputs | .arReplace output inputs =>
      ∃ zone, zoneOf repo output = some zone ∧ ∀ input ∈ inputs, zoneOf repo input = some zone
  | .compile compiler options _ object =>
      ∃ zone, zoneOf repo object = some zone ∧
        Permitted callers zone ⟨some compiler, some (Text.join " " options)⟩
  | .updateSubmodule root path => root = repo ∧ IsSubmodule path
  | .remove _ | .mkdir _ | .list _ => True

/-! ## One tool -/

section Sound

variable {repo : String} {callers : Caller → Prop} {before after tree : Tree}

theorem Sound.holds (h : Sound repo callers tree) {place : String → Prop} {zone : Zone}
    (hplace : ∀ path, place path → zoneOf repo path = some zone) {origin : Origin}
    (hholds : tree.Holds place origin) : Permitted callers zone origin := by
  obtain ⟨path, origins, hpath, hfile, horigin⟩ := hholds
  exact h.files path zone origins (hplace path hpath) hfile origin horigin

theorem Sound.writes (h : Sound repo callers before) {region : String → Prop}
    {made : Origin → Prop} (hwrites : Writes region made before after)
    (hconfigured : after.configured = before.configured)
    (hmade : ∀ path zone origin, region path → zoneOf repo path = some zone → made origin →
      Permitted callers zone origin) : Sound repo callers after where
  files path zone origins hzone hfile origin horigin := by
    rcases hwrites.contents path origins hfile with hold | ⟨hregion, hnew⟩
    · exact h.files path zone origins hzone hold origin horigin
    · exact hmade path zone origin hregion hzone (hnew origin horigin)
  configured dir zone configuration hzone hdir :=
    h.configured dir zone configuration hzone (hconfigured ▸ hdir)

/-- Within one zone everything that is made is permitted. -/
theorem Sound.writesIn (h : Sound repo callers before) {region : String → Prop}
    {made : Origin → Prop} (hwrites : Writes region made before after)
    (hconfigured : after.configured = before.configured) {zone : Zone}
    (hregion : ∀ path, region path → zoneOf repo path = some zone)
    (hmade : ∀ origin, made origin → Permitted callers zone origin) :
    Sound repo callers after := by
  refine h.writes hwrites hconfigured fun path other origin hpath hzone horigin ↦ ?_
  obtain rfl := Option.some.inj ((hregion path hpath).symm.trans hzone)
  exact hmade origin horigin

theorem Sound.merge (h : Sound repo callers before) {output : String} {inputs : List String}
    (hconfined : ∃ zone, zoneOf repo output = some zone ∧
      ∀ input ∈ inputs, zoneOf repo input = some zone)
    (hwrites : Writes (· = output) (before.Holds fun path ↦ path = output ∨ path ∈ inputs)
      before after) (hconfigured : after.configured = before.configured) :
    Sound repo callers after := by
  obtain ⟨zone, houtput, hinputs⟩ := hconfined
  have hregion : ∀ path, path = output → zoneOf repo path = some zone := by
    rintro path rfl
    exact houtput
  refine h.writesIn hwrites hconfigured hregion fun origin ↦ h.holds ?_
  rintro path (hpath | hinput)
  · exact hregion path hpath
  · exact hinputs path hinput

theorem Sound.effect (h : Sound repo callers before) {tool : Tool}
    (hconfined : Confined repo callers tool) (heffect : Effect before after tool) :
    Sound repo callers after := by
  cases tool with
  | configure source buildDir definitions extra =>
      obtain ⟨zone, hdir, horigin, htarget⟩ := hconfined
      obtain ⟨hwrites, helsewhere, hbuildDir⟩ := heffect
      have hfiles : Sound repo callers { after with configured := before.configured } := by
        refine h.writesIn ⟨hwrites.elsewhere, hwrites.contents⟩ rfl
          (fun path hpath ↦ zoneOf_under hdir hpath) ?_
        rintro origin rfl
        exact horigin
      refine ⟨hfiles.files, fun dir other configuration hother hconfiguration ↦ ?_⟩
      by_cases heq : dir = buildDir
      · subst heq
        obtain rfl := Option.some.inj (hdir.symm.trans hother)
        rcases hbuildDir configuration hconfiguration with hold | rfl
        · exact h.configured dir _ configuration hother hold
        · exact ⟨horigin, htarget⟩
      · rw [helsewhere dir heq] at hconfiguration
        exact h.configured dir other configuration hother hconfiguration
  | build buildDir =>
      obtain ⟨zone, hdir⟩ := hconfined
      refine h.writesIn heffect.1 heffect.2 (fun path hpath ↦ zoneOf_under hdir hpath) ?_
      rintro origin (hholds | ⟨configuration, hconfiguration, rfl⟩)
      · exact h.holds (fun path hpath ↦ zoneOf_under hdir hpath) hholds
      · exact (h.configured buildDir zone configuration hdir hconfiguration).1
  | install buildDir =>
      obtain ⟨zone, hdir⟩ := hconfined
      have hregion : ∀ path, Under buildDir path ∨
          (∃ configuration, before.configured buildDir = some configuration ∧
            Under configuration.installPrefix path) → zoneOf repo path = some zone := by
        rintro path (hpath | ⟨configuration, hconfiguration, hpath⟩)
        · exact zoneOf_under hdir hpath
        · exact zoneOf_under (h.configured buildDir zone configuration hdir hconfiguration).2 hpath
      exact h.writesIn heffect.1 heffect.2 hregion fun origin ↦
        h.holds fun path hpath ↦ zoneOf_under hdir hpath
  | remove path => exact h.writes heffect.1 heffect.2 nofun
  | libtool output inputs => exact h.merge hconfined heffect.1 heffect.2
  | arScript output inputs => exact h.merge hconfined heffect.1 heffect.2
  | arReplace output inputs => exact h.merge hconfined heffect.1 heffect.2
  | compile compiler options source object =>
      obtain ⟨zone, hobject, horigin⟩ := hconfined
      have hregion : ∀ path, path = object → zoneOf repo path = some zone := by
        rintro path rfl
        exact hobject
      refine h.writesIn heffect.1 heffect.2 hregion ?_
      rintro origin rfl
      exact horigin
  | mkdir dir => exact heffect ▸ h
  | list path => exact heffect ▸ h
  | updateSubmodule root path =>
      obtain ⟨rfl, hsubmodule⟩ := hconfined
      refine h.writes heffect.1 heffect.2 fun file zone origin hfile hzone ↦ ?_
      rw [zoneOf_outside (not_underBuild_submodule hsubmodule hfile)] at hzone
      cases hzone

end Sound

/-! ## One script -/

section Scripts

variable (toolbox : Toolbox) {repo : String} {callers : Caller → Prop} {tree : Tree}

theorem always_andThen (h : Sound repo callers tree) {tool : Tool}
    (hconfined : Confined repo callers tool) {rest : Script}
    (hrest : ∀ after, Sound repo callers after →
      rest.Always toolbox.host (Sound repo callers) after) :
    (andThen tool rest).Always toolbox.host (Sound repo callers) tree := by
  refine ⟨h, fun status after hstatus ↦ ?_⟩
  have hafter := h.effect hconfined (toolbox.effect hstatus)
  change (if status = 0 then rest else pure status).Always _ _ _
  split
  · exact hrest after hafter
  · exact hafter

theorem always_run (h : Sound repo callers tree) {tool : Tool}
    (hconfined : Confined repo callers tool) :
    (run tool).Always toolbox.host (Sound repo callers) tree :=
  ⟨h, fun _ _ hstatus ↦ h.effect hconfined (toolbox.effect hstatus)⟩

theorem always_echo (h : Sound repo callers tree) (line : String) {rest : Script}
    (hrest : rest.Always toolbox.host (Sound repo callers) tree) :
    (echo line >>= fun _ ↦ rest).Always toolbox.host (Sound repo callers) tree := by
  refine ⟨h, fun reply after hreply ↦ ?_⟩
  rw [toolbox.echo hreply]
  exact hrest

theorem always_echoError (h : Sound repo callers tree) (line : String) {rest : Script}
    (hrest : rest.Always toolbox.host (Sound repo callers) tree) :
    (echoError line >>= fun _ ↦ rest).Always toolbox.host (Sound repo callers) tree := by
  refine ⟨h, fun reply after hreply ↦ ?_⟩
  rw [toolbox.echoError hreply]
  exact hrest

theorem always_isFile (h : Sound repo callers tree) (path : String) {next : Bool → Script}
    (hnext : ∀ found, (next found).Always toolbox.host (Sound repo callers) tree) :
    (isFile path >>= next).Always toolbox.host (Sound repo callers) tree := by
  refine ⟨h, fun found after hfound ↦ ?_⟩
  rw [(toolbox.isFile hfound).1]
  exact hnext found

/-- The recipe builds in one zone, with a compiler that is permitted there. -/
structure Recipe.Within (recipe : Recipe) (repo : String) (callers : Caller → Prop) (zone : Zone) :
    Prop where
  buildDir : zoneOf repo recipe.buildDir = some zone
  installPrefix : zoneOf repo recipe.installPrefix = some zone
  plain : Plain recipe.installPrefix
  origin : Permitted callers zone (configurationOf recipe.definitions recipe.extra).origin
  target : (configurationOf recipe.definitions recipe.extra).installPrefix = recipe.installPrefix

variable {caller : Caller} {recipe : Recipe} {zone : Zone}

theorem Recipe.Within.under (h : recipe.Within repo callers zone) {path : String}
    (hpath : Under recipe.libDir path) : zoneOf repo path = some zone :=
  zoneOf_under h.installPrefix ((under_text _ "lib" rfl).trans hpath)

theorem Recipe.Within.confined_merge (h : recipe.Within repo callers zone) {inputs : List String}
    (hinputs : ∀ input ∈ inputs, Under recipe.libDir input) :
    Confined repo callers (recipe.merge caller inputs) := by
  have hmerged : zoneOf repo recipe.merged = some zone := h.under (under_append _ _)
  unfold Recipe.merge
  split <;> exact ⟨zone, hmerged, fun input hinput ↦ h.under (hinputs input hinput)⟩

theorem always_mergeInstalled (hwithin : recipe.Within repo callers zone)
    (hmachine : TakesLiterally caller.machine) (h : Sound repo callers tree) :
    (recipe.mergeInstalled caller).Always toolbox.host (Sound repo callers) tree := by
  refine ⟨h, fun reply after hreply ↦ ?_⟩
  obtain ⟨rfl, hfound⟩ := toolbox.find hreply
  obtain ⟨status, libs⟩ := reply
  have hpaths : ∀ path ∈ libs, ∃ rest, Plain rest ∧ path = recipe.libDir ++ "/" ++ rest :=
    fun path hpath ↦ (hfound path hpath).2
  have hplain : Plain recipe.libDir := plain_append.mpr ⟨hwithin.plain, by decide⟩
  change Program.Always _ _ (if status ≠ 0 then pure status
    else if (recipe.rejectsEmpty && libs.isEmpty) = true then _ else _) _
  rw [caller.words_found hmachine hplain hpaths]
  split
  · exact h
  · split
    · exact always_echoError toolbox h _ h
    · refine always_andThen toolbox h (hwithin.confined_merge fun input hinput ↦ ?_)
        fun after hafter ↦ always_echo toolbox hafter _ (always_run toolbox hafter trivial)
      obtain ⟨rest, -, rfl⟩ := hpaths input hinput
      exact under_append _ _

theorem always_rebuild (hwithin : recipe.Within repo callers zone)
    (hmachine : TakesLiterally caller.machine) (h : Sound repo callers tree) :
    (recipe.rebuild caller).Always toolbox.host (Sound repo callers) tree := by
  have hconfigure : Confined repo callers
      (.configure recipe.source recipe.buildDir recipe.definitions recipe.extra) :=
    ⟨zone, hwithin.buildDir, hwithin.origin, hwithin.target ▸ hwithin.installPrefix⟩
  have hbuild : Confined repo callers (.build recipe.buildDir) := ⟨zone, hwithin.buildDir⟩
  have hinstall : Confined repo callers (.install recipe.buildDir) := ⟨zone, hwithin.buildDir⟩
  have hremove : Confined repo callers (.remove recipe.merged) := trivial
  refine always_isFile toolbox h _ fun initialized ↦ ?_
  cases initialized with
  | false => exact always_echoError toolbox h _ h
  | true =>
      apply always_andThen toolbox h hconfigure
      intro configured h
      apply always_andThen toolbox h hbuild
      intro built h
      apply always_andThen toolbox h hinstall
      intro installed h
      apply always_andThen toolbox h hremove
      intro removed h
      exact always_mergeInstalled toolbox hwithin hmachine h

theorem always_buildAndMerge (hwithin : recipe.Within repo callers zone)
    (hmachine : TakesLiterally caller.machine) (h : Sound repo callers tree) :
    (recipe.buildAndMerge caller).Always toolbox.host (Sound repo callers) tree := by
  have hrebuild := always_rebuild toolbox hwithin hmachine h
  unfold Recipe.buildAndMerge
  cases recipe.forced with
  | true => exact hrebuild
  | false =>
      refine always_isFile toolbox h _ fun cached ↦ ?_
      cases cached with
      | true => exact always_echo toolbox h _ h
      | false => exact hrebuild

end Scripts

/-! ## Any call -/

/-- A script with its arguments. -/
inductive Call where
  | cmakeLib (arguments : List String)
  | abseil (arguments : List String)
  | nanobindProd (arguments : List String)
  | ciPrepare (arguments : List String)

def Call.script (caller : Caller) : Call → Script
  | .cmakeLib arguments => caller.buildCmakeLib arguments
  | .abseil arguments => caller.buildAbseil arguments
  | .nanobindProd arguments => caller.buildNanobindProd arguments
  | .ciPrepare arguments => caller.ciPrepare arguments

/-- A slug is the name of a directory, and what follows the standard are options of the project. -/
def Call.Regular : Call → Prop
  | .cmakeLib arguments =>
      (∀ slug ∈ (Caller.afterProd arguments).head?, '/' ∉ slug.toList ∧ Plain slug) ∧
        ∀ argument ∈ (Caller.afterProd arguments).drop 2, isProjectOption argument = true
  | .abseil _ | .nanobindProd _ | .ciPrepare _ => True

/-- The caller works in the repository, and installs Abseil in the zone of each form. -/
structure Caller.Regular (caller : Caller) (repo : String) : Prop where
  root : caller.repo = repo
  machine : TakesLiterally caller.machine
  abseil : ∀ prod, zoneOf repo (caller.abseilInstallDir prod) = some (caller.zone prod) ∧
    Plain (caller.abseilInstallDir prod)

section Calls

variable (toolbox : Toolbox) {repo : String} {callers : Caller → Prop} {tree : Tree}
  {caller : Caller}

theorem permitted_origin (hcaller : callers caller) (prod : Bool) :
    Permitted callers (caller.zone prod) (caller.origin prod) := by
  refine ⟨caller, hcaller, ?_⟩
  cases prod <;> simp [Caller.origins]

theorem within_cmakeRecipe (hcaller : callers caller) (hregular : caller.Regular repo)
    (hrepo : Plain repo) {slug : String} (hslug : '/' ∉ slug.toList) (hplain : Plain slug)
    (prod : Bool) (std : String) {extra : List String}
    (hextra : ∀ argument ∈ extra, isProjectOption argument = true) :
    (caller.cmakeRecipe prod slug std extra).Within repo callers (caller.zone prod) := by
  obtain rfl := hregular.root
  have hconfiguration := caller.configurationOf_cmake prod
    (caller.cmakeDir prod (slug ++ "-install")) std hextra
  have hstem : Plain (slug ++ "-install") := plain_append.mpr ⟨hplain, by decide⟩
  exact {
    buildDir := caller.zoneOf_cmakeDir prod hslug (.inr rfl)
    installPrefix := caller.zoneOf_cmakeDir prod hslug (.inl rfl)
    plain := by
      change Plain (caller.cmakeDir prod (slug ++ "-install"))
      unfold Caller.cmakeDir Caller.gccBuildRoot
      cases caller.isGcc with
      | true => simp only [if_true, plain_append, hrepo, hstem]; decide
      | false =>
          cases prod <;>
            · simp only [Bool.false_eq_true, if_false, plain_append, hrepo, hstem,
                Caller.prodSuffix]
              decide
    origin := by
      have horigin := congrArg Configuration.origin hconfiguration
      exact horigin ▸ permitted_origin hcaller prod
    target := congrArg Configuration.installPrefix hconfiguration }

theorem within_abseilRecipe (hcaller : callers caller) (hregular : caller.Regular repo)
    (prod forced : Bool) :
    (caller.abseilRecipe prod forced).Within repo callers (caller.zone prod) := by
  have hconfiguration := caller.configurationOf_abseil prod (caller.abseilInstallDir prod)
  have hslug : '/' ∉ "abseil".toList := by decide
  have hbuildDir := caller.zoneOf_cmakeDir prod hslug (.inr rfl)
  exact {
    buildDir := hregular.root ▸ hbuildDir
    installPrefix := (hregular.abseil prod).1
    plain := (hregular.abseil prod).2
    origin := by
      have horigin := congrArg Configuration.origin hconfiguration
      exact horigin ▸ permitted_origin hcaller prod
    target := congrArg Configuration.installPrefix hconfiguration }

theorem always_buildNanobindProd (hcaller : callers caller) (hregular : caller.Regular repo)
    (arguments : List String) (h : Sound repo callers tree) :
    (caller.buildNanobindProd arguments).Always toolbox.host (Sound repo callers) tree := by
  obtain rfl := hregular.root
  have hdir : Caller.dirname caller.settings.nbLibProd = caller.nanobindDir := by
    rw [caller.nbLibProd_eq, Caller.dirname_append _ (by decide)]
  have hlib : zoneOf caller.repo caller.settings.nbLibProd = some (caller.zone true) :=
    zoneOf_under caller.zoneOf_nanobindDir (caller.nbLibProd_eq ▸ under_append _ _)
  have hobj : zoneOf caller.repo (caller.nanobindDir ++ "/nb_combined.o") =
      some (caller.zone true) :=
    zoneOf_under caller.zoneOf_nanobindDir (under_text _ "nb_combined.o" rfl)
  have hcompile : Confined caller.repo callers (.compile caller.settings.prodCxx
      caller.nanobindOptions (caller.repo ++ "/nanobind/src/nb_combined.cpp")
      (caller.nanobindDir ++ "/nb_combined.o")) :=
    ⟨_, hobj, caller, hcaller, by simp [Caller.origins]⟩
  have harchive : Confined caller.repo callers
      (if caller.isGcc then
        .arReplace caller.settings.nbLibProd [caller.nanobindDir ++ "/nb_combined.o"]
      else .libtool caller.settings.nbLibProd [caller.nanobindDir ++ "/nb_combined.o"]) := by
    split <;> exact ⟨_, hlib, List.forall_mem_singleton.mpr hobj⟩
  dsimp only [Caller.buildNanobindProd]
  rw [hdir]
  refine always_isFile toolbox h _ fun built ↦ ?_
  split
  · exact always_echo toolbox h _ h
  · have hmkdir : Confined caller.repo callers (.mkdir caller.nanobindDir) := trivial
    apply always_andThen toolbox h hmkdir
    intro made h
    apply always_andThen toolbox h hcompile
    intro compiled h
    apply always_andThen toolbox h harchive
    intro archived h
    exact always_echo toolbox h _ h

theorem always_buildCmakeLib (hcaller : callers caller) (hregular : caller.Regular repo)
    (hrepo : Plain repo) {arguments : List String} (hcall : (Call.cmakeLib arguments).Regular)
    (h : Sound repo callers tree) :
    (caller.buildCmakeLib arguments).Always toolbox.host (Sound repo callers) tree := by
  obtain ⟨hslug, hextra⟩ := hcall
  unfold Caller.buildCmakeLib
  split
  next slug std extra hwords =>
    rw [hwords] at hslug hextra
    obtain ⟨hname, hplain⟩ := hslug slug rfl
    exact always_buildAndMerge toolbox
      (within_cmakeRecipe hcaller hregular hrepo hname hplain _ std hextra) hregular.machine h
  next => exact h

theorem always_buildAbseil (hcaller : callers caller) (hregular : caller.Regular repo)
    (arguments : List String) (h : Sound repo callers tree) :
    (caller.buildAbseil arguments).Always toolbox.host (Sound repo callers) tree :=
  always_buildAndMerge toolbox (within_abseilRecipe hcaller hregular _ _) hregular.machine h

/-- The compiled runs are built with options of their projects only. -/
theorem regular_cmakeRun {slug : String} {arguments : List String}
    (h : Caller.cmakeRun slug = some arguments) : (Call.cmakeLib arguments).Regular := by
  unfold Caller.cmakeRun at h
  split at h <;> cases h <;> exact ⟨fun slug hslug ↦ by cases hslug; decide, by decide⟩

theorem always_buildRun (hcaller : callers caller) (hregular : caller.Regular repo)
    (hrepo : Plain repo) (slug : String) (h : Sound repo callers tree) :
    (caller.buildRun slug).Always toolbox.host (Sound repo callers) tree := by
  unfold Caller.buildRun
  split
  · exact always_buildAbseil toolbox hcaller hregular [] h
  · split
    next arguments harguments =>
      exact always_buildCmakeLib toolbox hcaller hregular hrepo (regular_cmakeRun harguments) h
    next => exact h

theorem always_succeeding {script rest : Script}
    (hscript : script.Always toolbox.host (Sound repo callers) tree)
    (hrest : ∀ after, Sound repo callers after →
      rest.Always toolbox.host (Sound repo callers) after) :
    (Caller.succeeding script rest).Always toolbox.host (Sound repo callers) tree := by
  refine Program.always_bind hscript fun status after hafter ↦ ?_
  split
  · exact hrest after hafter
  · exact hafter

theorem always_ciPrepare (hcaller : callers caller) (hregular : caller.Regular repo)
    (hrepo : Plain repo) (arguments : List String) (h : Sound repo callers tree) :
    (caller.ciPrepare arguments).Always toolbox.host (Sound repo callers) tree := by
  have hmirrorbind : Confined repo callers (.updateSubmodule caller.repo "mirrorbind") :=
    ⟨hregular.root, .inl rfl⟩
  have hlib : ∀ lib, Confined repo callers
      (.updateSubmodule caller.repo ("corpus/libs/" ++ lib)) :=
    fun lib ↦ ⟨hregular.root, .inr ⟨lib, rfl⟩⟩
  cases arguments with
  | nil => exact h
  | cons slug others =>
      have hbuild : ∀ after, Sound repo callers after →
          (Caller.succeeding (caller.buildNanobindProd []) <|
            Caller.succeeding (caller.buildRun slug) do
              echo ("ci_prepare: " ++ slug ++ " ready")
              pure 0).Always toolbox.host (Sound repo callers) after := by
        intro after h
        apply always_succeeding toolbox (always_buildNanobindProd toolbox hcaller hregular [] h)
        intro nanobind h
        apply always_succeeding toolbox (always_buildRun toolbox hcaller hregular hrepo slug h)
        intro built h
        exact always_echo toolbox h _ h
      apply always_andThen toolbox h hmirrorbind
      intro binder h
      unfold Caller.updateLib
      cases Caller.libOf slug with
      | none => exact hbuild binder h
      | some lib => exact always_andThen toolbox h (hlib lib) hbuild

/-- No call leaves the zones, wherever it is stopped. -/
theorem always_script (hcaller : callers caller) (hregular : caller.Regular repo)
    (hrepo : Plain repo) {call : Call} (hcall : call.Regular) (h : Sound repo callers tree) :
    (call.script caller).Always toolbox.host (Sound repo callers) tree := by
  cases call with
  | cmakeLib arguments => exact always_buildCmakeLib toolbox hcaller hregular hrepo hcall h
  | abseil arguments => exact always_buildAbseil toolbox hcaller hregular arguments h
  | nanobindProd arguments =>
      exact always_buildNanobindProd toolbox hcaller hregular arguments h
  | ciPrepare arguments => exact always_ciPrepare toolbox hcaller hregular hrepo arguments h

end Calls

/-! ## Any history of calls -/

/-- A call by one process. -/
structure Started where
  caller : Caller
  call : Call

def Started.Regular (repo : String) (started : Started) : Prop :=
  started.caller.Regular repo ∧ started.call.Regular

/-- The trees that calls may leave one after the other, each of them finished or stopped somewhere. -/
def Leaves (toolbox : Toolbox) : List Started → Tree → Tree → Prop
  | [], before, after => after = before
  | started :: rest, before, after =>
      ∃ between, (started.call.script started.caller).Passes toolbox.host before between ∧
        Leaves toolbox rest between after

theorem sound_of_leaves {toolbox : Toolbox} {repo : String} {callers : Caller → Prop}
    (hrepo : Plain repo) {calls : List Started}
    (hcalls : ∀ started ∈ calls, callers started.caller ∧ started.Regular repo)
    {before after : Tree} (hleaves : Leaves toolbox calls before after)
    (h : Sound repo callers before) : Sound repo callers after := by
  induction calls generalizing before with
  | nil => exact hleaves ▸ h
  | cons started rest ih =>
      obtain ⟨between, hpasses, hrest⟩ := hleaves
      obtain ⟨⟨hcaller, hregular, hcall⟩, hothers⟩ := List.forall_mem_cons.mp hcalls
      have halways := always_script toolbox hcaller hregular hrepo hcall h
      exact ih hothers hrest ((Program.always_iff _ _).mp halways between hpasses)

/-! ## The archives of the two lanes -/

def toolchainCompiler (repo : String) : String := repo ++ "/toolchain/bin/clang++"

theorem Caller.toolchainCxx_eq {caller : Caller} (hgcc : caller.isGcc = false) :
    caller.toolchainCxx = toolchainCompiler caller.repo := by
  unfold Caller.isGcc Settings.isGcc Caller.settings envSh at hgcc
  unfold Caller.toolchainCxx Caller.settings envSh
  generalize orDefault caller.environ "CORPUS_TOOLCHAIN" _ = toolchain at hgcc ⊢
  by_cases hname : toolchain = "gcc16"
  · simp [hname] at hgcc
  · simp [hname, toolchainCompiler, String.append_assoc]

variable {repo : String} {callers : Caller → Prop} {origin : Origin}

theorem origin_of_toolchain (hroot : ∀ caller, callers caller → caller.repo = repo)
    (h : Permitted callers .toolchain origin) :
    ∃ caller, callers caller ∧
      origin = ⟨some (toolchainCompiler repo), some caller.toolchainFlags⟩ := by
  obtain ⟨caller, hcaller, horigin⟩ := h
  obtain rfl := hroot caller hcaller
  refine ⟨caller, hcaller, ?_⟩
  unfold Caller.origins Caller.zone Caller.origin at horigin
  cases hgcc : caller.isGcc with
  | true => simp [hgcc] at horigin
  | false =>
      simp only [hgcc, Bool.false_eq_true, if_false, if_true, reduceCtorEq, Bool.or_self,
        List.append_nil, List.mem_singleton] at horigin
      rw [horigin, Caller.toolchainCxx_eq hgcc]

theorem compiler_of_production (h : Permitted callers .production origin) :
    ∃ caller, callers caller ∧ origin.compiler = some caller.settings.prodCxx := by
  obtain ⟨caller, hcaller, horigin⟩ := h
  refine ⟨caller, hcaller, ?_⟩
  unfold Caller.origins Caller.zone Caller.origin at horigin
  cases hgcc : caller.isGcc with
  | true => simp [hgcc] at horigin
  | false =>
      simp only [hgcc, Bool.false_eq_true, if_false, if_true, reduceCtorEq, Bool.or_true,
        List.nil_append, List.mem_cons, List.not_mem_nil, or_false] at horigin
      rcases horigin with rfl | rfl <;> rfl

/-- The zone of the archives that a lane links on the clang backend. -/
def laneZone : Lane → Zone
  | .constexpr => .toolchain
  | .emit => .production

/-- The library directory of an installation in `build/`. -/
theorem zoneOf_library (repo : String) {name : String} {zone : Zone} (hname : '/' ∉ name.toList)
    (hzone : nameZone name.toList = some zone) :
    zoneOf repo (repo ++ "/build/" ++ name ++ "/lib") = some zone :=
  zoneOf_under ((zoneOf_build repo hname).trans hzone) (under_text _ "lib" rfl)

/-- The prefixes of Abseil for the two lanes lie in directories that are named for their runtimes, if the
run links Abseil. -/
def AbseilZoned (inv : Invocation) : Prop :=
  inv.toml.linkAbseil.getD false = true →
    zoneOf inv.repo inv.abseilPrefix = some .toolchain ∧
      zoneOf inv.repo (abseilInstallPrefix inv true) = some .production

theorem zoneOf_named {inv : Invocation} (hclang : inv.isGcc = false) (hzoned : AbseilZoned inv)
    (line : ArchiveLine inv) (lane : Lane) {dir : String}
    (hdir : dir ∈ line.named (archiveDirs inv lane)) :
    zoneOf inv.repo dir = some (laneZone lane) := by
  rcases (line.mem_named_iff _ dir).mp hdir with ⟨mention, -, rfl⟩ | ⟨hlinks, rfl⟩
  · have hslug := mention.2.noSlash
    cases lane with
    | constexpr =>
        have hpath : (archiveDirs inv .constexpr).cmake mention.2 =
            inv.repo ++ "/build/" ++ (mention.2.name ++ "-install") ++ "/lib" := by
          simp [cmake_constexpr_eq hclang, String.append_assoc]
        rw [hpath]
        refine zoneOf_library inv.repo (by simp [hslug]) ?_
        rw [String.toList_append]
        exact nameZone_append_toolchain _ (.inl rfl)
    | emit =>
        have hpath : (archiveDirs inv .emit).cmake mention.2 =
            inv.repo ++ "/build/" ++ (mention.2.name ++ "-install-prod") ++ "/lib" := by
          simp [cmake_emit_eq hclang, String.append_assoc]
        rw [hpath]
        refine zoneOf_library inv.repo (by simp [hslug]) ?_
        rw [String.toList_append]
        exact nameZone_append_production _ (.inl rfl)
  · obtain ⟨htoolchain, hproduction⟩ := hzoned hlinks
    cases lane with
    | constexpr => exact zoneOf_under htoolchain (under_text _ "lib" rfl)
    | emit => exact zoneOf_under hproduction (under_text _ "lib" rfl)

/-- Nothing was built or configured below the two build directories. -/
def Fresh (repo : String) (tree : Tree) : Prop :=
  ∀ path, (zoneOf repo path).isSome → tree.files path = none ∧ tree.configured path = none

/-- After any calls, each of them finished or stopped somewhere, the archives that the constexpr lane
links hold only code of the toolchain's compiler over the toolchain's own C++ library, and those that
the emit lane links hold only code of the callers' production compilers. -/
theorem lanes_link_their_own_runtime (toolbox : Toolbox) {inv : Invocation}
    (hclang : inv.isGcc = false) (hzoned : AbseilZoned inv) (hrepo : Plain inv.repo)
    {calls : List Started} (hcalls : ∀ started ∈ calls, started.Regular inv.repo)
    (hcompiler : ∀ started ∈ calls,
      started.caller.settings.prodCxx ≠ toolchainCompiler inv.repo)
    {before after : Tree} (hfresh : Fresh inv.repo before)
    (hleaves : Leaves toolbox calls before after) (line : ArchiveLine inv) :
    (∀ dir ∈ line.named (archiveDirs inv .constexpr), ∀ origin, after.Holds (Under dir) origin →
      ∃ started ∈ calls,
        origin = ⟨some (toolchainCompiler inv.repo), some started.caller.toolchainFlags⟩) ∧
    (∀ dir ∈ line.named (archiveDirs inv .emit), ∀ origin, after.Holds (Under dir) origin →
      origin.compiler ≠ some (toolchainCompiler inv.repo) ∧
        ∃ started ∈ calls, origin.compiler = some started.caller.settings.prodCxx) := by
  let callers : Caller → Prop := fun caller ↦ ∃ started ∈ calls, started.caller = caller
  have hsound : Sound inv.repo callers after := by
    refine sound_of_leaves hrepo (fun started hstarted ↦ ⟨⟨started, hstarted, rfl⟩,
      hcalls started hstarted⟩) hleaves ⟨fun path zone origins hzone hfile ↦ ?_,
      fun dir zone configuration hzone hdir ↦ ?_⟩
    · rw [(hfresh path (hzone ▸ rfl)).1] at hfile
      cases hfile
    · rw [(hfresh dir (hzone ▸ rfl)).2] at hdir
      cases hdir
  have hroot : ∀ caller, callers caller → caller.repo = inv.repo := by
    rintro caller ⟨started, hstarted, rfl⟩
    exact (hcalls started hstarted).1.root
  have hpermitted : ∀ lane, ∀ dir ∈ line.named (archiveDirs inv lane), ∀ origin,
      after.Holds (Under dir) origin → Permitted callers (laneZone lane) origin := by
    intro lane dir hdir origin hholds
    have hzone := zoneOf_named hclang hzoned line lane hdir
    exact hsound.holds (fun path hpath ↦ zoneOf_under hzone hpath) hholds
  constructor
  · intro dir hdir origin hholds
    obtain ⟨caller, ⟨started, hstarted, rfl⟩, horigin⟩ :=
      origin_of_toolchain hroot (hpermitted .constexpr dir hdir origin hholds)
    exact ⟨started, hstarted, horigin⟩
  · intro dir hdir origin hholds
    obtain ⟨caller, ⟨started, hstarted, rfl⟩, hcxx⟩ :=
      compiler_of_production (hpermitted .emit dir hdir origin hholds)
    refine ⟨fun htoolchain ↦ hcompiler started hstarted ?_, started, hstarted, hcxx⟩
    rw [hcxx] at htoolchain
    exact Option.some.inj htoolchain

def macCaller : Caller := ⟨OneArchive.machine false, "/repo", fun _ ↦ none⟩

/-- Abseil for the two lanes. -/
def abseilCalls : List Started :=
  [⟨macCaller, .abseil []⟩, ⟨macCaller, .abseil ["--prod"]⟩]

/-- A checkout of Abseil, and nothing built. -/
def abseilCheckout : Tree where
  files path := if path = "/repo/corpus/libs/abseil/CMakeLists.txt" then some [] else none
  configured _ := none

def abseilTree : Tree :=
  abseilCalls.foldl (fun tree started ↦
    ((started.call.script started.caller).run OneArchive.handler tree).2) abseilCheckout

theorem regular_macCaller : macCaller.Regular "/repo" where
  root := rfl
  machine word _ name h := (beq_iff_eq.mp h).symm
  abseil prod := by cases prod <;> decide

theorem regular_abseilCalls : ∀ started ∈ abseilCalls, started.Regular "/repo" := by
  intro started hstarted
  have hcaller : started.caller = macCaller ∧ started.call.Regular := by
    rcases List.mem_cons.mp hstarted with rfl | hrest
    · exact ⟨rfl, trivial⟩
    · obtain rfl := List.mem_singleton.mp hrest
      exact ⟨rfl, trivial⟩
  exact ⟨hcaller.1 ▸ regular_macCaller, hcaller.2⟩

theorem fresh_abseilCheckout : Fresh "/repo" abseilCheckout := by
  refine fun path hpath ↦ ⟨if_neg ?_, rfl⟩
  rintro rfl
  exact absurd hpath (by decide)

theorem leaves_run (calls : List Started) (tree : Tree) :
    Leaves OneArchive.toolbox calls tree (calls.foldl (fun tree started ↦
      ((started.call.script started.caller).run OneArchive.handler tree).2) tree) := by
  induction calls generalizing tree with
  | nil => rfl
  | cons started rest ih => exact ⟨_, Program.passes_run (fun _ _ ↦ rfl) _ _, ih _⟩

theorem lanes_link_their_own_runtime_abseil :
    abseilTree.files "/repo/build/abseil-install/lib/libabsl_merged.a" =
      some [macCaller.origin false] ∧
    abseilTree.files "/repo/build/abseil-install-prod/lib/libabsl_merged.a" =
      some [macCaller.origin true] ∧
    ∀ dir ∈ leveldbLine.named (archiveDirs leveldbAndAbseil .emit), ∀ origin,
      abseilTree.Holds (Under dir) origin →
        origin.compiler ≠ some (toolchainCompiler "/repo") := by
  have hclang : leveldbAndAbseil.isGcc = false := by decide
  have hzoned : AbseilZoned leveldbAndAbseil := fun _ ↦ by decide
  have hrepo : Plain leveldbAndAbseil.repo := by decide
  have hcompiler : ∀ started ∈ abseilCalls,
      started.caller.settings.prodCxx ≠ toolchainCompiler leveldbAndAbseil.repo := by decide
  have hlanes := lanes_link_their_own_runtime OneArchive.toolbox hclang hzoned hrepo
    regular_abseilCalls hcompiler fresh_abseilCheckout (leaves_run abseilCalls abseilCheckout)
    leveldbLine
  exact ⟨by decide, by decide, fun dir hdir origin hholds ↦ (hlanes.2 dir hdir origin hholds).1⟩

end ReflectNanobind.Scripts.Prebuilt
