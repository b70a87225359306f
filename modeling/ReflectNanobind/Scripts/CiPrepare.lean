import ReflectNanobind.Scripts.Archives
import ReflectNanobind.Scripts.Zones

/-!
# What `ci_prepare.sh` prepares

An exit with 0 promises that `run_gates.py` can link the run on the gcc16 backend: the archive of
nanobind is there, and so is the archive that the run's link line names.  Doing it again builds nothing
and leaves both in place.
-/

namespace ReflectNanobind.Scripts.Prebuilt

open Gates Library

/-! ## Success -/

/-- If the script exits with 0, the tree is as the goal says. -/
def Achieves (toolbox : Toolbox) (goal : Tree → Prop) (script : Script) (tree : Tree) : Prop :=
  script.Ensures toolbox.host (fun code after ↦ code = 0 → goal after) tree

section Achieves

variable {toolbox : Toolbox} {goal mid : Tree → Prop} {rest script : Script} {tree : Tree}

theorem achieves_pure {code : ℤ} (h : code = 0 → goal tree) :
    Achieves toolbox goal (pure code) tree := h

theorem achieves_andThen {tool : Tool}
    (h : ∀ after, Effect tree after tool → Finished after tool →
      Achieves toolbox goal rest after) :
    Achieves toolbox goal (andThen tool rest) tree := by
  intro status after hstatus
  change Achieves toolbox goal (if status = 0 then rest else pure status) after
  split
  next hzero =>
    subst hzero
    exact h after (toolbox.effect hstatus) (toolbox.finished hstatus)
  next hfailed => exact achieves_pure fun hzero ↦ absurd hzero hfailed

theorem achieves_run {tool : Tool}
    (h : ∀ after, Effect tree after tool → Finished after tool → goal after) :
    Achieves toolbox goal (run tool) tree := by
  intro status after hstatus
  change status = 0 → goal after
  rintro rfl
  exact h after (toolbox.effect hstatus) (toolbox.finished hstatus)

theorem achieves_echo {line : String} (h : Achieves toolbox goal rest tree) :
    Achieves toolbox goal (echo line >>= fun _ ↦ rest) tree := by
  intro reply after hreply
  rw [toolbox.echo hreply]
  exact h

theorem achieves_echoError {line : String} (h : Achieves toolbox goal rest tree) :
    Achieves toolbox goal (echoError line >>= fun _ ↦ rest) tree := by
  intro reply after hreply
  rw [toolbox.echoError hreply]
  exact h

theorem achieves_isFile {path : String} {next : Bool → Script}
    (h : ∀ found, found = (tree.files path).isSome → Achieves toolbox goal (next found) tree) :
    Achieves toolbox goal (isFile path >>= next) tree := by
  intro found after hfound
  obtain ⟨rfl, hreply⟩ := toolbox.isFile hfound
  exact h found hreply

theorem achieves_succeeding (hscript : Achieves toolbox mid script tree)
    (hrest : ∀ after, mid after → Achieves toolbox goal rest after) :
    Achieves toolbox goal (Caller.succeeding script rest) tree := by
  refine (Program.ensures_bind _ _ _ _).mpr (hscript.mono fun code after hmid ↦ ?_)
  change Achieves toolbox goal (if code = 0 then rest else pure code) after
  split
  next hzero => exact hrest after (hmid hzero)
  next hfailed => exact achieves_pure fun hzero ↦ absurd hzero hfailed

theorem Achieves.mono (h : Achieves toolbox mid script tree)
    (hgoal : ∀ after, mid after → goal after) : Achieves toolbox goal script tree := by
  refine Program.Ensures.mono ?_ h
  intro code after hmid hzero
  exact hgoal after (hmid hzero)

end Achieves

/-! ## A merged archive -/

/-- Outside of the build tree and the installation no file changes. -/
def Recipe.Keeps (recipe : Recipe) (before after : Tree) : Prop :=
  ∀ path, ¬ Under recipe.buildDir path → ¬ Under recipe.installPrefix path →
    after.files path = before.files path

section Merged

variable {toolbox : Toolbox} {caller : Caller} {recipe : Recipe} {before tree after : Tree}

theorem under_merged (recipe : Recipe) : Under recipe.installPrefix recipe.merged :=
  (under_text _ "lib" rfl).trans (under_append _ _)

theorem Recipe.Keeps.writes (h : recipe.Keeps before tree) {region : String → Prop}
    {made : Origin → Prop} (hwrites : Writes region made tree after)
    (hregion : ∀ path, region path → Under recipe.buildDir path ∨ Under recipe.installPrefix path) :
    recipe.Keeps before after := by
  intro path hbuildDir hprefix
  have houtside : ¬ region path := fun hpath ↦ (hregion path hpath).elim hbuildDir hprefix
  exact (hwrites.elsewhere path houtside).trans (h path hbuildDir hprefix)

theorem Recipe.Keeps.merged (h : recipe.Keeps before tree) {made : Origin → Prop}
    (hwrites : Writes (· = recipe.merged) made tree after) : recipe.Keeps before after := by
  refine h.writes hwrites ?_
  rintro path rfl
  exact .inr (under_merged recipe)

/-- The merged archive is there, and nothing else was touched. -/
def Recipe.Built (recipe : Recipe) (before after : Tree) : Prop :=
  (after.files recipe.merged).isSome ∧ recipe.Keeps before after

theorem achieves_mergeInstalled (h : recipe.Keeps before tree) :
    Achieves toolbox (recipe.Built before) (recipe.mergeInstalled caller) tree := by
  intro reply after hreply
  obtain ⟨rfl, -⟩ := toolbox.find hreply
  obtain ⟨status, libs⟩ := reply
  change Achieves toolbox _ (if status ≠ 0 then pure status
    else if (recipe.rejectsEmpty && libs.isEmpty) = true then _ else _) _
  split
  next hfailed => exact achieves_pure fun hzero ↦ absurd hzero hfailed
  next =>
    split
    · exact achieves_echoError (achieves_pure nofun)
    · refine achieves_andThen fun merged heffect _ ↦ achieves_echo (achieves_run ?_)
      rintro listed rfl hlisted
      refine ⟨hlisted, ?_⟩
      unfold Recipe.merge at heffect
      split at heffect <;> exact h.merged heffect.1

theorem achieves_rebuild
    (htarget : (configurationOf recipe.definitions recipe.extra).installPrefix =
      recipe.installPrefix) (tree : Tree) :
    Achieves toolbox (recipe.Built tree) (recipe.rebuild caller) tree := by
  have hstart : recipe.Keeps tree tree := fun _ _ _ ↦ rfl
  refine achieves_isFile fun initialized _ ↦ ?_
  cases initialized with
  | false => exact achieves_echoError (achieves_pure nofun)
  | true =>
      apply achieves_andThen
      intro configured hconfigure hconfigured
      have hkeeps := hstart.writes hconfigure.1 fun path hpath ↦ .inl hpath
      apply achieves_andThen
      intro built hbuild _
      have hkeeps := hkeeps.writes hbuild.1 fun path hpath ↦ .inl hpath
      apply achieves_andThen
      intro installed hinstall _
      have hkeeps : recipe.Keeps tree installed := by
        refine hkeeps.writes hinstall.1 ?_
        rintro path (hpath | ⟨configuration, hconfiguration, hpath⟩)
        · exact .inl hpath
        · rw [hbuild.2, hconfigured] at hconfiguration
          obtain rfl := Option.some.inj hconfiguration
          exact .inr (htarget ▸ hpath)
      apply achieves_andThen
      intro removed hremove _
      exact achieves_mergeInstalled (hkeeps.merged hremove.1)

theorem achieves_buildAndMerge
    (htarget : (configurationOf recipe.definitions recipe.extra).installPrefix =
      recipe.installPrefix) (tree : Tree) :
    Achieves toolbox (recipe.Built tree) (recipe.buildAndMerge caller) tree := by
  have hrebuild : Achieves toolbox (recipe.Built tree) (recipe.rebuild caller) tree :=
    achieves_rebuild htarget tree
  unfold Recipe.buildAndMerge
  cases recipe.forced with
  | true => exact hrebuild
  | false =>
      refine achieves_isFile fun cached hcached ↦ ?_
      cases cached with
      | true => exact achieves_echo (achieves_pure fun _ ↦ ⟨hcached.symm, fun _ _ _ ↦ rfl⟩)
      | false => exact hrebuild

end Merged

/-! ## The archives of one run -/

/-- The archive of nanobind on the gcc16 backend. -/
def gccNbLib (repo : String) : String := repo ++ "/build-gcc16/prod/libnanobind-static.a"

/-- The recipe of the archive that a run links. -/
def Caller.runRecipe (caller : Caller) (slug : String) : Option Recipe :=
  if "abseil_".toList.isPrefixOf slug.toList then some (caller.abseilRecipe false false)
  else
    match Caller.cmakeRun slug with
    | some (name :: std :: extra) => some (caller.cmakeRecipe false name std extra)
    | _ => none

section CiPrepare

variable {toolbox : Toolbox} {caller : Caller}

theorem nbLibProd_of_gcc (hgcc : caller.isGcc = true) :
    caller.settings.nbLibProd = gccNbLib caller.repo := by
  rw [caller.nbLibProd_eq, Caller.nanobindDir, hgcc]
  simp [gccNbLib, String.append_assoc]

theorem nbLib_of_gcc (hgcc : caller.isGcc = true) :
    caller.settings.nbLib = gccNbLib caller.repo := by
  unfold Caller.isGcc Settings.isGcc Caller.settings envSh at hgcc
  unfold Caller.settings envSh
  generalize orDefault caller.environ "CORPUS_TOOLCHAIN" _ = toolchain at hgcc ⊢
  by_cases hname : toolchain = "gcc16"
  · simp [hname, gccNbLib]
  · simp [hname] at hgcc

theorem achieves_buildNanobindProd (hgcc : caller.isGcc = true) (arguments : List String)
    (tree : Tree) :
    Achieves toolbox (fun after ↦ (after.files (gccNbLib caller.repo)).isSome)
      (caller.buildNanobindProd arguments) tree := by
  dsimp only [Caller.buildNanobindProd]
  rw [nbLibProd_of_gcc hgcc, hgcc]
  refine achieves_isFile fun built hbuilt ↦ ?_
  split
  next hcached =>
    have hthere : built = true := (Bool.and_eq_true_iff.mp hcached).1
    exact achieves_echo (achieves_pure fun _ ↦ hbuilt ▸ hthere)
  next =>
    apply achieves_andThen
    intro made _ _
    apply achieves_andThen
    intro compiled _ _
    apply achieves_andThen
    intro archived _ harchived
    exact achieves_echo (achieves_pure fun _ ↦ harchived)

/-- The fixed arguments name the library like the run, and define options of the project only. -/
theorem cmakeRun_spec {slug : String} {arguments : List String}
    (h : Caller.cmakeRun slug = some arguments) :
    ∃ extra, arguments = slug :: "17" :: extra ∧ slug ≠ "--prod" ∧ '/' ∉ slug.toList ∧
      ∀ argument ∈ extra, isProjectOption argument = true := by
  unfold Caller.cmakeRun at h
  split at h <;> cases h <;> exact ⟨_, rfl, by decide, by decide, by decide⟩

theorem buildRun_eq (caller : Caller) (slug : String) :
    caller.buildRun slug =
      match caller.runRecipe slug with
      | some recipe => recipe.buildAndMerge caller
      | none => pure 0 := by
  unfold Caller.buildRun Caller.runRecipe
  split
  · rfl
  · cases hrun : Caller.cmakeRun slug with
    | none => rfl
    | some arguments =>
        obtain ⟨extra, rfl, hslug, -⟩ := cmakeRun_spec hrun
        have hprod : Caller.isProd (slug :: "17" :: extra) = false := by
          simp [Caller.isProd, hslug]
        simp [Caller.buildCmakeLib, Caller.afterProd, hprod]

theorem runRecipe_target {slug : String} {recipe : Recipe}
    (h : caller.runRecipe slug = some recipe) :
    (configurationOf recipe.definitions recipe.extra).installPrefix = recipe.installPrefix := by
  unfold Caller.runRecipe at h
  split at h
  · cases h
    exact congrArg Configuration.installPrefix (caller.configurationOf_abseil false _)
  · cases hrun : Caller.cmakeRun slug with
    | none => simp [hrun] at h
    | some arguments =>
        obtain ⟨extra, rfl, -, -, hextra⟩ := cmakeRun_spec hrun
        rw [hrun] at h
        cases h
        exact congrArg Configuration.installPrefix (caller.configurationOf_cmake false _ _ hextra)

/-- All that the run links on the gcc16 backend is there. -/
structure Prepared (caller : Caller) (slug : String) (tree : Tree) : Prop where
  nanobind : (tree.files (gccNbLib caller.repo)).isSome
  merged : ∀ recipe, caller.runRecipe slug = some recipe → (tree.files recipe.merged).isSome

/-- A directory beside the one of nanobind's archive. -/
theorem not_under_gccNbLib (repo : String) {stem : String} (hstem : '/' ∉ stem.toList)
    (hprod : stem ≠ "prod") : ¬ Under (repo ++ "/build-gcc16/" ++ stem) (gccNbLib repo) := by
  rintro ⟨rest, hrest⟩
  have hchars := congrArg String.toList hrest
  have hcomponents : "prod".toList ++ '/' :: "libnanobind-static.a".toList =
      stem.toList ++ '/' :: rest.toList := by
    simpa [gccNbLib] using hchars
  have hnames := congrArg (List.takeWhile (· ≠ '/')) hcomponents
  rw [takeWhile_component, takeWhile_component] at hnames
  have htake : stem.toList.takeWhile (· ≠ '/') = stem.toList := by
    refine List.takeWhile_eq_self_iff.mpr fun char hchar ↦ decide_eq_true ?_
    rintro rfl
    exact hstem hchar
  rw [htake] at hnames
  exact hprod (String.toList_inj.mp (by simpa using hnames.symm))

/-- No recipe of a run touches nanobind's archive. -/
theorem runRecipe_beside (hgcc : caller.isGcc = true)
    (habseil : ¬ Under (caller.abseilInstallDir false) (gccNbLib caller.repo)) {slug : String}
    {recipe : Recipe} (h : caller.runRecipe slug = some recipe) :
    ¬ Under recipe.buildDir (gccNbLib caller.repo) ∧
      ¬ Under recipe.installPrefix (gccNbLib caller.repo) := by
  have hdir : ∀ stem, caller.cmakeDir false stem = caller.repo ++ "/build-gcc16/" ++ stem := by
    intro stem
    simp [Caller.cmakeDir, Caller.gccBuildRoot, hgcc, String.append_assoc]
  unfold Caller.runRecipe at h
  split at h
  · cases h
    refine ⟨?_, habseil⟩
    change ¬ Under (caller.cmakeDir false "abseil-build") _
    rw [hdir]
    exact not_under_gccNbLib _ (by decide) (by decide)
  · cases hrun : Caller.cmakeRun slug with
    | none => simp [hrun] at h
    | some arguments =>
        obtain ⟨extra, rfl, -, hslash, -⟩ := cmakeRun_spec hrun
        rw [hrun] at h
        cases h
        have hbeside : ∀ tail : String, '/' ∉ tail.toList → '-' ∈ tail.toList →
            ¬ Under (caller.cmakeDir false (slug ++ tail)) (gccNbLib caller.repo) := by
          intro tail htail hdash
          rw [hdir]
          refine not_under_gccNbLib _ (by simp [hslash, htail]) fun hprod ↦ ?_
          have hmem : '-' ∈ (slug ++ tail).toList := by simp [hdash]
          rw [hprod] at hmem
          exact absurd hmem (by decide)
        exact ⟨hbeside "-build" (by decide) (by decide), hbeside "-install" (by decide) (by decide)⟩

theorem achieves_buildRun (hgcc : caller.isGcc = true)
    (habseil : ¬ Under (caller.abseilInstallDir false) (gccNbLib caller.repo)) (slug : String)
    {tree : Tree} (h : (tree.files (gccNbLib caller.repo)).isSome) :
    Achieves toolbox (Prepared caller slug) (caller.buildRun slug) tree := by
  rw [buildRun_eq]
  cases hrecipe : caller.runRecipe slug with
  | none => exact achieves_pure fun _ ↦ ⟨h, fun recipe hother ↦ by cases hrecipe.symm.trans hother⟩
  | some recipe =>
      refine (achieves_buildAndMerge (runRecipe_target hrecipe) tree).mono ?_
      rintro after ⟨hmerged, hkeeps⟩
      obtain ⟨hbuildDir, hprefix⟩ := runRecipe_beside hgcc habseil hrecipe
      refine ⟨hkeeps _ hbuildDir hprefix ▸ h, fun other hother ↦ ?_⟩
      obtain rfl := Option.some.inj (hrecipe.symm.trans hother)
      exact hmerged

theorem achieves_ciPrepare (hgcc : caller.isGcc = true)
    (habseil : ¬ Under (caller.abseilInstallDir false) (gccNbLib caller.repo)) (slug : String)
    (others : List String) (tree : Tree) :
    Achieves toolbox (Prepared caller slug) (caller.ciPrepare (slug :: others)) tree := by
  have hbuild : ∀ after, Achieves toolbox (Prepared caller slug)
      (Caller.succeeding (caller.buildNanobindProd []) <|
        Caller.succeeding (caller.buildRun slug) do
          echo ("ci_prepare: " ++ slug ++ " ready")
          pure 0) after := by
    intro after
    apply achieves_succeeding (achieves_buildNanobindProd hgcc [] after)
    intro nanobind hnanobind
    apply achieves_succeeding (achieves_buildRun hgcc habseil slug hnanobind)
    intro prepared hprepared
    exact achieves_echo (achieves_pure fun _ ↦ hprepared)
  apply achieves_andThen
  intro binder _ _
  unfold Caller.updateLib
  cases Caller.libOf slug with
  | none => exact hbuild binder
  | some lib => exact achieves_andThen fun library _ _ ↦ hbuild library

/-! ## Doing it again -/

/-- Nothing below the two build directories changed, and no build tree was configured. -/
structure SameBuild (repo : String) (before after : Tree) : Prop where
  configured : after.configured = before.configured
  files : ∀ path, UnderBuild repo path → after.files path = before.files path

theorem SameBuild.refl (repo : String) (tree : Tree) : SameBuild repo tree tree :=
  ⟨rfl, fun _ _ ↦ rfl⟩

theorem SameBuild.trans {repo : String} {before between after : Tree}
    (h : SameBuild repo before between) (hlater : SameBuild repo between after) :
    SameBuild repo before after where
  configured := hlater.configured.trans h.configured
  files path hbuild := (hlater.files path hbuild).trans (h.files path hbuild)

theorem SameBuild.updateSubmodule {repo submodule : String} {before tree after : Tree}
    (h : SameBuild repo before tree) (hsubmodule : IsSubmodule submodule)
    (heffect : Effect tree after (.updateSubmodule repo submodule)) :
    SameBuild repo before after where
  configured := heffect.2.trans h.configured
  files path hbuild := by
    refine (heffect.1.elsewhere path fun hpath ↦ ?_).trans (h.files path hbuild)
    exact not_underBuild_submodule hsubmodule hpath hbuild

/-- However the script ends, it has built nothing. -/
def BuildsNothing (toolbox : Toolbox) (repo : String) (before : Tree) (script : Script)
    (tree : Tree) : Prop :=
  script.Ensures toolbox.host (fun _ after ↦ SameBuild repo before after) tree

section Again

variable {before tree : Tree} {rest : Script} {repo : String}

theorem buildsNothing_update {submodule : String} (hsubmodule : IsSubmodule submodule)
    (h : SameBuild repo before tree)
    (hrest : ∀ after, SameBuild repo before after → BuildsNothing toolbox repo before rest after) :
    BuildsNothing toolbox repo before (andThen (.updateSubmodule repo submodule) rest) tree := by
  intro status after hstatus
  have hafter := h.updateSubmodule hsubmodule (toolbox.effect hstatus)
  change BuildsNothing toolbox repo before (if status = 0 then rest else pure status) after
  split
  · exact hrest after hafter
  · exact hafter

/-- A file that is there ends the script with 0. -/
theorem ensures_cached {path line : String} {other : Script} {post : ℤ → Tree → Prop}
    (hfile : (tree.files path).isSome) (hpost : post 0 tree) :
    (isFile path >>= fun found ↦ if found then (do echo line; pure 0) else other).Ensures
      toolbox.host post tree := by
  intro found after hfound
  obtain ⟨rfl, rfl⟩ := toolbox.isFile hfound
  simp only [hfile]
  intro reply echoed hechoed
  rw [toolbox.echo hechoed]
  exact hpost

theorem ensures_buildNanobindProd (hgcc : caller.isGcc = true) {post : ℤ → Tree → Prop}
    (hfile : (tree.files (gccNbLib caller.repo)).isSome) (hpost : post 0 tree) :
    (caller.buildNanobindProd []).Ensures toolbox.host post tree := by
  dsimp only [Caller.buildNanobindProd]
  rw [nbLibProd_of_gcc hgcc]
  simpa using ensures_cached hfile hpost

theorem ensures_buildRun (hforced : orDefault caller.environ "NB_FORCE_REBUILD" "0" ≠ "1")
    {slug : String} {post : ℤ → Tree → Prop}
    (hfile : ∀ recipe, caller.runRecipe slug = some recipe → (tree.files recipe.merged).isSome)
    (hpost : post 0 tree) : (caller.buildRun slug).Ensures toolbox.host post tree := by
  rw [buildRun_eq]
  cases hrecipe : caller.runRecipe slug with
  | none => exact hpost
  | some recipe =>
      have hkept : recipe.forced = false := by
        unfold Caller.runRecipe at hrecipe
        split at hrecipe
        · cases hrecipe
          rfl
        · split at hrecipe
          · cases hrecipe
            simpa [Caller.cmakeRecipe] using hforced
          · cases hrecipe
      have hcached : (recipe.buildAndMerge caller).Ensures toolbox.host post tree := by
        unfold Recipe.buildAndMerge
        rw [hkept]
        exact ensures_cached (hfile recipe hrecipe) hpost
      exact hcached

/-- What is prepared lies below the build directory. -/
theorem Prepared.of_sameBuild (hgcc : caller.isGcc = true)
    (habseil : caller.environ "NB_ABSEIL_PREFIX" = none) {slug : String} {after : Tree}
    (h : Prepared caller slug tree) (hsame : SameBuild caller.repo tree after) :
    Prepared caller slug after := by
  have hroot : ∀ path, Under (caller.repo ++ "/build-gcc16") path →
      after.files path = tree.files path :=
    fun path hpath ↦ hsame.files path (.inr hpath)
  refine ⟨?_, fun recipe hrecipe ↦ ?_⟩
  · rw [hroot _ ⟨"prod/libnanobind-static.a", by simp [gccNbLib, String.append_assoc]⟩]
    exact h.nanobind
  · have hinstall : Under (caller.repo ++ "/build-gcc16") recipe.installPrefix := by
      unfold Caller.runRecipe at hrecipe
      split at hrecipe
      · cases hrecipe
        refine ⟨"abseil-install", ?_⟩
        simp [Caller.abseilRecipe, Caller.abseilInstallDir, Caller.gccBuildRoot, hgcc, orDefault,
          habseil, String.append_assoc]
      · split at hrecipe
        next name std extra _ =>
          cases hrecipe
          refine ⟨name ++ "-install", ?_⟩
          simp [Caller.cmakeRecipe, Caller.cmakeDir, Caller.gccBuildRoot, hgcc]
        next => cases hrecipe
    rw [hroot _ (hinstall.trans (under_merged recipe))]
    exact h.merged recipe hrecipe

theorem buildsNothing_ciPrepare (hgcc : caller.isGcc = true)
    (habseil : caller.environ "NB_ABSEIL_PREFIX" = none)
    (hforced : orDefault caller.environ "NB_FORCE_REBUILD" "0" ≠ "1") {slug : String}
    (h : Prepared caller slug tree) (others : List String) :
    BuildsNothing toolbox caller.repo tree (caller.ciPrepare (slug :: others)) tree := by
  have hcached : ∀ after, SameBuild caller.repo tree after →
      BuildsNothing toolbox caller.repo tree
        (Caller.succeeding (caller.buildNanobindProd []) <|
          Caller.succeeding (caller.buildRun slug) do
            echo ("ci_prepare: " ++ slug ++ " ready")
            pure 0) after := by
    intro after hsame
    have hprepared := h.of_sameBuild hgcc habseil hsame
    refine (Program.ensures_bind _ _ _ _).mpr
      (ensures_buildNanobindProd hgcc hprepared.nanobind ?_)
    refine (Program.ensures_bind _ _ _ _).mpr (ensures_buildRun hforced hprepared.merged ?_)
    intro reply echoed hechoed
    rw [toolbox.echo hechoed]
    exact hsame
  refine buildsNothing_update (.inl rfl) (.refl _ _) fun binder hbinder ↦ ?_
  unfold Caller.updateLib
  cases Caller.libOf slug with
  | none => exact hcached binder hbinder
  | some lib => exact buildsNothing_update (.inr ⟨lib, rfl⟩) hbinder hcached

/-- However often the script is started again, it has built nothing. -/
theorem buildsNothing_again (hgcc : caller.isGcc = true)
    (habseil : caller.environ "NB_ABSEIL_PREFIX" = none)
    (hforced : orDefault caller.environ "NB_FORCE_REBUILD" "0" ≠ "1") {slug : String}
    (h : Prepared caller slug tree) (others : List String) (times : ℕ) :
    (Program.again (caller.ciPrepare (slug :: others)) times).Ensures toolbox.host
      (fun _ later ↦ SameBuild caller.repo tree later) tree := by
  refine Program.ensures_again (fun after hsame ↦ ?_) times (.refl _ _)
  exact (buildsNothing_ciPrepare hgcc habseil hforced (h.of_sameBuild hgcc habseil hsame)
    others).mono fun _ _ ↦ hsame.trans

end Again

end CiPrepare

/-! ## The link line of the run -/

/-- The process of `run_gates.py` starts the scripts on its own machine. -/
def callerOf (machine : Machine) (inv : Invocation) : Caller := ⟨machine, inv.repo, inv.environ⟩

/-- The `meta.toml` of a run, as `build_cmake_lib.sh` and `build_abseil.sh` document it. -/
def LinksAsDocumented (inv : Invocation) (slug : String) : Prop :=
  if "abseil_".toList.isPrefixOf slug.toList then
    inv.toml.extraLibs.getD "" = "" ∧ inv.toml.linkAbseil.getD false = true
  else
    inv.toml.linkAbseil.getD false = false ∧
      if (Caller.cmakeRun slug).isSome then
        inv.toml.extraLibs =
          some ("-L \x7brepo\x7d/build/" ++ slug ++ "-install/lib -l" ++ slug ++ "_merged")
      else inv.toml.extraLibs.getD "" = ""

/-- The line names one archive, and it is there. -/
def Provided (tree : Tree) (line : String) : Prop :=
  ∃ dir name, line = "-L " ++ dir ++ " -l" ++ name ∧
    (tree.files (dir ++ "/lib" ++ name ++ ".a")).isSome

section LinkLine

variable {inv : Invocation} {machine : Machine}

theorem isGcc_callerOf (hmachine : machine.onLinux = inv.onLinux) :
    (callerOf machine inv).isGcc = inv.isGcc := by
  rw [Caller.isGcc, Settings.isGcc, Caller.settings]
  change ((envSh machine inv.repo inv.environ).corpusToolchain == "gcc16") = _
  rw [envSh_corpusToolchain machine inv hmachine]
  rfl

/-- A documented line, resolved and moved to the other build directory. -/
theorem resolve_line {repo rest : String} (hrepo : repo.toList.head? = some '/')
    (hplaceholder : Text.contains "\x7brepo\x7d" ("/build/" ++ rest) = false)
    (hbuild : Text.contains "/build/" rest = false) :
    Text.replace (Text.replace ("-L \x7brepo\x7d/build/" ++ rest) "\x7brepo\x7d" repo)
      (repo ++ "/build/") (repo ++ "/build-gcc16/") = "-L " ++ repo ++ "/build-gcc16/" ++ rest := by
  have hresolved : (Text.replace ("-L \x7brepo\x7d/build/" ++ rest) "\x7brepo\x7d" repo).toList =
      '-' :: 'L' :: ' ' :: ((repo ++ "/build/").toList ++ rest.toList) := by
    have hline : ("-L \x7brepo\x7d/build/" ++ rest).toList =
        "-L ".toList ++ ("\x7brepo\x7d".toList ++ ("/build/" ++ rest).toList) := by
      simp
    have hnonempty : "\x7brepo\x7d".toList ≠ [] := by decide
    have hself : Text.clashes "\x7brepo\x7d".toList "\x7brepo\x7d".toList = false := by decide
    have hfront : ¬ "\x7brepo\x7d".toList <:+: "-L ".toList := by decide
    rw [Text.toList_replace, hline, Text.replaceChars_append_pattern hnonempty hself,
      Text.replaceChars_of_not_infix _ hfront,
      Text.replaceChars_of_not_infix _ ((Text.contains_eq_false_iff _ _).mp hplaceholder)]
    simp
  have hhead : (repo ++ "/build/").toList.head? = some '/' := by
    rw [String.toList_append, List.head?_append, hrepo]
    rfl
  have hne : (repo ++ "/build/").toList ≠ [] := by simp
  have hlast : ¬ (repo ++ "/build/").toList <:+: rest.toList := by
    refine fun hinfix ↦ (Text.contains_eq_false_iff _ _).mp hbuild (List.IsInfix.trans ?_ hinfix)
    rw [String.toList_append]
    exact (List.suffix_append _ _).isInfix
  rw [← String.toList_inj, Text.toList_replace, hresolved,
    Text.replaceChars_cons _ (by rw [hhead]; decide) hne,
    Text.replaceChars_cons _ (by rw [hhead]; decide) hne,
    Text.replaceChars_cons _ (by rw [hhead]; decide) hne,
    Text.replaceChars_pattern _ hne, Text.replaceChars_of_not_infix _ hlast]
  simp

theorem extraLibs_cmake (hgcc : inv.isGcc = true) (hrepo : inv.repo.toList.head? = some '/')
    {slug : String} {arguments : List String} (hrun : Caller.cmakeRun slug = some arguments)
    (habseil : inv.toml.linkAbseil.getD false = false)
    (hlibs : inv.toml.extraLibs =
      some ("-L \x7brepo\x7d/build/" ++ slug ++ "-install/lib -l" ++ slug ++ "_merged")) :
    inv.extraLibs = "-L " ++ (inv.repo ++ "/build-gcc16/" ++ slug ++ "-install/lib") ++ " -l" ++
      (slug ++ "_merged") := by
  have hrest : Text.contains "\x7brepo\x7d"
        ("/build/" ++ (slug ++ "-install/lib -l" ++ slug ++ "_merged")) = false ∧
      Text.contains "/build/" (slug ++ "-install/lib -l" ++ slug ++ "_merged") = false := by
    unfold Caller.cmakeRun at hrun
    split at hrun <;> cases hrun <;> exact ⟨by decide, by decide⟩
  have hline := resolve_line hrepo hrest.1 hrest.2
  simp only [Invocation.extraLibs, hgcc, habseil, hlibs, Option.getD_some, if_true,
    Bool.false_eq_true, if_false]
  simp only [String.append_assoc] at hline ⊢
  rw [hline]
  rfl

theorem extraLibs_abseil (hgcc : inv.isGcc = true)
    (hunset : inv.environ "NB_ABSEIL_PREFIX" = none) (hlibs : inv.toml.extraLibs.getD "" = "")
    (habseil : inv.toml.linkAbseil.getD false = true) :
    inv.extraLibs = "-L " ++ (inv.repo ++ "/build-gcc16/abseil-install/lib") ++ " -l" ++
      "absl_merged" := by
  have hempty : ∀ old new : String, Text.replace "" old new = "" := fun _ _ ↦ rfl
  simp [Invocation.extraLibs, Invocation.abseilPrefix, hgcc, hunset, hlibs, habseil, hempty,
    String.append_assoc]

theorem extraLibs_none (hlibs : inv.toml.extraLibs.getD "" = "")
    (habseil : inv.toml.linkAbseil.getD false = false) : inv.extraLibs = "" := by
  have hempty : ∀ old new : String, Text.replace "" old new = "" := fun _ _ ↦ rfl
  simp [Invocation.extraLibs, hlibs, habseil, hempty]

theorem provided_of_prepared {caller : Caller} (hcaller : caller = callerOf machine inv)
    (hcallerGcc : caller.isGcc = true) (hgcc : inv.isGcc = true)
    (hrepo : inv.repo.toList.head? = some '/')
    (hunset : inv.environ "NB_ABSEIL_PREFIX" = none) {slug : String}
    (hlinks : LinksAsDocumented inv slug) {tree : Tree} (h : Prepared caller slug tree) :
    inv.extraLibs = "" ∨ Provided tree inv.extraLibs := by
  have hmerged := h.merged
  have hcallerRepo : caller.repo = inv.repo := by rw [hcaller, callerOf]
  have henviron : caller.environ = inv.environ := by rw [hcaller, callerOf]
  unfold LinksAsDocumented at hlinks
  unfold Caller.runRecipe at hmerged
  split at hlinks
  next habseil =>
    obtain ⟨hlibs, hlink⟩ := hlinks
    refine .inr ⟨_, _, extraLibs_abseil hgcc hunset hlibs hlink, ?_⟩
    have hfile := hmerged _ (if_pos habseil)
    simpa [Recipe.merged, Recipe.libDir, Caller.abseilRecipe, Caller.abseilInstallDir,
      Caller.gccBuildRoot, hcallerGcc, hcallerRepo, henviron, orDefault, hunset,
      String.append_assoc] using hfile
  next hother =>
    obtain ⟨hlink, hlibs⟩ := hlinks
    cases hrun : Caller.cmakeRun slug with
    | none => exact .inl (extraLibs_none (by simpa [hrun] using hlibs) hlink)
    | some arguments =>
        rw [hrun] at hlibs hmerged
        refine .inr ⟨_, _, extraLibs_cmake hgcc hrepo hrun hlink hlibs, ?_⟩
        obtain ⟨extra, rfl, -⟩ := cmakeRun_spec hrun
        have hpath : inv.repo ++ "/build-gcc16/" ++ slug ++ "-install/lib" ++ "/lib" ++
            (slug ++ "_merged") ++ ".a" = (caller.cmakeRecipe false slug "17" extra).merged := by
          rw [← String.toList_inj]
          simp [Recipe.merged, Recipe.libDir, Caller.cmakeRecipe, Caller.cmakeDir,
            Caller.gccBuildRoot, hcallerGcc, hcallerRepo]
        rw [hpath]
        exact hmerged _ (if_neg hother)

/-- After an exit with 0 the run's link line finds its archives, and doing it again builds nothing, as
often as it is done. -/
theorem ciPrepare_prepares (toolbox : Toolbox) (hmachine : machine.onLinux = inv.onLinux)
    (hgcc : inv.isGcc = true) (hrepo : inv.repo.toList.head? = some '/')
    (hunset : inv.environ "NB_ABSEIL_PREFIX" = none)
    (hforced : inv.environ "NB_FORCE_REBUILD" ≠ some "1") {slug : String}
    (hlinks : LinksAsDocumented inv slug) (others : List String) (tree : Tree) :
    ((callerOf machine inv).ciPrepare (slug :: others)).Ensures toolbox.host
      (fun code after ↦ code = 0 →
        (after.files (envSh machine inv.repo inv.environ).nbLib).isSome ∧
        (inv.extraLibs = "" ∨ Provided after inv.extraLibs) ∧
        ∀ times, (Program.again ((callerOf machine inv).ciPrepare (slug :: others)) times).Ensures
          toolbox.host (fun _ later ↦ SameBuild inv.repo after later) after) tree := by
  have hcaller : (callerOf machine inv).isGcc = true := (isGcc_callerOf hmachine).trans hgcc
  have hnbLib := nbLib_of_gcc hcaller
  have hdir : (callerOf machine inv).abseilInstallDir false =
      inv.repo ++ "/build-gcc16/" ++ "abseil-install" := by
    have hroot : (callerOf machine inv).gccBuildRoot = inv.repo ++ "/build-gcc16" := rfl
    have henviron : (callerOf machine inv).environ "NB_ABSEIL_PREFIX" = none := hunset
    simp [Caller.abseilInstallDir, hcaller, hroot, orDefault, henviron, String.append_assoc]
  have hbeside : ¬ Under ((callerOf machine inv).abseilInstallDir false) (gccNbLib inv.repo) := by
    rw [hdir]
    exact not_under_gccNbLib _ (by decide) (by decide)
  have hkept : orDefault inv.environ "NB_FORCE_REBUILD" "0" ≠ "1" := by
    unfold orDefault
    cases hvalue : inv.environ "NB_FORCE_REBUILD" with
    | none => decide
    | some value =>
        have hvalue : value ≠ "1" := fun heq ↦ hforced (heq ▸ hvalue)
        by_cases hempty : value = "" <;> simp [hempty, hvalue]
  refine Program.Ensures.mono ?_ (achieves_ciPrepare hcaller hbeside slug others tree)
  intro code after hprepared hzero
  have h := hprepared hzero
  refine ⟨hnbLib ▸ h.nanobind, provided_of_prepared rfl hcaller hgcc hrepo hunset hlinks h, ?_⟩
  exact buildsNothing_again hcaller hunset hkept h others

end LinkLine

/-- A run in the container that links Abseil. -/
def abseilTime : Invocation :=
  Invocation.onLinuxRepo { Meta.required "abseil_time" "abseil_time_bind" with
    linkAbseil := some true } (some .both)

theorem ciPrepare_prepares_abseil :
    let finished := ((callerOf (OneArchive.machine true) abseilTime).ciPrepare ["abseil_time"]).run
      OneArchive.handler ⟨fun _ ↦ none, fun _ ↦ none⟩
    finished.1 = 0 ∧ Provided finished.2 abseilTime.extraLibs := by
  intro finished
  have hzero : finished.1 = 0 := by decide
  have hlinks : LinksAsDocumented abseilTime "abseil_time" := by
    rw [LinksAsDocumented, if_pos (by decide)]
    exact ⟨rfl, rfl⟩
  have hmachine : (OneArchive.machine true).onLinux = abseilTime.onLinux := rfl
  have hensures := ciPrepare_prepares OneArchive.toolbox hmachine (by decide) (by decide) rfl
    (by decide) hlinks [] ⟨fun _ ↦ none, fun _ ↦ none⟩
  obtain ⟨-, hprovided, -⟩ := hensures.run (fun _ _ ↦ rfl) hzero
  exact ⟨hzero, hprovided.resolve_left (by decide)⟩

end ReflectNanobind.Scripts.Prebuilt
