import ReflectNanobind.Scripts.Toolbox

/-!
# The zones of the build directories

Below `build/` the name of a directory says which C++ runtime its code is built for; `build-gcc16/`
knows only one.  The scripts choose their build trees and prefixes so that each stays in its zone, and
configure CMake with the compiler of that zone.
-/

namespace ReflectNanobind.Scripts.Prebuilt

open Library

inductive Zone where
  | toolchain | production | gcc
  deriving DecidableEq, Repr

/-- The rest of a path below a directory. -/
def below (dir path : String) : Option (List Char) :=
  if (dir ++ "/").toList <+: path.toList then some (path.toList.drop (dir ++ "/").toList.length)
  else none

/-- The zone of a directory of this name in `build/`. -/
def nameZone (name : List Char) : Option Zone :=
  if name = "prod".toList ∨ "-install-prod".toList <:+ name ∨ "-build-prod".toList <:+ name then
    some .production
  else if "-install".toList <:+ name ∨ "-build".toList <:+ name then some .toolchain
  else none

def zoneOf (repo path : String) : Option Zone :=
  if (below (repo ++ "/build-gcc16") path).isSome then some .gcc
  else (below (repo ++ "/build") path).bind fun rest ↦ nameZone (rest.takeWhile (· ≠ '/'))

/-! ## Paths -/

theorem below_eq_some_iff {dir path : String} {rest : List Char} :
    below dir path = some rest ↔ path.toList = dir.toList ++ '/' :: rest := by
  have hdir : (dir ++ "/").toList = dir.toList ++ ['/'] := by simp
  unfold below
  rw [hdir]
  constructor
  · intro h
    split at h
    next hstart =>
      obtain ⟨other, hother⟩ := hstart
      rw [← hother, List.drop_left] at h
      rw [← hother, ← Option.some.inj h]
      simp
    next => cases h
  · intro h
    have hpath : path.toList = (dir.toList ++ ['/']) ++ rest := by simp [h]
    rw [hpath, if_pos (List.prefix_append _ _), List.drop_left]

theorem below_append (dir rest : String) : below dir (dir ++ "/" ++ rest) = some rest.toList :=
  below_eq_some_iff.mpr (by simp)

/-- `build/` and `build-gcc16/` are told apart by the character behind their common letters. -/
theorem below_gcc_of_below_build {repo path : String} {rest : List Char}
    (h : below (repo ++ "/build") path = some rest) :
    below (repo ++ "/build-gcc16") path = none := by
  refine Option.eq_none_iff_forall_ne_some.mpr fun other hother ↦ ?_
  have hbuild := below_eq_some_iff.mp h
  have hgcc := below_eq_some_iff.mp hother
  rw [hbuild] at hgcc
  simp at hgcc

theorem takeWhile_component (chars rest : List Char) :
    (chars ++ '/' :: rest).takeWhile (· ≠ '/') = chars.takeWhile (· ≠ '/') := by
  induction chars with
  | nil => simp
  | cons char chars ih =>
      by_cases h : char = '/'
      · simp [h]
      · simpa [h] using ih

/-- What lies below a directory lies in its zone. -/
theorem zoneOf_under {repo dir path : String} {zone : Zone} (h : zoneOf repo dir = some zone)
    (hpath : Under dir path) : zoneOf repo path = some zone := by
  obtain ⟨rest, rfl⟩ := hpath
  have hdeeper : ∀ root chars, below root dir = some chars →
      below root (dir ++ "/" ++ rest) = some (chars ++ '/' :: rest.toList) := by
    intro root chars hchars
    refine below_eq_some_iff.mpr ?_
    simp [below_eq_some_iff.mp hchars]
  unfold zoneOf at h ⊢
  cases hgcc : below (repo ++ "/build-gcc16") dir with
  | some chars =>
      rw [hgcc] at h
      rw [hdeeper _ _ hgcc]
      exact h
  | none =>
      rw [hgcc] at h
      cases hbuild : below (repo ++ "/build") dir with
      | none => simp [hbuild] at h
      | some chars =>
          have hrest := hdeeper _ _ hbuild
          rw [below_gcc_of_below_build hrest, hrest]
          simp only [hbuild, Option.isSome_none, Bool.false_eq_true, if_false,
            Option.bind_some] at h ⊢
          rw [takeWhile_component]
          exact h

theorem zoneOf_gcc {repo dir : String} (h : Under (repo ++ "/build-gcc16") dir) :
    zoneOf repo dir = some .gcc := by
  obtain ⟨rest, rfl⟩ := h
  simp [zoneOf, below_append]

theorem zoneOf_build (repo : String) {name : String} (hname : '/' ∉ name.toList) :
    zoneOf repo (repo ++ "/build/" ++ name) = nameZone name.toList := by
  have hslash : "/build/" = "/build" ++ "/" := rfl
  have hbelow := below_append (repo ++ "/build") name
  have htake : name.toList.takeWhile (· ≠ '/') = name.toList := by
    refine List.takeWhile_eq_self_iff.mpr fun char hchar ↦ decide_eq_true ?_
    rintro rfl
    exact hname hchar
  rw [hslash, ← String.append_assoc, zoneOf, below_gcc_of_below_build hbelow, hbelow,
    Option.bind_some, htake]
  rfl

/-- The path lies below `build/` or `build-gcc16/`. -/
def UnderBuild (repo path : String) : Prop :=
  Under (repo ++ "/build") path ∨ Under (repo ++ "/build-gcc16") path

theorem underBuild_iff {repo path : String} : UnderBuild repo path ↔
    (below (repo ++ "/build") path).isSome ∨ (below (repo ++ "/build-gcc16") path).isSome := by
  have hunder (dir : String) : Under dir path ↔ (below dir path).isSome := by
    simp only [Option.isSome_iff_exists, below_eq_some_iff]
    constructor
    · rintro ⟨rest, rfl⟩
      exact ⟨rest.toList, by simp⟩
    · rintro ⟨rest, hpath⟩
      exact ⟨String.ofList rest, by simp [← String.toList_inj, hpath]⟩
  rw [UnderBuild, hunder, hunder]

/-- No file outside of the two build directories lies in a zone. -/
theorem zoneOf_outside {repo path : String} (h : ¬ UnderBuild repo path) :
    zoneOf repo path = none := by
  rw [underBuild_iff, not_or, Bool.not_eq_true, Bool.not_eq_true, Option.isSome_eq_false_iff,
    Option.isSome_eq_false_iff, Option.isNone_iff_eq_none, Option.isNone_iff_eq_none] at h
  rw [zoneOf, h.2, h.1]
  rfl

/-- What lies below another directory of the repository is told by its first character. -/
theorem not_underBuild (repo first dir : String) {path : String} {char : Char} {rest : List Char}
    (hfirst : first.toList = '/' :: char :: rest) (hchar : char ≠ 'b')
    (hpath : Under (repo ++ first ++ dir) path) : ¬ UnderBuild repo path := by
  obtain ⟨tail, rfl⟩ := hpath
  rintro (⟨other, hother⟩ | ⟨other, hother⟩) <;>
    · have hchars := congrArg String.toList hother
      simp [hfirst] at hchars
      exact hchar hchars.1

/-- A submodule that `ci_prepare.sh` checks out. -/
def IsSubmodule (path : String) : Prop := path = "mirrorbind" ∨ ∃ lib, path = "corpus/libs/" ++ lib

theorem not_underBuild_submodule {repo submodule path : String} (hsubmodule : IsSubmodule submodule)
    (hpath : Under (repo ++ "/.git") path ∨ Under (repo ++ "/" ++ submodule) path) :
    ¬ UnderBuild repo path := by
  rcases hpath with hgit | hpath
  · exact not_underBuild repo "/.git" "" rfl (by decide) (by simpa using hgit)
  · rcases hsubmodule with rfl | ⟨lib, rfl⟩
    · refine not_underBuild repo "/mirrorbind" "" rfl (by decide) ?_
      simpa [String.append_assoc] using hpath
    · have hslash : "/corpus/libs/" = "/" ++ "corpus/libs/" := rfl
      refine not_underBuild repo "/corpus/libs/" lib rfl (by decide) ?_
      rw [hslash]
      simpa only [String.append_assoc] using hpath

/-! ## Names of directories -/

theorem nameZone_append_toolchain (stem : List Char) {tail : List Char}
    (htail : tail = "-install".toList ∨ tail = "-build".toList) :
    nameZone (stem ++ tail) = some .toolchain := by
  have hrod : ¬ "rod".toList <:+ stem ++ tail := by
    intro hsuffix
    have htails : "rod".toList <:+ tail := by
      refine List.suffix_of_suffix_length_le hsuffix (List.suffix_append _ _) ?_
      rcases htail with rfl | rfl <;> decide
    rcases htail with rfl | rfl <;> exact absurd htails (by decide)
  have hproduction : ¬(stem ++ tail = "prod".toList ∨ "-install-prod".toList <:+ stem ++ tail ∨
      "-build-prod".toList <:+ stem ++ tail) := by
    rintro (heq | hsuffix | hsuffix)
    · rw [heq] at hrod
      exact hrod (by decide)
    · exact hrod (List.IsSuffix.trans (by decide) hsuffix)
    · exact hrod (List.IsSuffix.trans (by decide) hsuffix)
  unfold nameZone
  rw [if_neg hproduction]
  rcases htail with rfl | rfl
  · exact if_pos (.inl (List.suffix_append _ _))
  · exact if_pos (.inr (List.suffix_append _ _))

theorem nameZone_append_production (stem : List Char) {tail : List Char}
    (htail : tail = "-install-prod".toList ∨ tail = "-build-prod".toList) :
    nameZone (stem ++ tail) = some .production := by
  unfold nameZone
  rcases htail with rfl | rfl
  · exact if_pos (.inr (.inl (List.suffix_append _ _)))
  · exact if_pos (.inr (.inr (List.suffix_append _ _)))

namespace Caller

variable (caller : Caller)

/-- The zone that a call with or without `--prod` builds for. -/
def zone (prod : Bool) : Zone :=
  if caller.isGcc then .gcc else if prod then .production else .toolchain

theorem zoneOf_cmakeDir (prod : Bool) {slug tail : String} (hslug : '/' ∉ slug.toList)
    (htail : tail = "-install" ∨ tail = "-build") :
    zoneOf caller.repo (caller.cmakeDir prod (slug ++ tail)) = some (caller.zone prod) := by
  unfold cmakeDir zone
  by_cases hgcc : caller.isGcc = true
  · simp only [hgcc, if_true]
    refine zoneOf_gcc ⟨slug ++ tail, ?_⟩
    rfl
  · simp only [hgcc, Bool.false_eq_true, if_false]
    have hname : '/' ∉ (slug ++ tail ++ prodSuffix prod).toList := by
      rcases htail with rfl | rfl <;> cases prod <;> simp [prodSuffix, hslug]
    have hpath : caller.repo ++ "/build/" ++ (slug ++ tail) ++ prodSuffix prod =
        caller.repo ++ "/build/" ++ (slug ++ tail ++ prodSuffix prod) := String.append_assoc
    rw [hpath, zoneOf_build _ hname]
    cases prod with
    | false =>
        rcases htail with rfl | rfl
        · simpa [prodSuffix] using nameZone_append_toolchain slug.toList (.inl rfl)
        · simpa [prodSuffix] using nameZone_append_toolchain slug.toList (.inr rfl)
    | true =>
        rcases htail with rfl | rfl
        · simpa [prodSuffix] using nameZone_append_production slug.toList (.inl rfl)
        · simpa [prodSuffix] using nameZone_append_production slug.toList (.inr rfl)

/-- What the C++ code of a call with or without `--prod` is compiled with. -/
def origin (prod : Bool) : Origin :=
  if caller.isGcc || prod then ⟨some caller.settings.prodCxx, some caller.prodFlags⟩
  else ⟨some caller.toolchainCxx, some caller.toolchainFlags⟩

theorem configurationOf_cmake (prod : Bool) (installPrefix std : String) {extra : List String}
    (hextra : ∀ argument ∈ extra, isProjectOption argument = true) :
    configurationOf (caller.cmakeDefinitions prod installPrefix std) extra =
      ⟨caller.origin prod, installPrefix⟩ := by
  unfold configurationOf origin cmakeDefinitions
  rw [definition_of_projectOptions (by decide) _ hextra,
    definition_of_projectOptions (by decide) _ hextra,
    definition_of_projectOptions (by decide) _ hextra]
  cases caller.isGcc <;> cases prod <;>
    simp only [if_true, if_false, Bool.false_eq_true, Bool.or_self, Bool.or_true, Bool.or_false,
      List.cons_append, List.nil_append, List.filter_cons, List.filter_nil, String.reduceEq,
      decide_true, decide_false, List.getLast?_singleton, Option.map_some, Option.getD_some]

theorem configurationOf_abseil (prod : Bool) (installPrefix : String) :
    configurationOf (caller.abseilDefinitions prod installPrefix) [] =
      ⟨caller.origin prod, installPrefix⟩ := by
  have hnone : ∀ argument ∈ ([] : List String), isProjectOption argument = true := nofun
  unfold configurationOf origin abseilDefinitions
  rw [definition_of_projectOptions (by decide) _ hnone,
    definition_of_projectOptions (by decide) _ hnone,
    definition_of_projectOptions (by decide) _ hnone]
  cases caller.isGcc <;> cases prod <;>
    simp only [if_true, if_false, Bool.false_eq_true, Bool.or_self, Bool.or_true, Bool.or_false,
      List.cons_append, List.nil_append, List.filter_cons, List.filter_nil, String.reduceEq,
      decide_true, decide_false, List.getLast?_singleton, Option.map_some, Option.getD_some]

/-! ## The archive of nanobind -/

theorem dirname_append (dir : String) {name : String} (hname : '/' ∉ name.toList) :
    dirname (dir ++ "/" ++ name) = dir := by
  have hreverse : ∀ char ∈ name.toList.reverse, decide (char ≠ '/') = true := by
    intro char hchar
    refine decide_eq_true ?_
    rintro rfl
    exact hname (List.mem_reverse.mp hchar)
  have hchars : (dir ++ "/" ++ name).toList.reverse =
      name.toList.reverse ++ '/' :: dir.toList.reverse := by simp
  unfold dirname
  rw [hchars, List.dropWhile_append_of_pos hreverse]
  simp

/-- Where the archive of nanobind for production code is. -/
def nanobindDir : String :=
  if caller.isGcc then caller.repo ++ "/build-gcc16/prod" else caller.repo ++ "/build/prod"

theorem nbLibProd_eq :
    caller.settings.nbLibProd = caller.nanobindDir ++ "/" ++ "libnanobind-static.a" := by
  unfold nanobindDir isGcc Settings.isGcc settings envSh
  generalize orDefault caller.environ "CORPUS_TOOLCHAIN" _ = toolchain
  by_cases hgcc : toolchain = "gcc16"
  · simp [hgcc, String.append_assoc]
  · simp [hgcc, String.append_assoc]

theorem zoneOf_nanobindDir : zoneOf caller.repo caller.nanobindDir = some (caller.zone true) := by
  unfold nanobindDir zone
  cases caller.isGcc with
  | true =>
      refine zoneOf_gcc ⟨"prod", ?_⟩
      simp [String.append_assoc]
  | false =>
      have hpath : caller.repo ++ "/build/prod" = caller.repo ++ "/build/" ++ "prod" := by
        simp [String.append_assoc]
      have hname : '/' ∉ "prod".toList := by decide
      simp only [Bool.false_eq_true, if_false, if_true]
      rw [hpath, zoneOf_build caller.repo hname]
      decide

end Caller

end ReflectNanobind.Scripts.Prebuilt
