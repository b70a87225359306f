import ReflectNanobind.Library.Replace
import ReflectNanobind.Scripts.Settings

/-!
# The prebuilt archives of the two lanes

On the clang backend each library is built once for each C++ runtime, by `build_cmake_lib.sh` and
`build_abseil.sh` and their `--prod` forms.  `run_lane` does not ask where the production archives were
installed: it renames directories in the link line of the other lane.
-/

namespace ReflectNanobind.Scripts

open Gates Library

/-! ## Where the archives are installed -/

/-- The name of a library below `corpus/libs`. -/
structure Slug where
  name : String
  noSlash : '/' ∉ name.toList

section Prefixes

variable (inv : Invocation) (prod : Bool)

/-- The prefix of `build_cmake_lib.sh`, or of `build_cmake_lib.sh --prod`. -/
def cmakePrefix (slug : Slug) : String :=
  if inv.isGcc then inv.repo ++ "/build-gcc16/" ++ slug.name ++ "-install"
  else if prod then inv.repo ++ "/build/" ++ slug.name ++ "-install-prod"
  else inv.repo ++ "/build/" ++ slug.name ++ "-install"

/-- The prefix of `build_abseil.sh`, or of `build_abseil.sh --prod`. -/
def abseilInstallPrefix : String :=
  if inv.isGcc then
    orDefault inv.environ "NB_ABSEIL_PREFIX" (inv.repo ++ "/build-gcc16/abseil-install")
  else if prod then
    orDefault inv.environ "NB_ABSEIL_PREFIX_PROD" (inv.repo ++ "/build/abseil-install-prod")
  else orDefault inv.environ "NB_ABSEIL_PREFIX" (inv.repo ++ "/build/abseil-install")

/-- The constexpr lane links Abseil where the script installs it; an empty override counts as a value
for one and as none for the other. -/
theorem abseilPrefix_eq_installPrefix (h : inv.environ "NB_ABSEIL_PREFIX" ≠ some "") :
    inv.abseilPrefix = abseilInstallPrefix inv false := by
  unfold Invocation.abseilPrefix abseilInstallPrefix orDefault
  cases hvalue : inv.environ "NB_ABSEIL_PREFIX" with
  | none => cases inv.isGcc <;> simp [String.append_assoc]
  | some value =>
      have hne : value ≠ "" := fun hempty ↦ h (by rw [hvalue, hempty])
      cases inv.isGcc <;> simp [hne]

end Prefixes

/-- The archive directories of one lane. -/
structure ArchiveDirs where
  cmake : Slug → String
  abseil : String

/-- The constexpr lane links the directories that `main` spells, the emit lane is to link the ones that
the `--prod` forms install into. -/
def archiveDirs (inv : Invocation) : Lane → ArchiveDirs
  | .constexpr =>
      ⟨fun slug ↦ cmakePrefix inv false slug ++ "/lib", inv.abseilPrefix ++ "/lib"⟩
  | .emit =>
      ⟨fun slug ↦ cmakePrefix inv true slug ++ "/lib", abseilInstallPrefix inv true ++ "/lib"⟩

/-! ## Link lines -/

/-- The `extra_libs` of `meta.toml` in this repository. -/
def resolvedLibs (inv : Invocation) : String :=
  Text.replace (inv.toml.extraLibs.getD "") "\x7brepo\x7d" inv.repo

/-- A link line with something in it is handed to the build scripts as it is. -/
theorem buildEnv_extraLibs {inv : Invocation} (h : inv.extraLibs ≠ "") :
    inv.buildEnv .constexpr "NB_EXTRA_LIBS" = some inv.extraLibs ∧
      inv.buildEnv .emit "NB_EXTRA_LIBS_PROD" = some inv.extraLibsProd := by
  constructor
  · simp [Invocation.buildEnv, h]
  · rw [inv.buildEnv_emit (by decide)]
    simp [h, Environ.set]

/-- The archive directories between the other texts of a line. -/
def spell (cmake : Slug → String) : List (String × Slug) → String → String
  | [], last => last
  | (text, slug) :: mentions, last => text ++ cmake slug ++ spell cmake mentions last

/-- The `extra_libs` of a run, divided at the archive directories it mentions. -/
structure ArchiveLine (inv : Invocation) where
  mentions : List (String × Slug)
  last : String
  spells : spell (archiveDirs inv .constexpr).cmake mentions last = resolvedLibs inv
  /-- The other texts mention none. -/
  plain : ∀ text ∈ mentions.map Prod.fst ++ [last], ∀ slug,
    Text.contains ((archiveDirs inv .constexpr).cmake slug) text = false

namespace ArchiveLine

variable {inv : Invocation} (line : ArchiveLine inv)

/-- The link line over given archive directories. -/
def link (dirs : ArchiveDirs) : String :=
  let libs := spell dirs.cmake line.mentions line.last
  if inv.toml.linkAbseil.getD false then
    (if libs ≠ "" then libs ++ " " else "") ++ "-L " ++ dirs.abseil ++ " -labsl_merged" ++
      (if inv.isGcc then "" else " -framework CoreFoundation")
  else libs

/-- The archive directories that the link line names. -/
def named (dirs : ArchiveDirs) : List String :=
  line.mentions.map (fun mention ↦ dirs.cmake mention.2) ++
    if inv.toml.linkAbseil.getD false then [dirs.abseil] else []

/-- The line of the constexpr lane is the link line over its directories. -/
theorem extraLibs_eq_link (hclang : inv.isGcc = false) :
    inv.extraLibs = line.link (archiveDirs inv .constexpr) := by
  rw [link, line.spells]
  simp only [Invocation.extraLibs, hclang, Bool.false_eq_true, if_false, resolvedLibs, archiveDirs,
    String.append_assoc]
  rfl

/-- The emit lane links the production archives and nothing else instead, and none of the archives
that the constexpr lane links. -/
structure Separate : Prop where
  rewritten : inv.extraLibsProd = line.link (archiveDirs inv .emit)
  disjoint : ∀ dir ∈ line.named (archiveDirs inv .emit),
    dir ∉ line.named (archiveDirs inv .constexpr)

/-- The renamed text stands at the ends of the mentioned directories only, and the two Abseil prefixes
are told apart by it. -/
structure Rewritable : Prop where
  stems : ∀ mention ∈ line.mentions, Text.contains "-install/lib"
    (mention.1 ++ inv.repo ++ "/build/" ++ mention.2.name) = false
  last : Text.contains "-install/lib" line.last = false
  abseil : inv.toml.linkAbseil.getD false = true →
    let installed := inv.abseilPrefix ++ "/lib"
    let production := abseilInstallPrefix inv true ++ "/lib"
    Text.Rejoined "-install/lib" "-install-prod/lib" installed production ∧ production ≠ installed

end ArchiveLine

/-! ## The renaming -/

/-- The directories that the renaming looks for, and what it makes of them. -/
def installLib : List Char := "-install/lib".toList
def installProdLib : List Char := "-install-prod/lib".toList

theorem installLib_eq : installLib = ['-', 'i', 'n', 's', 't', 'a', 'l', 'l', '/', 'l', 'i', 'b'] := by
  decide

theorem installProdLib_eq : installProdLib =
    ['-', 'i', 'n', 's', 't', 'a', 'l', 'l', '-', 'p', 'r', 'o', 'd', '/', 'l', 'i', 'b'] := by
  decide

theorem installLib_ne_nil : installLib ≠ [] := by simp [installLib_eq]

theorem installLib_self : Text.clashes installLib installLib = false := by decide

theorem installLib_clash : Text.clashes installLib installProdLib = false := by decide

theorem installProdLib_append_ne (first second : List Char) :
    installProdLib ++ first ≠ installLib ++ second := by
  simp [installLib_eq, installProdLib_eq]

theorem installLib_infix_append (rest : List Char) (h : installLib <:+: installProdLib ++ rest) :
    installLib <:+: rest := by
  simpa [installLib_eq, installProdLib_eq, List.infix_cons_iff] using h

/-- A renaming that changes a text finds something in it, and leaves nothing to find. -/
theorem infix_of_rejoined {installed production : String}
    (h : Text.Rejoined "-install/lib" "-install-prod/lib" installed production)
    (hne : production ≠ installed) :
    installLib <:+: installed.toList ∧ ¬ installLib <:+: production.toList := by
  have hchars : Text.replaceChars installLib installProdLib 0 installed.toList =
      production.toList := by
    rw [← (Text.replace_eq_iff_rejoined (by decide) (by decide) _ _ _).mpr h, Text.toList_replace]
    rfl
  constructor
  · by_contra hfree
    rw [Text.replaceChars_of_not_infix _ hfree, String.toList_inj] at hchars
    exact hne hchars.symm
  · rw [← hchars]
    exact Text.not_infix_replaceChars installLib_ne_nil installLib_self installLib_clash
      installLib_infix_append _

/-- On the clang backend the second of the two replacements finds nothing left. -/
theorem extraLibsProd_chars (inv : Invocation) (hclang : inv.isGcc = false) :
    inv.extraLibsProd.toList =
      Text.replaceChars installLib installProdLib 0 inv.extraLibs.toList := by
  have hinside : installLib <:+: "abseil-install/lib".toList := by decide
  have hnone : ¬ installLib <:+:
      Text.replaceChars installLib installProdLib 0 inv.extraLibs.toList :=
    Text.not_infix_replaceChars installLib_ne_nil installLib_self installLib_clash
      installLib_infix_append _
  rw [Invocation.extraLibsProd, hclang, if_neg Bool.false_ne_true, Text.toList_replace,
    Text.toList_replace]
  exact Text.replaceChars_of_not_infix _ fun hoccurs ↦ hnone (hinside.trans hoccurs)

/-- The renaming of a spelled line is the line over the renamed directories exactly when nothing else
is renamed in it. -/
theorem replaceChars_spell_iff {cmake cmakeProd : Slug → String} {stem : Slug → List Char}
    (hcmake : ∀ slug, (cmake slug).toList = stem slug ++ installLib)
    (hprod : ∀ slug, (cmakeProd slug).toList = stem slug ++ installProdLib)
    {back : List Char} (hback : Text.Apart installLib back) (mentions : List (String × Slug))
    (last : String) (other : List Char) :
    Text.replaceChars installLib installProdLib 0 ((spell cmake mentions last).toList ++ back) =
        (spell cmakeProd mentions last).toList ++ other ↔
      (∀ mention ∈ mentions, ¬ installLib <:+: mention.1.toList ++ stem mention.2) ∧
        ¬ installLib <:+: last.toList ∧
        Text.replaceChars installLib installProdLib 0 back = other := by
  induction mentions with
  | nil =>
      simp only [spell, List.not_mem_nil, false_implies, implies_true, true_and]
      constructor
      · intro h
        have hfree := Text.not_infix_of_replaceChars_eq installLib_ne_nil installLib_self
          installProdLib_append_ne h
        rw [Text.replaceChars_append _ hback _ (Nat.zero_le _),
          Text.replaceChars_of_not_infix _ hfree] at h
        exact ⟨hfree, List.append_cancel_left h⟩
      · rintro ⟨hfree, rfl⟩
        rw [Text.replaceChars_append _ hback _ (Nat.zero_le _),
          Text.replaceChars_of_not_infix _ hfree]
  | cons mention mentions ih =>
      have hchars : (spell cmake (mention :: mentions) last).toList ++ back =
          (mention.1.toList ++ stem mention.2) ++
            (installLib ++ ((spell cmake mentions last).toList ++ back)) := by
        simp [spell, hcmake]
      have hchars_prod : (spell cmakeProd (mention :: mentions) last).toList ++ other =
          (mention.1.toList ++ stem mention.2) ++
            (installProdLib ++ ((spell cmakeProd mentions last).toList ++ other)) := by
        simp [spell, hprod]
      rw [hchars, hchars_prod, List.forall_mem_cons, and_assoc, ← ih]
      constructor
      · intro h
        have hfree := Text.not_infix_of_replaceChars_eq installLib_ne_nil installLib_self
          installProdLib_append_ne h
        rw [Text.replaceChars_append_pattern installLib_ne_nil installLib_self,
          Text.replaceChars_of_not_infix _ hfree] at h
        exact ⟨hfree, List.append_cancel_left (List.append_cancel_left h)⟩
      · rintro ⟨hfree, h⟩
        rw [Text.replaceChars_append_pattern installLib_ne_nil installLib_self,
          Text.replaceChars_of_not_infix _ hfree, h]

/-! ## Directories of the clang backend -/

section Clang

variable {inv : Invocation} (hclang : inv.isGcc = false)

/-- The directory of a library up to the text that tells the two builds apart. -/
def libraryStem (inv : Invocation) (slug : Slug) : List Char :=
  (inv.repo ++ "/build/" ++ slug.name).toList

include hclang

theorem cmake_constexpr_eq (slug : Slug) : (archiveDirs inv .constexpr).cmake slug =
    inv.repo ++ "/build/" ++ slug.name ++ "-install/lib" := by
  simp [archiveDirs, cmakePrefix, hclang, String.append_assoc]

theorem cmake_emit_eq (slug : Slug) : (archiveDirs inv .emit).cmake slug =
    inv.repo ++ "/build/" ++ slug.name ++ "-install-prod/lib" := by
  simp [archiveDirs, cmakePrefix, hclang, String.append_assoc]

theorem cmake_constexpr_chars (slug : Slug) :
    ((archiveDirs inv .constexpr).cmake slug).toList = libraryStem inv slug ++ installLib := by
  rw [cmake_constexpr_eq hclang, String.toList_append]
  rfl

theorem cmake_emit_chars (slug : Slug) :
    ((archiveDirs inv .emit).cmake slug).toList = libraryStem inv slug ++ installProdLib := by
  rw [cmake_emit_eq hclang, String.toList_append]
  rfl

/-- No production build of a library is installed where another library's build for the toolchain
is. -/
theorem cmake_emit_ne_constexpr (first second : Slug) :
    (archiveDirs inv .emit).cmake first ≠ (archiveDirs inv .constexpr).cmake second := by
  intro h
  rw [← String.toList_inj, cmake_emit_chars hclang, cmake_constexpr_chars hclang,
    show installProdLib = ['-', 'i', 'n', 's', 't'] ++
      ['a', 'l', 'l', '-', 'p', 'r', 'o', 'd', '/', 'l', 'i', 'b'] by decide,
    ← List.append_assoc] at h
  exact absurd (List.append_inj_right' h (by decide)) (by decide)

end Clang

/-- A documented mention in `meta.toml` resolves to the directory that the build for the toolchain
installs into, and what stands around it is resolved apart from it. -/
theorem resolvedLibs_mention {inv : Invocation} (hclang : inv.isGcc = false) {slug : Slug}
    (hslug : Text.contains "\x7brepo\x7d" slug.name = false) {front back : String}
    (hlibs : inv.toml.extraLibs =
      some (front ++ "\x7brepo\x7d/build/" ++ slug.name ++ "-install/lib" ++ back)) :
    resolvedLibs inv = Text.replace front "\x7brepo\x7d" inv.repo ++
      (archiveDirs inv .constexpr).cmake slug ++ Text.replace back "\x7brepo\x7d" inv.repo := by
  set repo := "\x7brepo\x7d".toList with hrepo
  have hne : repo ≠ [] := by decide
  have hself : Text.clashes repo repo = false := by decide
  have hname : ¬ repo <:+: "/build/".toList ++ slug.name.toList := by
    have hfree : ¬ repo <:+: slug.name.toList := (Text.contains_eq_false_iff _ _).mp hslug
    rw [show "/build/".toList = ['/', 'b', 'u', 'i', 'l', 'd'] ++ ['/'] by decide, List.append_assoc,
      List.singleton_append, Text.infix_append_cons hne (by decide)]
    exact not_or.mpr ⟨by decide, hfree⟩
  have hending : ¬ repo <:+: ['i', 'n', 's', 't', 'a', 'l', 'l', '/', 'l', 'i'] := by decide
  set resolve := Text.replaceChars repo inv.repo.toList 0 with hresolve
  rw [← String.toList_inj]
  calc (resolvedLibs inv).toList
      = resolve (front.toList ++ (repo ++ (("/build/".toList ++ slug.name.toList) ++ '-' ::
          (['i', 'n', 's', 't', 'a', 'l', 'l', '/', 'l', 'i'] ++ 'b' :: back.toList)))) := by
        rw [resolvedLibs, hlibs, Option.getD_some, Text.toList_replace]
        simp [hresolve, hrepo]
    _ = resolve front.toList ++ (inv.repo.toList ++ resolve (("/build/".toList ++
          slug.name.toList) ++ '-' ::
          (['i', 'n', 's', 't', 'a', 'l', 'l', '/', 'l', 'i'] ++ 'b' :: back.toList))) :=
        Text.replaceChars_append_pattern hne hself _ _
    _ = resolve front.toList ++ (inv.repo.toList ++ (("/build/".toList ++ slug.name.toList) ++
          '-' :: (['i', 'n', 's', 't', 'a', 'l', 'l', '/', 'l', 'i'] ++
            'b' :: resolve back.toList))) := by
        -- neither the hyphen nor the last letter is in the placeholder
        rw [hresolve, Text.replaceChars_append_cons _ (by decide) hne,
          Text.replaceChars_of_not_infix _ hname, Text.replaceChars_append_cons _ (by decide) hne,
          Text.replaceChars_of_not_infix _ hending]
    _ = _ := by
        simp [Text.toList_replace, cmake_constexpr_chars hclang, libraryStem, installLib_eq,
          hresolve, hrepo]

/-! ## Divided lines -/

theorem spell_append (cmake : Slug → String) (first second : List (String × Slug))
    (middle last : String) (slug : Slug) :
    spell cmake (first ++ (middle, slug) :: second) last =
      spell cmake first middle ++ cmake slug ++ spell cmake second last := by
  induction first with
  | nil => rfl
  | cons mention first ih => simp only [List.cons_append, spell, ih, String.append_assoc]

/-- A line is empty only without mentions, whatever the directories are. -/
theorem spell_eq_empty_iff {cmake : Slug → String} (hne : ∀ slug, cmake slug ≠ "")
    (mentions : List (String × Slug)) (last : String) :
    spell cmake mentions last = "" ↔ mentions = [] ∧ last = "" := by
  cases mentions with
  | nil => simp [spell]
  | cons mention mentions => simp [spell, hne]

/-- Every text can be divided at the directories it mentions. -/
theorem exists_division {cmake : Slug → String} (hne : ∀ slug, cmake slug ≠ "") (text : String) :
    ∃ mentions last, spell cmake mentions last = text ∧
      ∀ other ∈ mentions.map Prod.fst ++ [last], ∀ slug,
        Text.contains (cmake slug) other = false := by
  induction hlength : text.toList.length using Nat.strong_induction_on generalizing text with
  | _ length ih =>
      by_cases hmention : ∃ slug, Text.contains (cmake slug) text = true
      · obtain ⟨slug, hslug⟩ := hmention
        obtain ⟨front, back, hchars⟩ : (cmake slug).toList <:+: text.toList := by
          simpa [Text.contains] using hslug
        have htext : String.ofList front ++ cmake slug ++ String.ofList back = text := by
          rw [← String.toList_inj, ← hchars]
          simp
        -- the directory is not empty, so that both sides are shorter
        have hpositive : 0 < (cmake slug).toList.length :=
          List.length_pos_iff.mpr (by simpa using hne slug)
        have htotal : front.length + (cmake slug).toList.length + back.length = length := by
          rw [← hlength, ← hchars, List.length_append, List.length_append]
        obtain ⟨before, middle, hbefore, hbefore_plain⟩ := ih front.length (by omega)
          (String.ofList front) (by rw [String.toList_ofList])
        obtain ⟨after, last, hafter, hafter_plain⟩ := ih back.length (by omega)
          (String.ofList back) (by rw [String.toList_ofList])
        refine ⟨before ++ (middle, slug) :: after, last, ?_, ?_⟩
        · rw [spell_append, hbefore, hafter, htext]
        · intro other hother
          rw [List.map_append, List.map_cons, List.append_assoc, List.cons_append] at hother
          rcases List.mem_append.mp hother with hmem | hmem
          · exact hbefore_plain other (List.mem_append_left _ hmem)
          rcases List.mem_cons.mp hmem with rfl | hmem
          · exact hbefore_plain _ (List.mem_append_right _ (List.mem_singleton_self _))
          · exact hafter_plain other hmem
      · refine ⟨[], text, rfl, fun other hother slug ↦ ?_⟩
        obtain rfl := List.mem_singleton.mp hother
        exact Bool.eq_false_iff.mpr fun hslug ↦ hmention ⟨slug, hslug⟩

/-- Every `extra_libs` can be divided at the archive directories it mentions. -/
theorem exists_archiveLine (inv : Invocation) : Nonempty (ArchiveLine inv) := by
  have hne (slug : Slug) : (archiveDirs inv .constexpr).cmake slug ≠ "" := by
    simp [archiveDirs]
  obtain ⟨mentions, last, hspell, hplain⟩ := exists_division hne (resolvedLibs inv)
  exact ⟨⟨mentions, last, hspell, hplain⟩⟩

/-! ## The exact condition -/

/-- The flags that link Abseil behind the other libraries. -/
def abseilFlags (separator dir : List Char) : List Char :=
  (separator ++ ['-', 'L']) ++ ' ' :: (dir ++ ' ' :: "-labsl_merged -framework CoreFoundation".toList)

theorem abseilFlags_apart {separator : List Char} (h : separator = [] ∨ separator = [' '])
    (dir : List Char) : Text.Apart installLib (abseilFlags separator dir) := by
  rcases h with rfl | rfl
  · have hapart : Text.clashes installLib ['-', 'L'] = false := by decide
    exact Text.apart_append hapart _
  · exact Text.apart_cons (by decide) _

theorem replaceChars_abseilFlags_iff {separator : List Char}
    (h : separator = [] ∨ separator = [' ']) (dir other : List Char) :
    Text.replaceChars installLib installProdLib 0 (abseilFlags separator dir) =
        abseilFlags separator other ↔
      Text.replaceChars installLib installProdLib 0 dir = other := by
  have hspace : ' ' ∉ installLib := by decide
  have hfront : ¬ installLib <:+: separator ++ ['-', 'L'] := by
    rcases h with rfl | rfl <;> decide
  have hflags : ¬ installLib <:+: "-labsl_merged -framework CoreFoundation".toList := by decide
  rw [abseilFlags, Text.replaceChars_append_cons _ hspace installLib_ne_nil,
    Text.replaceChars_of_not_infix _ hfront, Text.replaceChars_append_cons _ hspace installLib_ne_nil,
    Text.replaceChars_of_not_infix _ hflags, abseilFlags]
  simp only [List.append_cancel_left_eq, List.cons.injEq, true_and, List.append_cancel_right_eq]

namespace ArchiveLine

variable {inv : Invocation} (hclang : inv.isGcc = false) (line : ArchiveLine inv)

theorem mem_named_iff (dirs : ArchiveDirs) (dir : String) : dir ∈ line.named dirs ↔
    (∃ mention ∈ line.mentions, dirs.cmake mention.2 = dir) ∨
      inv.toml.linkAbseil.getD false = true ∧ dir = dirs.abseil := by
  rw [named, List.mem_append, List.mem_map]
  cases inv.toml.linkAbseil.getD false <;> simp

theorem stems_iff : (∀ mention ∈ line.mentions,
    ¬ installLib <:+: mention.1.toList ++ libraryStem inv mention.2) ↔
      ∀ mention ∈ line.mentions, Text.contains "-install/lib"
        (mention.1 ++ inv.repo ++ "/build/" ++ mention.2.name) = false := by
  simp only [Text.contains_eq_false_iff, libraryStem, String.toList_append, List.append_assoc]
  rfl

theorem last_iff : ¬ installLib <:+: line.last.toList ↔
    Text.contains "-install/lib" line.last = false :=
  (Text.contains_eq_false_iff _ _).symm

include hclang

theorem link_chars (lane : Lane) : (line.link (archiveDirs inv lane)).toList =
    (spell (archiveDirs inv lane).cmake line.mentions line.last).toList ++
      if inv.toml.linkAbseil.getD false then
        abseilFlags (if resolvedLibs inv = "" then [] else [' ']) (archiveDirs inv lane).abseil.toList
      else [] := by
  have hne (other : Lane) (slug : Slug) : (archiveDirs inv other).cmake slug ≠ "" := by
    cases other <;> simp [archiveDirs]
  have hempty : spell (archiveDirs inv lane).cmake line.mentions line.last = "" ↔
      resolvedLibs inv = "" := by
    rw [← line.spells, spell_eq_empty_iff (hne lane), spell_eq_empty_iff (hne .constexpr)]
  rw [link]
  cases inv.toml.linkAbseil.getD false with
  | false => simp
  | true =>
      by_cases hlibs : resolvedLibs inv = ""
      · simp [hlibs, hempty.mpr hlibs, hclang, abseilFlags]
      · simp [hlibs, mt hempty.mp hlibs, hclang, abseilFlags]

theorem rewritten_iff : inv.extraLibsProd = line.link (archiveDirs inv .emit) ↔
    (∀ mention ∈ line.mentions, Text.contains "-install/lib"
      (mention.1 ++ inv.repo ++ "/build/" ++ mention.2.name) = false) ∧
      Text.contains "-install/lib" line.last = false ∧
      (inv.toml.linkAbseil.getD false = true →
        Text.Rejoined "-install/lib" "-install-prod/lib" (inv.abseilPrefix ++ "/lib")
          (abseilInstallPrefix inv true ++ "/lib")) := by
  have hseparator : (if resolvedLibs inv = "" then [] else [' ']) = ([] : List Char) ∨
      (if resolvedLibs inv = "" then [] else [' ']) = [' '] := by
    by_cases hlibs : resolvedLibs inv = "" <;> simp [hlibs]
  rw [← String.toList_inj, extraLibsProd_chars inv hclang, line.extraLibs_eq_link hclang,
    line.link_chars hclang, line.link_chars hclang, ← line.stems_iff, ← line.last_iff]
  cases inv.toml.linkAbseil.getD false with
  | false =>
      rw [if_neg Bool.false_ne_true, if_neg Bool.false_ne_true,
        replaceChars_spell_iff (cmake_constexpr_chars hclang) (cmake_emit_chars hclang)
          (Text.apart_nil _)]
      simp [Text.replaceChars]
  | true =>
      rw [if_pos rfl, if_pos rfl,
        replaceChars_spell_iff (cmake_constexpr_chars hclang) (cmake_emit_chars hclang)
          (abseilFlags_apart hseparator _),
        replaceChars_abseilFlags_iff hseparator, imp_iff_right rfl,
        ← Text.replace_eq_iff_rejoined (by decide) (by decide), ← String.toList_inj,
        Text.toList_replace]
      rfl

theorem disjoint_iff : (∀ dir ∈ line.named (archiveDirs inv .emit),
    dir ∉ line.named (archiveDirs inv .constexpr)) ↔
      (inv.toml.linkAbseil.getD false = true →
        abseilInstallPrefix inv true ++ "/lib" ≠ inv.abseilPrefix ++ "/lib" ∧
          ∀ mention ∈ line.mentions,
            abseilInstallPrefix inv true ++ "/lib" ≠
                inv.repo ++ "/build/" ++ mention.2.name ++ "-install/lib" ∧
              inv.repo ++ "/build/" ++ mention.2.name ++ "-install-prod/lib" ≠
                inv.abseilPrefix ++ "/lib") := by
  simp only [mem_named_iff, ← cmake_constexpr_eq hclang, ← cmake_emit_eq hclang]
  constructor
  · intro h habseil
    have hproduction := h _ (.inr ⟨habseil, rfl⟩)
    refine ⟨fun heq ↦ hproduction (.inr ⟨habseil, heq⟩), fun mention hmention ↦ ⟨?_, ?_⟩⟩
    · intro heq
      exact hproduction (.inl ⟨mention, hmention, heq.symm⟩)
    · intro heq
      exact h _ (.inl ⟨mention, hmention, rfl⟩) (.inr ⟨habseil, heq⟩)
  · rintro h dir (⟨mention, hmention, rfl⟩ | ⟨habseil, rfl⟩) (⟨other, hother, heq⟩ | ⟨habseil', heq⟩)
    · exact cmake_emit_ne_constexpr hclang _ _ heq.symm
    · exact ((h habseil').2 mention hmention).2 heq
    · exact ((h habseil).2 other hother).1 heq.symm
    · exact (h habseil).1 heq

/-- Where the renaming tells the two Abseil prefixes apart, it tells them from the directories of the
libraries. -/
theorem abseil_ne_cmake {slug : Slug} {installed production : String}
    (h : Text.Rejoined "-install/lib" "-install-prod/lib" installed production)
    (hne : production ≠ installed) (hstem : ¬ installLib <:+: libraryStem inv slug) :
    production ≠ (archiveDirs inv .constexpr).cmake slug ∧
      (archiveDirs inv .emit).cmake slug ≠ installed := by
  obtain ⟨hinstalled, hproduction⟩ := infix_of_rejoined h hne
  constructor
  · rintro rfl
    rw [cmake_constexpr_chars hclang] at hproduction
    exact hproduction (List.suffix_append _ _).isInfix
  · rintro rfl
    have hapart : Text.Apart installLib installProdLib := by
      simpa using Text.apart_append installLib_clash []
    rw [cmake_emit_chars hclang, Text.infix_append_of_apart installLib_ne_nil hapart] at hinstalled
    exact hinstalled.elim hstem (by decide)

/-- The emit lane links the production archives in place of the others, and none of the others, exactly
when the renamed text stands at the ends of the mentioned directories only and tells the two Abseil
prefixes apart. -/
theorem separate_iff : line.Separate ↔ line.Rewritable := by
  have hrewritten := line.rewritten_iff hclang
  have hdisjoint := line.disjoint_iff hclang
  constructor
  · intro h
    obtain ⟨hstems, hlast, hrejoined⟩ := hrewritten.mp h.rewritten
    exact ⟨hstems, hlast,
      fun habseil ↦ ⟨hrejoined habseil, (hdisjoint.mp h.disjoint habseil).1⟩⟩
  · intro h
    refine ⟨hrewritten.mpr ⟨h.stems, h.last, fun habseil ↦ (h.abseil habseil).1⟩,
      hdisjoint.mpr fun habseil ↦ ?_⟩
    obtain ⟨hrejoined, hne⟩ := h.abseil habseil
    refine ⟨hne, fun mention hmention ↦ ?_⟩
    have hstem : ¬ installLib <:+: libraryStem inv mention.2 := fun hoccurs ↦
      line.stems_iff.mpr h.stems mention hmention (hoccurs.trans (List.suffix_append _ _).isInfix)
    rw [← cmake_constexpr_eq hclang, ← cmake_emit_eq hclang]
    exact abseil_ne_cmake hclang hrejoined hne hstem

end ArchiveLine

/-! ## Separate archives and an overridden prefix -/

/-- A text in which nothing is renamed mentions no archive directory. -/
theorem plain_of_not_renamed {inv : Invocation} (hclang : inv.isGcc = false) {text : String}
    (h : Text.contains "-install/lib" text = false) (slug : Slug) :
    Text.contains ((archiveDirs inv .constexpr).cmake slug) text = false := by
  rw [Text.contains_eq_false_iff, cmake_constexpr_chars hclang]
  exact fun hoccurs ↦ (Text.contains_eq_false_iff _ _).mp h
    ((List.suffix_append _ installLib).isInfix.trans hoccurs)

/-- A run on the clang backend that links leveldb and Abseil. -/
def leveldbAndAbseil : Invocation :=
  { Invocation.onLinuxRepo { Meta.required "leveldb" "leveldb_bind" with
      extraLibs := some "-L \x7brepo\x7d/build/leveldb-install/lib -lleveldb_merged"
      linkAbseil := some true } (some .both) with onLinux := false }

def leveldbLine : ArchiveLine leveldbAndAbseil where
  mentions := [("-L ", ⟨"leveldb", by decide⟩)]
  last := " -lleveldb_merged"
  spells := by decide
  plain := by
    have hfree : ∀ text ∈ ["-L ", " -lleveldb_merged"],
        Text.contains "-install/lib" text = false := by decide
    exact fun text htext ↦ plain_of_not_renamed (by decide) (hfree text htext)

theorem separate_iff_leveldb : leveldbAndAbseil.isGcc = false ∧ leveldbLine.Separate := by
  have hclang : leveldbAndAbseil.isGcc = false := by decide
  refine ⟨hclang, (leveldbLine.separate_iff hclang).mpr ⟨by decide, by decide, fun _ ↦ ?_⟩⟩
  exact ⟨⟨["/repo/build/abseil", ""], by decide, by decide, by decide⟩, by decide⟩

/-- A run on the clang backend that links Abseil from an overridden prefix. -/
def overriddenAbseil : Invocation :=
  { Invocation.onLinuxRepo { Meta.required "abseil_time" "abseil_time_bind" with
      linkAbseil := some true } (some .both) with
    onLinux := false
    environ := fun name ↦ if name = "NB_ABSEIL_PREFIX" then some "/opt/abseil" else none }

def overriddenLine : ArchiveLine overriddenAbseil where
  mentions := []
  last := ""
  spells := by decide
  plain := by
    intro text htext
    obtain rfl := List.mem_singleton.mp htext
    exact plain_of_not_renamed (by decide) (by decide)

/-- The emit lane then links the archive of the other runtime. -/
theorem overridden_archive_is_shared : overriddenAbseil.isGcc = false ∧
    overriddenAbseil.extraLibsProd = overriddenAbseil.extraLibs ∧
    (archiveDirs overriddenAbseil .emit).abseil = "/repo/build/abseil-install-prod/lib" ∧
    ¬ overriddenLine.Separate := by
  refine ⟨by decide, by decide, by decide, fun h ↦ ?_⟩
  have hrewritten := h.rewritten
  revert hrewritten
  decide

end ReflectNanobind.Scripts
