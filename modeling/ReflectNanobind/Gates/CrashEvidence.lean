import ReflectNanobind.Gates.BugIsolation

/-!
# Evidence of a compiler crash

A crash marker outside the phrases of a static assertion is evidence of a crash.  The classifier tries
its phrases in a fixed order and keeps the first suspicion of a run, so that the kind it records is
decided by the first classified text in which it recognises anything, and there by the branches that
come before the crash markers.
-/

namespace ReflectNanobind.Gates

open Library

/-! ## The phrases of the classifier -/

def namesTypedAllocation (text : String) : Bool := Text.contains "__type_descriptor_t" text

def namesSlocIce (text : String) : Bool :=
  Text.contains "invalid slocoffset" (Text.lower text) ||
    Text.contains "getfileidloaded" (Text.lower text)

/-- A constant-evaluation budget ran out, in the spelling of either compiler. -/
def namesBudget (text : String) : Bool :=
  Text.contains "maximum step limit" (Text.lower text) ||
    Text.contains "constexpr evaluation operation count exceeds limit" (Text.lower text)

/-- A crash marker is left when the static-assertion phrases are dropped. -/
def namesCrash (text : String) : Bool :=
  crashMarkers.any fun marker ↦ Text.contains marker (dropStaticAssertions (Text.lower text))

def recognised (text : String) : Bool :=
  namesTypedAllocation text || namesSlocIce text || namesBudget text || namesCrash text

/-- The kind that a block names, if it names a suspicion. -/
def ToolchainBug.kind? : ToolchainBug → Option String
  | .none => Option.none
  | .suspected kind _ _ => some kind

def budgetKind (text : String) : String :=
  if Text.contains "maximum step limit" (Text.lower text) then "constexpr-step-limit"
  else "constexpr-ops-limit"

/-- The kind of a text by its phrases, in the order in which the detector tries them. -/
def kindOf (text : String) : Option String :=
  if namesTypedAllocation text then some "unresolved-weak-symbol"
  else if namesSlocIce text then some "ice"
  else if namesBudget text then some (budgetKind text)
  else if namesCrash text then some "compiler-crash"
  else none

theorem ite_congr_kind {condition condition' : Bool} {bug rest : ToolchainBug}
    {kind rest' : Option String} (hcondition : condition = condition') (hbug : bug.kind? = kind)
    (hrest : rest.kind? = rest') :
    (if condition then bug else rest).kind? = if condition' then kind else rest' := by
  subst hcondition
  cases condition
  · exact hrest
  · exact hbug

/-- It does not matter for the kind which marker is found. -/
theorem kind_of_find (markers : List String) (found : String → Bool) :
    (match markers.find? found with
      | some marker => ToolchainBug.suspected "compiler-crash" marker ""
      | none => .none).kind? = if markers.any found then some "compiler-crash" else none := by
  cases hfind : markers.find? found with
  | some marker =>
      have hany : markers.any found = true :=
        List.any_eq_true.mpr ⟨marker, List.mem_of_find?_eq_some hfind, List.find?_some hfind⟩
      rw [if_pos hany]
      rfl
  | none =>
      have hany : markers.any found = false := List.any_eq_false.mpr (List.find?_eq_none.mp hfind)
      rw [hany]
      rfl

theorem kind_detectToolchainBug (text : String) : (detectToolchainBug text).kind? = kindOf text := by
  unfold detectToolchainBug kindOf namesCrash
  generalize crashMarkers = markers
  apply ite_congr_kind rfl rfl
  apply ite_congr_kind rfl rfl
  unfold namesBudget budgetKind
  cases Text.contains "maximum step limit" (Text.lower text) with
  | true => rfl
  | false =>
      simp only [Bool.false_eq_true, if_false, Bool.false_or]
      exact ite_congr_kind rfl rfl (kind_of_find markers _)

theorem detectToolchainBug_eq_none_iff (text : String) :
    detectToolchainBug text = .none ↔ recognised text = false := by
  have hnone : detectToolchainBug text = .none ↔ kindOf text = none := by
    rw [← kind_detectToolchainBug]
    cases detectToolchainBug text <;> simp [ToolchainBug.kind?]
  rw [hnone, kindOf, recognised]
  cases namesTypedAllocation text <;> cases namesSlocIce text <;> cases namesBudget text <;>
    cases namesCrash text <;> simp

/-- The kinds of a compiler crash. -/
def crashKinds : List String := ["ice", "compiler-crash"]

def IsCrash (bug : ToolchainBug) : Prop := ∃ kind ∈ crashKinds, bug.kind? = some kind

theorem budgetKind_not_mem (text : String) : budgetKind text ∉ crashKinds := by
  unfold budgetKind
  split <;> decide

/-- A recognised text is recorded as a crash unless an earlier branch takes it for something else. -/
theorem isCrash_detectToolchainBug_iff {text : String} (h : recognised text = true) :
    IsCrash (detectToolchainBug text) ↔
      namesTypedAllocation text = false ∧ (namesSlocIce text = true ∨ namesBudget text = false) := by
  have hbudget := budgetKind_not_mem text
  simp only [IsCrash, kind_detectToolchainBug, kindOf]
  rw [recognised] at h
  cases htyped : namesTypedAllocation text with
  | true => simp [crashKinds]
  | false =>
      cases hsloc : namesSlocIce text with
      | true => simp [crashKinds]
      | false =>
          cases hbudgets : namesBudget text with
          | true =>
              simp only [Bool.false_eq_true, if_false, if_true, Option.some.injEq]
              simpa using hbudget
          | false =>
              cases hcrash : namesCrash text with
              | true => simp [crashKinds]
              | false => simp [htyped, hsloc, hbudgets, hcrash] at h

/-! ## The classified texts of a run -/

/-- What a lane's failed build gives to the classifier. -/
def classifiedText (host : Host) (inv : Invocation) (lane : Lane) : Option String :=
  let b := host.sh (inv.buildCommand lane)
  if ¬ host.Succeeds (inv.buildCommand lane) ∧
      (lane ≠ .emit ∨ failStage b.stderr ∈ reflectionStages) then
    some (b.stderr ++ b.stdout)
  else none

/-- The texts that are classified in a run, in order: the failed probe's stderr, or the failed builds
of the lanes. -/
def classifiedTexts (host : Host) (inv : Invocation) : List String :=
  if host.Succeeds inv.probeCommand then inv.lanesToRun.filterMap (classifiedText host inv)
  else [(host.sh inv.probeCommand).stderr]

section Run

variable (host : Host) (inv : Invocation) (dir : RunDir)

theorem laneBug_eq (lane : Lane) (bug : ToolchainBug) :
    laneBug host inv lane bug = (classifiedText host inv lane).elim bug (classifyTcBug bug) := by
  unfold laneBug classifyBuild classifiedText
  by_cases hbuild : host.Succeeds (inv.buildCommand lane)
  · simp [hbuild]
  · by_cases hstage : lane ≠ .emit ∨
        failStage (host.sh (inv.buildCommand lane)).stderr ∈ reflectionStages
    · simp only [hbuild, not_false_eq_true, hstage, and_self, if_true, if_false, Option.elim_some]
    · simp only [hbuild, hstage, and_false, if_false, Option.elim_none]

theorem foldl_laneBug (lanes : List Lane) (bug : ToolchainBug) :
    lanes.foldl (fun bug lane ↦ laneBug host inv lane bug) bug =
      (lanes.filterMap (classifiedText host inv)).foldl classifyTcBug bug := by
  induction lanes generalizing bug with
  | nil => rfl
  | cons lane rest ih =>
      rw [List.foldl_cons, ih, laneBug_eq]
      cases htext : classifiedText host inv lane with
      | none => rw [List.filterMap_cons_none htext, Option.elim_none]
      | some text => rw [List.filterMap_cons_some htext, List.foldl_cons, Option.elim_some]

/-- The block of the document folds the classifier over the classified texts. -/
theorem document_toolchainBug_eq_foldl :
    (document host inv dir).toolchainBug =
      (classifiedTexts host inv).foldl classifyTcBug .none := by
  rw [document_toolchainBug, classifiedTexts]
  split
  · exact foldl_laneBug host inv inv.lanesToRun .none
  · rfl

end Run

theorem foldl_classifyTcBug_suspected (texts : List String) (kind signature finding : String) :
    texts.foldl classifyTcBug (.suspected kind signature finding) =
      .suspected kind signature finding := by
  induction texts with
  | nil => rfl
  | cons text rest ih => exact ih

/-- The first recognised text decides. -/
theorem foldl_classifyTcBug (texts : List String) :
    texts.foldl classifyTcBug .none = (texts.find? recognised).elim .none detectToolchainBug := by
  induction texts with
  | nil => rfl
  | cons text rest ih =>
      rw [List.foldl_cons, classifyTcBug]
      cases hrecognised : recognised text with
      | false =>
          rw [(detectToolchainBug_eq_none_iff text).mpr hrecognised, ih,
            List.find?_cons_of_neg (by simp [hrecognised])]
      | true =>
          have hne : detectToolchainBug text ≠ .none := by
            simp [detectToolchainBug_eq_none_iff, hrecognised]
          rw [List.find?_cons_of_pos hrecognised, Option.elim_some]
          cases hbug : detectToolchainBug text with
          | none => exact absurd hbug hne
          | suspected kind signature finding => exact foldl_classifyTcBug_suspected _ _ _ _

/-! ## Evidence and what is recorded -/

/-- The phrase stands in the text at this position. -/
def StandsAt (phrase text : String) (position : ℕ) : Prop :=
  phrase.toList <+: text.toList.drop position

/-- The phrases by which compilers name a static assertion. -/
def staticAssertionPhrases : List String := ["static assertion failed", "static_assert"]

/-- The text, with case folded, has a crash marker that shares no character with a static-assertion
phrase. -/
def CrashEvidence (text : String) : Prop :=
  ∃ marker ∈ crashMarkers, ∃ i, StandsAt marker (Text.lower text) i ∧
    ∀ phrase ∈ staticAssertionPhrases, ∀ j, StandsAt phrase (Text.lower text) j →
      j + phrase.length ≤ i ∨ i + marker.length ≤ j

/-- The first recognised text names neither the typed allocation nor, unless it also names the
source-location ICE, a budget. -/
def FirstNamesCrash (texts : List String) : Prop :=
  ∃ text, texts.find? recognised = some text ∧ namesTypedAllocation text = false ∧
    (namesSlocIce text = true ∨ namesBudget text = false)

theorem isCrash_foldl_iff (texts : List String) :
    IsCrash (texts.foldl classifyTcBug .none) ↔ FirstNamesCrash texts := by
  rw [foldl_classifyTcBug, FirstNamesCrash]
  cases hfind : texts.find? recognised with
  | none => simp [IsCrash, ToolchainBug.kind?]
  | some text =>
      rw [Option.elim_some, isCrash_detectToolchainBug_iff (List.find?_some hfind)]
      simp

/-- Crash evidence in a classified text is recorded as a crash exactly when there is none, or the first
text in which the classifier recognises anything names no typed allocation and no budget without the
source-location ICE. -/
theorem main_records_crash_iff (host : Host) (inv : Invocation) (dir : RunDir) :
    ∃ r, ((main inv).run host.handler dir).2.result = some r ∧
      (((∃ text ∈ classifiedTexts host inv, CrashEvidence text) → IsCrash r.toolchainBug) ↔
        (∀ text ∈ classifiedTexts host inv, ¬ CrashEvidence text) ∨
          FirstNamesCrash (classifiedTexts host inv)) := by
  refine ⟨document host inv dir, by rw [main_run], ?_⟩
  rw [document_toolchainBug_eq_foldl, isCrash_foldl_iff, imp_iff_not_or]
  simp only [not_exists, not_and]

/-- A constexpr build whose reflection compiler ran out of steps and then crashed. -/
def outOfStepsAndCrashed : String :=
  "note: constexpr evaluation hit maximum step limit\nPLEASE submit a bug report\nStack dump:\n"

def crashingBuildHost : Host where
  sh := fun command ↦
    if command.site = .build .constexpr then ⟨11, "", outOfStepsAndCrashed⟩ else ⟨0, "", ""⟩
  elapsed := fun _ ↦ 0
  generatedTu := none

/-- Its crash is recorded as a budget that ran out. -/
theorem main_masks_crash : ∃ r,
    ((main (Invocation.onLinuxRepo (Meta.required "fmt" "fmt_bind") none)).run
      crashingBuildHost.handler ⟨none, false, false, none, none⟩).2.result = some r ∧
      (∃ text ∈ classifiedTexts crashingBuildHost
        (Invocation.onLinuxRepo (Meta.required "fmt" "fmt_bind") none), CrashEvidence text) ∧
      ¬ IsCrash r.toolchainBug := by
  have htexts : classifiedTexts crashingBuildHost
      (Invocation.onLinuxRepo (Meta.required "fmt" "fmt_bind") none) = [outOfStepsAndCrashed] := by
    have hlanes : (Invocation.onLinuxRepo (Meta.required "fmt" "fmt_bind") none).lanesToRun =
        [.constexpr] := by decide
    simp [classifiedTexts, hlanes, classifiedText, Host.Succeeds, crashingBuildHost]
  have hlower : Text.lower outOfStepsAndCrashed =
      "note: constexpr evaluation hit maximum step limit\nplease submit a bug report\nstack dump:\n" := by
    decide +kernel
  refine ⟨document _ _ _, by rw [main_run], ⟨outOfStepsAndCrashed, by simp [htexts], ?_⟩, ?_⟩
  · refine ⟨"stack dump", by decide, 77, by rw [StandsAt, hlower]; decide +kernel,
      fun phrase hphrase j hstands ↦ ?_⟩
    have hinside : Text.contains phrase (Text.lower outOfStepsAndCrashed) = true := by
      rw [Text.contains, decide_eq_true_iff]
      exact hstands.isInfix.trans (List.drop_suffix _ _).isInfix
    rw [hlower] at hinside
    simp only [staticAssertionPhrases, List.mem_cons, List.not_mem_nil, or_false] at hphrase
    rcases hphrase with rfl | rfl <;> exact absurd hinside (by decide +kernel)
  · rw [document_toolchainBug_eq_foldl, htexts, isCrash_foldl_iff]
    rintro ⟨text, hfind, -, hnot⟩
    have hmem := List.mem_of_find?_eq_some hfind
    obtain rfl : text = outOfStepsAndCrashed := by simpa using hmem
    rw [namesSlocIce, namesBudget, hlower] at hnot
    revert hnot
    decide +kernel

end ReflectNanobind.Gates
