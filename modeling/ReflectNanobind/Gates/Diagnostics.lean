import ReflectNanobind.Gates.Record
import ReflectNanobind.Library.Text

/-!
# Reading diagnostics

How the orchestrator reads the text its subprocesses print: the first distinct lines that go into a
failure block, the build stage parsed back out of a marker line, and the heuristic that separates a
reflection-toolchain bug from a library or binder error.
-/

namespace ReflectNanobind.Gates

open Library

/-- The loop of `first_lines`; `seen` and `out` hold the same lines, so one list stands for both. -/
def firstLinesFrom (n : ℕ) : List String → List String → List String
  | out, [] => out
  | out, line :: rest =>
      let line := Text.strip line
      let out := if line ≠ "" ∧ line ∉ out then out ++ [line] else out
      if n ≤ out.length then out else firstLinesFrom n out rest

/-- `first_lines(text, n)`. -/
def firstLines (text : String) (n : ℕ) : List String :=
  firstLinesFrom n [] (Text.splitlines text)

/-- The marker that a failing step of the build scripts prints before it exits. -/
def stageMarker : String := "BUILD_FAIL_STAGE="

/-- The stage that `run_lane` parses out of a failed build's stderr. -/
def failStage (stderr : String) : String :=
  match (Text.splitlines stderr).find? fun line ↦ Text.startsWith line stageMarker with
  | some line => Text.afterEquals line
  | none => "module"

/-- The generic crash markers, in the order in which they are tried. -/
def crashMarkers : List String :=
  ["unreachable", "internal compiler error", "please submit a bug report", "assertion failed",
    "mangling a placeholder type", "stack dump"]

/-- The text without the two phrases of a deliberate static assertion. -/
def dropStaticAssertions (text : String) : String :=
  Text.replace (Text.replace text "static assertion failed" "") "static_assert" ""

/-- `detect_toolchain_bug`. -/
def detectToolchainBug (diagText : String) : ToolchainBug :=
  let t := Text.lower diagText
  if Text.contains "__type_descriptor_t" diagText then
    .suspected "unresolved-weak-symbol" "__ZnamSt19__type_descriptor_t"
      "TC-0001-typed-operator-new-at-O0"
  else if Text.contains "invalid slocoffset" t || Text.contains "getfileidloaded" t then
    .suspected "ice" "SourceManager getFileIDLoaded: Invalid SLocOffset"
      "TC-0002-sloc-ice-heavy-reflection"
  else if Text.contains "maximum step limit" t then
    .suspected "constexpr-step-limit" "constexpr evaluation hit maximum step limit"
      "TC-0002-sloc-ice-heavy-reflection"
  else if Text.contains "constexpr evaluation operation count exceeds limit" t then
    .suspected "constexpr-ops-limit" "constexpr evaluation operation count exceeds limit" ""
  else
    match crashMarkers.find? fun marker ↦ Text.contains marker (dropStaticAssertions t) with
    | some marker => .suspected "compiler-crash" marker ""
    | none => .none

/-- The signatures of the blocks, each with its finding. -/
def signatureFindings : List (String × String) :=
  [("__ZnamSt19__type_descriptor_t", "TC-0001-typed-operator-new-at-O0"),
    ("SourceManager getFileIDLoaded: Invalid SLocOffset", "TC-0002-sloc-ice-heavy-reflection"),
    ("constexpr evaluation hit maximum step limit", "TC-0002-sloc-ice-heavy-reflection"),
    ("constexpr evaluation operation count exceeds limit", "")] ++
  crashMarkers.map fun marker ↦ (marker, "")

theorem mem_signatureFindings {text kind signature finding : String}
    (h : detectToolchainBug text = .suspected kind signature finding) :
    (signature, finding) ∈ signatureFindings := by
  unfold detectToolchainBug at h
  simp only at h
  split_ifs at h with hnew hice hsteps hops
  · obtain ⟨-, rfl, rfl⟩ := ToolchainBug.suspected.inj h
    simp [signatureFindings]
  · obtain ⟨-, rfl, rfl⟩ := ToolchainBug.suspected.inj h
    simp [signatureFindings]
  · obtain ⟨-, rfl, rfl⟩ := ToolchainBug.suspected.inj h
    simp [signatureFindings]
  · obtain ⟨-, rfl, rfl⟩ := ToolchainBug.suspected.inj h
    simp [signatureFindings]
  · split at h
    · next marker hmarker =>
        obtain ⟨-, rfl, rfl⟩ := ToolchainBug.suspected.inj h
        exact List.mem_append_right _
          (List.mem_map_of_mem (f := fun marker ↦ (marker, "")) (List.mem_of_find?_eq_some hmarker))
    · cases h

/-- A signature determines its finding. -/
theorem signatureFindings_functional {signature finding other : String}
    (h : (signature, finding) ∈ signatureFindings)
    (hother : (signature, other) ∈ signatureFindings) : finding = other := by
  have hnodup : (signatureFindings.map Prod.fst).Nodup := by decide
  exact congrArg Prod.snd (List.inj_on_of_nodup_map hnodup h hother rfl)

theorem signature_ne_empty {signature finding : String}
    (h : (signature, finding) ∈ signatureFindings) : signature ≠ "" := by
  have hall : ∀ entry ∈ signatureFindings, entry.1 ≠ "" := by decide
  exact hall _ h

/-- `classify_tc_bug`: the first suspicion of a run is kept. -/
def classifyTcBug (bug : ToolchainBug) (text : String) : ToolchainBug :=
  match bug with
  | .none => detectToolchainBug text
  | suspicion => suspicion

/-- A new suspicion after classification comes from the classified text. -/
theorem classifyTcBug_cases (bug : ToolchainBug) (text : String) :
    classifyTcBug bug text = bug ∨ classifyTcBug bug text = detectToolchainBug text := by
  cases bug with
  | none => exact .inr rfl
  | suspected kind signature finding => exact .inl rfl

end ReflectNanobind.Gates
