import ReflectNanobind.Gates.FailureBlock
import ReflectNanobind.Surface.FalseAlarm

/-!
# The reason of a failed comparison

How the `compare` process can end, what Gate 6b keeps of its output, and what the mirror adds to the
failure block of the document.  The recorded mismatches are the printed lines less the summary.  An end
that prints nothing to stdout leaves no reason behind, unless a lane failed its tests as well and the
mirror takes its report.
-/

namespace ReflectNanobind.Surface

open Gates Library

/-! ## The lines that Gate 6b keeps -/

/-- The lines of the comparison's stdout less its summary, at most fifty. -/
def recordedLines (stdout : String) : List String :=
  ((Text.splitlines stdout).filter fun line ↦
    line ≠ "" && !Text.startsWith line summaryPrefix).take 50

/-- A line that a report can have: it is neither empty nor a summary. -/
def Reportable (line : String) : Prop :=
  line ≠ "" ∧ Text.startsWith line summaryPrefix = false

theorem filter_of_reportable {lines : List String} (h : ∀ line ∈ lines, Reportable line) :
    (lines.filter fun line ↦ line ≠ "" && !Text.startsWith line summaryPrefix) = lines := by
  rw [List.filter_eq_self]
  intro line hline
  simp [(h line hline).1, (h line hline).2]

theorem recordedLines_ne_nil_iff (stdout : String) :
    recordedLines stdout ≠ [] ↔ ∃ line ∈ Text.splitlines stdout, Reportable line := by
  simp [recordedLines, Reportable]

/-- What `compare` prints: the mismatches and the summary. -/
def Comparison.printed (report : Comparison) : String :=
  Text.printLines (report.mismatches ++ [report.summary])

/-- The mismatches come back from the printed report as far as they are recorded, exactly when none of
these has a line boundary inside. -/
theorem recordedLines_printed_iff {report : Comparison}
    (hreportable : ∀ line ∈ report.mismatches, Reportable line)
    (hsummary : Text.OneLine report.summary)
    (hstarts : Text.startsWith report.summary summaryPrefix = true) :
    recordedLines (Text.captured report.printed) = report.mismatches.take 50 ↔
      ∀ line ∈ report.mismatches.take 50, Text.OneLine line := by
  constructor
  · intro h line hline
    rw [← h, recordedLines] at hline
    exact Text.oneLine_of_mem_splitlines (List.mem_filter.mp (List.mem_of_mem_take hline)).1
  · intro h
    -- the first fifty lines stand in front of whatever the others are
    have hsplit : report.printed = Text.printLines (report.mismatches.take 50) ++
        Text.printLines (report.mismatches.drop 50 ++ [report.summary]) := by
      rw [Comparison.printed, ← Text.printLines_append, ← List.append_assoc, List.take_append_drop]
    have hkept : ∀ line ∈ report.mismatches.take 50, Reportable line :=
      fun line hline ↦ hreportable line (List.mem_of_mem_take hline)
    rw [recordedLines, hsplit, Text.captured_printLines_append h,
      Text.splitlines_printLines_append h, List.filter_append,
      filter_of_reportable hkept]
    rcases Nat.lt_or_ge report.mismatches.length 50 with hshort | hlong
    · -- then only the summary is left, which the filter drops
      have hsummary_lines : Text.splitlines (Text.captured (Text.printLines [report.summary])) =
          [report.summary] := by
        have hone : ∀ line ∈ [report.summary], Text.OneLine line := by simpa using hsummary
        have hcaptured := Text.captured_printLines_append hone ""
        have hlines := Text.splitlines_printLines_append hone ""
        rw [String.append_empty] at hcaptured hlines
        rw [hcaptured, (by rfl : Text.captured "" = ""), String.append_empty, hlines]
        rfl
      rw [List.drop_eq_nil_of_le hshort.le, List.nil_append, hsummary_lines]
      simp [hstarts]
    · have hfull : (report.mismatches.take 50).length = 50 := by
        rw [List.length_take]
        omega
      rw [List.take_append_of_le_length hfull.ge, List.take_of_length_le hfull.le]

/-! ## The lines of a report -/

section Report

variable {α : Type} (search : String → String → Bool) (same : α → α → Bool)
  (pyRepr : Tree String α → String)

/-- The differences that are reported. -/
def reported (ignore : List String) (cx em : Tree String α) :
    List (List String × Tree.Difference String α) :=
  (Tree.differences same cx em).filter fun entry ↦ !suppressed search ignore "" entry.1

/-- A path text starts with what it was started with. -/
theorem toList_textFrom (path : String) (keys : List String) :
    (textFrom path keys).toList = path.toList ++ keys.flatMap fun key ↦ '.' :: key.toList := by
  induction keys generalizing path with
  | nil => simp [textFrom]
  | cons key rest ih =>
      rw [textFrom, List.foldl_cons, ← textFrom, ih]
      simp

/-- A reported line starts with a dot, or with a colon at the root. -/
theorem line_reportable (entry : List String × Tree.Difference String α) :
    Reportable (line pyRepr "" entry) := by
  obtain ⟨keys, difference⟩ := entry
  have hhead : ∃ first rest, (first = '.' ∨ first = ':') ∧
      (line pyRepr "" (keys, difference)).toList = first :: rest := by
    cases keys with
    | nil => cases difference <;> exact ⟨':', _, .inr rfl, by simp [line, toList_textFrom]; rfl⟩
    | cons key rest =>
        cases difference <;> exact ⟨'.', _, .inl rfl, by simp [line, toList_textFrom]; rfl⟩
  obtain ⟨first, rest, hfirst, hchars⟩ := hhead
  constructor
  · intro hempty
    rw [hempty] at hchars
    cases hchars
  · rw [Text.startsWith, hchars]
    rcases hfirst with rfl | rfl <;> rfl

theorem oneLine_textFrom (keys : List String) :
    Text.OneLine (textFrom "" keys) ↔ ∀ key ∈ keys, Text.OneLine key := by
  simp only [Text.OneLine, toList_textFrom, String.toList_empty, List.nil_append, List.mem_flatMap,
    List.mem_cons, forall_exists_index, and_imp]
  constructor
  · intro h key hkey char hchar
    exact h char key hkey (.inr hchar)
  · intro h char key hkey hchar
    rcases hchar with rfl | hchar
    · decide
    · exact h key hkey char hchar

/-- A line has a boundary inside only if a name on its path has one. -/
theorem oneLine_line_iff (hrepr : ∀ tree, Text.OneLine (pyRepr tree))
    (entry : List String × Tree.Difference String α) :
    Text.OneLine (line pyRepr "" entry) ↔ ∀ name ∈ entry.1, Text.OneLine name := by
  obtain ⟨keys, difference⟩ := entry
  have hliteral (text : String) (h : text.toList.all (fun char ↦ !Text.isLineBreak char) = true) :
      Text.OneLine text := Text.one_line_of_all h
  rw [← oneLine_textFrom]
  cases difference with
  | onlyRight =>
      rw [line, Text.oneLine_append]
      exact and_iff_left (hliteral _ (by decide))
  | onlyLeft =>
      rw [line, Text.oneLine_append]
      exact and_iff_left (hliteral _ (by decide))
  | unequal left right =>
      simp only [line, Text.oneLine_append, hrepr, and_true, and_assoc]
      exact and_iff_left ⟨hliteral _ (by decide), hliteral _ (by decide)⟩

/-- The recorded mismatches are the first fifty exactly when no name on their paths has a line boundary
inside. -/
theorem recordedLines_compare_iff (hrepr : ∀ tree, Text.OneLine (pyRepr tree))
    (cx em : Tree String α) (ignore : List String) :
    recordedLines (Text.captured (compare search same pyRepr cx em ignore).printed) =
        (diff search same pyRepr cx em "" ignore).take 50 ↔
      ∀ entry ∈ (reported search same ignore cx em).take 50,
        ∀ name ∈ entry.1, Text.OneLine name := by
  have hmismatches : (compare search same pyRepr cx em ignore).mismatches =
      (reported search same ignore cx em).map (line pyRepr "") :=
    diff_eq_differences search same pyRepr ignore cx em ""
  have hreportable : ∀ line ∈ (compare search same pyRepr cx em ignore).mismatches,
      Reportable line := by
    rw [hmismatches, List.forall_mem_map]
    exact fun entry _ ↦ line_reportable pyRepr entry
  have hsummary : Text.OneLine (compare search same pyRepr cx em ignore).summary := by
    simp only [compare, Text.oneLine_append, Text.oneLine_toString, and_true]
    refine ⟨⟨?_, ?_⟩, ?_⟩ <;> exact Text.one_line_of_all (by decide)
  have hstarts : Text.startsWith (compare search same pyRepr cx em ignore).summary
      summaryPrefix = true := by
    rw [Text.startsWith, List.isPrefixOf_iff_prefix]
    simp only [compare, String.toList_append, List.append_assoc]
    exact ⟨' ' :: _, rfl⟩
  have hrecorded := recordedLines_printed_iff hreportable hsummary hstarts
  rw [hmismatches, ← List.map_take, List.forall_mem_map] at hrecorded
  simp only [oneLine_line_iff pyRepr hrepr] at hrecorded
  rw [← hrecorded, diff_eq_differences, List.map_take]
  rfl

end Report

/-! ## What the mirror adds -/

theorem firstLinesFrom_ne_nil_iff {n : ℕ} (hn : 0 < n) (out lines : List String) :
    firstLinesFrom n out lines ≠ [] ↔ out ≠ [] ∨ ∃ line ∈ lines, Text.strip line ≠ "" := by
  induction lines generalizing out with
  | nil => simp [firstLinesFrom]
  | cons line rest ih =>
      simp only [firstLinesFrom, List.exists_mem_cons_iff]
      by_cases hadded : Text.strip line ≠ "" ∧ Text.strip line ∉ out
      · rw [if_pos hadded]
        have hne : out ++ [Text.strip line] ≠ [] := by simp
        split
        · exact iff_of_true hne (.inr (.inl hadded.1))
        · rw [ih]
          exact iff_of_true (.inl hne) (.inr (.inl hadded.1))
      · rw [if_neg hadded]
        have hline : Text.strip line ≠ "" → out ≠ [] := by
          rintro hstrip rfl
          exact hadded ⟨hstrip, List.not_mem_nil⟩
        split
        next hfull =>
          have hne : out ≠ [] := List.length_pos_iff.mp (Nat.lt_of_lt_of_le hn hfull)
          exact iff_of_true hne (.inl hne)
        next =>
          rw [ih, or_left_comm]
          exact (or_iff_right_of_imp fun hstrip ↦ .inl (hline hstrip)).symm

/-- The first diagnostics of a text are empty exactly when it is blank. -/
theorem firstLines_ne_nil_iff {n : ℕ} (hn : 0 < n) (text : String) :
    firstLines text n ≠ [] ↔ Text.strip text ≠ "" := by
  rw [firstLines, firstLinesFrom_ne_nil_iff hn, ← not_iff_not]
  simp [Text.strip_lines_iff]

section Document

variable (host : Host) (inv : Invocation) (dir : RunDir)

/-- The lane failed its tests. -/
def FailsTests (lane : Lane) : Prop :=
  dir.testBindings = true ∧ ¬ host.Succeeds (inv.pytestCommand lane)

instance (lane : Lane) : Decidable (FailsTests host inv dir lane) := by
  unfold FailsTests; infer_instance

/-- The first lane that failed its tests printed a report. -/
def ReportsTests : Prop :=
  ∃ lane, inv.lanesToRun.find? (fun lane ↦ FailsTests host inv dir lane) = some lane ∧
    Text.strip (host.sh (inv.pytestCommand lane)).stdout ≠ ""

/-- A lane that was imported has a failure code exactly when it failed its tests, and then the block
has the first lines of its report. -/
theorem docLane_failure {lane : Lane} (hbuild : host.Succeeds (inv.buildCommand lane))
    (himport : host.Succeeds (inv.importCommand lane)) :
    ((docLane host inv dir lane).failure.code ≠ none ↔ FailsTests host inv dir lane) ∧
      (FailsTests host inv dir lane → (docLane host inv dir lane).failure.firstDiagnostics =
        firstLines (host.sh (inv.pytestCommand lane)).stdout 8) := by
  obtain ⟨L, hrun, hL⟩ := docLane_run host inv dir lane
  rw [hL]
  cases hrun with
  | buildFailed hfailed => exact absurd hbuild hfailed
  | importFailed _ hfailed => exact absurd himport hfailed
  | untested _ _ htests => simp [settle, untested, laneRecord, noFailure, FailsTests, htests]
  | testsFailed _ _ htests hpytest => simp [settle, testsFailed, FailsTests, htests, hpytest]
  | testsPassed _ _ _ hpytest =>
      simp [settle, testsPassed, laneRecord, noFailure, FailsTests, hpytest]

/-- When the surfaces differ, the first diagnostics of the document are those of the first lane that
failed its tests. -/
theorem document_firstDiagnostics_iff (hprobe : host.Succeeds inv.probeCommand)
    (hdiffer : SurfacesDiffer host inv) :
    (document host inv dir).failure.firstDiagnostics ≠ [] ↔ ReportsTests host inv dir := by
  obtain ⟨r, worst, hdoc, hlanes, hworst, -, hfailure⟩ := document_eq_mirror host inv dir hprobe
  have hsettled := settled_of_settledLanes host inv dir hlanes hworst
  obtain ⟨⟨hboth, himported⟩, -⟩ := hdiffer
  have hlane (lane : Lane) : r.lane lane = some (docLane host inv dir lane) := by
    have hmem : lane ∈ inv.lanesToRun := by
      rw [hboth]
      cases lane <;> decide
    rw [Record.lane, hlanes, lookup_settledLanes, if_pos hmem]
  have hblock (lane : Lane) := docLane_failure host inv dir
    (himported lane (by rw [hboth]; cases lane <;> decide)).1
    (himported lane (by rw [hboth]; cases lane <;> decide)).2
  -- the block that is there before the mirror has no diagnostics, and a code only without failed tests
  have hempty : r.failure.firstDiagnostics = [] := by
    rw [hfailure]
    split <;> rfl
  have hclean (h : r.failure.code ≠ none) (lane : Lane) : ¬ FailsTests host inv dir lane := by
    rw [← (hblock lane).1, not_not]
    have hle : worst ≤ .EWeak := by
      by_contra hnot
      rw [hfailure, if_neg fun hboth ↦ hnot hboth.2] at h
      exact h rfl
    exact (hsettled.coherent lane _ (hlane lane)).code_eq_none_iff.mpr
      ((hsettled.bound lane _ (hlane lane)).trans hle)
  have hnone (h : ∀ lane, ¬ FailsTests host inv dir lane) : ¬ ReportsTests host inv dir := by
    rintro ⟨lane, hfind, -⟩
    exact h lane (by simpa using List.find?_some hfind)
  have hfound {lane : Lane} (hfails : FailsTests host inv dir lane)
      (hfind : inv.lanesToRun.find? (fun lane ↦ FailsTests host inv dir lane) = some lane) :
      (docLane host inv dir lane).failure.firstDiagnostics ≠ [] ↔ ReportsTests host inv dir := by
    rw [(hblock lane).2 hfails, firstLines_ne_nil_iff (by decide), ReportsTests, hfind]
    simp
  have hsource := mirror_failureSource r hsettled.coherent
  rw [hdoc]
  generalize (mirror r).failure = failure at hsource
  cases hsource with
  | recorded hcode => exact iff_of_false (by simp [hempty]) (hnone (hclean hcode))
  | clean _ hall =>
      refine iff_of_false (by simp [hempty]) (hnone fun lane ↦ ?_)
      rw [← (hblock lane).1, not_not]
      exact hall lane _ (hlane lane)
  | @constexpr _ cx hcx hfailed =>
      obtain rfl := Option.some.inj ((hlane .constexpr).symm.trans hcx)
      have hfails := (hblock .constexpr).1.mp hfailed
      exact hfound hfails (by rw [hboth]; simp [hfails])
  | @emit _ em hconstexpr hem hfailed =>
      obtain rfl := Option.some.inj ((hlane .emit).symm.trans hem)
      have hfails := (hblock .emit).1.mp hfailed
      have hpasses : ¬ FailsTests host inv dir .constexpr := by
        rw [← (hblock .constexpr).1, not_not]
        exact hconstexpr _ (hlane .constexpr)
      exact hfound hfails (by rw [hboth]; simp [hfails, hpasses])

/-- Gate 6b in the document of a run that compares. -/
theorem document_surfaceDiff_eq (hprobe : host.Succeeds inv.probeCommand)
    (hcompares : ComparesSurfaces host inv) : (document host inv dir).surfaceDiff =
      ⟨if host.Succeeds inv.surfaceDiffCommand then .pass else .fail,
        recordedLines (host.sh inv.surfaceDiffCommand).stdout⟩ := by
  obtain ⟨toolchain, binder, prod, metrics, oracle, notes, hdoc⟩ :=
    document_of_probe_passed host inv dir hprobe
  have hboth := (bothImported_iff host inv dir
    (laneStage host inv dir toolchain binder prod metrics oracle notes) rfl).mpr hcompares
  rw [hdoc, mirror_surfaceDiff, combine_surfaceDiff, surfaced, if_pos hboth]
  rfl

end Document

/-! ## The ends of the comparison -/

/-- How the `compare` process can end. -/
inductive CompareEnd where
  /-- Both dumps were loaded and every ignore pattern compiled. -/
  | compared (cx em : Description)
  /-- A dump failed: `sys.exit(3)` after a message on stderr. -/
  | dumpFailed (buildDir stderr : String)
  /-- An uncaught exception before the report, such as that of an invalid ignore pattern. -/
  | raised (traceback : String)
  | exited (status : ℤ) (hstatus : status ≠ 0) (stdout stderr : String)

section Ends

variable (search : String → String → Bool) (pyRepr : Description → String)

/-- What the orchestrator captures of the process. -/
def CompareEnd.completed (ignore : List String) : CompareEnd → Completed
  | .compared cx em =>
      let report := compare search Value.same pyRepr cx em ignore
      ⟨report.returncode, Text.captured report.printed, ""⟩
  | .dumpFailed buildDir stderr =>
      ⟨3, "", "surface dump failed for " ++ buildDir ++ ":\n" ++ stderr ++ "\n"⟩
  | .raised traceback => ⟨1, "", traceback⟩
  | .exited status _ stdout stderr => ⟨status, stdout, stderr⟩

variable (host : Host) (inv : Invocation) (dir : RunDir)

/-- A failed Gate 6b has a reason next to it, and the mismatches that were found are recorded as they
are, up to the fiftieth. -/
def KeepsReason (ends : CompareEnd) (r : Record) : Prop :=
  (r.surfaceDiff.status = .fail →
    r.surfaceDiff.mismatches ≠ [] ∨ r.failure.firstDiagnostics ≠ []) ∧
    ∀ cx em, ends = .compared cx em → r.surfaceDiff.mismatches =
      (diff search Value.same pyRepr cx em "" inv.ignores).take 50

/-- There is a reason to keep: names without line boundaries in the first fifty mismatches, or, when
nothing was compared, a reportable line on stdout or the report of a failed lane. -/
def LeavesReason : CompareEnd → Prop
  | .compared cx em => ∀ entry ∈ (reported search Value.same inv.ignores cx em).take 50,
      ∀ name ∈ entry.1, Text.OneLine name
  | .dumpFailed _ _ | .raised _ => ReportsTests host inv dir
  | .exited _ _ stdout _ =>
      (∃ line ∈ Text.splitlines stdout, Reportable line) ∨ ReportsTests host inv dir

/-- An end that compared nothing keeps what it printed and what a failed lane reports. -/
theorem keepsReason_of_failed {ends : CompareEnd} (hprobe : host.Succeeds inv.probeCommand)
    (hcompares : ComparesSurfaces host inv)
    (hstatus : (host.sh inv.surfaceDiffCommand).returncode ≠ 0)
    (hends : ∀ cx em, ends ≠ .compared cx em) :
    KeepsReason search pyRepr inv ends (document host inv dir) ↔
      (∃ line ∈ Text.splitlines (host.sh inv.surfaceDiffCommand).stdout, Reportable line) ∨
        ReportsTests host inv dir := by
  have hdiffer : SurfacesDiffer host inv := ⟨hcompares, hstatus⟩
  have hfail := (document_surfaceDiff_fail_iff host inv dir hprobe).mpr hdiffer
  rw [KeepsReason, and_iff_left fun cx em heq ↦ absurd heq (hends cx em), hfail,
    document_firstDiagnostics_iff host inv dir hprobe hdiffer,
    document_surfaceDiff_eq host inv dir hprobe hcompares, recordedLines_ne_nil_iff]
  simp

/-- An end that prints nothing to stdout keeps what a failed lane reports. -/
theorem keepsReason_of_silent {ends : CompareEnd} (hprobe : host.Succeeds inv.probeCommand)
    (hcompares : ComparesSurfaces host inv)
    (hstatus : (host.sh inv.surfaceDiffCommand).returncode ≠ 0)
    (hsilent : (host.sh inv.surfaceDiffCommand).stdout = "")
    (hends : ∀ cx em, ends ≠ .compared cx em) :
    KeepsReason search pyRepr inv ends (document host inv dir) ↔ ReportsTests host inv dir := by
  rw [keepsReason_of_failed search pyRepr host inv dir hprobe hcompares hstatus hends, hsilent]
  apply or_iff_right
  rintro ⟨line, hline, -⟩
  exact List.not_mem_nil hline

/-- A comparison that finished keeps its mismatches when they are printed line by line. -/
theorem keepsReason_of_compared (hrepr : ∀ tree, Text.OneLine (pyRepr tree)) {cx em : Description}
    (hprobe : host.Succeeds inv.probeCommand) (hcompares : ComparesSurfaces host inv)
    (hends : host.sh inv.surfaceDiffCommand =
      CompareEnd.completed search pyRepr inv.ignores (.compared cx em)) :
    KeepsReason search pyRepr inv (.compared cx em) (document host inv dir) ↔
      LeavesReason search host inv dir (.compared cx em) := by
  have hmismatches : (document host inv dir).surfaceDiff.mismatches = recordedLines
      (Text.captured (compare search Value.same pyRepr cx em inv.ignores).printed) := by
    have hstdout : (host.sh inv.surfaceDiffCommand).stdout =
        Text.captured (compare search Value.same pyRepr cx em inv.ignores).printed := by
      rw [hends, CompareEnd.completed]
    rw [document_surfaceDiff_eq host inv dir hprobe hcompares, hstdout]
  have hstatus : (document host inv dir).surfaceDiff.status = .fail →
      diff search Value.same pyRepr cx em "" inv.ignores ≠ [] := by
    rw [document_surfaceDiff_fail_iff host inv dir hprobe]
    rintro ⟨-, hfailed⟩ hnone
    apply hfailed
    rw [Host.Succeeds, hends]
    simp [CompareEnd.completed, compare, hnone]
  rw [LeavesReason, ← recordedLines_compare_iff search Value.same pyRepr hrepr, ← hmismatches]
  constructor
  · exact fun h ↦ h.2 cx em rfl
  · intro h
    refine ⟨fun hfail ↦ .inl ?_, ?_⟩
    · rw [h]
      simpa using hstatus hfail
    · intro cx' em' heq
      cases heq
      exact h

/-- In a run whose lanes both imported, however the comparison ends: a failed Gate 6b leaves its reason
in the document, and the mismatches unaltered, exactly when there is a reason to keep. -/
theorem main_keeps_reason_iff (hrepr : ∀ tree, Text.OneLine (pyRepr tree)) (ends : CompareEnd)
    (hprobe : host.Succeeds inv.probeCommand) (hcompares : ComparesSurfaces host inv)
    (hends : host.sh inv.surfaceDiffCommand = ends.completed search pyRepr inv.ignores) :
    ∃ r, ((Gates.main inv).run host.handler dir).2.result = some r ∧
      (KeepsReason search pyRepr inv ends r ↔ LeavesReason search host inv dir ends) := by
  refine ⟨document host inv dir, by rw [main_run], ?_⟩
  cases ends with
  | compared cx em =>
      exact keepsReason_of_compared search pyRepr host inv dir hrepr hprobe hcompares hends
  | dumpFailed buildDir stderr =>
      have hstatus : (host.sh inv.surfaceDiffCommand).returncode ≠ 0 := by
        rw [hends]
        exact (by decide : (3 : ℤ) ≠ 0)
      exact keepsReason_of_silent search pyRepr host inv dir hprobe hcompares hstatus
        (by rw [hends]; rfl) (by simp)
  | raised traceback =>
      have hstatus : (host.sh inv.surfaceDiffCommand).returncode ≠ 0 := by
        rw [hends]
        exact (by decide : (1 : ℤ) ≠ 0)
      exact keepsReason_of_silent search pyRepr host inv dir hprobe hcompares hstatus
        (by rw [hends]; rfl) (by simp)
  | exited status hstatus stdout stderr =>
      rw [keepsReason_of_failed search pyRepr host inv dir hprobe hcompares (by rwa [hends]) (by simp),
        hends, LeavesReason]
      rfl

end Ends

/-! ## A mismatch and a failed dump -/

/-- The host on which all gates pass up to the comparison, which ends like this. -/
def comparingHost (ends : CompareEnd) : Host where
  sh := fun command ↦
    if command.site = .surfaceDiff then ends.completed (fun _ _ ↦ false) (fun _ ↦ "") []
    else ⟨0, "", ""⟩
  elapsed := fun _ ↦ 0
  generatedTu := none

def comparingInvocation : Invocation :=
  Invocation.onLinuxRepo (Meta.required "fmt" "fmt_bind") (some .both)

/-- A function that only the constexpr module has. -/
def missingFunction : CompareEnd :=
  .compared (.node [("join", .node [("kind", .leaf (.str "nb_func"))])]) (.node [])

theorem main_keeps_reason_iff_missingFunction :
    (∀ tree : Description, Text.OneLine ((fun _ ↦ "" : Description → String) tree)) ∧
      (comparingHost missingFunction).Succeeds comparingInvocation.probeCommand ∧
      ComparesSurfaces (comparingHost missingFunction) comparingInvocation ∧
      ∃ r, ((Gates.main comparingInvocation).run (comparingHost missingFunction).handler
          ⟨none, false, false, none, none⟩).2.result = some r ∧
        (KeepsReason (fun _ _ ↦ false) (fun _ ↦ "") comparingInvocation missingFunction r ↔
          LeavesReason (fun _ _ ↦ false) (comparingHost missingFunction) comparingInvocation
            ⟨none, false, false, none, none⟩ missingFunction) := by
  have hrepr : ∀ tree : Description, Text.OneLine ((fun _ ↦ "" : Description → String) tree) := by
    intro tree char hchar
    cases hchar
  have hprobe : (comparingHost missingFunction).Succeeds comparingInvocation.probeCommand := by decide
  have hcompares : ComparesSurfaces (comparingHost missingFunction) comparingInvocation := by decide
  exact ⟨hrepr, hprobe, hcompares,
    main_keeps_reason_iff _ _ (comparingHost missingFunction) comparingInvocation _ hrepr
      missingFunction hprobe hcompares rfl⟩

/-- The emit module cannot be described. -/
def emitDumpFailed : CompareEnd :=
  .dumpFailed "/repo/corpus/runs/fmt/binding/build-emit-gcc16" "OverflowError: cannot convert\n"

/-- The document then says that the comparison failed and gives no reason. -/
theorem main_loses_reason : ∃ r,
    ((Gates.main comparingInvocation).run (comparingHost emitDumpFailed).handler
        ⟨none, false, false, none, none⟩).2.result = some r ∧
      r.surfaceDiff.status = .fail ∧ r.surfaceDiff.mismatches = [] ∧
      r.failure.firstDiagnostics = [] := by
  refine ⟨_, by rw [main_run], ?_, ?_, ?_⟩ <;> decide

end ReflectNanobind.Surface
