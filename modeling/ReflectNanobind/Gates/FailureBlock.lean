import ReflectNanobind.Gates.ResultDocument

/-!
# The top-level failure block

The outcome is chosen by a worst-lane fold, the failure block next to it by a rule of its own: a
surface mismatch, then the constexpr lane, then the emit lane.  The block of a mirrored record has
one of four sources, and comparing each with the worst lane gives the runs whose block explains their
outcome.
-/

namespace ReflectNanobind.Gates

open Library

/-! ## The mirror of a coherent lane -/

/-- A settled lane without a failure code is E or E-weak, and the other way round. -/
theorem LaneCoherent.code_eq_none_iff {L : LaneRecord Outcome} (h : LaneCoherent L) :
    L.failure.code = none ↔ L.outcome ≤ .EWeak := by
  rw [Outcome.le_EWeak_iff]
  by_cases hfailed : L.outcome ∈ [Outcome.B, .C, .D]
  · obtain ⟨rest, hcode⟩ := h.failed hfailed
    rw [hcode]
    refine iff_of_false (Option.some_ne_none _) fun hgood ↦ ?_
    rcases hgood with hgood | hgood <;> rw [hgood] at hfailed <;> exact absurd hfailed (by decide)
  · obtain ⟨hgood, hcode⟩ := h.clean hfailed
    exact iff_of_true hcode (by simpa using hgood)

theorem LaneCoherent.names {L : LaneRecord Outcome} (h : LaneCoherent L)
    (hcode : L.failure.code ≠ none) : L.failure.Names L.outcome :=
  h.failed (by_contra fun hclean ↦ hcode (h.clean hclean).2)

/-- The mirror takes the failure block of a coherent lane when nothing is recorded yet and the lane
failed. -/
theorem mirrorFailure_eq (r : Record) {L : LaneRecord Outcome} (h : LaneCoherent L) :
    mirrorFailure r L =
      if r.failure.code = none ∧ L.failure.code ≠ none then L.failure else r.failure := by
  have hnonempty : L.failure.code.getD "" ≠ "" ↔ L.failure.code ≠ none := by
    refine ⟨fun hne hnone ↦ hne (by rw [hnone]; rfl), fun hcode ↦ ?_⟩
    obtain ⟨rest, hrest⟩ := h.names hcode
    rw [hrest, Option.getD_some]
    intro hempty
    have hlength := congrArg String.length hempty
    simp only [String.length_append] at hlength
    cases L.outcome <;> simp [Outcome.text] at hlength
  simp only [mirrorFailure, hnonempty]

/-- Where the mirrored failure block comes from. -/
inductive FailureSource (r : Record) : Failure → Prop where
  /-- A block that was already there: the surface mismatch. -/
  | recorded (hcode : r.failure.code ≠ none) : FailureSource r r.failure
  | clean (hcode : r.failure.code = none)
      (hlanes : ∀ lane L, r.lane lane = some L → L.failure.code = none) :
      FailureSource r r.failure
  | constexpr (hcode : r.failure.code = none) {cx : LaneRecord Outcome}
      (hcx : r.lane .constexpr = some cx) (hfailed : cx.failure.code ≠ none) :
      FailureSource r cx.failure
  | emit (hcode : r.failure.code = none) {em : LaneRecord Outcome}
      (hconstexpr : ∀ cx, r.lane .constexpr = some cx → cx.failure.code = none)
      (hem : r.lane .emit = some em) (hfailed : em.failure.code ≠ none) :
      FailureSource r em.failure

theorem mirror_failureSource (r : Record)
    (hlanes : ∀ lane L, r.lane lane = some L → LaneCoherent L) :
    FailureSource r (mirror r).failure := by
  -- a lane's block is taken only over an empty one
  have hkept (base : Record) (lane : Lane) (hlane : base.failure.code ≠ none ∨
      ∀ L, r.lane lane = some L → L.failure.code = none) :
      ((r.lane lane).map (mirrorFailure base)).getD base.failure = base.failure := by
    cases hL : r.lane lane with
    | none => rfl
    | some L =>
        rw [Option.map_some, Option.getD_some, mirrorFailure_eq base (hlanes lane L hL), if_neg]
        rintro ⟨hempty, hfailed⟩
        exact hlane.elim (fun h ↦ h hempty) fun h ↦ hfailed (h L hL)
  have htaken (base : Record) {lane : Lane} {L : LaneRecord Outcome} (hL : r.lane lane = some L)
      (hempty : base.failure.code = none) (hfailed : L.failure.code ≠ none) :
      ((r.lane lane).map (mirrorFailure base)).getD base.failure = L.failure := by
    rw [hL, Option.map_some, Option.getD_some, mirrorFailure_eq base (hlanes lane L hL),
      if_pos ⟨hempty, hfailed⟩]
  have hrecord : { r with failure := r.failure } = r := rfl
  rw [mirror_failure]
  by_cases hcode : r.failure.code = none
  · by_cases hconstexpr : ∀ cx, r.lane .constexpr = some cx → cx.failure.code = none
    · rw [hkept r .constexpr (.inr hconstexpr)]
      by_cases hemit : ∀ em, r.lane .emit = some em → em.failure.code = none
      · rw [hkept r .emit (.inr hemit)]
        exact .clean hcode fun lane ↦ by cases lane <;> assumption
      · push Not at hemit
        obtain ⟨em, hem, hfailed⟩ := hemit
        rw [htaken r hem hcode hfailed]
        exact .emit hcode hconstexpr hem hfailed
    · push Not at hconstexpr
      obtain ⟨cx, hcx, hfailed⟩ := hconstexpr
      rw [htaken r hcx hcode hfailed, hkept { r with failure := cx.failure } .emit (.inl hfailed)]
      exact .constexpr hcode hcx hfailed
  · rw [hkept r .constexpr (.inl hcode), hkept r .emit (.inl hcode)]
    exact .recorded hcode

/-! ## The failure block and the outcome -/

/-- The failure block of the document explains its outcome: there is a code exactly when the outcome
is neither E nor E-weak, it starts with the letter of the outcome, and apart from the surface
mismatch the whole block is the probe's or that of a lane with this outcome. -/
def FailureExplainsOutcome (probe : Completed) (r : Record) : Prop :=
  (r.failure.code = none ↔ r.outcome = some .E ∨ r.outcome = some .EWeak) ∧
    ∀ outcome, r.outcome = some outcome → r.failure.code ≠ none →
      r.failure.Names outcome ∧
        (r.failure.code = some "D.surface" ∨
          (outcome = .A ∧ r.failure = ⟨some "A.compile", firstLines probe.stderr 5, none⟩) ∨
          ∃ lane L, r.lane lane = some L ∧ L.outcome = outcome ∧ r.failure = L.failure)

/-- Both lanes failed, the emit lane worse than the constexpr lane. -/
def ConstexprMasksEmit (r : Record) : Prop :=
  ∃ cx em, r.lane .constexpr = some cx ∧ r.lane .emit = some em ∧
    cx.failure.code ≠ none ∧ cx.outcome < em.outcome

/-- The failure block explains the outcome, or it is the constexpr lane's own in spite of a worse emit
lane. -/
def FailureBlock (probe : Completed) (r : Record) : Prop :=
  (¬ ConstexprMasksEmit r → FailureExplainsOutcome probe r) ∧
    (ConstexprMasksEmit r →
      (r.failure.code = none ↔ r.outcome = some .E ∨ r.outcome = some .EWeak) ∧
        ∃ cx, r.lane .constexpr = some cx ∧ r.failure = cx.failure ∧ r.failure.Names cx.outcome)

/-- A record whose lanes are coherent and whose worst lane outcome is `worst`. -/
structure Settled (r : Record) (worst : Outcome) : Prop where
  coherent : ∀ lane L, r.lane lane = some L → LaneCoherent L
  attained : ∃ lane L, r.lane lane = some L ∧ L.outcome = worst
  bound : ∀ lane L, r.lane lane = some L → L.outcome ≤ worst

namespace Settled

variable {r : Record} {worst : Outcome} (h : Settled r worst)

include h

theorem mirror : Settled (mirror r) worst := by
  have hlane (lane : Lane) : (Gates.mirror r).lane lane = r.lane lane := by
    rw [Record.lane, Record.lane, mirror_lanes]
  exact ⟨fun lane L hL ↦ h.coherent lane L (hlane lane ▸ hL), by simpa only [hlane] using h.attained,
    fun lane L hL ↦ h.bound lane L (hlane lane ▸ hL)⟩

theorem not_masks_of_le (hworst : worst ≤ .EWeak) : ¬ ConstexprMasksEmit r := by
  rintro ⟨cx, em, hcx, -, hfailed, -⟩
  exact hfailed ((h.coherent _ cx hcx).code_eq_none_iff.mpr ((h.bound _ cx hcx).trans hworst))

/-- Without masking, a failed constexpr lane is the worst lane. -/
theorem constexpr_worst (hmasks : ¬ ConstexprMasksEmit r) {cx : LaneRecord Outcome}
    (hcx : r.lane .constexpr = some cx) (hfailed : cx.failure.code ≠ none) : cx.outcome = worst := by
  obtain ⟨lane, L, hL, rfl⟩ := h.attained
  cases lane with
  | constexpr => rw [Option.some.inj (hcx.symm.trans hL)]
  | emit =>
      refine le_antisymm (h.bound _ cx hcx) (not_lt.mp fun hlt ↦ ?_)
      exact hmasks ⟨cx, L, hcx, hL, hfailed, hlt⟩

/-- A failed emit lane beside a clean constexpr lane is the worst lane. -/
theorem emit_worst {em : LaneRecord Outcome} (hem : r.lane .emit = some em)
    (hfailed : em.failure.code ≠ none)
    (hconstexpr : ∀ cx, r.lane .constexpr = some cx → cx.failure.code = none) :
    em.outcome = worst := by
  obtain ⟨lane, L, hL, rfl⟩ := h.attained
  cases lane with
  | constexpr =>
      have hgood := (h.coherent _ L hL).code_eq_none_iff.mp (hconstexpr L hL)
      exact absurd ((h.coherent _ em hem).code_eq_none_iff.mpr ((h.bound _ em hem).trans hgood))
        hfailed
  | emit => rw [Option.some.inj (hem.symm.trans hL)]

/-- A failed lane keeps the document from E and E-weak, whichever lane is the worst. -/
theorem code_iff_of_failed (houtcome : r.outcome = some worst) {lane : Lane} {L : LaneRecord Outcome}
    (hL : r.lane lane = some L) (hfailed : L.failure.code ≠ none) (hfailure : r.failure = L.failure) :
    r.failure.code = none ↔ r.outcome = some .E ∨ r.outcome = some .EWeak := by
  rw [hfailure, houtcome, Option.some_inj, Option.some_inj, ← Outcome.le_EWeak_iff]
  refine iff_of_false hfailed fun hgood ↦ hfailed ?_
  exact (h.coherent lane L hL).code_eq_none_iff.mpr ((h.bound lane L hL).trans hgood)

/-- The block of the worst lane explains the outcome. -/
theorem explains_of_lane (probe : Completed) (houtcome : r.outcome = some worst) {lane : Lane}
    {L : LaneRecord Outcome} (hL : r.lane lane = some L) (hfailed : L.failure.code ≠ none)
    (hfailure : r.failure = L.failure) (hworst : L.outcome = worst) :
    FailureExplainsOutcome probe r := by
  refine ⟨h.code_iff_of_failed houtcome hL hfailed hfailure, fun outcome hout _ ↦ ?_⟩
  obtain rfl : worst = outcome := Option.some.inj (houtcome.symm.trans hout)
  exact ⟨hworst ▸ hfailure ▸ (h.coherent lane L hL).names hfailed,
    .inr (.inr ⟨lane, L, hL, hworst, hfailure⟩)⟩

/-- A surface mismatch is recorded before the mirror, which keeps it. -/
theorem failureBlock_of_surface (probe : Completed) (hworst : worst ≤ .EWeak)
    (houtcome : r.outcome = some .D)
    (hfailure : r.failure = { noFailure with code := some "D.surface" }) :
    FailureBlock probe (Gates.mirror r) := by
  have hcode : r.failure.code ≠ none := by simp [hfailure]
  have hkept : (Gates.mirror r).failure = { noFailure with code := some "D.surface" } := by
    have hsource := mirror_failureSource r h.coherent
    generalize (Gates.mirror r).failure = failure at hsource
    cases hsource with
    | recorded => exact hfailure
    | clean hempty => exact absurd hempty hcode
    | constexpr hempty => exact absurd hempty hcode
    | emit hempty => exact absurd hempty hcode
  refine ⟨fun _ ↦ ⟨?_, fun outcome hout _ ↦ ?_⟩,
    fun hmasks ↦ absurd hmasks (h.mirror.not_masks_of_le hworst)⟩
  · simp [hkept, houtcome]
  · rw [mirror_outcome, houtcome, Option.some_inj] at hout
    subst hout
    exact ⟨⟨"surface", by rw [hkept]; rfl⟩, .inl (by rw [hkept])⟩

/-- Without a surface mismatch the block comes from the lanes. -/
theorem failureBlock_of_lanes (probe : Completed) (houtcome : r.outcome = some worst)
    (hfailure : r.failure = noFailure) : FailureBlock probe (Gates.mirror r) := by
  have hmirror := h.mirror
  have hlane (lane : Lane) : r.lane lane = (Gates.mirror r).lane lane := by
    rw [Record.lane, Record.lane, mirror_lanes]
  have hmirrorOutcome : (Gates.mirror r).outcome = some worst := by rw [mirror_outcome, houtcome]
  have hempty : r.failure.code = none := by simp [hfailure, noFailure]
  obtain ⟨failure, hblock⟩ : ∃ failure, (Gates.mirror r).failure = failure := ⟨_, rfl⟩
  have hsource := mirror_failureSource r h.coherent
  rw [hblock] at hsource
  cases hsource with
  | recorded hcode => exact absurd hempty hcode
  | clean hcode hall =>
      have hgood : worst ≤ .EWeak := by
        obtain ⟨lane, L, hL, rfl⟩ := h.attained
        exact (h.coherent lane L hL).code_eq_none_iff.mp (hall lane L hL)
      refine ⟨fun _ ↦ ⟨?_, fun outcome hout hne ↦ ?_⟩,
        fun hmasks ↦ absurd hmasks (hmirror.not_masks_of_le hgood)⟩
      · rw [hblock, hmirrorOutcome, Option.some_inj, Option.some_inj, ← Outcome.le_EWeak_iff]
        exact iff_of_true hempty hgood
      · rw [hblock] at hne
        exact absurd hempty hne
  | @constexpr _ cx hcx hfailed =>
      rw [hlane] at hcx
      refine ⟨fun hmasks ↦ ?_, fun _ ↦ ?_⟩
      · exact hmirror.explains_of_lane probe hmirrorOutcome hcx hfailed hblock
          (hmirror.constexpr_worst hmasks hcx hfailed)
      · exact ⟨hmirror.code_iff_of_failed hmirrorOutcome hcx hfailed hblock, cx, hcx, hblock,
          hblock ▸ (hmirror.coherent _ cx hcx).names hfailed⟩
  | @emit _ em hconstexpr hem hfailed =>
      simp only [hlane] at hconstexpr hem
      refine ⟨fun _ ↦ ?_, ?_⟩
      · exact hmirror.explains_of_lane probe hmirrorOutcome hem hfailed hblock
          (hmirror.emit_worst hem hfailed hconstexpr)
      · rintro ⟨cx, -, hcx, -, hcxFailed, -⟩
        exact absurd (hconstexpr cx hcx) hcxFailed

end Settled

section FailureBlock

variable (host : Host) (inv : Invocation) (dir : RunDir)

theorem settled_of_settledLanes {r : Record} (hlanes : r.lanes = settledLanes host inv dir)
    {worst : Outcome} (hworst : WorstOutcome host inv dir worst) : Settled r worst := by
  have hlane (lane : Lane) (L : LaneRecord Outcome) :
      r.lane lane = some L ↔ lane ∈ inv.lanesToRun ∧ docLane host inv dir lane = L := by
    rw [Record.lane, hlanes, lookup_settledLanes]
    split <;> rename_i hmem <;> simp [hmem]
  refine ⟨fun lane L hL ↦ ?_, ?_, fun lane L hL ↦ ?_⟩
  · obtain ⟨-, rfl⟩ := (hlane lane L).mp hL
    exact docLane_coherent host inv dir lane
  · obtain ⟨lane, hmem, houtcome⟩ := hworst.1
    exact ⟨lane, _, (hlane lane _).mpr ⟨hmem, rfl⟩, houtcome⟩
  · obtain ⟨hmem, rfl⟩ := (hlane lane L).mp hL
    exact hworst.2 lane hmem

/-- The failure block explains the outcome of every run, except that it stays the constexpr lane's
when both lanes failed and the emit lane did so at an earlier gate: the top-level block mirrors the
constexpr lane. -/
theorem main_failure_block : ∃ r, ((main inv).run host.handler dir).2.result = some r ∧
    FailureBlock (host.sh inv.probeCommand) r := by
  refine ⟨document host inv dir, by rw [main_run], ?_⟩
  by_cases hprobe : host.Succeeds inv.probeCommand
  · obtain ⟨r, worst, hdoc, hlanes, hworst, houtcome, hfailure⟩ :=
      document_eq_mirror host inv dir hprobe
    have h := settled_of_settledLanes host inv dir hlanes hworst
    rw [hdoc]
    by_cases hsurface : SurfacesDiffer host inv ∧ worst ≤ .EWeak
    · rw [if_pos hsurface] at houtcome hfailure
      exact h.failureBlock_of_surface _ hsurface.2 houtcome hfailure
    · rw [if_neg hsurface] at houtcome hfailure
      exact h.failureBlock_of_lanes _ houtcome hfailure
  · obtain ⟨_, _, _, _, hdoc⟩ := document_of_probe_failed host inv dir hprobe
    have houtcome := document_outcome_of_probe_failed host inv dir hprobe
    have hfailure : (document host inv dir).failure =
        ⟨some "A.compile", firstLines (host.sh inv.probeCommand).stderr 5, none⟩ := by
      rw [hdoc]
      rfl
    refine ⟨fun _ ↦ ⟨by simp [hfailure, houtcome], fun outcome hout _ ↦ ?_⟩, ?_⟩
    · obtain rfl : Outcome.A = outcome := Option.some.inj (houtcome.symm.trans hout)
      exact ⟨⟨"compile", by rw [hfailure]; rfl⟩, .inr (.inl ⟨rfl, hfailure⟩)⟩
    · rintro ⟨cx, -, hcx, -⟩
      rw [document_lane, if_neg fun h ↦ hprobe h.1] at hcx
      cases hcx

end FailureBlock

/-- The constexpr lane fails its tests and the emit lane does not build. -/
def maskingHost : Host := Host.silent fun
  | .pytest .constexpr | .build .emit => 1
  | _ => 0

def maskingInvocation : Invocation :=
  Invocation.onLinuxRepo (Meta.required "fmt" "fmt_bind") (some .both)

/-- Then the outcome is B, and the failure block next to it reports the constexpr lane's D. -/
theorem failure_block_masks_emit : ∃ r,
    ((main maskingInvocation).run maskingHost.handler
        ⟨none, true, true, none, none⟩).2.result = some r ∧
      r.outcome = some .B ∧ r.failure.code = some "D.value" ∧
      ¬ FailureExplainsOutcome (maskingHost.sh maskingInvocation.probeCommand) r := by
  have hcode : (document maskingHost maskingInvocation
      ⟨none, true, true, none, none⟩).failure.code = some "D.value" := by decide
  refine ⟨_, by rw [main_run], by decide, hcode, ?_⟩
  rintro ⟨-, hexplains⟩
  obtain ⟨⟨rest, hrest⟩, -⟩ := hexplains .B (by decide) (by rw [hcode]; exact Option.some_ne_none _)
  rw [hcode, Option.some_inj] at hrest
  have hhead := congrArg (fun code : String ↦ code.toList.head?) hrest
  simp [Outcome.text] at hhead

end ReflectNanobind.Gates
