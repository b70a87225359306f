import ReflectNanobind.Library.TreeAgreement
import ReflectNanobind.Surface.FalseAlarm

/-!
# Agreement of descriptions

The comparison reports nothing exactly when the two descriptions agree at every path that no ignore
pattern hides.  Agreement does not see what writing and reading back does to the leaves; without
patterns two renderings agree exactly when their surfaces are indistinct.  It is transitive,
and the report on exchanged descriptions is the same report seen from the other lane.
-/

namespace ReflectNanobind.Surface

open Library

/-! ## The comparison of leaves -/

theorem same_comm (left right : Value) : left.same right = right.same left := by
  have hequal (x y : Numeric) : x.equal y = y.equal x := by
    rw [Bool.eq_iff_iff, Numeric.equal_iff, Numeric.equal_iff]
    grind
  unfold Value.same
  cases left.numeric? <;> cases right.numeric? <;> simp [hequal, Bool.beq_comm]

theorem same_trans (left middle right : Value) (hleft : left.same middle = true)
    (hright : middle.same right = true) : left.same right = true := by
  unfold Value.same at hleft hright ⊢
  cases hl : left.numeric? <;> cases hm : middle.numeric? <;> cases hr : right.numeric? <;>
    rw [hl, hm] at hleft <;> rw [hm, hr] at hright <;> simp_all [Numeric.equal_iff]

theorem numeric?_readBack (value : Value) : value.readBack.numeric? = value.numeric? := by
  cases value with
  | float value =>
      rw [Value.readBack]
      by_cases hnan : (value.isSpecial && value.fraction.val != 0) = true
      · have hvalue := (numeric_eq_nan_iff value).mpr hnan
        have hquiet : Float64.quietNan.numeric = .nan := (numeric_eq_nan_iff _).mpr (by decide)
        rw [if_pos hnan, Value.numeric?, Value.numeric?, hvalue, hquiet]
      · rw [if_neg hnan]
  | _ => rfl

/-- Writing and reading back changes no comparison. -/
theorem same_readBack_readBack (left right : Value) :
    left.readBack.same right.readBack = left.same right := by
  unfold Value.same
  rw [numeric?_readBack, numeric?_readBack]
  -- only numbers are changed
  have hother (value : Value) (h : value.numeric? = none) : value.readBack = value := by
    cases value <;> first | rfl | cases h
  cases hleft : left.numeric? with
  | some x => cases right.numeric? <;> rfl
  | none =>
      cases hright : right.numeric? with
      | some y => rfl
      | none => rw [hother left hleft, hother right hright]

/-! ## Descriptions that agree -/

section Agreement

variable (search : String → String → Bool)

/-- The descriptions agree at every path that no pattern hides. -/
def Agree (ignorePatterns : List String) (cx em : Description) : Prop :=
  Tree.AgreeOutside Value.same (fun path ↦ suppressed search ignorePatterns "" path = true) cx em

/-- Nothing is reported of descriptions that agree, and of no others. -/
theorem diff_eq_nil_iff_agree (pyRepr : Description → String) (ignorePatterns : List String)
    (cx em : Description) : diff search Value.same pyRepr cx em "" ignorePatterns = [] ↔
      Agree search ignorePatterns cx em := by
  have hclosed (ancestor path : List String) (hancestor : ancestor <+: path)
      (hhidden : suppressed search ignorePatterns "" ancestor = true) :
      suppressed search ignorePatterns "" path = true := by
    rw [suppressed_iff] at hhidden ⊢
    obtain ⟨rx, hrx, above, habove, hmatch⟩ := hhidden
    exact ⟨rx, hrx, above, habove.trans hancestor, hmatch⟩
  rw [Agree, ← Tree.differences_hidden_iff Value.same hclosed, diff_eq_differences,
    List.map_eq_nil_iff, List.filter_eq_nil_iff]
  constructor
  · intro h path difference hdiffers
    simpa using h (path, difference) ((Tree.mem_differences Value.same).mpr hdiffers)
  · rintro h ⟨path, difference⟩ hmem
    simpa using h path difference ((Tree.mem_differences Value.same).mp hmem)

variable {search} {ignorePatterns : List String}

theorem Agree.trans {first second third : Description}
    (hfirst : Agree search ignorePatterns first second)
    (hsecond : Agree search ignorePatterns second third) :
    Agree search ignorePatterns first third :=
  Tree.AgreeOutside.trans Value.same same_trans hfirst hsecond

/-- What is loaded of a description: every leaf as it is read back. -/
def LoadedFrom (description loaded : Description) : Prop :=
  ∀ path, loaded.view? path = (description.view? path).map (Option.map Value.readBack)

/-- Reading back twice gives what reading back once gives. -/
theorem LoadedFrom.again {description loaded again : Description} (h : LoadedFrom description loaded)
    (hagain : LoadedFrom loaded again) : LoadedFrom description again := by
  have hreadBack (value : Value) : value.readBack.readBack = value.readBack := by
    cases value with
    | float value =>
        by_cases hnan : (value.isSpecial && value.fraction.val != 0) = true
        · have hquiet : (Value.float .quietNan).readBack = .float .quietNan := by decide
          rw [Value.readBack, if_pos hnan, hquiet]
        · rw [Value.readBack, if_neg hnan, Value.readBack, if_neg hnan]
    | _ => rfl
  intro path
  rw [hagain, h]
  cases description.view? path with
  | none => rfl
  | some view =>
      cases view with
      | none => rfl
      | some value => simp [hreadBack]

theorem agree_loaded_iff {cx em cxLoaded emLoaded : Description} (hcx : LoadedFrom cx cxLoaded)
    (hem : LoadedFrom em emLoaded) :
    Agree search ignorePatterns cxLoaded emLoaded ↔ Agree search ignorePatterns cx em :=
  Tree.agreeOutside_congr Value.same same_readBack_readBack hcx hem

end Agreement

/-! ## Renderings -/

section Rendering

variable (parseInt : String → Option ℤ)

/-- The description of a surface that raises nothing. -/
def rendering (surface : ModuleSurface) : Description :=
  .node (renderItems parseInt [] surface.items)

/-- Without patterns the renderings agree exactly when the surfaces are indistinct. -/
theorem agree_rendering_iff (search : String → String → Bool) (cx em : ModuleSurface) :
    Agree search [] (rendering parseInt cx) (rendering parseInt em) ↔ cx.Indistinct em := by
  rw [← diff_eq_nil_iff_agree search (fun _ ↦ "") [], diff_eq_nil_iff]
  exact alike_module_iff parseInt cx em

end Rendering

section Writable

variable (codec : JsonCodec) (parseInt : String → Option ℤ)

/-- The surface raises nothing and can be written. -/
def Writable (surface : ModuleSurface) : Prop :=
  surface.Describable ∧ ∀ attr ∈ surface.visibleLeaves, ∀ number ∈ attr.integers parseInt,
    codec.convertible number

variable {codec parseInt}

/-- The text of a written surface is that of its rendering. -/
theorem dump_eq_some_iff {surface : ModuleSurface} {wire : codec.Wire} :
    dump codec parseInt surface = some wire ↔
      surface.Describable ∧ codec.dumps (rendering parseInt surface) = some wire := by
  unfold dump
  cases hdescribed : describeModule parseInt surface with
  | error raised =>
      refine iff_of_false (by simp) fun h ↦ ?_
      have hok := (describeModule_eq_ok_iff parseInt surface _).mpr ⟨h.1, rfl⟩
      rw [hdescribed] at hok
      cases hok
  | ok description =>
      obtain ⟨hdescribable, rfl⟩ :=
        (describeModule_eq_ok_iff parseInt surface description).mp hdescribed
      exact (and_iff_right hdescribable).symm

theorem writable_iff {surface : ModuleSurface} : Writable codec parseInt surface ↔
    (dump codec parseInt surface).isSome :=
  (dump_isSome_iff codec parseInt surface).symm

variable (codec parseInt) in
/-- A dump gives what is loaded of the rendering, or it ends the comparison with 3. -/
theorem dumpLane_cases (surface : ModuleSurface) :
    (∃ loaded, dumpLane codec parseInt surface = .ok loaded ∧ Writable codec parseInt surface ∧
        LoadedFrom (rendering parseInt surface) loaded) ∨
      dumpLane codec parseInt surface = .error 3 ∧ ¬ Writable codec parseInt surface := by
  rw [writable_iff]
  unfold dumpLane
  cases hdump : dump codec parseInt surface with
  | none => exact .inr ⟨rfl, by simp⟩
  | some json =>
      obtain ⟨loaded, hloads, hview⟩ := codec.loads_dumps _ json (dump_eq_some_iff.mp hdump).2
      refine .inl ⟨loaded, ?_, rfl, hview⟩
      dsimp only
      rw [hloads]

end Writable

/-! ## Exchanged lanes -/

section Exchange

variable (codec : JsonCodec) (search : String → String → Bool) (pyRepr : Description → String)
  (parseInt : String → Option ℤ) (ignorePatterns : List String)

/-- The reported differences of exchanged descriptions are mirrored one by one. -/
theorem exists_mirrored_report (cx em : Description) :
    ∃ entries : List (List String × Tree.Difference String Value),
      diff search Value.same pyRepr cx em "" ignorePatterns = entries.map (line pyRepr "") ∧
        diff search Value.same pyRepr em cx "" ignorePatterns =
          entries.map fun entry ↦ line pyRepr "" (entry.1, entry.2.mirror) := by
  refine ⟨_, diff_eq_differences search Value.same pyRepr ignorePatterns cx em "", ?_⟩
  rw [diff_eq_differences, Tree.differences_mirror Value.same same_comm cx em, List.filter_map,
    List.map_map]
  rfl

theorem compareModules_eq_ok_iff {left right : ModuleSurface} {report : Comparison} :
    compareModules codec search pyRepr parseInt left right ignorePatterns = .ok report ↔
      ∃ cx em, dumpLane codec parseInt left = .ok cx ∧ dumpLane codec parseInt right = .ok em ∧
        compare search Value.same pyRepr cx em ignorePatterns = report := by
  unfold compareModules
  cases dumpLane codec parseInt left with
  | error status => exact iff_of_false (fun h ↦ nomatch h) (fun ⟨_, _, h, _⟩ ↦ nomatch h)
  | ok cx =>
      cases dumpLane codec parseInt right with
      | error status => exact iff_of_false (fun h ↦ nomatch h) (fun ⟨_, _, _, h, _⟩ ↦ nomatch h)
      | ok em =>
          constructor
          · exact fun h ↦ ⟨cx, em, rfl, rfl, Except.ok.inj h⟩
          · rintro ⟨_, _, ⟨rfl⟩, ⟨rfl⟩, rfl⟩
            rfl

theorem compare_returncode_eq_zero_iff (cx em : Description) :
    (compare search Value.same pyRepr cx em ignorePatterns).returncode = 0 ↔
      Agree search ignorePatterns cx em := by
  rw [← diff_eq_nil_iff_agree search pyRepr]
  change (if diff search Value.same pyRepr cx em "" ignorePatterns ≠ [] then (1 : ℤ) else 0) = 0 ↔ _
  split
  next h => simp [h]
  next h => simpa using h

variable (compiles : String → Bool)

/-- `compare` on the surfaces of two modules that print nothing of their own, whatever the patterns:
they are compiled after both dumps, and one that does not compile raises. -/
def compareCompiled (cxModule emModule : ModuleSurface) : Except ℤ Comparison := do
  let cx ← dumpLane codec parseInt cxModule
  let em ← dumpLane codec parseInt emModule
  if ignorePatterns.all compiles then pure (compare search Value.same pyRepr cx em ignorePatterns)
  else throw 1

theorem compareCompiled_eq_ok_iff {left right : ModuleSurface} {report : Comparison} :
    compareCompiled codec search pyRepr parseInt ignorePatterns compiles left right = .ok report ↔
      compareModules codec search pyRepr parseInt left right ignorePatterns = .ok report ∧
        ignorePatterns.all compiles = true := by
  unfold compareCompiled compareModules
  cases dumpLane codec parseInt left with
  | error status => exact (and_iff_left_of_imp nofun).symm
  | ok cx =>
      cases dumpLane codec parseInt right with
      | error status => exact (and_iff_left_of_imp nofun).symm
      | ok em =>
          change (if ignorePatterns.all compiles = true then
            Except.ok (compare search Value.same pyRepr cx em ignorePatterns) else .error 1) = _ ↔ _
          by_cases hcompiles : ignorePatterns.all compiles = true
          · rw [if_pos hcompiles]
            exact (and_iff_left hcompiles).symm
          · rw [if_neg hcompiles]
            exact iff_of_false nofun fun h ↦ hcompiles h.2

/-- A comparison ends without a report when a surface cannot be written, or else a pattern does not
compile; the order of the modules has no say. -/
theorem compareCompiled_eq_error_iff {left right : ModuleSurface} {status : ℤ} :
    compareCompiled codec search pyRepr parseInt ignorePatterns compiles left right =
        .error status ↔
      ¬ (Writable codec parseInt left ∧ Writable codec parseInt right) ∧ status = 3 ∨
        (Writable codec parseInt left ∧ Writable codec parseInt right) ∧
          ignorePatterns.all compiles = false ∧ status = 1 := by
  unfold compareCompiled
  rcases dumpLane_cases codec parseInt left with ⟨cx, hcx, hleft, -⟩ | ⟨hcx, hleft⟩
  · rcases dumpLane_cases codec parseInt right with ⟨em, hem, hright, -⟩ | ⟨hem, hright⟩
    · rw [hcx, hem]
      change (if ignorePatterns.all compiles = true then
        Except.ok (compare search Value.same pyRepr cx em ignorePatterns) else .error 1) = _ ↔ _
      cases hcompiles : ignorePatterns.all compiles <;> simp [hleft, hright, @eq_comm ℤ 1]
    · rw [hcx, hem]
      change Except.error 3 = _ ↔ _
      simp [hright, @eq_comm ℤ 3]
  · rw [hcx]
    change Except.error 3 = _ ↔ _
    simp [hleft, @eq_comm ℤ 3]

/-- The comparison does not favour a lane, and its verdicts chain: on exchanged modules it ends with the
same status, whether or not it comes to a report, and reports each difference mirrored, in the same
order; and modules that are the same as a third one are the same, whatever the patterns. -/
theorem comparison_favours_no_lane :
    (∀ left right report,
      compareCompiled codec search pyRepr parseInt ignorePatterns compiles left right = .ok report →
        ∃ exchanged, compareCompiled codec search pyRepr parseInt ignorePatterns compiles right left =
            .ok exchanged ∧ exchanged.returncode = report.returncode ∧
          ∃ entries : List (List String × Tree.Difference String Value),
            report.mismatches = entries.map (line pyRepr "") ∧
              exchanged.mismatches =
                entries.map fun entry ↦ line pyRepr "" (entry.1, entry.2.mirror)) ∧
      (∀ left right status,
        compareCompiled codec search pyRepr parseInt ignorePatterns compiles left right =
            .error status →
          compareCompiled codec search pyRepr parseInt ignorePatterns compiles right left =
            .error status) ∧
      ∀ first second third report report',
        compareCompiled codec search pyRepr parseInt ignorePatterns compiles first second =
            .ok report →
        compareCompiled codec search pyRepr parseInt ignorePatterns compiles second third =
            .ok report' →
        report.returncode = 0 → report'.returncode = 0 →
          ∃ chained, compareCompiled codec search pyRepr parseInt ignorePatterns compiles first third =
            .ok chained ∧ chained.returncode = 0 := by
  simp only [compareCompiled_eq_ok_iff, compareModules_eq_ok_iff]
  refine ⟨?_, ?_, ?_⟩
  · rintro left right _ ⟨⟨cx, em, hcx, hem, rfl⟩, hcompiles⟩
    obtain ⟨entries, hreport, hexchanged⟩ := exists_mirrored_report search pyRepr ignorePatterns cx em
    refine ⟨_, ⟨⟨em, cx, hem, hcx, rfl⟩, hcompiles⟩, ?_, entries, hreport, hexchanged⟩
    change (if diff search Value.same pyRepr em cx "" ignorePatterns ≠ [] then (1 : ℤ) else 0) =
      if diff search Value.same pyRepr cx em "" ignorePatterns ≠ [] then 1 else 0
    rw [hreport, hexchanged]
    simp only [ne_eq, List.map_eq_nil_iff]
  · intro left right status h
    rw [compareCompiled_eq_error_iff] at h ⊢
    rwa [@and_comm (Writable codec parseInt right)]
  · rintro first second third _ _ ⟨⟨cx, em, hcx, hem, rfl⟩, hcompiles⟩
      ⟨⟨em', last, hem', hlast, rfl⟩, -⟩ hfirst hsecond
    obtain rfl := Except.ok.inj (hem.symm.trans hem')
    rw [compare_returncode_eq_zero_iff] at hfirst hsecond
    exact ⟨_, ⟨⟨cx, last, hcx, hlast, rfl⟩, hcompiles⟩,
      (compare_returncode_eq_zero_iff search pyRepr ignorePatterns cx last).mpr
        (hfirst.trans hsecond)⟩

end Exchange

/-- Two modules that differ in a static property compare alike in both orders, and one that holds an
infinity ends the comparison in both. -/
theorem comparison_favours_no_lane_staticProperty :
    let compared := compareCompiled plainCodec (fun _ _ ↦ false) (fun _ ↦ "") (fun _ ↦ none) []
      fun _ ↦ true
    (∃ exchanged, compared (staticPropertyModule false) (staticPropertyModule true) = .ok exchanged ∧
        exchanged.returncode = 0) ∧
      compared (floatModule .infinity) (staticPropertyModule true) = .error 3 := by
  intro compared
  obtain ⟨hexchanged, herror, -⟩ := comparison_favours_no_lane plainCodec (fun _ _ ↦ false)
    (fun _ ↦ "") (fun _ ↦ none) [] fun _ ↦ true
  constructor
  · obtain ⟨exchanged, hreport, hstatus, -⟩ :=
      hexchanged (staticPropertyModule true) (staticPropertyModule false) _ rfl
    exact ⟨exchanged, hreport, hstatus.trans (by decide +kernel)⟩
  · exact herror (staticPropertyModule true) (floatModule .infinity) 3 rfl

end ReflectNanobind.Surface
