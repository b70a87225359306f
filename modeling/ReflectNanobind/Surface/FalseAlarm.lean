import ReflectNanobind.Surface.Detection

/-!
# False alarms of the surface comparison

The `compare` mode over two module surfaces: each is described, written as JSON by a subprocess and
read back, and the two trees are compared.  What raises an alarm on one surface twice: an infinity and
an object misnamed `property` end the dump with an uncaught exception, an integer that the interpreter
refuses to write does so too, and a NaN comes back unequal to itself.
-/

namespace ReflectNanobind.Surface

open Library

/-! ## JSON out and back -/

/-- Reading a NaN gives one quiet NaN, whatever the payload was. -/
def Value.readBack : Value → Value
  | .float value =>
      if value.isSpecial && value.fraction.val != 0 then .float .quietNan else .float value
  | value => value

/-- `json.dumps` with sorted keys and `json.loads`: what is written is read back with the same
structure and the same leaves. The interpreter may refuse to convert an integer with too many digits;
its limit on the depth of recursion is left out. -/
structure JsonCodec where
  Wire : Type
  convertible : ℤ → Prop
  dumps : Description → Option Wire
  loads : Wire → Option Description
  dumps_isSome : ∀ description, (dumps description).isSome ↔
    description.AllLeaves fun value ↦ ∀ number, value = .int number → convertible number
  loads_dumps : ∀ description wire, dumps description = some wire → ∃ loaded,
    loads wire = some loaded ∧
      ∀ path, loaded.view? path = (description.view? path).map (Option.map Value.readBack)

section Compare

variable (codec : JsonCodec) (search : String → String → Bool) (pyRepr : Description → String)
  (parseInt : String → Option ℤ)

/-- The `dump` mode: the description as JSON, unless something raises. -/
def dump (surface : ModuleSurface) : Option codec.Wire :=
  match describeModule parseInt surface with
  | .ok description => codec.dumps description
  | .error _ => none

/-- `dump_lane`: a failed dump ends `compare` with exit code 3, an unreadable one with 1. -/
def dumpLane (surface : ModuleSurface) : Except ℤ Description :=
  match dump codec parseInt surface with
  | none => .error 3
  | some wire =>
      match codec.loads wire with
      | some loaded => .ok loaded
      | none => .error 1

/-- `compare` on the surfaces of the two lanes' modules. -/
def compareModules (cxModule emModule : ModuleSurface) (ignorePatterns : List String) :
    Except ℤ Comparison := do
  let cx ← dumpLane codec parseInt cxModule
  let em ← dumpLane codec parseInt emModule
  pure (compare search Value.same pyRepr cx em ignorePatterns)

/-! ## The leaves of a rendering -/

/-- Everything recorded of the leaf satisfies `holds`. -/
def Leaf.Records (holds : Value → Prop) (attr : Leaf) : Prop :=
  Tree.AllLeaves holds (.node (attr.fields parseInt).entries)

section Records

variable {holds : Value → Prop}

theorem allLeaves_entries (fields : Fields) : Tree.AllLeaves holds (.node fields.entries) ↔
    holds fields.kind ∧ (∀ value ∈ fields.doc, holds value) ∧
      (∀ value ∈ fields.writable, holds value) ∧ (∀ value ∈ fields.value, holds value) ∧
      ∀ value ∈ fields.int, holds value := by
  rw [Tree.allLeaves_node]
  simp only [Fields.lookup_entries]
  constructor
  · intro h
    refine ⟨?_, ?_, ?_, ?_, ?_⟩
    · exact Tree.allLeaves_leaf.mp (h "kind" _ rfl)
    · exact fun value hvalue ↦ Tree.allLeaves_leaf.mp (h "doc" _ (by simpa using hvalue))
    · exact fun value hvalue ↦ Tree.allLeaves_leaf.mp (h "writable" _ (by simpa using hvalue))
    · exact fun value hvalue ↦ Tree.allLeaves_leaf.mp (h "value" _ (by simpa using hvalue))
    · exact fun value hvalue ↦ Tree.allLeaves_leaf.mp (h "int" _ (by simpa using hvalue))
  · rintro ⟨hkind, hdoc, hwritable, hvalue, hint⟩ key child hchild
    have hmap {option : Option Value} (hoption : ∀ value ∈ option, holds value)
        (hmapped : (option.map .leaf : Option Description) = some child) :
        child.AllLeaves holds := by
      obtain ⟨value, hvalue, rfl⟩ := Option.map_eq_some_iff.mp hmapped
      exact Tree.allLeaves_leaf.mpr (hoption value hvalue)
    split_ifs at hchild
    · obtain rfl := Option.some.inj hchild
      exact Tree.allLeaves_leaf.mpr hkind
    · exact hmap hdoc hchild
    · exact hmap hwritable hchild
    · exact hmap hvalue hchild
    · exact hmap hint hchild

/-- What descriptions hold besides the records of leaves: base names, docstrings and marks. -/
structure HoldsOfClasses (holds : Value → Prop) : Prop where
  names : ∀ names, holds (.names names)
  doc : ∀ doc, holds (.ofDoc doc)
  mark : holds (.bool true)

mutual

theorem allLeaves_render_iff (hclasses : HoldsOfClasses holds) (name : String)
    (seen : List String) : ∀ attr : Attribute,
    attr.WellFormed → (Tree.AllLeaves holds (render parseInt name seen attr) ↔
      ∀ leaf ∈ attr.visibleLeaves seen name, leaf.Records parseInt holds)
  | .leaf attr, _ => by
      rw [render, Attribute.visibleLeaves, List.forall_mem_singleton]
      rfl
  | .cls bases doc attrs, hattrs => by
      rw [render, Attribute.visibleLeaves]
      by_cases hseen : name ∈ seen
      · simp only [hseen, if_true]
        rw [recursiveMark, Tree.allLeaves_node_of_nodup (by simp)]
        simp [Tree.allLeaves_leaf, hclasses.mark]
      · simp only [hseen, if_false]
        rw [classNode, Tree.allLeaves_node_of_nodup (by simp)]
        simp only [List.forall_mem_cons, Tree.allLeaves_leaf, hclasses.names, hclasses.doc, true_and,
          List.not_mem_nil, false_implies, implies_true, and_true]
        exact allLeaves_renderItems_iff hclasses (name :: seen) attrs hattrs

/-- All that a rendering holds satisfies `holds` when all that its visible leaves record does. -/
theorem allLeaves_renderItems_iff (hclasses : HoldsOfClasses holds) (seen : List String) :
    ∀ items : List (String × Attribute),
    WellFormedItems items → (Tree.AllLeaves holds (.node (renderItems parseInt seen items)) ↔
      ∀ leaf ∈ visibleItems seen items, leaf.Records parseInt holds)
  | [], _ => by
      rw [renderItems, Tree.allLeaves_node, visibleItems]
      simp
  | (name, attr) :: rest, hitems => by
      have hnodup {items : List (String × Attribute)} (hitems : WellFormedItems items) :
          ((renderItems parseInt seen items).map Prod.fst).Nodup := by
        rw [renderItems_names]
        refine (wellFormedItems_sorted hitems).imp fun {first second} hlt hequal ↦ ?_
        exact String.lt_irrefl first (by rwa [← hequal] at hlt)
      rw [Tree.allLeaves_node_of_nodup (hnodup hitems), renderItems, List.forall_mem_cons,
        ← Tree.allLeaves_node_of_nodup (hnodup hitems.2.2.2), visibleItems, List.forall_mem_append,
        allLeaves_render_iff hclasses name seen attr hitems.2.2.1,
        allLeaves_renderItems_iff hclasses seen rest hitems.2.2.2]

end

end Records

/-! ## What a leaf records -/

theorem numeric_eq_nan_iff (value : Float64) :
    value.numeric = .nan ↔ (value.isSpecial && value.fraction.val != 0) = true := by
  unfold Float64.numeric
  by_cases hspecial : value.isSpecial = true <;>
    by_cases hfraction : value.fraction.val = 0 <;> simp [hspecial, hfraction]

/-- Only a NaN differs from itself. -/
theorem same_self_iff (value : Value) : value.same value = true ↔ value.numeric? ≠ some .nan := by
  unfold Value.same
  cases hnumeric : value.numeric? with
  | none => simp
  | some number => simp [Numeric.equal_self_iff]

/-- The integers that the description of a leaf holds. -/
def Leaf.integers (attr : Leaf) : List ℤ :=
  (match attr.scalar? with
    | some (.int number) => [number]
    | _ => []) ++ (attr.int? parseInt).toList

theorem records_self_iff (attr : Leaf) :
    attr.Records parseInt (fun value ↦ value.same value = true) ↔ attr.isNan = false := by
  unfold Leaf.Records
  rw [allLeaves_entries]
  simp only [same_self_iff]
  cases attr with
  | scalar typeName value =>
      cases value with
      | float value =>
          simp [Leaf.fields, Leaf.scalar?, Value.ofScalar, Value.numeric?, Leaf.isNan,
            numeric_eq_nan_iff]
      | _ => simp [Leaf.fields, Leaf.scalar?, Value.ofScalar, Value.numeric?, Leaf.isNan]
  | callable typeName doc asInt =>
      cases doc <;> simp [Leaf.fields, Leaf.scalar?, Value.ofDoc, Value.numeric?, Leaf.isNan]
  | property doc writable =>
      cases doc <;> simp [Leaf.fields, Leaf.scalar?, Value.ofDoc, Value.numeric?, Leaf.isNan]
  | _ => simp [Leaf.fields, Leaf.scalar?, Value.numeric?, Leaf.isNan]

theorem records_convertible_iff (convertible : ℤ → Prop) (attr : Leaf) :
    attr.Records parseInt (fun value ↦ ∀ number, value = .int number → convertible number) ↔
      ∀ number ∈ attr.integers parseInt, convertible number := by
  unfold Leaf.Records Leaf.integers
  rw [allLeaves_entries]
  cases attr with
  | scalar typeName value =>
      cases value <;> simp [Leaf.fields, Leaf.scalar?, Value.ofScalar]
  | callable typeName doc asInt => cases doc <;> simp [Leaf.fields, Leaf.scalar?, Value.ofDoc]
  | property doc writable => cases doc <;> simp [Leaf.fields, Leaf.scalar?, Value.ofDoc]
  | _ => simp [Leaf.fields, Leaf.scalar?]

/-- A value is equal to itself after the round trip exactly when it was before. -/
theorem same_readBack (value : Value) : value.readBack.same value.readBack = value.same value := by
  cases value with
  | float value =>
      rw [Value.readBack]
      by_cases hnan : (value.isSpecial && value.fraction.val != 0) = true
      · have hvalue := (numeric_eq_nan_iff value).mpr hnan
        have hquiet : Float64.quietNan.numeric = .nan := (numeric_eq_nan_iff _).mpr (by decide)
        rw [if_pos hnan]
        simp [Value.same, Value.numeric?, hvalue, hquiet, Numeric.equal]
      · rw [if_neg hnan]
  | _ => rfl

/-- A loaded description is alike itself exactly when the written one is. -/
theorem alike_loaded_iff {description loaded : Description}
    (hview : ∀ path, loaded.view? path = (description.view? path).map (Option.map Value.readBack)) :
    Tree.Alike Value.same loaded loaded ↔
      description.AllLeaves fun value ↦ value.same value = true := by
  rw [Tree.alike_self_iff]
  constructor
  · intro h path value hvalue
    rw [← same_readBack]
    exact h path value.readBack (by rw [hview, hvalue]; rfl)
  · intro h path value hvalue
    rw [hview, Option.map_eq_some_iff] at hvalue
    obtain ⟨found, hfound, hread⟩ := hvalue
    obtain ⟨written, rfl, rfl⟩ := Option.map_eq_some_iff.mp hread
    rw [same_readBack]
    exact h path written hfound

/-! ## The exact condition -/

/-- Dumping the surface does not raise, and comparing it with itself reports nothing and returns 0. -/
def NoFalseAlarm (surface : ModuleSurface) : Prop :=
  (dump codec parseInt surface).isSome ∧
    ∃ report, compareModules codec search pyRepr parseInt surface surface [] = .ok report ∧
      report.mismatches = [] ∧ report.returncode = 0

/-- The dump succeeds when every visible leaf can be described and every recorded integer can be
converted. -/
theorem dump_isSome_iff (surface : ModuleSurface) : (dump codec parseInt surface).isSome ↔
    surface.Describable ∧
      ∀ attr ∈ surface.visibleLeaves, ∀ number ∈ attr.integers parseInt,
        codec.convertible number := by
  have hrecords : Tree.AllLeaves
      (fun value ↦ ∀ number, value = Value.int number → codec.convertible number)
      (.node (renderItems parseInt [] surface.items)) ↔
        ∀ attr ∈ surface.visibleLeaves, ∀ number ∈ attr.integers parseInt,
          codec.convertible number := by
    have hclasses : HoldsOfClasses fun value ↦
        ∀ number, value = Value.int number → codec.convertible number :=
      ⟨by simp, fun doc ↦ by cases doc <;> simp [Value.ofDoc], by simp⟩
    rw [allLeaves_renderItems_iff parseInt hclasses [] surface.items surface.wellFormedItems]
    simp only [records_convertible_iff]
    rfl
  unfold dump
  cases hdescribed : describeModule parseInt surface with
  | error raised =>
      refine iff_of_false (by simp) fun h ↦ ?_
      have hok := (describeModule_eq_ok_iff parseInt surface _).mpr ⟨h.1, rfl⟩
      rw [hdescribed] at hok
      cases hok
  | ok description =>
      obtain ⟨hdescribable, rfl⟩ :=
        (describeModule_eq_ok_iff parseInt surface description).mp hdescribed
      dsimp only
      rw [codec.dumps_isSome, hrecords]
      exact ⟨fun h ↦ ⟨hdescribable, h⟩, fun h ↦ h.2⟩

/-- A dump that succeeds is read back twice and compared with itself. -/
theorem compareModules_self {surface : ModuleSurface}
    (h : (dump codec parseInt surface).isSome) : ∃ loaded,
    compareModules codec search pyRepr parseInt surface surface [] =
        .ok (compare search Value.same pyRepr loaded loaded []) ∧
      (diff search Value.same pyRepr loaded loaded "" [] = [] ↔
        ∀ attr ∈ surface.visibleLeaves, attr.isNan = false) := by
  obtain ⟨wire, hwire⟩ := Option.isSome_iff_exists.mp h
  obtain ⟨hdescribable, _⟩ := (dump_isSome_iff codec parseInt surface).mp h
  have hdescribed := (describeModule_eq_ok_iff parseInt surface _).mpr ⟨hdescribable, rfl⟩
  have hdumps : codec.dumps (.node (renderItems parseInt [] surface.items)) = some wire := by
    rw [← hwire, dump, hdescribed]
  obtain ⟨loaded, hloaded, hview⟩ := codec.loads_dumps _ wire hdumps
  have hlane : dumpLane codec parseInt surface = .ok loaded := by
    rw [dumpLane, hwire]
    dsimp only
    rw [hloaded]
  refine ⟨loaded, by rw [compareModules, hlane]; rfl, ?_⟩
  have hclasses : HoldsOfClasses fun value ↦ value.same value = true :=
    ⟨by simp [same_self_iff, Value.numeric?],
      fun doc ↦ by cases doc <;> simp [same_self_iff, Value.ofDoc, Value.numeric?], by decide⟩
  rw [diff_eq_nil_iff, alike_loaded_iff hview,
    allLeaves_renderItems_iff parseInt hclasses [] surface.items surface.wellFormedItems]
  simp only [records_self_iff]
  rfl

theorem noFalseAlarm_iff_dump (surface : ModuleSurface) :
    NoFalseAlarm codec search pyRepr parseInt surface ↔
      (dump codec parseInt surface).isSome ∧
        ∀ attr ∈ surface.visibleLeaves, attr.isNan = false := by
  constructor
  · rintro ⟨hdump, report, hreport, hnone, _⟩
    obtain ⟨loaded, hcompared, hdiff⟩ := compareModules_self codec search pyRepr parseInt hdump
    obtain rfl := Except.ok.inj (hcompared.symm.trans hreport)
    exact ⟨hdump, hdiff.mp hnone⟩
  · rintro ⟨hdump, hnan⟩
    obtain ⟨loaded, hcompared, hdiff⟩ := compareModules_self codec search pyRepr parseInt hdump
    have hnone := hdiff.mpr hnan
    refine ⟨hdump, _, hcompared, hnone, ?_⟩
    change (if diff search Value.same pyRepr loaded loaded "" [] ≠ [] then (1 : ℤ) else 0) = 0
    rw [hnone]
    rfl

/-- No false alarm is raised exactly when every visible float is finite, every recorded integer can
be converted to text, and no visible object is of a foreign type named `property`. -/
theorem noFalseAlarm_iff (surface : ModuleSurface) :
    NoFalseAlarm codec search pyRepr parseInt surface ↔
      ∀ attr ∈ surface.visibleLeaves,
        attr.isInfinite = false ∧ attr.isNan = false ∧ attr.isMisnamed = false ∧
          ∀ number ∈ attr.integers parseInt, codec.convertible number := by
  rw [noFalseAlarm_iff_dump, dump_isSome_iff]
  constructor
  · rintro ⟨⟨hdescribable, hconvertible⟩, hnan⟩ attr hattr
    have hleaf := hdescribable attr hattr
    simp only [Leaf.isDescribable, Bool.and_eq_true, Bool.not_eq_true'] at hleaf
    exact ⟨hleaf.2, hnan attr hattr, hleaf.1, hconvertible attr hattr⟩
  · intro h
    refine ⟨⟨fun attr hattr ↦ ?_, fun attr hattr ↦ (h attr hattr).2.2.2⟩,
      fun attr hattr ↦ (h attr hattr).2.1⟩
    simp [Leaf.isDescribable, (h attr hattr).1, (h attr hattr).2.2.1]

end Compare

/-- A codec that keeps the tree, converts every integer, and reads every leaf back. -/
def plainCodec : JsonCodec where
  Wire := Description
  convertible := fun _ ↦ True
  dumps := some
  loads := fun description ↦ some (description.map Value.readBack)
  dumps_isSome := fun description ↦ by simp [Tree.AllLeaves]
  loads_dumps := by
    rintro description wire hwire
    obtain rfl := Option.some.inj hwire
    exact ⟨_, rfl, Tree.view?_map Value.readBack description⟩

/-- A module with one float. -/
def floatModule (value : Float64) : ModuleSurface where
  items := [("limit", .leaf (.scalar "float" (.float value)))]
  public_names := by simp; decide
  sorted := by simp
  wellFormed := by simp [Attribute.WellFormed]

/-- An infinity ends the dump, and a NaN is a mismatch with itself. -/
theorem float_surfaces_alarm :
    ¬ NoFalseAlarm plainCodec (fun _ _ ↦ false) (fun _ ↦ "") (fun _ ↦ none)
        (floatModule .infinity) ∧
      ¬ NoFalseAlarm plainCodec (fun _ _ ↦ false) (fun _ ↦ "") (fun _ ↦ none)
        (floatModule .quietNan) := by
  have hvisible (value : Float64) :
      .scalar "float" (.float value) ∈ (floatModule value).visibleLeaves := by
    simp [ModuleSurface.visibleLeaves, floatModule, visibleItems, Attribute.visibleLeaves]
  rw [noFalseAlarm_iff_dump, noFalseAlarm_iff_dump, dump_isSome_iff, dump_isSome_iff]
  constructor
  · rintro ⟨⟨hdescribable, _⟩, _⟩
    exact absurd (hdescribable _ (hvisible .infinity)) (by decide)
  · rintro ⟨_, hnan⟩
    exact absurd (hnan _ (hvisible .quietNan)) (by decide)

end ReflectNanobind.Surface
