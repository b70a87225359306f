import ReflectNanobind.Surface.Describe

/-!
# What the description of a leaf records

A description of a leaf is a dictionary with up to five keys.  Two leaves have alike descriptions
exactly when they are indistinct: callables, instance properties and scalars are told apart by all
that their descriptions record, while of a static property only the name of its type is recorded.
-/

namespace ReflectNanobind.Surface

open Library

/-! ## The dictionary of a leaf -/

/-- The five keys of a leaf's description. -/
structure Fields where
  kind : Value
  doc : Option Value
  writable : Option Value
  value : Option Value
  int : Option Value

namespace Fields

def entry (key : String) (value : Option Value) : List (String × Description) :=
  value.toList.map fun value ↦ (key, .leaf value)

def entries (fields : Fields) : List (String × Description) :=
  entry "kind" fields.kind ++ entry "doc" fields.doc ++ entry "writable" fields.writable ++
    entry "value" fields.value ++ entry "int" fields.int

theorem lookup_entries (fields : Fields) (key : String) : fields.entries.lookup key =
    if key = "kind" then some (.leaf fields.kind)
    else if key = "doc" then fields.doc.map .leaf
    else if key = "writable" then fields.writable.map .leaf
    else if key = "value" then fields.value.map .leaf
    else if key = "int" then fields.int.map .leaf
    else none := by
  have hentry (name : String) (value : Option Value) : (entry name value).lookup key =
      if key = name then value.map .leaf else none := by
    cases value with
    | none => simp [entry]
    | some value =>
        by_cases hkey : key = name
        · simp [entry, hkey]
        · simp [entry, List.lookup_cons, beq_false_of_ne hkey, hkey]
  simp only [entries, List.lookup_append, hentry]
  split_ifs <;> simp_all

/-- Two dictionaries are alike key by key. -/
theorem alike_iff (left right : Fields) :
    Tree.Alike Value.same (.node left.entries) (.node right.entries) ↔
      left.kind.same right.kind = true ∧
        Option.Rel (fun x y ↦ x.same y = true) left.doc right.doc ∧
        Option.Rel (fun x y ↦ x.same y = true) left.writable right.writable ∧
        Option.Rel (fun x y ↦ x.same y = true) left.value right.value ∧
        Option.Rel (fun x y ↦ x.same y = true) left.int right.int := by
  have hmap (x y : Option Value) :
      Option.Rel (Tree.Alike Value.same) (x.map .leaf : Option Description) (y.map .leaf) ↔
        Option.Rel (fun x y ↦ x.same y = true) x y := by
    cases x <;> cases y <;> simp [Tree.alike_leaf]
  rw [Tree.alike_node]
  simp only [lookup_entries]
  constructor
  · intro h
    refine ⟨?_, ?_, ?_, ?_, ?_⟩
    · simpa [Tree.alike_leaf] using h "kind"
    · simpa [hmap] using h "doc"
    · simpa [hmap] using h "writable"
    · simpa [hmap] using h "value"
    · simpa [hmap] using h "int"
  · rintro ⟨hkind, hdoc, hwritable, hvalue, hint⟩ key
    split_ifs
    · exact .some ((Tree.alike_leaf Value.same).mpr hkind)
    · exact (hmap _ _).mpr hdoc
    · exact (hmap _ _).mpr hwritable
    · exact (hmap _ _).mpr hvalue
    · exact (hmap _ _).mpr hint
    · exact .none

end Fields

section Leaves

variable (parseInt : String → Option ℤ)

/-- The integer of a leaf, when converting it does not raise. -/
def Leaf.int? (attr : Leaf) : Option ℤ := (attr.toInt parseInt).toOption

@[simp] theorem Leaf.int?_callable (typeName : String) (doc : Option String) (asInt : Option ℤ) :
    (Leaf.callable typeName doc asInt).int? parseInt = asInt := by cases asInt <;> rfl

@[simp] theorem Leaf.int?_property (doc : Option String) (writable : Bool) :
    (Leaf.property doc writable).int? parseInt = none := rfl

@[simp] theorem Leaf.int?_staticProperty (doc : Option String) (writable : Bool) :
    (Leaf.staticProperty doc writable).int? parseInt = none := rfl

@[simp] theorem Leaf.int?_other (typeName : String) (asInt : Option ℤ) :
    (Leaf.other typeName asInt).int? parseInt = asInt := by cases asInt <;> rfl

def Leaf.fields (attr : Leaf) : Fields where
  kind := .str attr.typeName
  doc :=
    match attr with
    | .callable _ doc _ | .property doc _ => some (.ofDoc doc)
    | .staticProperty _ _ | .scalar _ _ | .other _ _ => none
  writable :=
    match attr with
    | .property _ writable => some (.bool writable)
    | _ => none
  value := attr.scalar?.map .ofScalar
  int := (attr.int? parseInt).map .int

/-- Only an infinity overflows. -/
theorem Leaf.toInt_of_infinite {attr : Leaf} (h : attr.isInfinite = true) :
    attr.toInt parseInt = .error .overflowError := by
  cases attr with
  | scalar typeName value =>
      cases value with
      | float value =>
          obtain ⟨hspecial, hfraction⟩ := Bool.and_eq_true_iff.mp h
          have hnumeric : value.numeric = .infinite value.negative := by
            rw [Float64.numeric, if_pos hspecial, if_pos (beq_iff_eq.mp hfraction)]
          rw [Leaf.toInt, Scalar.toInt, hnumeric]
      | _ => cases h
  | _ => cases h

/-- Whatever else stops a conversion is caught. -/
theorem Leaf.toInt_of_not_infinite {attr : Leaf} (h : attr.isInfinite = false) :
    (∃ number, attr.toInt parseInt = .ok number) ∨ attr.toInt parseInt = .error .typeError ∨
      attr.toInt parseInt = .error .valueError := by
  cases attr with
  | callable typeName doc asInt =>
      cases asInt with
      | none => exact .inr (.inl rfl)
      | some number => exact .inl ⟨number, rfl⟩
  | property doc writable => exact .inr (.inl rfl)
  | staticProperty doc writable => exact .inr (.inl rfl)
  | other typeName asInt =>
      cases asInt with
      | none => exact .inr (.inl rfl)
      | some number => exact .inl ⟨number, rfl⟩
  | scalar typeName value =>
      cases value with
      | int number => exact .inl ⟨number, rfl⟩
      | bool truth => exact .inl ⟨_, rfl⟩
      | str text =>
          rw [Leaf.toInt, Scalar.toInt]
          cases parseInt text with
          | none => exact .inr (.inr rfl)
          | some number => exact .inl ⟨number, rfl⟩
      | float value =>
          rw [Leaf.toInt, Scalar.toInt, Float64.numeric]
          cases hspecial : value.isSpecial with
          | false => exact .inl ⟨_, rfl⟩
          | true =>
              have hfraction : value.fraction.val ≠ 0 := by
                simpa [Leaf.isInfinite, hspecial] using h
              rw [if_pos rfl, if_neg hfraction]
              exact .inr (.inr rfl)

/-- Converting a leaf to an integer overflows on an infinity, and is caught otherwise. -/
theorem tryInt_eq (attr : Leaf) (info : List (String × Description)) :
    tryInt parseInt attr info =
      if attr.isInfinite then .error .overflowError
      else .ok (.node (info ++ Fields.entry "int" ((attr.int? parseInt).map .int))) := by
  cases hinfinite : attr.isInfinite with
  | true =>
      rw [tryInt, Leaf.toInt_of_infinite parseInt hinfinite]
      rfl
  | false =>
      rcases Leaf.toInt_of_not_infinite parseInt hinfinite with ⟨number, h⟩ | h | h
      · rw [tryInt, Leaf.int?, h]
        rfl
      all_goals
        have hnone : attr.int? parseInt = none := by rw [Leaf.int?, h]; rfl
        have hinfo : info ++ Fields.entry "int" none = info := List.append_nil info
        rw [tryInt, h, hnone, Option.map_none, hinfo]
        rfl

/-- A foreign type named `property` has no setter to ask for, and an infinity overflows; every other
leaf is described. -/
theorem describeAttr_eq (attr : Leaf) : describeAttr parseInt attr =
    if attr.isMisnamed then .error .attributeError
    else if attr.isInfinite then .error .overflowError
    else .ok (.node (attr.fields parseInt).entries) := by
  have hplain (info : List (String × Description))
      (hinfo : info ++ Fields.entry "int" ((attr.int? parseInt).map .int) =
        (attr.fields parseInt).entries)
      (hattr : describeAttr parseInt attr = tryInt parseInt attr info)
      (hnamed : attr.isMisnamed = false) : describeAttr parseInt attr =
        if attr.isMisnamed then .error .attributeError
        else if attr.isInfinite then .error .overflowError
        else .ok (.node (attr.fields parseInt).entries) := by
    rw [hattr, tryInt_eq, hnamed, hinfo]
    rfl
  cases attr with
  | property doc writable => exact hplain _ rfl rfl rfl
  | staticProperty doc writable => exact hplain _ rfl rfl rfl
  | callable typeName doc asInt =>
      by_cases hname : typeName = "property"
      · subst hname
        rfl
      · refine hplain [("kind", .leaf (.str typeName)), ("doc", .leaf (.ofDoc doc))] rfl ?_ ?_
        · simp [describeAttr, Leaf.typeName, Leaf.isCallable, Leaf.doc, Leaf.scalar?, hname]
        · simp [Leaf.isMisnamed, Leaf.typeName, hname]
  | scalar typeName value =>
      by_cases hname : typeName = "property"
      · subst hname
        rfl
      · refine hplain [("kind", .leaf (.str typeName)), ("value", .leaf (.ofScalar value))] rfl ?_ ?_
        · simp [describeAttr, Leaf.typeName, Leaf.isCallable, Leaf.scalar?, hname]
        · simp [Leaf.isMisnamed, Leaf.typeName, hname]
  | other typeName asInt =>
      by_cases hname : typeName = "property"
      · subst hname
        rfl
      · refine hplain [("kind", .leaf (.str typeName))] rfl ?_ ?_
        · simp [describeAttr, Leaf.typeName, Leaf.isCallable, Leaf.scalar?, hname]
        · simp [Leaf.isMisnamed, Leaf.typeName, hname]

/-! ## Indistinct leaves -/

/-- An object of which only the name of its type and its integer are recorded. -/
def Leaf.bare? : Leaf → Option (String × Option ℤ)
  | .other typeName asInt => some (typeName, asInt)
  | .staticProperty _ _ => some ("nb_static_property", none)
  | _ => none

/-- The two leaves cannot be told apart by what is recorded of them. -/
def Leaf.Indistinct : Leaf → Leaf → Prop
  | .callable typeName doc asInt, .callable typeName' doc' asInt' =>
      typeName = typeName' ∧ doc = doc' ∧ asInt = asInt'
  | .property doc writable, .property doc' writable' => doc = doc' ∧ writable = writable'
  | .scalar typeName value, .scalar typeName' value' =>
      typeName = typeName' ∧ value.equal value' = true
  | left, right => left.bare?.isSome ∧ left.bare? = right.bare?

end Leaves

section Same

theorem same_str (left right : String) : (Value.str left).same (.str right) = true ↔ left = right := by
  simp [Value.same, Value.numeric?]

theorem same_int (left right : ℤ) : (Value.int left).same (.int right) = true ↔ left = right := by
  simp [Value.same, Value.numeric?, Numeric.equal_iff]

theorem same_bool (left right : Bool) :
    (Value.bool left).same (.bool right) = true ↔ left = right := by
  cases left <;> cases right <;> decide

theorem same_ofDoc (left right : Option String) :
    (Value.ofDoc left).same (.ofDoc right) = true ↔ left = right := by
  cases left <;> cases right <;> simp [Value.ofDoc, Value.same, Value.numeric?]

theorem same_names (left right : List String) :
    (Value.names left).same (.names right) = true ↔ left = right := by
  simp [Value.same, Value.numeric?]

theorem same_ofScalar (left right : Scalar) :
    (Value.ofScalar left).same (.ofScalar right) = left.equal right := by
  cases left <;> cases right <;>
    simp [Value.ofScalar, Value.same, Scalar.equal, Value.numeric?, Scalar.numeric?]

theorem rel_map_int (left right : Option ℤ) :
    Option.Rel (fun x y ↦ Value.same x y = true) (left.map .int) (right.map .int) ↔ left = right := by
  cases left <;> cases right <;> simp [same_int]

end Same

/-- A number converts to the integer part of its value. -/
theorem toInt_of_numeric (parseInt : String → Option ℤ) {value : Scalar} {number : Numeric}
    (h : value.numeric? = some number) : (value.toInt parseInt).toOption = number.toInt? := by
  cases value with
  | int value =>
      obtain rfl : Numeric.rational value = number := by simpa [Scalar.numeric?] using h
      simp [Scalar.toInt, Except.toOption, Numeric.toInt?, Numeric.truncate_intCast]
  | bool truth =>
      obtain rfl : Numeric.rational (if truth then 1 else 0) = number := by
        simpa [Scalar.numeric?] using h
      cases truth <;> simp [Scalar.toInt, Except.toOption] <;> rfl
  | str text => simp [Scalar.numeric?] at h
  | float value =>
      obtain rfl : value.numeric = number := by simpa [Scalar.numeric?] using h
      cases hfloat : value.numeric <;>
        simp [Scalar.toInt, Except.toOption, Numeric.toInt?, hfloat]

/-- Scalars that Python counts as equal convert to the same integer. -/
theorem int?_eq_of_equal (parseInt : String → Option ℤ) {left right : Scalar}
    (h : left.equal right = true) (leftType rightType : String) :
    (Leaf.scalar leftType left).int? parseInt = (Leaf.scalar rightType right).int? parseInt := by
  change (left.toInt parseInt).toOption = (right.toInt parseInt).toOption
  unfold Scalar.equal at h
  cases hleft : left.numeric? with
  | none =>
      cases hright : right.numeric? with
      | none =>
          rw [hleft, hright] at h
          rw [beq_iff_eq.mp h]
      | some number => simp [hleft, hright] at h
  | some number =>
      cases hright : right.numeric? with
      | none => simp [hleft, hright] at h
      | some other =>
          rw [hleft, hright] at h
          rw [toInt_of_numeric parseInt hleft, toInt_of_numeric parseInt hright,
            (Numeric.equal_iff.mp h).2]

/-- The descriptions of two leaves are alike exactly when the leaves are indistinct. -/
theorem alike_fields_iff (parseInt : String → Option ℤ) (left right : Leaf) :
    Tree.Alike Value.same (.node (left.fields parseInt).entries)
      (.node (right.fields parseInt).entries) ↔ left.Indistinct right := by
  rw [Fields.alike_iff]
  cases left with
  | scalar typeName value =>
      cases right with
      | scalar typeName' value' =>
          simp only [Leaf.fields, Leaf.typeName, Leaf.scalar?, same_str, rel_map_int, Option.map_some,
            Option.rel_some_some, same_ofScalar, Leaf.Indistinct]
          constructor
          · rintro ⟨hname, _, _, hvalue, _⟩
            exact ⟨hname, hvalue⟩
          · rintro ⟨hname, hvalue⟩
            exact ⟨hname, .none, .none, hvalue, int?_eq_of_equal parseInt hvalue _ _⟩
      | _ => simp [Leaf.fields, Leaf.typeName, Leaf.scalar?, Leaf.Indistinct, Leaf.bare?]
  | staticProperty doc writable =>
      cases right with
      | other typeName asInt =>
          cases asInt <;>
            simp [Leaf.fields, Leaf.typeName, Leaf.scalar?, same_str, Leaf.Indistinct, Leaf.bare?]
      | _ =>
          simp [Leaf.fields, Leaf.typeName, Leaf.scalar?, same_str, Leaf.Indistinct, Leaf.bare?]
  | other typeName asInt =>
      cases right with
      | staticProperty doc writable =>
          cases asInt <;>
            simp [Leaf.fields, Leaf.typeName, Leaf.scalar?, same_str, Leaf.Indistinct, Leaf.bare?]
      | _ =>
          simp [Leaf.fields, Leaf.typeName, Leaf.scalar?, same_str, rel_map_int, Leaf.Indistinct,
            Leaf.bare?]
  | callable typeName doc asInt =>
      cases right <;>
        simp [Leaf.fields, Leaf.typeName, Leaf.scalar?, same_str, same_ofDoc, rel_map_int,
          Leaf.Indistinct, Leaf.bare?]
  | property doc writable =>
      cases right <;>
        simp [Leaf.fields, Leaf.typeName, Leaf.scalar?, same_str, same_ofDoc, same_bool,
          Leaf.Indistinct, Leaf.bare?]

end ReflectNanobind.Surface
