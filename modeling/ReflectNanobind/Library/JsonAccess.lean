import ReflectNanobind.Library.JsonNumber

/-!
# Reading a document

How a Python script reads the dictionaries of a JSON document, with the errors that it can meet.  A
document that is valid under a schema is read without an error at the properties that the schema
lists, and what is read is valid under the schema of the property.
-/

namespace ReflectNanobind.Library.JsonAccess

open JsonSchema

inductive ReadError where
  /-- `KeyError`. -/
  | missing (name : String)
  /-- `IndexError`. -/
  | outOfRange
  /-- `TypeError`, or `AttributeError` for a method that the value does not have. -/
  | wrongType
  deriving DecidableEq, Repr

abbrev Read := Except ReadError

/-! ## Accessors -/

/-- `value[name]`. -/
def item (value : Json) (name : String) : Read Json :=
  match value with
  | .obj fields =>
      match fields.lookup name with
      | some value => .ok value
      | none => .error (.missing name)
  | _ => .error .wrongType

/-- `value.get(name, default)`. -/
def getD (value : Json) (name : String) (default : Json) : Read Json :=
  match value with
  | .obj fields => .ok ((fields.lookup name).getD default)
  | _ => .error .wrongType

/-- `value.get(name)`. -/
def get (value : Json) (name : String) : Read Json := getD value name .null

/-- `bool(value)`. -/
def truthy : Json → Bool
  | .scalar .null => false
  | .scalar (.bool value) => value
  | .scalar (.int value) => decide (value ≠ 0)
  | .scalar (.decimal mantissa _) => decide (mantissa ≠ 0)
  | .scalar (.str text) => decide (text ≠ "")
  | .arr items => !items.isEmpty
  | .obj fields => !fields.isEmpty

/-- `left or right`. -/
def orElse (left right : Json) : Json := if truthy left then left else right

def emptyDict : Json := .obj []

/-- `value == text`. -/
def equalsText : Json → String → Bool
  | .scalar (.str value), text => decide (value = text)
  | _, _ => false

/-- A value where only a text will do. -/
def asText : Json → Read String
  | .scalar (.str text) => .ok text
  | _ => .error .wrongType

/-- `f"{value}"`, for every value but lists and dictionaries. -/
def format : Json → Read String
  | .scalar .null => .ok "None"
  | .scalar (.bool true) => .ok "True"
  | .scalar (.bool false) => .ok "False"
  | .scalar (.int value) => .ok (String.ofList (JsonNumber.writeInt value))
  | .scalar (.decimal mantissa places) =>
      .ok (String.ofList (JsonNumber.writeDecimal mantissa places))
  | .scalar (.str text) => .ok text
  | _ => .error .wrongType

theorem equalsText_str (value text : String) :
    equalsText (.str value) text = decide (value = text) := rfl

theorem asText_str (text : String) : asText (.str text) = .ok text := rfl

/-- The text of an entry, or a default where there is none. -/
def textAt (value : Json) (name default : String) : String :=
  match getD value name (.str default) with
  | .ok (.scalar (.str text)) => text
  | _ => default

theorem textAt_of_getD {value : Json} {name default text : String}
    (h : getD value name (.str default) = .ok (.str text)) : textAt value name default = text := by
  rw [textAt, h]
  rfl

theorem textAt_of_item {value : Json} {name text : String} (h : item value name = .ok (.str text))
    (default : String) : textAt value name default = text := by
  refine textAt_of_getD ?_
  cases value with
  | obj fields =>
      cases hlookup : fields.lookup name with
      | none => simp [item, hlookup] at h
      | some property => simpa [getD, item, hlookup] using h
  | _ => simp [item] at h

/-! ## Loops that meet no error -/

theorem ok_bind {ε α β : Type} (value : α) (next : α → Except ε β) :
    (Except.ok value >>= next) = next value := rfl

section Loops

variable {ε α β σ : Type*} {encode : α → β} {items : List α}

/-- A loop whose steps succeed is the plain loop. -/
theorem foldlM_eq_ok {step : σ → β → Except ε σ} {next : σ → α → σ}
    (h : ∀ item ∈ items, ∀ state, step state (encode item) = .ok (next state item)) (state : σ) :
    (items.map encode).foldlM step state = .ok (items.foldl next state) := by
  induction items generalizing state with
  | nil => rfl
  | cons item items ih =>
      obtain ⟨hitem, hitems⟩ := List.forall_mem_cons.mp h
      rw [List.map_cons, List.foldlM_cons, hitem state]
      exact ih hitems (next state item)

/-- A loop whose steps succeed and keep an invariant ends with the invariant. -/
theorem foldlM_ok {step : σ → β → Except ε σ} (invariant : σ → Prop)
    (h : ∀ item ∈ items, ∀ state, invariant state →
      ∃ next, step state (encode item) = .ok next ∧ invariant next) {state : σ}
    (hstate : invariant state) :
    ∃ last, (items.map encode).foldlM step state = .ok last ∧ invariant last := by
  induction items generalizing state with
  | nil => exact ⟨state, rfl, hstate⟩
  | cons item items ih =>
      obtain ⟨hitem, hitems⟩ := List.forall_mem_cons.mp h
      obtain ⟨next, hstep, hnext⟩ := hitem state hstate
      obtain ⟨last, hlast, hinvariant⟩ := ih hitems hnext
      refine ⟨last, ?_, hinvariant⟩
      rw [List.map_cons, List.foldlM_cons, hstep]
      exact hlast

/-- What is read of each item, when every one of them can be read. -/
theorem mapM_ok {ρ : Type*} {read : β → Except ε ρ} {Reads : α → ρ → Prop}
    (h : ∀ item ∈ items, ∃ value, read (encode item) = .ok value ∧ Reads item value) :
    ∃ values, (items.map encode).mapM read = .ok values ∧ List.Forall₂ Reads items values := by
  induction items with
  | nil => exact ⟨[], rfl, .nil⟩
  | cons item items ih =>
      obtain ⟨⟨value, hvalue, hreads⟩, hitems⟩ := List.forall_mem_cons.mp h
      obtain ⟨values, hvalues, hall⟩ := ih hitems
      refine ⟨value :: values, ?_, .cons hreads hall⟩
      rw [List.map_cons, List.mapM_cons, hvalue, hvalues]
      rfl

theorem exists_mapM_ok {ρ : Type*} {read : α → Except ε ρ}
    (h : ∀ item ∈ items, ∃ value, read item = .ok value) :
    ∃ values, items.mapM read = .ok values := by
  obtain ⟨values, hvalues, -⟩ := @mapM_ok ε α α id items ρ read (fun _ _ ↦ True)
    fun item hitem ↦ (h item hitem).imp fun _ hvalue ↦ ⟨hvalue, trivial⟩
  exact ⟨values, by rwa [List.map_id] at hvalues⟩

theorem mapM_eq_ok {ρ : Type*} {read : β → Except ε ρ} {value : α → ρ}
    (h : ∀ item ∈ items, read (encode item) = .ok (value item)) :
    (items.map encode).mapM read = .ok (items.map value) := by
  induction items with
  | nil => rfl
  | cons item items ih =>
      obtain ⟨hitem, hitems⟩ := List.forall_mem_cons.mp h
      rw [List.map_cons, List.mapM_cons, hitem, ih hitems]
      rfl

theorem foldlM_filter_eq_ok {step : σ → β → Except ε σ} {keep : α → Bool} {next : σ → α → σ}
    (hskip : ∀ item ∈ items, keep item = false → ∀ state, step state (encode item) = .ok state)
    (hstep : ∀ item ∈ items, keep item = true →
      ∀ state, step state (encode item) = .ok (next state item)) (state : σ) :
    (items.map encode).foldlM step state = .ok ((items.filter keep).foldl next state) := by
  have hnext : ∀ item ∈ items, ∀ state, step state (encode item) =
      .ok (if keep item = true then next state item else state) := by
    intro item hitem state
    cases hkeep : keep item with
    | true => simpa using hstep item hitem hkeep state
    | false => simpa using hskip item hitem hkeep state
  rw [foldlM_eq_ok hnext, List.foldl_filter]

end Loops

/-- What `get` finds, and is not false, is there. -/
theorem item_of_get {value property : Json} {name : String} (h : get value name = .ok property)
    (htruthy : truthy property = true) : item value name = .ok property := by
  cases value with
  | obj fields =>
      cases hlookup : fields.lookup name with
      | none =>
          obtain rfl : Json.null = property := by simpa [get, getD, hlookup] using h
          exact absurd htruthy Bool.false_ne_true
      | some found => simpa [get, getD, item, hlookup] using h
  | _ => simp [get, getD] at h

/-! ## Valid documents -/

/-- An object whose listed properties are valid where it has them. -/
def ObjectOf (schemas : List (String × Schema)) (value : Json) : Prop :=
  ∃ fields, value = .obj fields ∧ propertiesAccept schemas fields = true

theorem validates_iff (schema : Schema) (value : Json) :
    validates schema value = true ↔ ∀ keyword ∈ schema, keyword.accepts value = true := by
  induction schema with
  | nil => simp [validates]
  | cons keyword rest ih => rw [validates, Bool.and_eq_true, ih, List.forall_mem_cons]

/-- A schema of objects with the listed properties. -/
def IsObjectSchema (schema : Schema) (schemas : List (String × Schema)) : Prop :=
  Keyword.type [.object] ∈ schema ∧ Keyword.properties schemas ∈ schema

theorem objectOf_of_validates {schema : Schema} {schemas : List (String × Schema)}
    (hschema : IsObjectSchema schema schemas) {value : Json} (h : validates schema value = true) :
    ObjectOf schemas value := by
  rw [validates_iff] at h
  have htype := h _ hschema.1
  have hproperties := h _ hschema.2
  cases value with
  | scalar value => cases value <;> simp [Keyword.accepts, JsonType.describes] at htype
  | arr items => simp [Keyword.accepts, JsonType.describes] at htype
  | obj fields => exact ⟨fields, rfl, by simpa [Keyword.accepts] using hproperties⟩

/-- A required property of a valid object is there, and valid. -/
theorem item_of_required {schema : Schema} {schemas : List (String × Schema)} {names : List String}
    {value : Json} (h : validates schema value = true) (hschema : IsObjectSchema schema schemas)
    (hrequired : Keyword.required names ∈ schema) {name : String} (hname : name ∈ names)
    {property : Schema} (hmem : (name, property) ∈ schemas) :
    ∃ found, item value name = .ok found ∧ validates property found = true := by
  have hpresent := (validates_iff schema value).mp h _ hrequired
  obtain ⟨fields, rfl, hfields⟩ := objectOf_of_validates hschema h
  rw [propertiesAccept_iff] at hfields
  obtain ⟨found, hfound⟩ := Option.isSome_iff_exists.mp (List.all_eq_true.mp hpresent name hname)
  exact ⟨found, by simp [item, hfound], hfields _ hmem found hfound⟩

/-- A schema that only texts are valid under. -/
def IsTextSchema (schema : Schema) : Prop :=
  ∀ value, validates schema value = true → ∃ text, value = .str text

theorem isTextSchema_string : IsTextSchema [.type [.string]] := by
  intro value h
  cases value with
  | scalar value =>
      cases value with
      | str text => exact ⟨text, rfl⟩
      | _ => simp [validates, Keyword.accepts, JsonType.describes] at h
  | arr items => simp [validates, Keyword.accepts, JsonType.describes] at h
  | obj fields => simp [validates, Keyword.accepts, JsonType.describes] at h

theorem exists_mem_of_enum {texts : List String} {value : Json}
    (h : validates [.enum (texts.map .str)] value = true) : ∃ text ∈ texts, value = .str text := by
  cases value with
  | scalar value =>
      have hmem : value ∈ texts.map Scalar.str := by
        simpa [validates, Keyword.accepts, List.contains_iff_mem] using h
      obtain ⟨text, htext, rfl⟩ := List.mem_map.mp hmem
      exact ⟨text, htext, rfl⟩
  | arr items => simp [validates, Keyword.accepts] at h
  | obj fields => simp [validates, Keyword.accepts] at h

theorem isTextSchema_enum (texts : List String) : IsTextSchema [.enum (texts.map .str)] := by
  intro value h
  obtain ⟨text, -, rfl⟩ := exists_mem_of_enum h
  exact ⟨text, rfl⟩

section Valid

variable {schemas inner : List (String × Schema)} {value : Json} {name : String} {schema : Schema}
  (h : ObjectOf schemas value) (hmem : (name, schema) ∈ schemas)

include h hmem

/-- A listed property is absent, or it is valid. -/
theorem getD_cases (default : Json) : getD value name default = .ok default ∨
    ∃ property, getD value name default = .ok property ∧ validates schema property = true := by
  obtain ⟨fields, rfl, hfields⟩ := h
  rw [propertiesAccept_iff] at hfields
  cases hlookup : fields.lookup name with
  | none => exact .inl (by simp [getD, hlookup])
  | some property =>
      exact .inr ⟨property, by simp [getD, hlookup], hfields _ hmem property hlookup⟩

theorem getD_text (hschema : IsTextSchema schema) (default : String) :
    getD value name (.str default) = .ok (.str (textAt value name default)) := by
  rcases getD_cases h hmem (.str default) with hnone | ⟨property, hread, hvalid⟩
  · rw [textAt_of_getD hnone, hnone]
  · obtain ⟨text, rfl⟩ := hschema property hvalid
    rw [textAt_of_getD hread, hread]

/-- Without a default: a missing text counts as empty in a disjunction. -/
theorem get_text (hschema : IsTextSchema schema) : ∃ property, get value name = .ok property ∧
    ∀ other, orElse property other =
      if textAt value name "" = "" then other else .str (textAt value name "") := by
  obtain ⟨fields, rfl, hfields⟩ := h
  rw [propertiesAccept_iff] at hfields
  cases hlookup : fields.lookup name with
  | none =>
      refine ⟨.null, by simp [get, getD, hlookup], fun other ↦ ?_⟩
      rw [if_pos (textAt_of_getD (by simp [getD, hlookup]))]
      rfl
  | some property =>
      obtain ⟨text, rfl⟩ := hschema property (hfields _ hmem property hlookup)
      refine ⟨.str text, by simp [get, getD, hlookup], fun other ↦ ?_⟩
      rw [textAt_of_getD (by simp [getD, hlookup] : getD (.obj fields) name (.str "") = .ok (.str text))]
      by_cases hempty : text = "" <;> simp [orElse, truthy, Json.str, hempty]

/-- A missing text equals no text but the empty one. -/
theorem get_text_equals (hschema : IsTextSchema schema) {expected : String} (hne : expected ≠ "") :
    ∃ property, get value name = .ok property ∧
      equalsText property expected = decide (textAt value name "" = expected) := by
  obtain ⟨fields, rfl, hfields⟩ := h
  rw [propertiesAccept_iff] at hfields
  cases hlookup : fields.lookup name with
  | none =>
      refine ⟨.null, by simp [get, getD, hlookup], ?_⟩
      rw [textAt_of_getD (by simp [getD, hlookup] : getD (.obj fields) name (.str "") = .ok (.str ""))]
      exact (decide_eq_false (Ne.symm hne)).symm
  | some property =>
      obtain ⟨text, rfl⟩ := hschema property (hfields _ hmem property hlookup)
      refine ⟨.str text, by simp [get, getD, hlookup], ?_⟩
      rw [textAt_of_getD (by simp [getD, hlookup] : getD (.obj fields) name (.str "") = .ok (.str text))]
      rfl

/-- A property that is a text or `null` is false exactly when its text is empty, and else it is the
text. -/
theorem get_nullable_text (hschema : schema = [.type [.string, .null]]) :
    ∃ property, get value name = .ok property ∧
      truthy property = decide (textAt value name "" ≠ "") ∧
      (textAt value name "" ≠ "" → property = .str (textAt value name "")) := by
  obtain ⟨fields, rfl, hfields⟩ := h
  rw [propertiesAccept_iff] at hfields
  cases hlookup : fields.lookup name with
  | none =>
      have hempty : textAt (.obj fields) name "" = "" :=
        textAt_of_getD (by simp [getD, hlookup])
      exact ⟨.null, by simp [get, getD, hlookup], by rw [hempty]; rfl, fun hne ↦ absurd hempty hne⟩
  | some property =>
      have hvalid := hfields _ hmem property hlookup
      subst hschema
      refine ⟨property, by simp [get, getD, hlookup], ?_⟩
      cases property with
      | scalar property =>
          cases property with
          | null => simp [textAt, getD, hlookup, truthy]
          | str text => simp [textAt, getD, hlookup, truthy, Json.str]
          | _ => simp [validates, Keyword.accepts, JsonType.describes] at hvalid
      | arr items => simp [validates, Keyword.accepts, JsonType.describes] at hvalid
      | obj fields => simp [validates, Keyword.accepts, JsonType.describes] at hvalid

/-- Such a property, with the empty text in the place of anything false. -/
theorem get_nullable (hschema : schema = [.type [.string, .null]]) :
    ∃ property, get value name = .ok property ∧
      orElse property (.str "") = .str (textAt value name "") := by
  obtain ⟨property, hread, htruthy, htext⟩ := get_nullable_text h hmem hschema
  refine ⟨property, hread, ?_⟩
  rw [orElse, htruthy]
  by_cases hempty : textAt value name "" = ""
  · simp [hempty]
  · simp [hempty, htext hempty]

/-- A property that is an object, or the empty one in its place. -/
theorem get_object (hschema : IsObjectSchema schema inner) :
    ∃ property, get value name = .ok property ∧ ObjectOf inner (orElse property emptyDict) := by
  have hempty : ObjectOf inner emptyDict := by
    refine ⟨[], rfl, ?_⟩
    rw [propertiesAccept_iff]
    intro entry _ property hproperty
    simp at hproperty
  rcases getD_cases h hmem .null with hnone | ⟨property, hread, hvalid⟩
  · exact ⟨.null, hnone, hempty⟩
  · refine ⟨property, hread, ?_⟩
    unfold orElse
    split
    · exact objectOf_of_validates hschema hvalid
    · exact hempty

end Valid

end ReflectNanobind.Library.JsonAccess
