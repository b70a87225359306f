import Mathlib.Algebra.Ring.Int.Defs

/-!
# JSON documents and schema validation

JSON values with insertion-ordered objects, and the validation keywords of a draft-07 schema: a
schema is a list of keywords, and a document is valid when every keyword accepts it.  A keyword that
speaks about another kind of value accepts vacuously, as the standard says.  The rules reduce the
validation of an object to one obligation per property that is present.
-/

namespace ReflectNanobind.Library.JsonSchema

inductive Scalar where
  | null
  | bool (value : Bool)
  | int (value : ℤ)
  /-- `mantissa / 10 ^ places`, a rounded measurement. -/
  | decimal (mantissa : ℤ) (places : ℕ)
  | str (text : String)
  deriving DecidableEq, Repr

inductive Json where
  | scalar (value : Scalar)
  | arr (items : List Json)
  | obj (fields : List (String × Json))

namespace Json

def null : Json := .scalar .null
def bool (value : Bool) : Json := .scalar (.bool value)
def int (value : ℤ) : Json := .scalar (.int value)
def str (text : String) : Json := .scalar (.str text)

/-- An array of strings. -/
def strs (texts : List String) : Json := .arr (texts.map str)

/-- `null` for an absent value. -/
def optStr : Option String → Json
  | none => null
  | some text => str text

end Json

/-- `dict[name] = value`: replace in place, or append. -/
def setKey {α : Type} (name : String) (value : α) : List (String × α) → List (String × α)
  | [] => [(name, value)]
  | (other, old) :: rest =>
      if other = name then (name, value) :: rest else (other, old) :: setKey name value rest

/-- `dict.update(entries)`. -/
def update {α : Type} (fields entries : List (String × α)) : List (String × α) :=
  entries.foldl (fun fields entry ↦ setKey entry.1 entry.2 fields) fields

inductive JsonType where
  | null | boolean | integer | number | string | array | object
  deriving DecidableEq, Repr

def JsonType.describes : JsonType → Json → Bool
  | .null, .scalar .null => true
  | .boolean, .scalar (.bool _) => true
  | .integer, .scalar (.int _) => true
  | .integer, .scalar (.decimal mantissa places) => mantissa % 10 ^ places == 0
  | .number, .scalar (.int _) => true
  | .number, .scalar (.decimal _ _) => true
  | .string, .scalar (.str _) => true
  | .array, .arr _ => true
  | .object, .obj _ => true
  | _, _ => false

inductive Keyword where
  | type (allowed : List JsonType)
  | enum (values : List Scalar)
  | required (names : List String)
  | properties (schemas : List (String × List Keyword))
  | items (schema : List Keyword)
  | minimum (bound : ℤ)
  | maximum (bound : ℤ)

abbrev Schema := List Keyword

mutual

def Keyword.accepts : Keyword → Json → Bool
  | .type allowed, value => allowed.any (·.describes value)
  | .enum values, .scalar value => values.contains value
  | .enum _, _ => false
  | .required names, .obj fields => names.all fun name ↦ (fields.lookup name).isSome
  | .properties schemas, .obj fields => propertiesAccept schemas fields
  | .items schema, .arr items => items.all fun item ↦ validates schema item
  | .minimum bound, .scalar (.int value) => decide (bound ≤ value)
  | .minimum bound, .scalar (.decimal mantissa places) => decide (bound * 10 ^ places ≤ mantissa)
  | .maximum bound, .scalar (.int value) => decide (value ≤ bound)
  | .maximum bound, .scalar (.decimal mantissa places) => decide (mantissa ≤ bound * 10 ^ places)
  | _, _ => true

/-- Every keyword of the schema accepts the document. -/
def validates : List Keyword → Json → Bool
  | [], _ => true
  | keyword :: rest, value => keyword.accepts value && validates rest value

/-- Every present property is valid under its schema. -/
def propertiesAccept : List (String × List Keyword) → List (String × Json) → Bool
  | [], _ => true
  | (name, schema) :: rest, fields =>
      (match fields.lookup name with
        | none => true
        | some value => validates schema value) && propertiesAccept rest fields

end

/-- An object satisfies `properties` exactly when each listed property that it has is valid. -/
theorem propertiesAccept_iff (schemas : List (String × Schema)) (fields : List (String × Json)) :
    propertiesAccept schemas fields = true ↔
      ∀ entry ∈ schemas, ∀ value, fields.lookup entry.1 = some value →
        validates entry.2 value = true := by
  induction schemas with
  | nil => simp [propertiesAccept]
  | cons entry rest ih =>
      obtain ⟨name, schema⟩ := entry
      simp only [propertiesAccept, Bool.and_eq_true, ih, List.forall_mem_cons]
      refine and_congr_left fun _ ↦ ?_
      cases fields.lookup name <;> simp

/-- For validity it is enough that every entry of the object under a listed name is valid. -/
theorem validates_object {schemas : List (String × Schema)} {fields : List (String × Json)}
    (h : ∀ entry ∈ schemas, ∀ value, (entry.1, value) ∈ fields →
      validates entry.2 value = true) :
    validates [.type [.object], .properties schemas] (.obj fields) = true := by
  have hproperties : propertiesAccept schemas fields = true := by
    rw [propertiesAccept_iff]
    intro entry hentry value hvalue
    obtain ⟨before, after, rfl, -⟩ := List.lookup_eq_some_iff.mp hvalue
    exact h entry hentry value (by simp)
  simp [validates, Keyword.accepts, JsonType.describes, hproperties]

/-- An array of strings satisfies the schema of string arrays. -/
theorem validates_strs (texts : List String) :
    validates [.type [.array], .items [.type [.string]]] (.strs texts) = true := by
  simp [validates, Keyword.accepts, JsonType.describes, Json.strs, Json.str]

end ReflectNanobind.Library.JsonSchema
