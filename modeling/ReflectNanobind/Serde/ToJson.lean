import ReflectNanobind.Library.JsonText
import ReflectNanobind.Serde.Objects

/-!
# The JSON writer

`json_value` and `to_json` of `serialize_poc.cpp` with the texts of `std::to_string`: integers in
decimal, finite floats with six decimals, and `inf` and `nan` for the rest.  The writer places its
braces, commas and quotation marks right on every aggregate, so that its text is the JSON object of the
value exactly when no floating-point field is infinite or NaN.
-/

namespace ReflectNanobind.Serde

open Library Library.JsonText

/-! ## std::to_string -/

def signText (negative : Bool) : List Char := if negative then ['-'] else []

def decimal (number : ℕ) : List Char := Nat.toDigits 10 number

/-- `std::to_string` of an integer. -/
def integerText (value : ℤ) : List Char := signText (value < 0) ++ decimal value.natAbs

/-- `mantissa * 2 ^ exponent` in millionths, ties to even. -/
def millionths (mantissa : ℕ) : ℤ → ℕ
  | .ofNat exponent => mantissa * 2 ^ exponent * 10 ^ 6
  | .negSucc exponent =>
      let scale := 2 ^ (exponent + 1)
      let quotient := mantissa * 10 ^ 6 / scale
      let remainder := mantissa * 10 ^ 6 % scale
      if scale < 2 * remainder ∨ scale = 2 * remainder ∧ quotient % 2 = 1 then quotient + 1
      else quotient

/-- The last six decimal digits. -/
def sixDigits (number : ℕ) : List Char :=
  List.replicate (6 - (decimal number).length) '0' ++ decimal number

/-- `std::to_string` of a floating-point number. -/
def floatText : FloatValue → List Char
  | .finite negative mantissa exponent =>
      let number := millionths mantissa exponent
      signText negative ++ (decimal (number / 10 ^ 6) ++ ('.' :: sixDigits (number % 10 ^ 6)))
  | .infinite negative => signText negative ++ ['i', 'n', 'f']
  | .nan negative => signText negative ++ ['n', 'a', 'n']

example : String.ofList (floatText (.finite true 7 (-2))) = "-1.750000" := by decide

/-! ## The writer -/

/-- The value of a `bool` object. -/
def boolValue (field : Bytes 1) : Bool := field[0] != 0

/-- `json_value` of an arithmetic field. -/
def jsonScalar (out : List Char) : (type : Arithmetic) → Bytes type.size → List Char
  | .bool, field =>
      out ++ if boolValue field then ['t', 'r', 'u', 'e'] else ['f', 'a', 'l', 's', 'e']
  | .integer _ signed, field => out ++ integerText (integerValue signed field)
  | .floating format, field => out ++ floatText (format.value field)

/-- The text before a member's value. -/
def memberKey (out : List Char) (first : Bool) (name : Identifier) : List Char :=
  let out := if first then out else out ++ [',']
  out ++ ['"'] ++ name.text.toList ++ ['"', ':']

/-- The loop over the members; `first` says that no comma is due. -/
def jsonMembers (out : List Char) (first : Bool) :
    {members : Members} → Object members → List Char
  | .nil, .nil => out
  | .scalar name type _, .scalar field others =>
      jsonMembers (jsonScalar (memberKey out first name) type field) false others
  | .aggregate name _ _, .aggregate field others =>
      -- `to_json` of the nested aggregate
      jsonMembers (jsonMembers (memberKey out first name ++ ['{']) true field ++ ['}']) false others

/-- `to_json(out, obj)`. -/
def toJson {members : Members} (out : List Char) (obj : Object members) : List Char :=
  jsonMembers (out ++ ['{']) true obj ++ ['}']

/-! ## Texts of numbers -/

theorem allDigits_decimal (number : ℕ) : AllDigits (decimal number) :=
  fun _ hchar ↦ Nat.isDigit_of_mem_toDigits (by decide) (by decide) hchar

theorem decimal_ne_nil (number : ℕ) : decimal number ≠ [] := Nat.toDigits_ne_nil

theorem isInt_decimal (number : ℕ) : IsInt (decimal number) := isInt_toDigits number

theorem signText_mem (negative : Bool) : signText negative ∈ [[], ['-']] := by
  cases negative <;> simp [signText]

theorem isNumber_integerText (value : ℤ) : IsNumber (integerText value) := by
  have h := IsNumber.mk (signText_mem (value < 0)) (isInt_decimal value.natAbs) .none .none
  simpa [integerText] using h

theorem isNumber_floatText (negative : Bool) (mantissa : ℕ) (exponent : ℤ) :
    IsNumber (floatText (.finite negative mantissa exponent)) := by
  have hsix : AllDigits (sixDigits (millionths mantissa exponent % 10 ^ 6)) := by
    intro char hchar
    rcases List.mem_append.mp hchar with hzero | hdigit
    · rw [List.eq_of_mem_replicate hzero]
      rfl
    · exact allDigits_decimal _ char hdigit
  have hne : sixDigits (millionths mantissa exponent % 10 ^ 6) ≠ [] := by
    simp [sixDigits, decimal_ne_nil]
  have h := IsNumber.mk (signText_mem negative)
    (isInt_decimal (millionths mantissa exponent / 10 ^ 6)) (.some hsix hne) .none
  simpa [floatText] using h

/-! ## Fields -/

theorem isIdentifierChar_plain {char : Char} (h : isIdentifierChar char = true) :
    char ≠ '"' ∧ char ≠ '\\' ∧ 0x20 ≤ char.toNat := by
  refine ⟨?_, ?_, ?_⟩
  · rintro rfl
    exact absurd h (by decide)
  · rintro rfl
    exact absurd h (by decide)
  · by_contra hlow
    have hcontrol : ∀ code < 0x20, isIdentifierChar (Char.ofNat code) = false := by decide
    rw [← Char.ofNat_toNat char, hcontrol char.toNat (by omega)] at h
    exact Bool.false_ne_true h

theorem isContents_identifier (name : Identifier) : IsContents name.text.toList := by
  have hchars := name.chars
  generalize name.text.toList = text at hchars
  induction text with
  | nil => exact .nil
  | cons char rest ih =>
      obtain ⟨hquote, hescape, hcontrol⟩ := isIdentifierChar_plain (hchars char List.mem_cons_self)
      exact .plain hquote hescape hcontrol
        (ih fun other hother ↦ hchars other (List.mem_cons_of_mem _ hother))

/-- The arithmetic field is not an infinity and not a NaN. -/
def IsFinite : (type : Arithmetic) → Bytes type.size → Prop
  | .bool, _ | .integer _ _, _ => True
  | .floating format, field =>
      match format.value field with
      | .finite _ _ _ => True
      | .infinite _ | .nan _ => False

/-- What a field's JSON value has to be: `true` or `false` for a `bool`, else a number. -/
def ScalarNode : (type : Arithmetic) → Bytes type.size → Node → Prop
  | .bool, field, node => node = .bool (boolValue field)
  | .integer _ _, _, node | .floating _, _, node => ∃ text, node = .number text

/-- The text of a field is the JSON value it should be, or the scan stops in it. -/
theorem jsonScalar_text (out : List Char) (type : Arithmetic) (field : Bytes type.size) :
    ∃ text, jsonScalar out type field = out ++ text ∧
      (IsFinite type field → ∃ node, IsValue text node ∧ ScalarNode type field node) ∧
      (¬ IsFinite type field → scan .outside text = none) := by
  cases type with
  | bool =>
      refine ⟨_, rfl, fun _ ↦ ⟨.bool (boolValue field), ?_, rfl⟩, fun h ↦ absurd trivial h⟩
      cases boolValue field
      · exact .false
      · exact .true
  | integer size signed =>
      exact ⟨_, rfl, fun _ ↦ ⟨_, .number (isNumber_integerText _), _, rfl⟩,
        fun h ↦ absurd trivial h⟩
  | floating format =>
      refine ⟨_, rfl, ?_, ?_⟩
      · intro h
        simp only [IsFinite] at h
        split at h
        · rename_i negative mantissa exponent hvalue
          rw [hvalue]
          exact ⟨_, .number (isNumber_floatText negative mantissa exponent), _, rfl⟩
        · exact h.elim
        · exact h.elim
      · intro h
        simp only [IsFinite] at h
        split at h
        · exact absurd trivial h
        · rename_i negative hvalue
          rw [hvalue]
          cases negative <;> rfl
        · rename_i negative hvalue
          rw [hvalue]
          cases negative <;> rfl

/-! ## Objects -/

/-- No floating-point field, at any depth, is an infinity or a NaN. -/
def Object.AllFinite : {members : Members} → Object members → Prop
  | _, .nil => True
  | .scalar _ type _, .scalar field others => IsFinite type field ∧ others.AllFinite
  | _, .aggregate field others => field.AllFinite ∧ others.AllFinite

/-- The members of a JSON object that stand for an object: one for each field, in order, under the
field's identifier. -/
inductive Corresponds : {members : Members} → Object members → List (List Char × Node) → Prop
  | nil : Corresponds .nil []
  | scalar {name : Identifier} {type : Arithmetic} {rest : Members} {field : Bytes type.size}
      {others : Object rest} {node : Node} {fields : List (List Char × Node)}
      (hfield : ScalarNode type field node) (hothers : Corresponds others fields) :
      Corresponds (.scalar field others : Object (.scalar name type rest))
        ((name.text.toList, node) :: fields)
  | aggregate {name : Identifier} {inner rest : Members} {field : Object inner}
      {others : Object rest} {inside fields : List (List Char × Node)}
      (hfield : Corresponds field inside) (hothers : Corresponds others fields) :
      Corresponds (.aggregate field others : Object (.aggregate name inner rest))
        ((name.text.toList, .object inside) :: fields)

theorem memberKey_eq (out : List Char) (first : Bool) (name : Identifier) :
    memberKey out first name = out ++ memberKey [] first name := by
  cases first <;> simp [memberKey]

theorem jsonScalar_eq (out : List Char) (type : Arithmetic) (field : Bytes type.size) :
    jsonScalar out type field = out ++ jsonScalar [] type field := by
  cases type <;> rfl

/-- The loop appends to what was written before it. -/
theorem jsonMembers_eq {members : Members} (out : List Char) (first : Bool)
    (obj : Object members) : jsonMembers out first obj = out ++ jsonMembers [] first obj := by
  induction obj generalizing out first with
  | nil => simp [jsonMembers]
  | scalar field others ih =>
      rw [jsonMembers, jsonMembers, ih, ih (jsonScalar _ _ _), jsonScalar_eq, memberKey_eq,
        jsonScalar_eq (memberKey _ _ _)]
      simp
  | aggregate field others ihField ihOthers =>
      rw [jsonMembers, jsonMembers, ihOthers, ihOthers (_ ++ ['}']), ihField,
        ihField (memberKey _ _ _ ++ ['{']), memberKey_eq]
      simp

theorem toJson_eq {members : Members} (obj : Object members) :
    toJson [] obj = '{' :: (jsonMembers [] true obj ++ ['}']) := by
  rw [toJson, jsonMembers_eq]
  rfl

section Texts

variable {name : Identifier} {type : Arithmetic} {inner rest : Members} (first : Bool)

theorem jsonMembers_scalar (field : Bytes type.size) (others : Object rest) :
    jsonMembers [] first (.scalar field others : Object (.scalar name type rest)) =
      memberKey [] first name ++ (jsonScalar [] type field ++ jsonMembers [] false others) := by
  rw [jsonMembers, jsonMembers_eq, jsonScalar_eq, List.append_assoc]

theorem jsonMembers_aggregate (field : Object inner) (others : Object rest) :
    jsonMembers [] first (.aggregate field others : Object (.aggregate name inner rest)) =
      memberKey [] first name ++ (toJson [] field ++ jsonMembers [] false others) := by
  rw [jsonMembers, jsonMembers_eq, jsonMembers_eq (memberKey _ _ _ ++ ['{']), toJson_eq]
  simp

end Texts

theorem isSpace_nil : IsSpace [] := by simp [IsSpace]

theorem crossed_memberKey (first : Bool) (name : Identifier) :
    Crossed (memberKey [] first name) := by
  have hkey : Crossed ('"' :: (name.text.toList ++ '"' :: [':'])) :=
    crossed_quoted (scan_contents (isContents_identifier name)) rfl
  cases first with
  | true => simpa [memberKey] using hkey
  | false => simpa [memberKey] using Crossed.cons rfl hkey

theorem isField_memberKey {text : List Char} {node : Node} (name : Identifier)
    (h : IsValue text node) :
    JsonText.IsField (memberKey [] true name ++ text) name.text.toList node := by
  have hfield := JsonText.IsField.mk isSpace_nil (isContents_identifier name) isSpace_nil
    isSpace_nil h isSpace_nil
  simpa [memberKey] using hfield

/-- The texts that the loop writes for an object, as the first members and as further ones: nothing
for no member, and else a member list of JSON, after a comma where it continues one. -/
def Listed {members : Members} (obj : Object members) (fields : List (List Char × Node)) : Prop :=
  jsonMembers [] true obj = [] ∧ jsonMembers [] false obj = [] ∧ fields = [] ∨
    IsFields (jsonMembers [] true obj) fields ∧
      jsonMembers [] false obj = ',' :: jsonMembers [] true obj

/-- One more member in front. -/
theorem isFields_cons {rest : Members} {others : Object rest} {fields : List (List Char × Node)}
    (hothers : Listed others fields) (name : Identifier) {text : List Char} {node : Node}
    (htext : IsValue text node) :
    IsFields (memberKey [] true name ++ (text ++ jsonMembers [] false others))
      ((name.text.toList, node) :: fields) := by
  have hfield := isField_memberKey name htext
  rcases hothers with ⟨-, hnone, rfl⟩ | ⟨hfields, hcomma⟩
  · rw [hnone, List.append_nil]
    exact .one hfield
  · rw [hcomma, ← List.append_assoc]
    exact .more hfield hfields

theorem memberKey_false (name : Identifier) (text : List Char) :
    memberKey [] false name ++ text = ',' :: (memberKey [] true name ++ text) := by
  simp [memberKey]

theorem isValue_toJson {members : Members} {obj : Object members}
    {fields : List (List Char × Node)} (h : Listed obj fields) :
    IsValue (toJson [] obj) (.object fields) := by
  rw [toJson_eq]
  rcases h with ⟨hnone, -, rfl⟩ | ⟨hfields, -⟩
  · rw [hnone]
    exact .emptyObject isSpace_nil
  · exact .object hfields

/-- Finite fields are listed as the JSON members that correspond to them. -/
theorem listed_of_allFinite {members : Members} {obj : Object members} (h : obj.AllFinite) :
    ∃ fields, Corresponds obj fields ∧ Listed obj fields := by
  induction obj with
  | nil => exact ⟨[], .nil, .inl ⟨rfl, rfl, rfl⟩⟩
  | @scalar name type rest field others ih =>
      obtain ⟨hfinite, hothers⟩ := h
      obtain ⟨fields, hcorresponds, hlisted⟩ := ih hothers
      obtain ⟨text, htext, hgood, -⟩ := jsonScalar_text [] type field
      obtain ⟨node, hvalue, hnode⟩ := hgood hfinite
      refine ⟨_, .scalar hnode hcorresponds, .inr ?_⟩
      rw [jsonMembers_scalar, jsonMembers_scalar, htext, List.nil_append]
      exact ⟨isFields_cons hlisted name hvalue, memberKey_false name _⟩
  | @aggregate name inner rest field others ihField ihOthers =>
      obtain ⟨hfield, hothers⟩ := h
      obtain ⟨inside, hinside, hinsideListed⟩ := ihField hfield
      obtain ⟨fields, hcorresponds, hlisted⟩ := ihOthers hothers
      refine ⟨_, .aggregate hinside hcorresponds, .inr ?_⟩
      rw [jsonMembers_aggregate, jsonMembers_aggregate]
      exact ⟨isFields_cons hlisted name (isValue_toJson hinsideListed), memberKey_false name _⟩

/-- A scan that stops in a part stops in the whole. -/
theorem scan_stops {first second : List Char} (h : scan .outside first = none) :
    scan .outside (first ++ second) = none := by
  rw [scan_append, h]
  rfl

theorem scan_crossed {first second : List Char} (h : Crossed first) :
    scan .outside (first ++ second) = scan .outside second := by
  rw [scan_append, h]
  rfl

theorem scan_toJson {members : Members} {obj : Object members}
    (h : scan .outside (jsonMembers [] true obj) = none) : scan .outside (toJson [] obj) = none := by
  rw [toJson_eq]
  exact scan_stops h

/-- The scan stops in the text of an object with an infinity or a NaN. -/
theorem scan_jsonMembers_of_not_allFinite {members : Members} {obj : Object members}
    (h : ¬ obj.AllFinite) (first : Bool) : scan .outside (jsonMembers [] first obj) = none := by
  induction obj generalizing first with
  | nil => exact absurd trivial h
  | @scalar name type rest field others ih =>
      obtain ⟨text, htext, hgood, hbad⟩ := jsonScalar_text [] type field
      rw [jsonMembers_scalar, htext, List.nil_append, scan_crossed (crossed_memberKey first name)]
      by_cases hfinite : IsFinite type field
      · obtain ⟨node, hvalue, -⟩ := hgood hfinite
        rw [scan_crossed (crossed_value hvalue)]
        exact ih (fun hothers ↦ h ⟨hfinite, hothers⟩) false
      · exact scan_stops (hbad hfinite)
  | @aggregate name inner rest field others ihField ihOthers =>
      rw [jsonMembers_aggregate, scan_crossed (crossed_memberKey first name)]
      by_cases hfield : field.AllFinite
      · obtain ⟨inside, -, hlisted⟩ := listed_of_allFinite hfield
        rw [scan_crossed (crossed_value (isValue_toJson hlisted))]
        exact ihOthers (fun hothers ↦ h ⟨hfield, hothers⟩) false
      · exact scan_stops (scan_toJson (ihField hfield true))

/-- The text of `to_json` is the JSON object of the value exactly when no floating-point field is an
infinity or a NaN. -/
theorem toJson_isText_iff {members : Members} (obj : Object members) :
    (∃ fields, IsText (toJson [] obj) (.object fields) ∧ Corresponds obj fields) ↔
      obj.AllFinite := by
  constructor
  · rintro ⟨fields, htext, -⟩
    by_contra h
    have hstops := scan_toJson (scan_jsonMembers_of_not_allFinite h true)
    have hcrossed : scan .outside (toJson [] obj) = some .outside := crossed_text htext
    rw [hstops] at hcrossed
    cases hcrossed
  · intro h
    obtain ⟨fields, hcorresponds, hlisted⟩ := listed_of_allFinite h
    have htext := IsText.mk isSpace_nil (isValue_toJson hlisted) isSpace_nil
    exact ⟨fields, by simpa using htext, hcorresponds⟩

/-- `struct { double x; }` with an infinite `x` prints as no JSON text at all. -/
theorem toJson_infinity : ¬ ∃ node, IsText
    (toJson [] (.scalar #v[0, 0, 0, 0, 0, 0, 0xf0, 0x7f] .nil :
      Object (.scalar ⟨"x", by decide, isIdentifier_of_all (by decide)⟩
        (.floating binary64) .nil))) node := by
  rintro ⟨node, htext⟩
  exact absurd (crossed_text htext) (by unfold Crossed; decide)

end ReflectNanobind.Serde
