import Mathlib.Data.Nat.Digits.Lemmas
import ReflectNanobind.Library.RadixForm
import ReflectNanobind.Serde.Binary
import ReflectNanobind.Serde.ToJson

/-!
# Structural equality

`equal` of `serialize_poc.cpp`, with which the demonstration reports that a round trip is equal.  The
fields are compared by value, as `==` does it, and not by their bytes: a NaN differs from itself, and
the two zeros are equal.  Up to these two the comparison is that of the encodings, because an
interchange format has one object for every number.
-/

namespace ReflectNanobind.Serde

open Library

/-! ## Comparison of fields -/

/-- A finite floating-point value over a common exponent that is not above its own. -/
def scaledTo (low : ℤ) (negative : Bool) (mantissa : ℕ) (exponent : ℤ) : ℤ :=
  (if negative then -1 else 1) * (mantissa * 2 ^ (exponent - low).toNat : ℕ)

/-- `==` of floating-point numbers. -/
def FloatValue.equal : FloatValue → FloatValue → Bool
  | .finite negative mantissa exponent, .finite negative' mantissa' exponent' =>
      let low := min exponent exponent'
      scaledTo low negative mantissa exponent == scaledTo low negative' mantissa' exponent'
  | .infinite negative, .infinite negative' => negative == negative'
  | _, _ => false

/-- `==` of two arithmetic fields of one type. -/
def equalScalar : (type : Arithmetic) → Bytes type.size → Bytes type.size → Bool
  | .bool, fa, fb => boolValue fa == boolValue fb
  | .integer _ signed, fa, fb => integerValue signed fa == integerValue signed fb
  | .floating format, fa, fb => (format.value fa).equal (format.value fb)

/-- The loop over the members with its accumulator. -/
def equalMembers (eq : Bool) : {members : Members} → Object members → Object members → Bool
  | .nil, .nil, .nil => eq
  | .scalar _ type _, .scalar fa as, .scalar fb bs => equalMembers (eq && equalScalar type fa fb) as bs
  | .aggregate _ _ _, .aggregate fa as, .aggregate fb bs =>
      -- `equal` of the nested aggregates
      equalMembers (eq && equalMembers true fa fb) as bs

def equal {members : Members} (a b : Object members) : Bool := equalMembers true a b

example : equal demoEntity demoEntity = true := by decide

/-! ## Numbers -/

/-- The number of a finite floating-point value. -/
def finiteNumber (negative : Bool) (mantissa : ℕ) (exponent : ℤ) : ℚ :=
  (if negative then -1 else 1) * (mantissa * ((2 : ℕ) : ℚ) ^ exponent)

theorem scaledTo_number {low exponent : ℤ} (h : low ≤ exponent) (negative : Bool) (mantissa : ℕ) :
    (scaledTo low negative mantissa exponent : ℚ) * ((2 : ℕ) : ℚ) ^ low =
      finiteNumber negative mantissa exponent := by
  have hpower : ((2 : ℕ) : ℚ) ^ exponent = (2 : ℕ) ^ (exponent - low).toNat * (2 : ℕ) ^ low := by
    rw [← zpow_natCast, ← zpow_add₀ (by norm_num)]
    congr 1
    omega
  rw [finiteNumber, hpower, scaledTo]
  cases negative <;> push_cast <;> ring

/-- What `==` compares: nothing of a NaN, and else the number or the sign of the infinity. -/
def FloatValue.compared : FloatValue → Option (ℚ ⊕ Bool)
  | .finite negative mantissa exponent => some (.inl (finiteNumber negative mantissa exponent))
  | .infinite negative => some (.inr negative)
  | .nan _ => none

theorem FloatValue.equal_iff (value value' : FloatValue) :
    value.equal value' = true ↔ value.compared ≠ none ∧ value.compared = value'.compared := by
  cases value with
  | nan negative => simp [equal, compared]
  | infinite negative => cases value' <;> simp [equal, compared]
  | finite negative mantissa exponent =>
      cases value' with
      | nan negative' => simp [equal, compared]
      | infinite negative' => simp [equal, compared]
      | finite negative' mantissa' exponent' =>
          have hpower : ((2 : ℕ) : ℚ) ^ min exponent exponent' ≠ 0 := zpow_ne_zero _ (by norm_num)
          have hscaled := scaledTo_number (min_le_left exponent exponent') negative mantissa
          have hscaled' := scaledTo_number (min_le_right exponent exponent') negative' mantissa'
          simp only [equal, compared, beq_iff_eq, ne_eq, reduceCtorEq, not_false_eq_true, true_and,
            Option.some.injEq, Sum.inl.injEq, ← hscaled, ← hscaled', mul_left_inj' hpower,
            Int.cast_inj]

/-! ## Interchange formats -/

/-- The value that the three fields of an interchange format stand for. -/
def fieldsValue (exponentBits fractionBits : ℕ) (negative : Bool) (exponent fraction : ℕ) :
    FloatValue :=
  let bias : ℤ := 2 ^ (exponentBits - 1) - 1
  if exponent = 2 ^ exponentBits - 1 then
    if fraction = 0 then .infinite negative else .nan negative
  else if exponent = 0 then .finite negative fraction (1 - bias - fractionBits)
  else .finite negative (2 ^ fractionBits + fraction) (exponent - bias - fractionBits)

def negativeOf (exponentBits fractionBits number : ℕ) : Bool :=
  number / 2 ^ (fractionBits + exponentBits) % 2 == 1

def exponentOf (exponentBits fractionBits number : ℕ) : ℕ :=
  number / 2 ^ fractionBits % 2 ^ exponentBits

def fractionOf (fractionBits number : ℕ) : ℕ := number % 2 ^ fractionBits

/-- The value of an object of an interchange format. -/
def interchangeValue (exponentBits fractionBits : ℕ) {size : ℕ} (bytes : Bytes size) : FloatValue :=
  let number := littleEndian bytes.toList
  fieldsValue exponentBits fractionBits (negativeOf exponentBits fractionBits number)
    (exponentOf exponentBits fractionBits number) (fractionOf fractionBits number)

/-- The three fields make up the number. -/
theorem fields_ext {exponentBits fractionBits number number' : ℕ}
    (h : number < 2 ^ (1 + exponentBits + fractionBits))
    (h' : number' < 2 ^ (1 + exponentBits + fractionBits))
    (hnegative : negativeOf exponentBits fractionBits number =
      negativeOf exponentBits fractionBits number')
    (hexponent : exponentOf exponentBits fractionBits number =
      exponentOf exponentBits fractionBits number')
    (hfraction : fractionOf fractionBits number = fractionOf fractionBits number') :
    number = number' := by
  have hsign : number / 2 ^ (fractionBits + exponentBits) =
      number' / 2 ^ (fractionBits + exponentBits) := by
    have hwidth : 1 + exponentBits + fractionBits = fractionBits + exponentBits + 1 := by omega
    rw [hwidth, pow_succ] at h h'
    have hlt := Nat.div_lt_of_lt_mul h
    have hlt' := Nat.div_lt_of_lt_mul h'
    simp only [negativeOf] at hnegative
    grind
  have hhigh : number / 2 ^ fractionBits = number' / 2 ^ fractionBits := by
    rw [← Nat.div_add_mod (number / 2 ^ fractionBits) (2 ^ exponentBits),
      ← Nat.div_add_mod (number' / 2 ^ fractionBits) (2 ^ exponentBits), Nat.div_div_eq_div_mul,
      Nat.div_div_eq_div_mul, ← pow_add, hsign]
    exact congrArg _ hexponent
  rw [← Nat.div_add_mod number (2 ^ fractionBits), ← Nat.div_add_mod number' (2 ^ fractionBits),
    hhigh]
  exact congrArg _ hfraction

/-- The mantissa and the exponent of a finite value; exponent 0 is that of the subnormal numbers. -/
def significand (fractionBits exponent fraction : ℕ) : ℕ :=
  if exponent = 0 then fraction else 2 ^ fractionBits + fraction

def scale (exponentBits fractionBits exponent : ℕ) : ℤ :=
  (if exponent = 0 then 1 else exponent : ℕ) - (2 ^ (exponentBits - 1) - 1) - fractionBits

theorem fieldsValue_finite {exponentBits exponent : ℕ} (fractionBits fraction : ℕ) (negative : Bool)
    (h : exponent ≠ 2 ^ exponentBits - 1) :
    fieldsValue exponentBits fractionBits negative exponent fraction =
      .finite negative (significand fractionBits exponent fraction)
        (scale exponentBits fractionBits exponent) := by
  rw [fieldsValue, if_neg h, significand, scale]
  split <;> simp

theorem fieldsValue_special {exponentBits exponent : ℕ} (fractionBits fraction : ℕ)
    (negative : Bool) (h : exponent = 2 ^ exponentBits - 1) :
    (fieldsValue exponentBits fractionBits negative exponent fraction).compared =
      if fraction = 0 then some (.inr negative) else none := by
  rw [fieldsValue, if_pos h]
  split <;> rfl

theorem isCanonical_significand (exponentBits exponent : ℕ) {fractionBits fraction : ℕ}
    (h : fraction < 2 ^ fractionBits) :
    IsCanonical 2 fractionBits (scale exponentBits fractionBits 0)
      (significand fractionBits exponent fraction) (scale exponentBits fractionBits exponent) := by
  by_cases hzero : exponent = 0
  · subst hzero
    exact ⟨by rw [significand, if_pos rfl, pow_succ]; omega, le_rfl, .inr rfl⟩
  · refine ⟨?_, ?_, .inl ?_⟩
    · rw [significand, if_neg hzero, pow_succ]
      omega
    · simp only [scale, if_neg hzero, if_true]
      omega
    · rw [significand, if_neg hzero]
      exact Nat.le_add_right _ _

/-- The canonical form gives the two fields back. -/
theorem significand_inj {exponentBits fractionBits exponent fraction exponent' fraction' : ℕ}
    (h : fraction < 2 ^ fractionBits) (h' : fraction' < 2 ^ fractionBits)
    (hsignificand : significand fractionBits exponent fraction =
      significand fractionBits exponent' fraction')
    (hscale : scale exponentBits fractionBits exponent =
      scale exponentBits fractionBits exponent') :
    exponent = exponent' ∧ fraction = fraction' := by
  simp only [significand] at hsignificand
  simp only [scale] at hscale
  grind

/-- The number of a finite value without its sign. -/
theorem abs_finiteNumber (negative : Bool) (mantissa : ℕ) (exponent : ℤ) :
    |finiteNumber negative mantissa exponent| = mantissa * ((2 : ℕ) : ℚ) ^ exponent := by
  have hpower : (0 : ℚ) ≤ mantissa * ((2 : ℕ) : ℚ) ^ exponent :=
    mul_nonneg (Nat.cast_nonneg _) (zpow_nonneg (by norm_num) _)
  cases negative with
  | false => rw [finiteNumber, if_neg Bool.false_ne_true, one_mul, abs_of_nonneg hpower]
  | true => rw [finiteNumber, if_pos rfl, neg_one_mul, abs_neg, abs_of_nonneg hpower]

/-- The sign belongs to the number unless it is zero. -/
theorem finiteNumber_sign {negative negative' : Bool} {mantissa : ℕ} {exponent : ℤ}
    (h : finiteNumber negative mantissa exponent = finiteNumber negative' mantissa exponent) :
    negative = negative' ∨ mantissa = 0 := by
  have hpower : ((2 : ℕ) : ℚ) ^ exponent ≠ 0 := zpow_ne_zero _ (by norm_num)
  cases negative <;> cases negative' <;> simp_all [finiteNumber, self_eq_neg, neg_eq_self]

def FloatValue.isZero : FloatValue → Bool
  | .finite _ mantissa _ => mantissa == 0
  | _ => false

/-- Values that compare equal have the same fields, or both are zeros. -/
theorem fieldsValue_compared {exponentBits fractionBits exponent fraction exponent' fraction' : ℕ}
    {negative negative' : Bool} (h : fraction < 2 ^ fractionBits)
    (h' : fraction' < 2 ^ fractionBits)
    (hsome : (fieldsValue exponentBits fractionBits negative exponent fraction).compared ≠ none)
    (hcompared : (fieldsValue exponentBits fractionBits negative exponent fraction).compared =
      (fieldsValue exponentBits fractionBits negative' exponent' fraction').compared) :
    negative = negative' ∧ exponent = exponent' ∧ fraction = fraction' ∨
      (fieldsValue exponentBits fractionBits negative exponent fraction).isZero = true ∧
        (fieldsValue exponentBits fractionBits negative' exponent' fraction').isZero = true := by
  by_cases hspecial : exponent = 2 ^ exponentBits - 1
  · left
    rw [fieldsValue_special _ _ _ hspecial] at hsome hcompared
    by_cases hspecial' : exponent' = 2 ^ exponentBits - 1
    · rw [fieldsValue_special _ _ _ hspecial'] at hcompared
      by_cases hzero : fraction = 0 <;> by_cases hzero' : fraction' = 0 <;> simp_all
    · rw [fieldsValue_finite _ _ _ hspecial'] at hcompared
      split at hcompared <;> simp [FloatValue.compared] at hcompared
  · rw [fieldsValue_finite fractionBits fraction negative hspecial] at hcompared ⊢
    by_cases hspecial' : exponent' = 2 ^ exponentBits - 1
    · rw [fieldsValue_special _ _ _ hspecial'] at hcompared
      split at hcompared <;> simp [FloatValue.compared] at hcompared
    · rw [fieldsValue_finite fractionBits fraction' negative' hspecial'] at hcompared ⊢
      simp only [FloatValue.compared, Option.some.injEq, Sum.inl.injEq] at hcompared
      have habs := congrArg abs hcompared
      rw [abs_finiteNumber, abs_finiteNumber] at habs
      obtain ⟨hsignificand, hscale⟩ := IsCanonical.unique (by norm_num)
        (isCanonical_significand exponentBits exponent h)
        (isCanonical_significand exponentBits exponent' h') habs
      obtain ⟨rfl, rfl⟩ := significand_inj h h' hsignificand hscale
      apply (finiteNumber_sign hcompared).imp
      · intro hsign
        exact ⟨hsign, rfl, rfl⟩
      · intro hzero
        simp [FloatValue.isZero, hzero]

/-- A zero is the value of the fields 0 and 0. -/
theorem fieldsValue_isZero {exponentBits fractionBits exponent fraction : ℕ} {negative : Bool}
    (h : (fieldsValue exponentBits fractionBits negative exponent fraction).isZero = true)
    (negative' : Bool) :
    (fieldsValue exponentBits fractionBits negative' 0 0).compared =
      (fieldsValue exponentBits fractionBits negative exponent fraction).compared := by
  by_cases hspecial : exponent = 2 ^ exponentBits - 1
  · rw [fieldsValue, if_pos hspecial] at h
    split at h <;> simp [FloatValue.isZero] at h
  · rw [fieldsValue_finite _ _ _ hspecial] at h ⊢
    have hzero : significand fractionBits exponent fraction = 0 := by
      simpa [FloatValue.isZero] using h
    have hfields : exponent = 0 := by
      by_contra hexponent
      rw [significand, if_neg hexponent] at hzero
      have hpos := Nat.two_pow_pos fractionBits
      omega
    have hnone : significand fractionBits 0 0 = 0 := rfl
    rw [fieldsValue_finite _ _ _ (hfields ▸ hspecial), hzero, hnone]
    simp [FloatValue.compared, finiteNumber]

/-! ## Numbers of bytes -/

theorem littleEndian_eq (bytes : List UInt8) :
    littleEndian bytes = Nat.ofDigits 256 (bytes.map UInt8.toNat) := by
  induction bytes with
  | nil => rfl
  | cons byte rest ih =>
      rw [List.map_cons, Nat.ofDigits_cons, ← ih]
      rfl

theorem digit_lt {bytes : List UInt8} {digit : ℕ} (h : digit ∈ bytes.map UInt8.toNat) :
    digit < 256 := by
  obtain ⟨byte, -, rfl⟩ := List.mem_map.mp h
  exact byte.toNat_lt

theorem littleEndian_lt {size : ℕ} (bytes : Bytes size) :
    littleEndian bytes.toList < 2 ^ (8 * size) := by
  have h := Nat.ofDigits_lt_base_pow_length (by decide) fun digit
    (hdigit : digit ∈ bytes.toList.map UInt8.toNat) ↦ digit_lt hdigit
  rw [littleEndian_eq, pow_mul]
  simpa using h

theorem littleEndian_inj {size : ℕ} {bytes bytes' : Bytes size} :
    littleEndian bytes.toList = littleEndian bytes'.toList ↔ bytes = bytes' := by
  constructor
  · intro h
    rw [littleEndian_eq, littleEndian_eq] at h
    have hdigits := Nat.ofDigits_inj_of_len_eq (by decide) (by simp) (fun _ ↦ digit_lt)
      (fun _ ↦ digit_lt) h
    exact Vector.toList_inj.mp (List.map_injective_iff.mpr (fun _ _ ↦ UInt8.toNat.inj) hdigits)
  · intro h
    rw [h]

theorem integerValue_inj {size : ℕ} (signed : Bool) {bytes bytes' : Bytes size} :
    integerValue signed bytes = integerValue signed bytes' ↔ bytes = bytes' := by
  rw [← littleEndian_inj]
  have hlt := littleEndian_lt bytes
  have hlt' := littleEndian_lt bytes'
  simp only [integerValue]
  generalize littleEndian bytes.toList = number at hlt ⊢
  generalize littleEndian bytes'.toList = number' at hlt' ⊢
  have hcast : ((2 ^ (8 * size) : ℕ) : ℤ) = 2 ^ (8 * size) := by push_cast; rfl
  rw [← hcast]
  generalize 2 ^ (8 * size) = limit at hlt hlt' ⊢
  cases signed with
  | false => simp
  | true =>
      simp only [true_and]
      split <;> split <;> omega

/-! ## Fields -/

/-- The field is a NaN. -/
def IsNan : (type : Arithmetic) → Bytes type.size → Prop
  | .bool, _ | .integer _ _, _ => False
  | .floating format, field =>
      match format.value field with
      | .finite _ _ _ | .infinite _ => False
      | .nan _ => True

/-- A `bool` object is 0 or 1. -/
def IsValid : (type : Arithmetic) → Bytes type.size → Prop
  | .bool, field => field[0] = 0 ∨ field[0] = 1
  | .integer _ _, _ | .floating _, _ => True

/-- The bits of a floating-point type are those of an interchange format, without padding. -/
def Arithmetic.IsInterchange : Arithmetic → Prop
  | .bool | .integer _ _ => True
  | .floating format => ∃ size exponentBits fractionBits,
      8 * size = 1 + exponentBits + fractionBits ∧
        format = ieeeFormat size exponentBits fractionBits

/-- The object representation with the sign of a zero removed. -/
def clearedZero {size : ℕ} (value : FloatValue) (field : Bytes size) : Bytes size :=
  if value.isZero then Vector.replicate size 0 else field

def positiveZero : (type : Arithmetic) → Bytes type.size → Bytes type.size
  | .bool, field | .integer _ _, field => field
  | .floating format, field => clearedZero (format.value field) field

theorem compared_eq_none_iff (format : FloatFormat) (field : Bytes format.size) :
    (format.value field).compared = none ↔ IsNan (.floating format) field := by
  simp only [IsNan]
  cases format.value field <;> simp [FloatValue.compared]

theorem boolValue_inj {fa fb : Bytes 1} (ha : IsValid .bool fa) (hb : IsValid .bool fb) :
    boolValue fa = boolValue fb ↔ fa = fb := by
  change fa[0] = 0 ∨ fa[0] = 1 at ha
  change fb[0] = 0 ∨ fb[0] = 1 at hb
  constructor
  · intro h
    apply Vector.ext
    intro index hindex
    obtain rfl : index = 0 := by omega
    rcases ha with ha | ha <;> rcases hb with hb | hb <;> simp_all [boolValue]
  · intro h
    rw [h]

/-- A zero's object without its sign is the zero number. -/
theorem littleEndian_replicate (size : ℕ) :
    littleEndian (Vector.replicate size (0 : UInt8)).toList = 0 := by
  rw [littleEndian_eq]
  simp [Nat.ofDigits_replicate_zero]

section Interchange

variable {size : ℕ} (exponentBits fractionBits : ℕ) (fa fb : Bytes size)

/-- The sign of a zero does not matter to `==`. -/
theorem compared_clearedZero :
    (interchangeValue exponentBits fractionBits
        (clearedZero (interchangeValue exponentBits fractionBits fa) fa)).compared =
      (interchangeValue exponentBits fractionBits fa).compared := by
  rw [clearedZero]
  split
  next hzero =>
    have hexponent : exponentOf exponentBits fractionBits 0 = 0 := by simp [exponentOf]
    have hfraction : fractionOf fractionBits 0 = 0 := by simp [fractionOf]
    rw [interchangeValue, littleEndian_replicate]
    simp only [hexponent, hfraction]
    exact fieldsValue_isZero hzero _
  next => rfl

/-- And nothing else is lost by comparing numbers. -/
theorem compared_iff (hwidth : 8 * size = 1 + exponentBits + fractionBits)
    (hsome : (interchangeValue exponentBits fractionBits fa).compared ≠ none) :
    (interchangeValue exponentBits fractionBits fa).compared =
        (interchangeValue exponentBits fractionBits fb).compared ↔
      clearedZero (interchangeValue exponentBits fractionBits fa) fa =
        clearedZero (interchangeValue exponentBits fractionBits fb) fb := by
  constructor
  · intro h
    have hpos := Nat.two_pow_pos fractionBits
    have hlt := littleEndian_lt fa
    have hlt' := littleEndian_lt fb
    rw [hwidth] at hlt hlt'
    rcases fieldsValue_compared (Nat.mod_lt _ hpos) (Nat.mod_lt _ hpos) hsome h with hfields | hzeros
    · obtain ⟨hnegative, hexponent, hfraction⟩ := hfields
      have hsame : fa = fb :=
        littleEndian_inj.mp (fields_ext hlt hlt' hnegative hexponent hfraction)
      rw [hsame]
    · exact (if_pos hzeros.1).trans (if_pos hzeros.2).symm
  · intro h
    rw [← compared_clearedZero, h, compared_clearedZero]

end Interchange

/-- `==` of two fields is equality of their bytes up to the sign of zeros, and false for a NaN. -/
theorem equalScalar_iff {type : Arithmetic} (htype : type.IsInterchange)
    {fa fb : Bytes type.size} (ha : IsValid type fa) (hb : IsValid type fb) :
    equalScalar type fa fb = true ↔
      ¬ IsNan type fa ∧ positiveZero type fa = positiveZero type fb := by
  cases type with
  | bool =>
      have hinj := boolValue_inj ha hb
      simp only [equalScalar, IsNan, positiveZero, beq_iff_eq, not_false_eq_true, true_and]
      exact hinj
  | integer size signed => simp [equalScalar, IsNan, positiveZero, integerValue_inj]
  | floating format =>
      obtain ⟨size, exponentBits, fractionBits, hwidth, rfl⟩ := htype
      calc
        equalScalar _ fa fb = true ↔ _ := FloatValue.equal_iff _ _
        _ ↔ _ := and_congr_right (compared_iff exponentBits fractionBits fa fb hwidth)
        _ ↔ _ := and_congr_left' (not_congr (compared_eq_none_iff _ fa))

/-! ## Objects -/

/-- No floating-point field, at any depth, is a NaN. -/
def Object.NanFree : {members : Members} → Object members → Prop
  | _, .nil => True
  | .scalar _ type _, .scalar field others => ¬ IsNan type field ∧ others.NanFree
  | _, .aggregate field others => field.NanFree ∧ others.NanFree

/-- All fields are valid objects of their types. -/
def Object.Valid : {members : Members} → Object members → Prop
  | _, .nil => True
  | .scalar _ type _, .scalar field others => IsValid type field ∧ others.Valid
  | _, .aggregate field others => field.Valid ∧ others.Valid

/-- All floating-point members are of interchange formats. -/
def Members.IsInterchange : Members → Prop
  | .nil => True
  | .scalar _ type rest => type.IsInterchange ∧ rest.IsInterchange
  | .aggregate _ inner rest => inner.IsInterchange ∧ rest.IsInterchange

/-- The object with positive zeros in place of all zeros. -/
def Object.positiveZeros : {members : Members} → Object members → Object members
  | _, .nil => .nil
  | .scalar _ type _, .scalar field others => .scalar (positiveZero type field) others.positiveZeros
  | _, .aggregate field others => .aggregate field.positiveZeros others.positiveZeros

/-- The loop goes on comparing after a difference, and keeps it. -/
theorem equalMembers_eq {members : Members} (eq : Bool) (a b : Object members) :
    equalMembers eq a b = (eq && equal a b) := by
  induction a generalizing eq with
  | nil =>
      cases b
      simp [equalMembers, equal]
  | scalar fa as ih =>
      cases b
      rw [equal, equalMembers, equalMembers, ih, ih, Bool.true_and, Bool.and_assoc]
  | aggregate fa as ihField ihOthers =>
      cases b
      rw [equal, equalMembers, equalMembers, ihOthers, ihOthers, Bool.true_and, Bool.and_assoc]

section Members

variable {name : Identifier} {type : Arithmetic} {inner rest : Members} (as bs : Object rest)

theorem equal_scalar (fa fb : Bytes type.size) :
    equal (.scalar fa as : Object (.scalar name type rest)) (.scalar fb bs) =
      (equalScalar type fa fb && equal as bs) := by
  rw [equal, equalMembers, Bool.true_and, equalMembers_eq]

theorem equal_aggregate (fa fb : Object inner) :
    equal (.aggregate fa as : Object (.aggregate name inner rest)) (.aggregate fb bs) =
      (equal fa fb && equal as bs) := by
  rw [equal, equalMembers, Bool.true_and, equalMembers_eq]
  rfl

end Members

/-- Encodings of one shape are the same only for the same object. -/
theorem toBytes_inj {members : Members} {a b : Object members} :
    toBytes a = toBytes b ↔ a = b := by
  constructor
  · intro h
    rw [toBytes, toBytes, write_eq, write_eq, List.nil_append, List.nil_append] at h
    -- in a memory that holds the bytes from address 0 on lies one object
    have hholds : Holds (fun address ↦ b.leaves.flatten.getD address 0) 0 b.leaves.flatten := by
      intro index hindex
      simp only [Nat.zero_add, List.getD_eq_getElem?_getD, List.getElem?_eq_getElem hindex,
        Option.getD_some]
    exact ((at_eq_iff _ 0 a).mpr (h ▸ hholds)).symm.trans ((at_eq_iff _ 0 b).mpr hholds)
  · intro h
    rw [h]

/-- Structural equality is equality of the encodings up to the signs of zeros, on objects without a
NaN; an object with a NaN is equal to no object. -/
theorem equal_iff_toBytes {members : Members} (hmembers : members.IsInterchange)
    {a b : Object members} (ha : a.Valid) (hb : b.Valid) :
    equal a b = true ↔ a.NanFree ∧ toBytes a.positiveZeros = toBytes b.positiveZeros := by
  rw [toBytes_inj]
  induction a with
  | nil =>
      cases b
      simp [equal, equalMembers, Object.NanFree]
  | scalar fa as ih =>
      cases b with | scalar fb bs =>
      rw [equal_scalar, Bool.and_eq_true, equalScalar_iff hmembers.1 ha.1 hb.1,
        ih hmembers.2 ha.2 hb.2, Object.NanFree, Object.positiveZeros, Object.positiveZeros,
        Object.scalar.injEq, and_and_and_comm]
  | aggregate fa as ihField ihOthers =>
      cases b with | aggregate fb bs =>
      rw [equal_aggregate, Bool.and_eq_true, ihField hmembers.1 ha.1 hb.1,
        ihOthers hmembers.2 ha.2 hb.2, Object.NanFree, Object.positiveZeros, Object.positiveZeros,
        Object.aggregate.injEq, and_and_and_comm]

/-- An entity at (y, y, y). -/
def entityAt (y : Bytes 8) : Object entity :=
  .scalar (Vector.replicate 4 0) <| .scalar (Vector.replicate 1 1) <|
    .aggregate (.scalar y <| .scalar y <| .scalar y .nil) <| .scalar (Vector.replicate 4 0) .nil

theorem entity_isInterchange : entity.IsInterchange :=
  ⟨trivial, trivial,
    ⟨⟨8, 11, 52, by decide, rfl⟩, ⟨8, 11, 52, by decide, rfl⟩, ⟨8, 11, 52, by decide, rfl⟩, trivial⟩,
    ⟨4, 8, 23, by decide, rfl⟩, trivial⟩

theorem entityAt_valid (y : Bytes 8) : (entityAt y).Valid :=
  ⟨trivial, .inr (by decide), ⟨trivial, trivial, trivial, trivial⟩, trivial, trivial⟩

/-- The origin and the origin with negative zeros, whose bytes differ. -/
theorem equal_iff_toBytes_zeros :
    (entityAt (Vector.replicate 8 0)).NanFree ∧
      toBytes (entityAt (Vector.replicate 8 0)).positiveZeros =
        toBytes (entityAt #v[0, 0, 0, 0, 0, 0, 0, 0x80]).positiveZeros :=
  (equal_iff_toBytes entity_isInterchange (entityAt_valid _) (entityAt_valid _)).mp (by decide)

/-! ## Round trips -/

theorem equalScalar_self_iff (type : Arithmetic) (field : Bytes type.size) :
    equalScalar type field field = true ↔ ¬ IsNan type field := by
  cases type with
  | bool => simp [equalScalar, IsNan]
  | integer size signed => simp [equalScalar, IsNan]
  | floating format =>
      calc
        equalScalar _ field field = true ↔ _ := FloatValue.equal_iff _ _
        _ ↔ _ := and_iff_left rfl
        _ ↔ _ := not_congr (compared_eq_none_iff _ field)

theorem equalScalar_comm (type : Arithmetic) (fa fb : Bytes type.size) :
    equalScalar type fa fb = equalScalar type fb fa := by
  cases type with
  | bool => exact Bool.beq_comm
  | integer size signed => exact BEq.comm
  | floating format =>
      rw [Bool.eq_iff_iff]
      apply (FloatValue.equal_iff _ _).trans (Iff.trans _ (FloatValue.equal_iff _ _).symm)
      constructor <;> exact fun h ↦ ⟨h.2 ▸ h.1, h.2.symm⟩

theorem equalScalar_trans {type : Arithmetic} {fa fb fc : Bytes type.size}
    (hab : equalScalar type fa fb = true) (hbc : equalScalar type fb fc = true) :
    equalScalar type fa fc = true := by
  cases type with
  | bool => simp_all [equalScalar]
  | integer size signed => simp_all [equalScalar]
  | floating format =>
      have h := (FloatValue.equal_iff _ _).mp hab
      have h' := (FloatValue.equal_iff _ _).mp hbc
      exact (FloatValue.equal_iff _ _).mpr ⟨h.1, h.2.trans h'.2⟩

theorem equal_self_iff {members : Members} (obj : Object members) :
    equal obj obj = true ↔ obj.NanFree := by
  induction obj with
  | nil => simp [equal, equalMembers, Object.NanFree]
  | scalar field others ih =>
      rw [equal_scalar, Bool.and_eq_true, equalScalar_self_iff, ih, Object.NanFree]
  | aggregate field others ihField ihOthers =>
      rw [equal_aggregate, Bool.and_eq_true, ihField, ihOthers, Object.NanFree]

theorem equal_comm {members : Members} (a b : Object members) : equal a b = equal b a := by
  induction a with
  | nil => cases b; rfl
  | scalar fa as ih =>
      cases b with | scalar fb bs =>
      rw [equal_scalar, equal_scalar, ih, equalScalar_comm]
  | aggregate fa as ihField ihOthers =>
      cases b with | aggregate fb bs =>
      rw [equal_aggregate, equal_aggregate, ihField, ihOthers]

theorem equal_trans {members : Members} {a b c : Object members} (hab : equal a b = true)
    (hbc : equal b c = true) : equal a c = true := by
  induction a with
  | nil => cases b; exact hbc
  | scalar fa as ih =>
      cases b with | scalar fb bs =>
      cases c with | scalar fc cs =>
      rw [equal_scalar, Bool.and_eq_true] at hab hbc ⊢
      exact ⟨equalScalar_trans hab.1 hbc.1, ih hab.2 hbc.2⟩
  | aggregate fa as ihField ihOthers =>
      cases b with | aggregate fb bs =>
      cases c with | aggregate fc cs =>
      rw [equal_aggregate, Bool.and_eq_true] at hab hbc ⊢
      exact ⟨ihField hab.1 hbc.1, ihOthers hab.2 hbc.2⟩

/-- Equality is symmetric and transitive, and an object is equal to what is read back from its encoding
exactly when it holds no NaN: there the demonstration would report an unequal round trip of equal
bytes. -/
theorem equal_fromBytes_iff (members : Members) :
    (∀ a b : Object members, equal a b = equal b a) ∧
      (∀ a b c : Object members, equal a b = true → equal b c = true → equal a c = true) ∧
      ∀ (e : Object members) (memory : Memory) (data : ℕ), Holds memory data (toBytes e) →
        (equal e ((fromBytes members data (toBytes e)).run memory.handler ()).1 = true ↔
          e.NanFree) := by
  refine ⟨equal_comm, fun _ _ _ ↦ equal_trans, fun e memory data hholds ↦ ?_⟩
  have hback : ((fromBytes members data (toBytes e)).run memory.handler ()).1 = e := by
    rw [fromBytes_run]
    rw [toBytes, write_eq, List.nil_append] at hholds
    exact (at_eq_iff memory data e).mpr hholds
  rw [hback, equal_self_iff]

/-- The round trip of the demonstration. -/
theorem equal_fromBytes_demoEntity : demoEntity.NanFree :=
  ((equal_fromBytes_iff entity).2.2 demoEntity demoMemory 65 (by unfold Holds; decide)).mp (by decide)

end ReflectNanobind.Serde
