import Mathlib.Algebra.Group.Nat.Defs
import Mathlib.Algebra.Ring.Int.Defs

/-!
# Aggregates of arithmetic fields

The types that `serialize_poc.cpp` walks by reflection and their objects.  An aggregate is the list of
its nonstatic data members in declaration order; a member is an arithmetic field or an aggregate again.
Objects are indexed by their member list, so that an object always has the fields of its type, and a
field is the bytes of its object representation.
-/

namespace ReflectNanobind.Serde

/-! ## Identifiers -/

/-- The characters of a C++ identifier; beyond ASCII the standard leaves a set of letters. -/
def isIdentifierChar (char : Char) : Bool :=
  char.isAlphanum || char == '_' || char == '$' || 0x80 ≤ char.toNat

structure Identifier where
  text : String
  nonempty : text ≠ ""
  chars : ∀ char ∈ text.toList, isIdentifierChar char = true

/-- A check of the characters one by one, for names that are given. -/
theorem isIdentifier_of_all {text : String} (h : text.toList.all isIdentifierChar = true) :
    ∀ char ∈ text.toList, isIdentifierChar char = true :=
  List.all_eq_true.mp h

/-! ## Arithmetic types -/

/-- The object representation of an object with `n` bytes. -/
abbrev Bytes (n : ℕ) := Vector UInt8 n

/-- What a floating-point object stands for; a finite one is `mantissa * 2 ^ exponent`. -/
inductive FloatValue where
  | finite (negative : Bool) (mantissa : ℕ) (exponent : ℤ)
  | infinite (negative : Bool)
  | nan (negative : Bool)
  deriving DecidableEq, Repr

/-- A floating-point type: its size and the meaning of its object representations. -/
structure FloatFormat where
  size : ℕ
  value : Bytes size → FloatValue

inductive Arithmetic where
  | bool
  | integer (size : ℕ) (signed : Bool)
  | floating (format : FloatFormat)

/-- `sizeof`. -/
def Arithmetic.size : Arithmetic → ℕ
  | .bool => 1
  | .integer size _ => size
  | .floating format => format.size

/-- The little-endian number of the bytes. -/
def littleEndian (bytes : List UInt8) : ℕ :=
  bytes.foldr (fun byte number ↦ byte.toNat + 256 * number) 0

/-- The value of an integer object in two's complement. -/
def integerValue (signed : Bool) {n : ℕ} (bytes : Bytes n) : ℤ :=
  let number := littleEndian bytes.toList
  if signed ∧ 2 ^ (8 * n) ≤ 2 * number then (number : ℤ) - 2 ^ (8 * n) else number

/-- An IEEE interchange format with these widths of the exponent and the fraction. -/
def ieeeFormat (size exponentBits fractionBits : ℕ) : FloatFormat where
  size := size
  value bytes :=
    let number := littleEndian bytes.toList
    let fraction := number % 2 ^ fractionBits
    let exponent := number / 2 ^ fractionBits % 2 ^ exponentBits
    let negative := number / 2 ^ (fractionBits + exponentBits) % 2 == 1
    let bias : ℤ := 2 ^ (exponentBits - 1) - 1
    if exponent = 2 ^ exponentBits - 1 then
      if fraction = 0 then .infinite negative else .nan negative
    else if exponent = 0 then .finite negative fraction (1 - bias - fractionBits)
    else .finite negative (2 ^ fractionBits + fraction) (exponent - bias - fractionBits)

/-- `float` and `double`. -/
def binary32 : FloatFormat := ieeeFormat 4 8 23

def binary64 : FloatFormat := ieeeFormat 8 11 52

/-! ## Aggregates -/

/-- `fields_of`: the nonstatic data members of an aggregate in declaration order. -/
inductive Members where
  | nil
  | scalar (name : Identifier) (type : Arithmetic) (rest : Members)
  | aggregate (name : Identifier) (inner rest : Members)

/-- An object of the aggregate with these members. -/
inductive Object : Members → Type
  | nil : Object .nil
  | scalar {name : Identifier} {type : Arithmetic} {rest : Members} (field : Bytes type.size)
      (others : Object rest) : Object (.scalar name type rest)
  | aggregate {name : Identifier} {inner rest : Members} (field : Object inner)
      (others : Object rest) : Object (.aggregate name inner rest)

/-- `T obj{}`. -/
def Object.zero : (members : Members) → Object members
  | .nil => .nil
  | .scalar _ type rest => .scalar (Vector.replicate type.size 0) (zero rest)
  | .aggregate _ inner rest => .aggregate (zero inner) (zero rest)

/-- The object representations of the fields, in declaration order. -/
def Object.leaves : {members : Members} → Object members → List (List UInt8)
  | _, .nil => []
  | _, .scalar field others => field.toList :: others.leaves
  | _, .aggregate field others => field.leaves ++ others.leaves

/-- The number of bytes that all fields take together. -/
def Members.encodedSize : Members → ℕ
  | .nil => 0
  | .scalar _ type rest => type.size + rest.encodedSize
  | .aggregate _ inner rest => inner.encodedSize + rest.encodedSize

theorem Object.length_leaves {members : Members} (obj : Object members) :
    obj.leaves.flatten.length = members.encodedSize := by
  induction obj with
  | nil => rfl
  | scalar field others ih => simp [leaves, Members.encodedSize, ih]
  | aggregate field others ihField ihOthers =>
      simp only [leaves, Members.encodedSize, List.flatten_append, List.length_append, ihField,
        ihOthers]

/-! ## The structures of the demonstration -/

/-- `struct Vec3`. -/
def vec3 : Members :=
  .scalar ⟨"x", by decide, isIdentifier_of_all (by decide)⟩ (.floating binary64) <|
    .scalar ⟨"y", by decide, isIdentifier_of_all (by decide)⟩ (.floating binary64) <|
      .scalar ⟨"z", by decide, isIdentifier_of_all (by decide)⟩ (.floating binary64) .nil

/-- `struct Entity`. -/
def entity : Members :=
  .scalar ⟨"id", by decide, isIdentifier_of_all (by decide)⟩ (.integer 4 true) <|
    .scalar ⟨"alive", by decide, isIdentifier_of_all (by decide)⟩ .bool <|
      .aggregate ⟨"position", by decide, isIdentifier_of_all (by decide)⟩ vec3 <|
        .scalar ⟨"health", by decide, isIdentifier_of_all (by decide)⟩ (.floating binary32) .nil

example : entity.encodedSize = 33 := by decide

end ReflectNanobind.Serde
