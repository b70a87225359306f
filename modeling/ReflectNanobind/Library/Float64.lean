import Mathlib.Data.Rat.Floor
import Mathlib.Algebra.Order.Field.Rat

/-!
# IEEE binary64 numbers and numeric equality

A binary64 number by its three fields, the number that it stands for, and the equality under which
integers and floats are compared exactly: a NaN differs from itself, the two zeros are equal, and an
integer equals a float of the same value.
-/

namespace ReflectNanobind.Library

/-- What a number object stands for. -/
inductive Numeric where
  | nan
  | infinite (negative : Bool)
  | rational (value : ℚ)
  deriving DecidableEq

namespace Numeric

/-- Equality of numbers; a NaN is not equal to itself. -/
def equal (left right : Numeric) : Bool := left ≠ .nan && left == right

theorem equal_iff {left right : Numeric} : left.equal right = true ↔ left ≠ .nan ∧ left = right := by
  simp [equal]

theorem equal_self_iff {number : Numeric} : number.equal number = true ↔ number ≠ .nan := by
  simp [equal]

/-- The integer part, towards zero. -/
def truncate (value : ℚ) : ℤ := value.num.tdiv value.den

theorem truncate_intCast (value : ℤ) : truncate (value : ℚ) = value := by
  simp [truncate]

/-- The integer that a number is cut off to, if it has one. -/
def toInt? : Numeric → Option ℤ
  | .rational value => some (truncate value)
  | .infinite _ | .nan => none

end Numeric

structure Float64 where
  negative : Bool
  exponent : Fin (2 ^ 11)
  fraction : Fin (2 ^ 52)
  deriving DecidableEq

namespace Float64

/-- The exponent field of all ones marks the infinities and the NaNs. -/
def isSpecial (x : Float64) : Bool := x.exponent.val == 2047

/-- The value of a finite number: subnormals lack the hidden bit. -/
def magnitude (x : Float64) : ℚ :=
  if x.exponent.val = 0 then (x.fraction.val : ℚ) / 2 ^ 1074
  else ((2 ^ 52 + x.fraction.val : ℕ) : ℚ) * 2 ^ x.exponent.val / 2 ^ 1075

def numeric (x : Float64) : Numeric :=
  if x.isSpecial then
    if x.fraction.val = 0 then .infinite x.negative else .nan
  else .rational (if x.negative then -x.magnitude else x.magnitude)

def infinity : Float64 := ⟨false, 2047, 0⟩

def quietNan : Float64 := ⟨false, 2047, ⟨2 ^ 51, by decide⟩⟩

end Float64

end ReflectNanobind.Library
