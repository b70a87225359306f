import Mathlib.Algebra.Order.Field.Basic
import Mathlib.Data.Rat.Cast.Order

/-!
# Canonical radix forms

A number `mantissa * base ^ exponent` has many forms.  A format that bounds the mantissa and the exponent
singles one out: the mantissa is normal or the exponent is the lowest one.  Two such forms of one number
are the same, subnormal numbers and zero included.
-/

namespace ReflectNanobind.Library

/-- A mantissa of at most `fraction + 1` digits whose exponent cannot be lowered any further. -/
structure IsCanonical (base fraction : ℕ) (lowest : ℤ) (mantissa : ℕ) (exponent : ℤ) : Prop where
  mantissa_lt : mantissa < base ^ (fraction + 1)
  lowest_le : lowest ≤ exponent
  normal_or_lowest : base ^ fraction ≤ mantissa ∨ exponent = lowest

namespace IsCanonical

variable {K : Type*} [Field K] [LinearOrder K] [IsStrictOrderedRing K]

/-- The larger exponent belongs to a mantissa that the smaller one has no room for. -/
theorem exponent_le {base fraction : ℕ} {lowest exponent exponent' : ℤ} {mantissa mantissa' : ℕ}
    (hbase : 1 < base) (h : IsCanonical base fraction lowest mantissa exponent)
    (h' : IsCanonical base fraction lowest mantissa' exponent')
    (hvalue : (mantissa : K) * (base : K) ^ exponent = mantissa' * (base : K) ^ exponent') :
    exponent' ≤ exponent := by
  by_contra hlt
  obtain ⟨gap, hgap⟩ := Int.le.dest (Int.add_one_le_iff.mpr (not_le.mp hlt))
  have hpos : (0 : K) < base := by exact_mod_cast Nat.zero_lt_of_lt hbase
  have hnormal : base ^ fraction ≤ mantissa' := by
    apply h'.normal_or_lowest.resolve_right
    have hlowest := h.lowest_le
    omega
  have hscaled : mantissa = mantissa' * base ^ (gap + 1) := by
    have hsplit : (base : K) ^ exponent' = base ^ exponent * base ^ (gap + 1) := by
      rw [← zpow_natCast, ← zpow_add₀ hpos.ne']
      congr 1
      push_cast
      omega
    rw [hsplit, ← mul_assoc, mul_right_comm] at hvalue
    exact_mod_cast mul_right_cancel₀ (zpow_pos hpos exponent).ne' hvalue
  have htoo_large : base ^ (fraction + 1) ≤ mantissa := by
    calc
      base ^ (fraction + 1) = base ^ fraction * base := pow_succ base fraction
      _ ≤ mantissa' * base ^ (gap + 1) :=
        Nat.mul_le_mul hnormal (Nat.le_self_pow gap.succ_ne_zero base)
      _ = mantissa := hscaled.symm
  exact absurd h.mantissa_lt (not_lt.mpr htoo_large)

/-- A number has at most one canonical form. -/
theorem unique {base fraction : ℕ} {lowest exponent exponent' : ℤ} {mantissa mantissa' : ℕ}
    (hbase : 1 < base) (h : IsCanonical base fraction lowest mantissa exponent)
    (h' : IsCanonical base fraction lowest mantissa' exponent')
    (hvalue : (mantissa : K) * (base : K) ^ exponent = mantissa' * (base : K) ^ exponent') :
    mantissa = mantissa' ∧ exponent = exponent' := by
  have hexponent : exponent = exponent' :=
    le_antisymm (exponent_le hbase h' h hvalue.symm) (exponent_le hbase h h' hvalue)
  subst hexponent
  have hpos : (0 : K) < base := by exact_mod_cast Nat.zero_lt_of_lt hbase
  exact ⟨by exact_mod_cast mul_right_cancel₀ (zpow_pos hpos exponent).ne' hvalue, rfl⟩

end IsCanonical

end ReflectNanobind.Library
