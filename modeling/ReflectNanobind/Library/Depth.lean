import Mathlib.Data.Nat.Notation
import Mathlib.Tactic.Choose

/-!
# Computations with a bounded recursion depth

A computation that is given the number of nested calls it may make, and that has no result when it
would need more.  It settles at a bound when every larger depth gives one and the same result, which may
be an exception.
-/

namespace ReflectNanobind.Library

variable {ε α β : Type}

/-- No outcome when the depth runs out, otherwise a value or an exception. -/
abbrev Bounded (ε α : Type) := ExceptT ε Option α

namespace Bounded

def outOfDepth : Bounded ε α := ExceptT.mk none

def ofExcept (outcome : Except ε α) : Bounded ε α := ExceptT.mk (some outcome)

/-- With every depth from the bound on, the computation ends with this outcome. -/
def SettlesWith (bound : ℕ) (computation : ℕ → Bounded ε α) (outcome : Except ε α) : Prop :=
  ∀ depth, bound ≤ depth → (computation depth).run = some outcome

/-- From the bound on, the computation ends and no longer depends on the depth. -/
def Settles (bound : ℕ) (computation : ℕ → Bounded ε α) : Prop :=
  ∃ outcome, SettlesWith bound computation outcome

section Rules

variable {bound : ℕ}

theorem settlesWith_pure (value : α) :
    SettlesWith bound (fun _ ↦ (pure value : Bounded ε α)) (.ok value) :=
  fun _ _ ↦ rfl

theorem settlesWith_ofExcept (outcome : Except ε α) :
    SettlesWith bound (fun _ ↦ ofExcept outcome) outcome :=
  fun _ _ ↦ rfl

theorem SettlesWith.bind {computation : ℕ → Bounded ε α} {outcome : Except ε α}
    (hfirst : SettlesWith bound computation outcome) {next : ℕ → α → Bounded ε β}
    {final : α → Except ε β} (hnext : ∀ value, outcome = .ok value →
      SettlesWith bound (fun depth ↦ next depth value) (final value)) :
    SettlesWith bound (fun depth ↦ computation depth >>= next depth) (outcome >>= final) := by
  intro depth hdepth
  rw [ExceptT.run_bind, hfirst depth hdepth, Option.bind_eq_bind, Option.bind_some]
  cases outcome with
  | error raised => rfl
  | ok value => exact hnext value rfl depth hdepth

theorem Settles.bind {computation : ℕ → Bounded ε α} (hfirst : Settles bound computation)
    {next : ℕ → α → Bounded ε β} (hnext : ∀ value, Settles bound fun depth ↦ next depth value) :
    Settles bound fun depth ↦ computation depth >>= next depth := by
  obtain ⟨outcome, hfirst⟩ := hfirst
  choose final hfinal using hnext
  exact ⟨outcome >>= final, hfirst.bind fun value _ ↦ hfinal value⟩

theorem SettlesWith.mono {wider : ℕ} (hle : bound ≤ wider) {computation : ℕ → Bounded ε α}
    {outcome : Except ε α} (h : SettlesWith bound computation outcome) :
    SettlesWith wider computation outcome :=
  fun depth hdepth ↦ h depth (Nat.le_trans hle hdepth)

/-- A call spends one level of depth. -/
theorem SettlesWith.call {called computation : ℕ → Bounded ε α} {outcome : Except ε α}
    (h : SettlesWith bound called outcome)
    (hcall : ∀ depth, computation (depth + 1) = called depth) :
    SettlesWith (bound + 1) computation outcome := by
  intro depth hdepth
  obtain ⟨rest, rfl⟩ : ∃ rest, depth = rest + 1 := ⟨depth - 1, by omega⟩
  rw [hcall]
  exact h rest (by omega)

theorem Settles.call {called computation : ℕ → Bounded ε α} (h : Settles bound called)
    (hcall : ∀ depth, computation (depth + 1) = called depth) :
    Settles (bound + 1) computation :=
  h.imp fun _ hsettles ↦ hsettles.call hcall

/-- Two bounds for one computation are bounds for one outcome. -/
theorem SettlesWith.outcome_eq {other : ℕ} {computation : ℕ → Bounded ε α}
    {outcome outcome' : Except ε α} (h : SettlesWith bound computation outcome)
    (h' : SettlesWith other computation outcome') : outcome = outcome' := by
  have hleft := h (max bound other) (Nat.le_max_left _ _)
  have hright := h' (max bound other) (Nat.le_max_right _ _)
  exact Option.some.inj (hleft.symm.trans hright)

end Rules

end Bounded

end ReflectNanobind.Library
