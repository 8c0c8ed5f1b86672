import Mathlib.Algebra.Order.Ring.Int
import Mathlib.Tactic.Linarith

/-!
# Rounding an integer quotient

Integer code rounds a quotient by adding half the divisor before a division that truncates.  The
result is an integer that no other is nearer than, and so it stays between two integers whenever the
quotient does.
-/

namespace GbCycle

/-- An integer that a quotient can be rounded to: none is nearer. -/
def RoundsTo (value : Int) (divisor : Nat) (rounded : Int) : Prop :=
  2 * (divisor * rounded - value) ≤ divisor ∧ 2 * (value - divisor * rounded) ≤ divisor

/-- The nearest integer to a quotient, half away from zero. -/
def roundedQuotient (value : Int) (divisor : Nat) : Int :=
  if 0 ≤ value then (value + divisor / 2).tdiv divisor else (value - divisor / 2).tdiv divisor

theorem roundsTo_roundedQuotient (value : Int) {divisor : Nat} (hpos : 0 < divisor) :
    RoundsTo value divisor (roundedQuotient value divisor) := by
  have hdivisor : (0 : Int) < divisor := by exact_mod_cast hpos
  have hnearest : ∀ v : Int, 0 ≤ v →
      RoundsTo v divisor ((v + divisor / 2).tdiv divisor) := by
    intro v hv
    rw [Int.tdiv_eq_ediv_of_nonneg (by omega)]
    have hdivision := Int.mul_ediv_add_emod (v + divisor / 2) divisor
    have hnonneg := Int.emod_nonneg (v + divisor / 2) (ne_of_gt hdivisor)
    have hlt := Int.emod_lt_of_pos (v + divisor / 2) hdivisor
    unfold RoundsTo
    generalize (v + (divisor : Int) / 2) % divisor = r at hdivision hnonneg hlt
    generalize (divisor : Int) * ((v + divisor / 2) / divisor) = q at hdivision ⊢
    omega
  unfold roundedQuotient
  by_cases hv : 0 ≤ value
  · rw [if_pos hv]
    exact hnearest value hv
  · rw [if_neg hv]
    have hneg : (value - divisor / 2).tdiv divisor =
        -((-value + (divisor : Int) / 2).tdiv divisor) := by
      rw [← Int.neg_tdiv]
      congr 1
      omega
    obtain ⟨hbelow, habove⟩ := hnearest (-value) (by omega)
    unfold RoundsTo
    rw [hneg, Int.mul_neg]
    omega

/-- What is a multiple, or between two, is rounded to it, or between them. -/
theorem RoundsTo.between {value rounded lower upper : Int} {divisor : Nat} (hpos : 0 < divisor)
    (h : RoundsTo value divisor rounded) (hlower : divisor * lower ≤ value)
    (hupper : value ≤ divisor * upper) : lower ≤ rounded ∧ rounded ≤ upper := by
  have hdivisor : (0 : Int) < divisor := by exact_mod_cast hpos
  obtain ⟨hbelow, habove⟩ := h
  constructor
  · by_contra hlt
    have hstep : (divisor : Int) * rounded + divisor ≤ divisor * lower := by
      have := Int.mul_le_mul_of_nonneg_left (show rounded + 1 ≤ lower by omega) hdivisor.le
      rwa [Int.mul_add, Int.mul_one] at this
    omega
  · by_contra hlt
    have hstep : (divisor : Int) * upper + divisor ≤ divisor * rounded := by
      have := Int.mul_le_mul_of_nonneg_left (show upper + 1 ≤ rounded by omega) hdivisor.le
      rwa [Int.mul_add, Int.mul_one] at this
    omega

end GbCycle
