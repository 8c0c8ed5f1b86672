import GbCycle.Apu.Events
import GbCycle.Countdown

/-!
# The clock of the noise channel

A bit of a counter rises once while the counter goes round twice the bit's weight.  The hidden
counter of the noise channel goes on by one with each period of its prescaler, which counts every
second generation clock; so the rises of the chosen bit are a countdown whose period is the one that
the period timer has in closed form.
-/

namespace GbCycle

/-! ## A rising bit of a counter -/

/-- How often a counter goes on before the step at which its bit of weight `weight` rises. -/
def stepsBeforeRise (weight counter : Nat) : Nat :=
  if counter % (2 * weight) < weight then weight - 1 - counter % (2 * weight)
  else 3 * weight - 1 - counter % (2 * weight)

theorem testBit_iff (counter bit : Nat) :
    counter.testBit bit = true ↔ 2 ^ bit ≤ counter % (2 * 2 ^ bit) := by
  have hpositive : 0 < 2 ^ bit := Nat.two_pow_pos bit
  have hlt : counter % (2 * 2 ^ bit) < 2 * 2 ^ bit := Nat.mod_lt _ (by omega)
  rw [Nat.testBit_eq_decide_div_mod_eq, decide_eq_true_eq, ← Nat.mod_mul_left_div_self]
  constructor
  · intro hone
    by_contra hsmall
    rw [Nat.div_eq_of_lt (Nat.lt_of_not_le hsmall)] at hone
    exact absurd hone (by decide)
  · intro hle
    exact Nat.div_eq_of_lt_le (by omega) (by omega)

theorem succ_mod_mod (counter : Nat) {weight modulus : Nat} (hdvd : 2 * weight ∣ modulus) :
    (counter + 1) % modulus % (2 * weight) = (counter % (2 * weight) + 1) % (2 * weight) := by
  rw [Nat.mod_mod_of_dvd _ hdvd, Nat.mod_add_mod]

section Rise

variable {counter weight modulus : Nat}

/-- The bit rises with the step before which no other is left. -/
theorem rises_iff (hpositive : 0 < weight) (hdvd : 2 * weight ∣ modulus) :
    (¬ weight ≤ counter % (2 * weight) ∧ weight ≤ (counter + 1) % modulus % (2 * weight)) ↔
      stepsBeforeRise weight counter = 0 := by
  have hlt : counter % (2 * weight) < 2 * weight := Nat.mod_lt _ (by omega)
  rw [succ_mod_mod counter hdvd]
  unfold stepsBeforeRise
  generalize counter % (2 * weight) = phase at hlt ⊢
  by_cases hwrap : phase + 1 = 2 * weight
  · rw [hwrap, Nat.mod_self]
    split <;> omega
  · rw [Nat.mod_eq_of_lt (show phase + 1 < 2 * weight by omega)]
    split <;> omega

theorem stepsBeforeRise_succ (hpositive : 0 < weight) (hdvd : 2 * weight ∣ modulus)
    (hmore : stepsBeforeRise weight counter ≠ 0) :
    stepsBeforeRise weight ((counter + 1) % modulus) + 1 = stepsBeforeRise weight counter := by
  have hlt : counter % (2 * weight) < 2 * weight := Nat.mod_lt _ (by omega)
  unfold stepsBeforeRise at hmore ⊢
  rw [succ_mod_mod counter hdvd]
  generalize counter % (2 * weight) = phase at hlt hmore ⊢
  by_cases hwrap : phase + 1 = 2 * weight
  · rw [hwrap, Nat.mod_self, if_pos hpositive, if_neg (by omega)]
    omega
  · rw [Nat.mod_eq_of_lt (show phase + 1 < 2 * weight by omega)]
    split at hmore
    · rw [if_pos (by omega), if_pos (by omega)]
      omega
    · rw [if_neg (by omega), if_neg (by omega)]
      omega

end Rise

/-! ## The prescaled counter -/

/-- What clocks the feedback register of an active noise channel. -/
structure NoiseClock where
  clockShift : U8
  dividerCode : U8
  subphase : Bool
  timer : Nat
  counter : Nat

namespace NoiseClock

def bit (n : NoiseClock) : Bool := noiseCounterBit n.counter n.clockShift

def divisor (n : NoiseClock) : Nat := noiseCounterTimerReload n.dividerCode

/-- The prescaler's count, started if it stands at zero. -/
def count (n : NoiseClock) : Nat := if n.timer = 0 then n.divisor else n.timer

def tick (n : NoiseClock) : NoiseClock :=
  if n.subphase then { n with subphase := false }
  else if 1 < n.count then { n with subphase := true, timer := n.count - 1 }
  else
    { n with
      subphase := true, timer := n.divisor, counter := (n.counter + 1) % noiseCounterModulus }

theorem tick_clockShift (n : NoiseClock) : n.tick.clockShift = n.clockShift := by
  unfold tick
  split
  · rfl
  · split <;> rfl

def weight (n : NoiseClock) : Nat := 2 ^ n.clockShift.toNat

/-- The generation clocks up to and with the next at which the bit rises. -/
def clocksToRise (n : NoiseClock) : Nat :=
  2 * (n.count + stepsBeforeRise n.weight n.counter * n.divisor) - (if n.subphase then 0 else 1)

theorem divisor_ge (n : NoiseClock) : 2 ≤ n.divisor := by
  unfold divisor noiseCounterTimerReload
  dsimp only
  split
  · exact Nat.le_refl 2
  · rw [Nat.shiftLeft_eq] at *
    omega

theorem count_pos (n : NoiseClock) : 0 < n.count := by
  have hdivisor := n.divisor_ge
  unfold count
  split <;> omega

section Rising

variable {n : NoiseClock}

theorem shift_lt (h : noiseClockingSuppressed n.clockShift = false) : n.clockShift.toNat < 14 := by
  have hlt : ¬ (14 : U8) ≤ n.clockShift := of_decide_eq_false h
  rw [BitVec.le_def] at hlt
  exact Nat.lt_of_not_le hlt

theorem shift_masked (h : n.clockShift.toNat < 14) :
    (n.clockShift &&& noiseClockShiftMask).toNat = n.clockShift.toNat := by
  rw [noiseClockShiftMask, U8.toNat_and_nibble]
  exact Nat.mod_eq_of_lt (by omega)

theorem weight_dvd (h : n.clockShift.toNat < 14) : 2 * n.weight ∣ noiseCounterModulus := by
  have hpow : 2 * n.weight = 2 ^ (n.clockShift.toNat + 1) := by
    rw [weight, Nat.pow_succ, Nat.mul_comm]
  rw [hpow, show noiseCounterModulus = 2 ^ 14 from rfl]
  exact Nat.pow_dvd_pow 2 (by omega)

theorem bit_iff (h : noiseClockingSuppressed n.clockShift = false) :
    n.bit = true ↔ n.weight ≤ n.counter % (2 * n.weight) := by
  rw [bit, noiseCounterBit, h, if_neg Bool.false_ne_true, shift_masked (shift_lt h), testBit_iff]
  rfl

/-- The bit rises at the clock at which the count is used up, and at no other. -/
theorem tick_rises_iff (h : noiseClockingSuppressed n.clockShift = false) :
    (n.bit = false ∧ n.tick.bit = true) ↔ n.clocksToRise = 1 := by
  have hcount := n.count_pos
  have hdivisor := n.divisor_ge
  have hkeeps : ∀ n' : NoiseClock, n'.bit = n.bit → ¬ (n.bit = false ∧ n'.bit = true) := by
    rintro n' hsame ⟨hlow, hhigh⟩
    rw [hsame, hlow] at hhigh
    exact Bool.false_ne_true hhigh
  unfold tick clocksToRise
  cases hsub : n.subphase with
  | true =>
      rw [if_pos rfl, if_pos rfl]
      exact iff_of_false (hkeeps _ rfl) (by omega)
  | false =>
      rw [if_neg Bool.false_ne_true, if_neg Bool.false_ne_true]
      by_cases hmore : 1 < n.count
      · rw [if_pos hmore]
        exact iff_of_false (hkeeps _ rfl) (by omega)
      · rw [if_neg hmore]
        have hrises : (¬_ ∧ _) ↔ stepsBeforeRise _ n.counter = 0 :=
          rises_iff (Nat.two_pow_pos n.clockShift.toNat) (weight_dvd (shift_lt h))
        rw [← Bool.not_eq_true, bit_iff h]
        rw [bit_iff (n := { n with
          subphase := true, timer := n.divisor,
          counter := (n.counter + 1) % noiseCounterModulus }) h]
        refine hrises.trans ?_
        show stepsBeforeRise n.weight n.counter = 0 ↔ _
        constructor
        · intro hzero
          rw [hzero]
          omega
        · intro hone
          by_contra hsteps
          have hmul := Nat.mul_le_mul (Nat.one_le_iff_ne_zero.mpr hsteps) hdivisor
          omega

theorem tick_counts (h : noiseClockingSuppressed n.clockShift = false) (hmore : n.clocksToRise ≠ 1) :
    n.tick.clocksToRise + 1 = n.clocksToRise := by
  have hcount := n.count_pos
  have hdivisor := n.divisor_ge
  unfold tick clocksToRise at *
  cases hsub : n.subphase with
  | true =>
      rw [if_pos rfl, if_pos rfl]
      show 2 * (n.count + stepsBeforeRise n.weight n.counter * n.divisor) - 1 + 1 = _
      omega
  | false =>
      rw [hsub, if_neg Bool.false_ne_true] at hmore
      rw [if_neg Bool.false_ne_true, if_neg Bool.false_ne_true]
      by_cases hlater : 1 < n.count
      · rw [if_pos hlater]
        have hnext : ({ n with subphase := true, timer := n.count - 1 } : NoiseClock).count =
            n.count - 1 := if_neg (by show n.count - 1 ≠ 0; omega)
        rw [hnext, if_pos rfl]
        show 2 * (n.count - 1 + stepsBeforeRise n.weight n.counter * n.divisor) - 0 + 1 = _
        omega
      · rw [if_neg hlater]
        have hone : n.count = 1 := by omega
        have hsteps : stepsBeforeRise n.weight n.counter ≠ 0 := by
          intro hzero
          rw [hzero] at hmore
          omega
        have hnext : stepsBeforeRise n.weight ((n.counter + 1) % noiseCounterModulus) + 1 =
            stepsBeforeRise n.weight n.counter :=
          stepsBeforeRise_succ (Nat.two_pow_pos _) (weight_dvd (shift_lt h)) hsteps
        have hreload : ({ n with
            subphase := true, timer := n.divisor,
            counter := (n.counter + 1) % noiseCounterModulus } : NoiseClock).count = n.divisor :=
          if_neg (by show n.divisor ≠ 0; omega)
        have hsplit : stepsBeforeRise n.weight n.counter * n.divisor =
            stepsBeforeRise n.weight ((n.counter + 1) % noiseCounterModulus) * n.divisor +
              n.divisor := by
          rw [← hnext, Nat.succ_mul]
        rw [hreload, if_pos rfl, hsplit, hone]
        show 2 * (n.divisor + stepsBeforeRise n.weight ((n.counter + 1) % noiseCounterModulus) *
          n.divisor) - 0 + 1 = _
        omega

end Rising

end NoiseClock

end GbCycle
