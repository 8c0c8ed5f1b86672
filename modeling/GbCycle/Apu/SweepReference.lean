import GbCycle.Apu.Events
import Mathlib.Data.List.Induction

/-!
# What a frequency sweep is for

A sweep moves a period by a fraction of itself once a block of sweep clocks, up or down, and stops
the channel when the next period would leave the range of the register.  The check of a calculation
is made some generation clocks after it, and a block that ends before takes its place.
-/

namespace GbCycle

/-- A direction, a shift and a pace of the sweep. -/
structure SweepSetting where
  pace : Nat
  shift : Nat
  decreases : Bool
  deriving Repr, DecidableEq

namespace SweepSetting

def periodMax : Nat := 2047

/-- `P ± (P >> shift)`. -/
def candidate (w : SweepSetting) (period : Nat) : Nat :=
  if w.decreases then period - period / 2 ^ w.shift else period + period / 2 ^ w.shift

/-- The period after a block: a candidate out of range is not taken. -/
def next (w : SweepSetting) (period : Nat) : Nat :=
  if w.candidate period ≤ periodMax then w.candidate period else period

/-- How long a calculation waits for its check. -/
def checkDelay (w : SweepSetting) : Nat := 4 * (w.shift + 1)

variable {w : SweepSetting} {period : Nat}

theorem candidate_decreasing (h : w.decreases = true) (hle : period ≤ periodMax) :
    w.candidate period ≤ periodMax := by
  unfold candidate
  rw [if_pos h]
  exact Nat.le_trans (Nat.sub_le _ _) hle

theorem next_le (hle : period ≤ periodMax) : w.next period ≤ periodMax := by
  unfold next
  split
  · assumption
  · exact hle

theorem next_of_overflow (h : periodMax < w.candidate period) : w.next period = period :=
  if_neg (Nat.not_le.mpr h)

theorem iterate_next_le (hle : period ≤ periodMax) (n : Nat) : w.next^[n] period ≤ periodMax := by
  induction n with
  | zero => exact hle
  | succ n ih =>
      rw [Function.iterate_succ_apply']
      exact next_le ih

end SweepSetting

/-- The sweep as its reader sees it. -/
structure SweepReference where
  period : Nat
  phase : Nat
  remaining : Nat
  stopped : Bool
  deriving Repr, DecidableEq

namespace SweepReference

variable {Register : Type} (w : SweepSetting)

/-- A trigger calculates at once, and its check waits longer. -/
def start (period : Nat) : SweepReference := ⟨period, 0, w.checkDelay + 4, false⟩

def clockCheck (r : SweepReference) : SweepReference :=
  if r.remaining = 0 then r
  else
    { r with
      remaining := r.remaining - 1
      stopped := r.stopped || (r.remaining = 1 && SweepSetting.periodMax < w.candidate r.period) }

def clockSweep (r : SweepReference) : SweepReference :=
  if r.phase + 1 = w.pace then
    { r with phase := 0, period := w.next r.period, remaining := w.checkDelay }
  else { r with phase := r.phase + 1 }

def step (r : SweepReference) : ChannelEvent Register → SweepReference
  | .tCycle true _ _ => r.clockCheck w
  | .clockSweep => r.clockSweep w
  | _ => r

/-- What holds of the reference in every run. -/
structure Sound (r : SweepReference) : Prop where
  inRange : r.period ≤ SweepSetting.periodMax
  inBlock : r.phase < w.pace
  soon : r.remaining ≤ w.checkDelay + 4
  overflowed : r.stopped = true → SweepSetting.periodMax < w.candidate r.period
  checked : SweepSetting.periodMax < w.candidate r.period → r.remaining = 0 → r.stopped = true

variable {w} {r : SweepReference}

theorem Sound.start (hpace : 0 < w.pace) {period : Nat} (h : period ≤ SweepSetting.periodMax) :
    Sound w (start w period) :=
  ⟨h, hpace, Nat.le_refl _, fun hstop => absurd hstop Bool.false_ne_true,
    fun _ hzero => absurd hzero (Nat.succ_ne_zero _)⟩

theorem Sound.clockCheck (h : Sound w r) : Sound w (r.clockCheck w) := by
  unfold SweepReference.clockCheck
  split
  · exact h
  · next hremaining =>
      refine ⟨h.inRange, h.inBlock, ?_, ?_, ?_⟩
      · exact Nat.le_trans (Nat.sub_le _ _) h.soon
      · intro hstopped
        simp only [Bool.or_eq_true, Bool.and_eq_true, decide_eq_true_eq] at hstopped
        rcases hstopped with hstopped | ⟨-, hover⟩
        · exact h.overflowed hstopped
        · exact hover
      · intro hover hzero
        have hone : r.remaining = 1 := by
          have hpred : r.remaining - 1 = 0 := hzero
          omega
        simp only [Bool.or_eq_true, Bool.and_eq_true, decide_eq_true_eq]
        exact .inr ⟨hone, hover⟩

theorem Sound.clockSweep (h : Sound w r) : Sound w (r.clockSweep w) := by
  unfold SweepReference.clockSweep
  split
  · refine ⟨SweepSetting.next_le h.inRange, Nat.zero_lt_of_lt h.inBlock, Nat.le_add_right _ _, ?_,
      ?_⟩
    · intro hstopped
      have hover := h.overflowed hstopped
      show SweepSetting.periodMax < w.candidate (w.next r.period)
      rw [SweepSetting.next_of_overflow hover]
      exact hover
    · intro _ hzero
      exact absurd hzero (by show 4 * (w.shift + 1) ≠ 0; omega)
  · next hblock =>
      have hin := h.inBlock
      exact ⟨h.inRange, by show r.phase + 1 < w.pace; omega, h.soon, h.overflowed, h.checked⟩

theorem Sound.step (h : Sound w r) (e : ChannelEvent Register) : Sound w (r.step w e) := by
  cases e with
  | tCycle clocked apuClock tCyclePhase =>
      cases clocked with
      | false => exact h
      | true => exact h.clockCheck
  | clockSweep => exact h.clockSweep
  | clockLength => exact h
  | clockEnvelope => exact h
  | clockPendingEvenEnvelope => exact h
  | write register value speedMode nextStep => exact h

theorem Sound.run (h : Sound w r) (es : List (ChannelEvent Register)) :
    Sound w (es.foldl (SweepReference.step w) r) := by
  induction es generalizing r with
  | nil => exact h
  | cons e es ih => exact ih (h.step e)

/-! ## The period in closed form -/

theorem div_mod_succ_of_last {n pace : Nat} (h : n % pace + 1 = pace) :
    (n + 1) / pace = n / pace + 1 ∧ (n + 1) % pace = 0 := by
  have hpositive : 0 < pace := by omega
  have hsplit := Nat.div_add_mod n pace
  have hnext : n + 1 = pace * (n / pace + 1) := by
    rw [Nat.mul_succ]
    omega
  rw [hnext]
  exact ⟨Nat.mul_div_cancel_left _ hpositive, Nat.mul_mod_right _ _⟩

theorem div_mod_succ_of_lt {n pace : Nat} (h : n % pace + 1 < pace) :
    (n + 1) / pace = n / pace ∧ (n + 1) % pace = n % pace + 1 := by
  have hpositive : 0 < pace := by omega
  have hsplit := Nat.div_add_mod n pace
  have hnext : n + 1 = n % pace + 1 + pace * (n / pace) := by omega
  refine ⟨?_, ?_⟩
  · rw [hnext, Nat.add_mul_div_left _ _ hpositive, Nat.div_eq_of_lt h, Nat.zero_add]
  · rw [hnext, Nat.add_mul_mod_self_left, Nat.mod_eq_of_lt h]

/-- How long the check of the last calculation of a run may still take. -/
def delayAfter (w : SweepSetting) (es : List (ChannelEvent Register)) : Nat :=
  if es.countP ChannelEvent.isSweepClock / w.pace = 0 then w.checkDelay + 4 else w.checkDelay

/-- A run has swept once for each block of its sweep clocks. -/
theorem run_period (hpace : 0 < w.pace) (period : Nat) (es : List (ChannelEvent Register)) :
    (es.foldl (step w) (start w period)).period =
        w.next^[es.countP ChannelEvent.isSweepClock / w.pace] period ∧
      (es.foldl (step w) (start w period)).phase =
        es.countP ChannelEvent.isSweepClock % w.pace ∧
      (es.foldl (step w) (start w period)).remaining ≤ delayAfter w es := by
  induction es using List.reverseRecOn with
  | nil =>
      unfold delayAfter
      rw [List.countP_nil, Nat.zero_div, Nat.zero_mod]
      exact ⟨rfl, rfl, Nat.le_refl _⟩
  | append_singleton es e ih =>
      obtain ⟨hperiod, hphase, hremaining⟩ := ih
      unfold delayAfter at hremaining ⊢
      rw [List.foldl_append, List.foldl_cons, List.foldl_nil, List.countP_append]
      cases e with
      | clockSweep =>
          rw [show [(.clockSweep : ChannelEvent Register)].countP ChannelEvent.isSweepClock = 1
            from rfl]
          have hlt := Nat.mod_lt (es.countP ChannelEvent.isSweepClock) hpace
          show (clockSweep w _).period = _ ∧ (clockSweep w _).phase = _ ∧
            (clockSweep w _).remaining ≤ _
          unfold clockSweep
          rw [hphase, hperiod]
          by_cases hlast : es.countP ChannelEvent.isSweepClock % w.pace + 1 = w.pace
          · obtain ⟨hdiv, hmod⟩ := div_mod_succ_of_last hlast
            rw [if_pos hlast, hdiv, hmod, Function.iterate_succ_apply',
              if_neg (Nat.succ_ne_zero _)]
            exact ⟨rfl, rfl, Nat.le_refl _⟩
          · have hwithin : es.countP ChannelEvent.isSweepClock % w.pace + 1 < w.pace := by omega
            obtain ⟨hdiv, hmod⟩ := div_mod_succ_of_lt hwithin
            rw [if_neg hlast, hdiv, hmod]
            exact ⟨rfl, rfl, hremaining⟩
      | tCycle clocked apuClock tCyclePhase =>
          rw [show [(.tCycle clocked apuClock tCyclePhase : ChannelEvent Register)].countP
            ChannelEvent.isSweepClock = 0 from rfl, Nat.add_zero, ← hperiod, ← hphase]
          cases clocked with
          | false => exact ⟨rfl, rfl, hremaining⟩
          | true =>
              show (clockCheck w _).period = _ ∧ (clockCheck w _).phase = _ ∧
                (clockCheck w _).remaining ≤ _
              unfold clockCheck
              split
              · exact ⟨rfl, rfl, hremaining⟩
              · exact ⟨rfl, rfl, Nat.le_trans (Nat.sub_le _ _) hremaining⟩
      | clockLength => exact ⟨hperiod, hphase, hremaining⟩
      | clockEnvelope => exact ⟨hperiod, hphase, hremaining⟩
      | clockPendingEvenEnvelope => exact ⟨hperiod, hphase, hremaining⟩
      | write register value speedMode nextStep => exact ⟨hperiod, hphase, hremaining⟩

/-! ## The check in time -/

/-- While no block ends the check comes nearer with every generation clock. -/
theorem run_remaining {es : List (ChannelEvent Register)}
    (hblock : r.phase + es.countP ChannelEvent.isSweepClock < w.pace) :
    (es.foldl (step w) r).remaining =
        r.remaining - es.countP ChannelEvent.isGenerationClock ∧
      (es.foldl (step w) r).period = r.period := by
  induction es generalizing r with
  | nil => exact ⟨rfl, rfl⟩
  | cons e es ih =>
      rw [List.foldl_cons]
      cases e with
      | clockSweep =>
          rw [List.countP_cons_of_pos rfl] at hblock
          rw [List.countP_cons_of_neg (by exact Bool.false_ne_true)]
          have hstep : step w r (.clockSweep : ChannelEvent Register) =
              { r with phase := r.phase + 1 } := if_neg (by omega)
          rw [hstep]
          exact ih (by show r.phase + 1 + _ < w.pace; omega)
      | tCycle clocked apuClock tCyclePhase =>
          rw [List.countP_cons_of_neg (by exact Bool.false_ne_true)] at hblock
          cases clocked with
          | false =>
              rw [List.countP_cons_of_neg (by exact Bool.false_ne_true)]
              exact ih hblock
          | true =>
              rw [List.countP_cons_of_pos rfl]
              have hclock : (clockCheck w r).phase = r.phase ∧ (clockCheck w r).period = r.period ∧
                  (clockCheck w r).remaining = r.remaining - 1 := by
                unfold clockCheck
                split
                · next hzero => exact ⟨rfl, rfl, by omega⟩
                · exact ⟨rfl, rfl, rfl⟩
              obtain ⟨hphase, hperiod, hremaining⟩ := hclock
              obtain ⟨hleft, hkept⟩ := ih (r := clockCheck w r) (by rw [hphase]; exact hblock)
              refine ⟨?_, hkept.trans hperiod⟩
              rw [show step w r (.tCycle true apuClock tCyclePhase : ChannelEvent Register) =
                clockCheck w r from rfl, hleft, hremaining]
              omega
      | clockLength => exact ih hblock
      | clockEnvelope => exact ih hblock
      | clockPendingEvenEnvelope => exact ih hblock
      | write register value speedMode nextStep => exact ih hblock

/-- A stopped channel is not started again. -/
theorem run_stopped {es : List (ChannelEvent Register)} (h : r.stopped = true) :
    (es.foldl (step w) r).stopped = true := by
  induction es generalizing r with
  | nil => exact h
  | cons e es ih =>
      refine ih ?_
      cases e with
      | clockSweep =>
          show (clockSweep w r).stopped = true
          unfold clockSweep
          split <;> exact h
      | tCycle clocked apuClock tCyclePhase =>
          cases clocked with
          | false => exact h
          | true =>
              show (clockCheck w r).stopped = true
              unfold clockCheck
              split
              · exact h
              · exact Bool.or_eq_true_iff.mpr (.inl h)
      | clockLength => exact h
      | clockEnvelope => exact h
      | clockPendingEvenEnvelope => exact h
      | write register value speedMode nextStep => exact h

/-- An overflow that has been calculated stops the channel when its delay has passed. -/
theorem run_overflow (hpace : 0 < w.pace) {period : Nat} (hle : period ≤ SweepSetting.periodMax)
    {calculated waited : List (ChannelEvent Register)}
    (hover : SweepSetting.periodMax <
      w.candidate (w.next^[calculated.countP ChannelEvent.isSweepClock / w.pace] period))
    (hblock : calculated.countP ChannelEvent.isSweepClock % w.pace +
      waited.countP ChannelEvent.isSweepClock < w.pace)
    (hdelay : delayAfter w calculated ≤ waited.countP ChannelEvent.isGenerationClock) :
    ((calculated ++ waited).foldl (step w) (start w period)).stopped = true := by
  obtain ⟨hperiod, hphase, hremaining⟩ := run_period hpace period calculated
  rw [List.foldl_append]
  have hsound := ((Sound.start hpace hle).run calculated).run waited
  rw [← hphase] at hblock
  obtain ⟨hleft, hkept⟩ := run_remaining hblock
  refine hsound.checked ?_ ?_
  · rw [hkept, hperiod]
    exact hover
  · rw [hleft]
    omega

end SweepReference

end GbCycle
