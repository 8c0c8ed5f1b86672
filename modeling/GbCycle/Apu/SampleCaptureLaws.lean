import GbCycle.Apu.SampleCapture
import GbCycle.Rounding
import Mathlib.Algebra.BigOperators.Group.List.Basic
import Mathlib.Algebra.BigOperators.Ring.List
import Mathlib.Algebra.Order.Ring.Abs
import Mathlib.Tactic.Linarith
import Mathlib.Tactic.Ring

/-!
# How many samples, and which

However the T-cycles and the drains come, the phase and the samples that are out account for the
rate times the T-cycles.  Of the input nothing is lost but what each rounding takes: in the
integrating mode the intervals that are out and the open one add up to the whole of it, and a filter
whose rows sum to one leaves a constant as it is.
-/

namespace GbCycle

/-! ## Rounding -/

theorem divideAndRoundToI32_roundsTo {value : Int} {divisor : Nat} (hpos : 0 < divisor)
    {rounded : I32} (h : divideAndRoundToI32 value divisor = some rounded) :
    RoundsTo value divisor rounded.val := by
  have hround := roundsTo_roundedQuotient value hpos
  change I32.tryFrom (roundedQuotient value divisor) = some rounded at h
  unfold I32.tryFrom at h
  split at h
  · rw [← Option.some.inj h]
    exact hround
  · cases h

/-- An average of values that fit has a place in `i32`. -/
theorem divideAndRoundToI32_fits {value lower upper : Int} {divisor : Nat} (hpos : 0 < divisor)
    (hlower : divisor * lower ≤ value) (hupper : value ≤ divisor * upper)
    (hfitsLower : -2 ^ 31 ≤ lower) (hfitsUpper : upper < 2 ^ 31) :
    ∃ rounded, divideAndRoundToI32 value divisor = some rounded ∧
      lower ≤ rounded.val ∧ rounded.val ≤ upper := by
  have hbetween := (roundsTo_roundedQuotient value hpos).between hpos hlower hupper
  have hfits : -2 ^ 31 ≤ roundedQuotient value divisor ∧
      roundedQuotient value divisor < 2 ^ 31 := by omega
  refine ⟨⟨roundedQuotient value divisor, hfits⟩, ?_, hbetween⟩
  show I32.tryFrom (roundedQuotient value divisor) = _
  unfold I32.tryFrom
  rw [dif_pos hfits]

/-! ## The integrating mode -/

/-- The samples of one side, and what is in the open interval, account for an integral. -/
def Accounts (integral residual : Int) (emitted : List I32) : Prop :=
  ∃ parts : List Int,
    List.Forall₂ (fun part (rounded : I32) =>
      RoundsTo part dmgFamilyApuCaptureClockHz rounded.val) parts emitted ∧
    parts.sum + residual = integral

theorem Accounts.add {integral residual : Int} {emitted : List I32}
    (h : Accounts integral residual emitted) (x : Int) :
    Accounts (integral + x) (residual + x) emitted := by
  obtain ⟨parts, hrounds, hsum⟩ := h
  exact ⟨parts, hrounds, by omega⟩

/-- An interval ends: its part of the integral is put out as a sample. -/
theorem Accounts.emit {integral residual : Int} {emitted : List I32} {sample : I32}
    (h : Accounts integral residual emitted)
    (hsample : divideAndRoundToI32 residual dmgFamilyApuCaptureClockHz = some sample) :
    Accounts integral 0 (emitted ++ [sample]) := by
  obtain ⟨parts, hrounds, hsum⟩ := h
  refine ⟨parts ++ [residual], ?_, ?_⟩
  · exact List.rel_append hrounds
      (.cons (divideAndRoundToI32_roundsTo (by decide) hsample) .nil)
  · rw [List.sum_append, List.sum_singleton]
    omega

/-- The integral of a part of an interval is between those of the extreme samples. -/
def BoundedBy (integral : Int) (phase : Nat) : Prop :=
  phase * (-2 ^ 31) ≤ integral ∧ integral ≤ phase * (2 ^ 31 - 1)

theorem BoundedBy.add {integral : Int} {phase : Nat} (h : BoundedBy integral phase) (x : I32)
    (step : Nat) : BoundedBy (integral + x.val * step) (phase + step) := by
  obtain ⟨hlower, hupper⟩ := h
  have hx := Int.mul_le_mul_of_nonneg_right x.property.1 (Int.natCast_nonneg step)
  have hx' := Int.mul_le_mul_of_nonneg_right (show x.val ≤ 2 ^ 31 - 1 by have := x.property.2; omega)
    (Int.natCast_nonneg step)
  constructor
  · push_cast
    linarith
  · push_cast
    linarith

namespace IntegratedSampleCaptureState

structure Bounded (s : IntegratedSampleCaptureState) : Prop where
  left : BoundedBy s.integratedLeft s.samplePhaseAccumulator
  right : BoundedBy s.integratedRight s.samplePhaseAccumulator

/-- A T-cycle ends the intervals that its phase reaches, and loses nothing of its sample. -/
theorem recordPhase_spec (sample : ApuHostSample) (remainingPhase : Nat)
    {s : IntegratedSampleCaptureState} (hs : s.Bounded) (pendingSamples : List ApuHostSample) :
    ∃ s' out, s.recordPhase sample remainingPhase pendingSamples = some (s', pendingSamples ++ out) ∧
      s'.samplePhaseAccumulator + dmgFamilyApuCaptureClockHz * out.length =
        s.samplePhaseAccumulator + remainingPhase ∧
      s'.Bounded ∧
      (∀ integral emitted, Accounts integral s.integratedLeft emitted →
        Accounts (integral + sample.left.val * remainingPhase) s'.integratedLeft
          (emitted ++ out.map (·.left))) ∧
      (∀ integral emitted, Accounts integral s.integratedRight emitted →
        Accounts (integral + sample.right.val * remainingPhase) s'.integratedRight
          (emitted ++ out.map (·.right))) := by
  induction remainingPhase using Nat.strong_induction_on generalizing s pendingSamples with
  | h remainingPhase ih =>
      rw [recordPhase]
      by_cases hdone : remainingPhase = 0
      · subst hdone
        rw [dif_pos rfl]
        refine ⟨s, [], by rw [List.append_nil], rfl, hs, ?_, ?_⟩
        · intro integral emitted h
          simpa using h
        · intro integral emitted h
          simpa using h
      · rw [dif_neg hdone]
        have hphase := s.phase_lt
        have hleft := hs.left.add sample.left
          (min remainingPhase (dmgFamilyApuCaptureClockHz - s.samplePhaseAccumulator))
        have hright := hs.right.add sample.right
          (min remainingPhase (dmgFamilyApuCaptureClockHz - s.samplePhaseAccumulator))
        have hstep : 0 < min remainingPhase
            (dmgFamilyApuCaptureClockHz - s.samplePhaseAccumulator) := by omega
        have hle := Nat.min_le_left remainingPhase
          (dmgFamilyApuCaptureClockHz - s.samplePhaseAccumulator)
        dsimp only
        by_cases hemit : s.samplePhaseAccumulator + min remainingPhase
            (dmgFamilyApuCaptureClockHz - s.samplePhaseAccumulator) = dmgFamilyApuCaptureClockHz
        · -- An interval ends, and its averages fit.
          rw [dif_pos hemit]
          generalize min remainingPhase
            (dmgFamilyApuCaptureClockHz - s.samplePhaseAccumulator) = phaseStep at *
          rw [hemit] at hleft hright
          obtain ⟨left, hleftRounds, -⟩ :=
            divideAndRoundToI32_fits (by decide) hleft.1 hleft.2 (le_refl _) (by decide)
          obtain ⟨right, hrightRounds, -⟩ :=
            divideAndRoundToI32_fits (by decide) hright.1 hright.2 (le_refl _) (by decide)
          obtain ⟨s', out, hrun, hcount, hs', haccountsLeft, haccountsRight⟩ :=
            ih (remainingPhase - phaseStep) (by omega) (s := default)
              ⟨⟨by decide, by decide⟩, ⟨by decide, by decide⟩⟩ (pendingSamples ++ [⟨left, right⟩])
          have hsplit : ∀ x : Int, x * phaseStep + x * ((remainingPhase - phaseStep : Nat) : Int) =
              x * remainingPhase := by
            intro x
            rw [← Int.mul_add, ← Int.natCast_add, Nat.add_sub_cancel' hle]
          refine ⟨s', ⟨left, right⟩ :: out, ?_, ?_, hs', ?_, ?_⟩
          · rw [hleftRounds, hrightRounds, Option.bind_some, Option.bind_some, hrun,
              List.append_assoc]
            rfl
          · have hopen : default.samplePhaseAccumulator = 0 := rfl
            rw [hopen] at hcount
            rw [List.length_cons]
            unfold dmgFamilyApuCaptureClockHz at *
            omega
          · intro integral emitted h
            have hrest := haccountsLeft _ _ ((h.add _).emit hleftRounds)
            rw [Int.add_assoc, hsplit, List.append_assoc] at hrest
            exact hrest
          · intro integral emitted h
            have hrest := haccountsRight _ _ ((h.add _).emit hrightRounds)
            rw [Int.add_assoc, hsplit, List.append_assoc] at hrest
            exact hrest
        · -- The phase of the T-cycle is used up before.
          rw [dif_neg hemit]
          have hall : remainingPhase - min remainingPhase
              (dmgFamilyApuCaptureClockHz - s.samplePhaseAccumulator) = 0 := by omega
          have hstepEq : min remainingPhase
              (dmgFamilyApuCaptureClockHz - s.samplePhaseAccumulator) = remainingPhase := by omega
          rw [recordPhase, dif_pos hall]
          refine ⟨_, [], congrArg (fun pending => some (_, pending))
            (List.append_nil pendingSamples).symm, ?_, ⟨?_, ?_⟩, ?_, ?_⟩
          · show s.samplePhaseAccumulator + min remainingPhase _ + _ = _
            rw [hstepEq, List.length_nil, Nat.mul_zero, Nat.add_zero]
          · exact hleft
          · exact hright
          · intro integral emitted h
            rw [List.map_nil, List.append_nil]
            have hadd := h.add (sample.left.val * remainingPhase)
            show Accounts _ (s.integratedLeft + sample.left.val * (min remainingPhase _ : Nat)) _
            rw [hstepEq]
            exact hadd
          · intro integral emitted h
            rw [List.map_nil, List.append_nil]
            have hadd := h.add (sample.right.val * remainingPhase)
            show Accounts _ (s.integratedRight + sample.right.val * (min remainingPhase _ : Nat)) _
            rw [hstepEq]
            exact hadd

end IntegratedSampleCaptureState

/-! ## The band-limited mode -/

/-- A phase that is left of an interval, and that a T-cycle ends, has a row in the table. -/
theorem phaseIndex_lt {remainingPhase outputSampleRateHz : Nat} (hpos : 0 < remainingPhase)
    (hle : remainingPhase ≤ outputSampleRateHz) :
    phaseIndexFromRemainingPhase remainingPhase outputSampleRateHz <
      bandLimitedResamplerPhases := by
  unfold phaseIndexFromRemainingPhase
  refine Nat.div_lt_of_lt_mul ?_
  have hrow := Nat.mul_le_mul_right bandLimitedResamplerPhases hle
  have hone : 0 < bandLimitedResamplerPhases := by decide
  have hfirst := Nat.mul_pos hpos hone
  omega

/-- What the coefficients of a row can make of the largest sample. -/
def rowGain (row : Vector Int bandLimitedResamplerTaps) : Int :=
  ((List.finRange bandLimitedResamplerTaps).map fun tap => |row.get tap|).sum

def rowSum (row : Vector Int bandLimitedResamplerTaps) : Int :=
  ((List.finRange bandLimitedResamplerTaps).map fun tap => row.get tap).sum

namespace BandLimitedSampleCaptureState

theorem filtered_of_constant {s : BandLimitedSampleCaptureState}
    (row : Vector Int bandLimitedResamplerTaps) (side : ApuHostSample → I32) {c : ApuHostSample}
    (hconstant : ∀ tap, s.historyAt tap = c) :
    s.filtered row side = (side c).val * rowSum row := by
  unfold filtered rowSum
  simp only [hconstant]
  exact List.sum_map_mul_left (List.finRange _) (fun tap => row.get tap) (side c).val

theorem filtered_le {s : BandLimitedSampleCaptureState}
    (row : Vector Int bandLimitedResamplerTaps) (side : ApuHostSample → I32) {bound : Int}
    (hbound : ∀ tap, |(side (s.historyAt tap)).val| ≤ bound) :
    |s.filtered row side| ≤ bound * rowGain row := by
  have htaps : ∀ taps : List (Fin bandLimitedResamplerTaps),
      |(taps.map fun tap => (side (s.historyAt tap)).val * row.get tap).sum| ≤
        bound * (taps.map fun tap => |row.get tap|).sum := by
    intro taps
    induction taps with
    | nil => simp
    | cons tap taps ih =>
        rw [List.map_cons, List.sum_cons, List.map_cons, List.sum_cons, mul_add]
        refine le_trans (abs_add_le _ _) (add_le_add ?_ ih)
        rw [abs_mul]
        exact mul_le_mul_of_nonneg_right (hbound tap) (abs_nonneg _)
  exact htaps _

/-- The history holds nothing but inputs. -/
def Recalls (s : BandLimitedSampleCaptureState) (inputs : List ApuHostSample) : Prop :=
  ∀ i, s.history.get i ∈ inputs

theorem recalls_pushHistory {s : BandLimitedSampleCaptureState} {inputs : List ApuHostSample}
    (h : s.hasHistory = true → s.Recalls inputs) (sample : ApuHostSample) :
    (s.pushHistory sample).Recalls (inputs ++ [sample]) := by
  intro i
  show (Vector.set (if !s.hasHistory then Vector.replicate _ sample else s.history)
    s.historyWriteIndex sample)[i.val] ∈ _
  rw [Vector.getElem_set]
  split
  · exact List.mem_append_right _ List.mem_cons_self
  · cases hhistory : s.hasHistory with
    | false =>
        simp only [Bool.not_false, if_true, Vector.getElem_replicate]
        exact List.mem_append_right _ List.mem_cons_self
    | true =>
        simp only [Bool.not_true, Bool.false_eq_true, if_false]
        exact List.mem_append_left _ (h hhistory i)

end BandLimitedSampleCaptureState

/-- A sample that a row of the table makes of some inputs. -/
def FilterOutput (coefficients : List (Vector Int bandLimitedResamplerTaps))
    (inputs : List ApuHostSample) (emitted : ApuHostSample) : Prop :=
  ∃ (s : BandLimitedSampleCaptureState) (row : Vector Int bandLimitedResamplerTaps),
    s.Recalls inputs ∧ row ∈ coefficients ∧
    divideAndRoundToI32 (s.filtered row (·.left)) bandLimitedResamplerCoefficientOne =
      some emitted.left ∧
    divideAndRoundToI32 (s.filtered row (·.right)) bandLimitedResamplerCoefficientOne =
      some emitted.right

theorem FilterOutput.mono {coefficients : List (Vector Int bandLimitedResamplerTaps)}
    {inputs inputs' : List ApuHostSample} {emitted : ApuHostSample}
    (h : FilterOutput coefficients inputs emitted) (hsubset : inputs ⊆ inputs') :
    FilterOutput coefficients inputs' emitted := by
  obtain ⟨s, row, hrecalls, hrest⟩ := h
  exact ⟨s, row, fun i => hsubset (hrecalls i), hrest⟩

/-- Whatever inputs the history holds, a row makes a sample of them that fits. -/
def Fits (coefficients : List (Vector Int bandLimitedResamplerTaps))
    (inputs : List ApuHostSample) : Prop :=
  ∀ (s : BandLimitedSampleCaptureState) (row : Vector Int bandLimitedResamplerTaps),
    s.Recalls inputs → row ∈ coefficients → ∃ emitted : ApuHostSample,
      divideAndRoundToI32 (s.filtered row (·.left)) bandLimitedResamplerCoefficientOne =
        some emitted.left ∧
      divideAndRoundToI32 (s.filtered row (·.right)) bandLimitedResamplerCoefficientOne =
        some emitted.right

/-- A table whose rows do not bring inputs of some size out of `i32`. -/
theorem fits_of_gain {coefficients : List (Vector Int bandLimitedResamplerTaps)}
    {inputs : List ApuHostSample} {bound : Int}
    (hgain : ∀ row ∈ coefficients,
      bound * rowGain row ≤ bandLimitedResamplerCoefficientOne * (2 ^ 31 - 1))
    (hbound : ∀ sample ∈ inputs, |sample.left.val| ≤ bound ∧ |sample.right.val| ≤ bound) :
    Fits coefficients inputs := by
  intro s row hrecalls hrow
  have hside : ∀ side : ApuHostSample → I32,
      (∀ tap, |(side (s.historyAt tap)).val| ≤ bound) →
      ∃ rounded, divideAndRoundToI32 (s.filtered row side) bandLimitedResamplerCoefficientOne =
        some rounded := by
    intro side hsamples
    have hfiltered := abs_le.mp
      (le_trans (BandLimitedSampleCaptureState.filtered_le row side hsamples) (hgain row hrow))
    rw [← Int.mul_neg] at hfiltered
    obtain ⟨rounded, hrounded, -⟩ := divideAndRoundToI32_fits (by decide) hfiltered.1 hfiltered.2
      (by decide) (by decide)
    exact ⟨rounded, hrounded⟩
  obtain ⟨left, hleft⟩ := hside (·.left) fun tap => (hbound _ (hrecalls _)).1
  obtain ⟨right, hright⟩ := hside (·.right) fun tap => (hbound _ (hrecalls _)).2
  exact ⟨⟨left, right⟩, hleft, hright⟩

/-- A row that sums to one makes a constant of a constant. -/
theorem divideAndRoundToI32_constant (x : I32) :
    divideAndRoundToI32 (x.val * bandLimitedResamplerCoefficientOne)
      bandLimitedResamplerCoefficientOne = some x := by
  have hone : 0 < bandLimitedResamplerCoefficientOne := by decide
  have hvalue := Int.mul_comm x.val bandLimitedResamplerCoefficientOne
  obtain ⟨rounded, hrounded, hlower, hupper⟩ := divideAndRoundToI32_fits hone
    (le_of_eq hvalue.symm) (le_of_eq hvalue) x.property.1 x.property.2
  rw [hrounded, Subtype.ext (le_antisymm hupper hlower)]

section Constant

variable {coefficients : List (Vector Int bandLimitedResamplerTaps)}
  {inputs : List ApuHostSample} {c : ApuHostSample}
  (hrows : ∀ row ∈ coefficients, rowSum row = bandLimitedResamplerCoefficientOne)
  (hconstant : ∀ sample ∈ inputs, sample = c)

include hrows hconstant

theorem divideAndRound_filtered {s : BandLimitedSampleCaptureState}
    {row : Vector Int bandLimitedResamplerTaps} (hrecalls : s.Recalls inputs)
    (hrow : row ∈ coefficients) (side : ApuHostSample → I32) :
    divideAndRoundToI32 (s.filtered row side) bandLimitedResamplerCoefficientOne =
      some (side c) := by
  rw [BandLimitedSampleCaptureState.filtered_of_constant row side
    fun tap => hconstant _ (hrecalls _), hrows row hrow]
  exact divideAndRoundToI32_constant (side c)

theorem fits_of_constant : Fits coefficients inputs := by
  intro s row hrecalls hrow
  exact ⟨c, divideAndRound_filtered hrows hconstant hrecalls hrow _,
    divideAndRound_filtered hrows hconstant hrecalls hrow _⟩

theorem FilterOutput.eq_constant {emitted : ApuHostSample}
    (h : FilterOutput coefficients inputs emitted) : emitted = c := by
  obtain ⟨s, row, hrecalls, hrow, hleft, hright⟩ := h
  rw [divideAndRound_filtered hrows hconstant hrecalls hrow] at hleft hright
  obtain ⟨left, right⟩ := emitted
  obtain ⟨cleft, cright⟩ := c
  exact congrArg₂ ApuHostSample.mk (Option.some.inj hleft).symm (Option.some.inj hright).symm

end Constant

/-! ## Runs -/

namespace DrainedCapture

/-- The integrating capture after some inputs. -/
structure Integrates (rate : Nat) (inputs : List ApuHostSample) (d : DrainedCapture)
    (s : IntegratedSampleCaptureState) : Prop where
  hz : d.capture.outputSampleRateHz = rate
  mode : d.capture.mode = .integrated s
  phase : s.samplePhaseAccumulator + dmgFamilyApuCaptureClockHz * d.emitted.length =
    rate * inputs.length
  bounded : s.Bounded
  left : Accounts (inputs.map fun sample => sample.left.val * (rate : Int)).sum
    s.integratedLeft (d.emitted.map (·.left))
  right : Accounts (inputs.map fun sample => sample.right.val * (rate : Int)).sum
    s.integratedRight (d.emitted.map (·.right))

/-- The band-limited capture after some inputs. -/
structure Filters (rate : Nat) (coefficients : List (Vector Int bandLimitedResamplerTaps))
    (inputs : List ApuHostSample) (d : DrainedCapture) (s : BandLimitedSampleCaptureState) :
    Prop where
  hz : d.capture.outputSampleRateHz = rate
  mode : d.capture.mode = .bandLimited s
  table : s.coefficients = coefficients
  phase : s.samplePhaseAccumulator + dmgFamilyApuCaptureClockHz * d.emitted.length =
    rate * inputs.length
  phase_lt : s.samplePhaseAccumulator < dmgFamilyApuCaptureClockHz
  recalls : s.hasHistory = true → s.Recalls inputs
  emitted : ∀ emitted ∈ d.emitted, FilterOutput coefficients inputs emitted

/-- What the host has taken still counts. -/
theorem emitted_drain (d : DrainedCapture) : d.drain.emitted = d.emitted := by
  unfold emitted drain ApuSampleCapture.drainSamples
  exact List.append_nil _

theorem Integrates.step {rate : Nat} {inputs : List ApuHostSample} {d : DrainedCapture}
    {s : IntegratedSampleCaptureState} (h : d.Integrates rate inputs s) (event : CaptureEvent) :
    ∃ d' s', d.step event = some d' ∧
      d'.Integrates rate (inputs ++ capturedInputs [event]) s' := by
  cases event with
  | drain =>
      refine ⟨d.drain, s, rfl, ?_⟩
      have hinputs : inputs ++ capturedInputs [.drain] = inputs := List.append_nil inputs
      rw [hinputs]
      exact ⟨h.hz, h.mode, by rw [emitted_drain]; exact h.phase, h.bounded,
        by rw [emitted_drain]; exact h.left, by rw [emitted_drain]; exact h.right⟩
  | record sample =>
      obtain ⟨s', out, hrun, hcount, hs', hleft, hright⟩ :=
        IntegratedSampleCaptureState.recordPhase_spec sample rate h.bounded d.capture.pendingSamples
      have hstep : d.capture.recordOutputTCycle sample =
          some { d.capture with
            mode := .integrated s', pendingSamples := d.capture.pendingSamples ++ out } := by
        unfold ApuSampleCapture.recordOutputTCycle
        rw [h.mode]
        dsimp only
        unfold IntegratedSampleCaptureState.recordOutputTCycle
        rw [h.hz, hrun]
        rfl
      have hemitted : (⟨d.drained, { d.capture with
          mode := .integrated s', pendingSamples := d.capture.pendingSamples ++ out }⟩ :
          DrainedCapture).emitted = d.emitted ++ out := (List.append_assoc _ _ _).symm
      have hinputs : inputs ++ capturedInputs [.record sample] = inputs ++ [sample] := rfl
      refine ⟨_, s', congrArg (Option.map _) hstep, h.hz, rfl, ?_, hs', ?_, ?_⟩
      · have hphase := h.phase
        rw [hemitted, hinputs, List.length_append, List.length_append, List.length_singleton,
          Nat.mul_add, Nat.mul_add, Nat.mul_one]
        omega
      · rw [hemitted, hinputs, List.map_append, List.map_append, List.sum_append,
          List.map_singleton, List.sum_singleton]
        exact hleft _ _ h.left
      · rw [hemitted, hinputs, List.map_append, List.map_append, List.sum_append,
          List.map_singleton, List.sum_singleton]
        exact hright _ _ h.right

/-- A T-cycle of the filter: it stops only where a sample that is due does not fit. -/
theorem Filters.step {rate : Nat} (hrate : rate < dmgFamilyApuCaptureClockHz)
    {coefficients : List (Vector Int bandLimitedResamplerTaps)}
    (htable : coefficients.length = bandLimitedResamplerPhases) {inputs : List ApuHostSample}
    {d : DrainedCapture} {s : BandLimitedSampleCaptureState}
    (h : d.Filters rate coefficients inputs s) (event : CaptureEvent) :
    (Fits coefficients (inputs ++ capturedInputs [event]) → ∃ d', d.step event = some d') ∧
      ∀ d', d.step event = some d' →
        ∃ s', d'.Filters rate coefficients (inputs ++ capturedInputs [event]) s' := by
  cases event with
  | drain =>
      have hinputs : inputs ++ capturedInputs [.drain] = inputs := List.append_nil inputs
      refine ⟨fun _ => ⟨d.drain, rfl⟩, ?_⟩
      intro d' hd'
      obtain rfl : d.drain = d' := Option.some.inj hd'
      rw [hinputs]
      exact ⟨s, h.hz, h.mode, h.table, by rw [emitted_drain]; exact h.phase, h.phase_lt, h.recalls,
        by rw [emitted_drain]; exact h.emitted⟩
  | record sample =>
      have hinputs : inputs ++ capturedInputs [.record sample] = inputs ++ [sample] := rfl
      rw [hinputs]
      have hrecalls := BandLimitedSampleCaptureState.recalls_pushHistory h.recalls sample
      have hphase := h.phase
      have hphaseLt := h.phase_lt
      have hkept : ∀ emitted ∈ d.emitted,
          FilterOutput coefficients (inputs ++ [sample]) emitted :=
        fun emitted hmem => (h.emitted emitted hmem).mono (List.subset_append_left _ _)
      have hstep : d.step (.record sample) =
          (s.recordOutputTCycle sample rate d.capture.pendingSamples).map fun r =>
            { d with capture :=
              { d.capture with mode := .bandLimited r.1, pendingSamples := r.2 } } := by
        show (d.capture.recordOutputTCycle sample).map _ = _
        unfold ApuSampleCapture.recordOutputTCycle
        rw [h.mode]
        dsimp only
        rw [h.hz, Option.map_map]
        rfl
      rw [hstep]
      unfold BandLimitedSampleCaptureState.recordOutputTCycle
      dsimp only
      have haccumulator : (s.pushHistory sample).samplePhaseAccumulator =
          s.samplePhaseAccumulator := rfl
      have hcoefficients : (s.pushHistory sample).coefficients = coefficients := h.table
      generalize s.pushHistory sample = pushed at hrecalls haccumulator hcoefficients ⊢
      rw [haccumulator]
      by_cases hopen : s.samplePhaseAccumulator + rate < dmgFamilyApuCaptureClockHz
      · -- The interval stays open.
        rw [if_pos hopen]
        refine ⟨fun _ => ⟨_, rfl⟩, ?_⟩
        rintro d' ⟨⟩
        refine ⟨_, h.hz, rfl, hcoefficients, ?_, hopen, fun _ => hrecalls, hkept⟩
        rw [List.length_append, List.length_singleton, Nat.mul_add, Nat.mul_one, ← hphase]
        show s.samplePhaseAccumulator + rate + dmgFamilyApuCaptureClockHz * d.emitted.length = _
        omega
      · -- The interval ends, and the row of its phase is in the table.
        rw [if_neg hopen]
        have hremains : 0 < dmgFamilyApuCaptureClockHz - s.samplePhaseAccumulator := by omega
        have hinterval : dmgFamilyApuCaptureClockHz - s.samplePhaseAccumulator ≤ rate := by omega
        have hindex := phaseIndex_lt hremains hinterval
        generalize phaseIndexFromRemainingPhase _ _ = phaseIndex at hindex ⊢
        rw [← htable] at hindex
        have hrow : pushed.coefficients[phaseIndex]? = some (coefficients[phaseIndex]) := by
          rw [hcoefficients, List.getElem?_eq_getElem hindex]
        have hmem : coefficients[phaseIndex] ∈ coefficients := List.getElem_mem hindex
        generalize coefficients[phaseIndex] = row at hrow hmem
        have hcapture : pushed.captureBandLimitedSample phaseIndex =
            (divideAndRoundToI32 (pushed.filtered row (·.left))
              bandLimitedResamplerCoefficientOne).bind fun left =>
                (divideAndRoundToI32 (pushed.filtered row (·.right))
                  bandLimitedResamplerCoefficientOne).bind fun right => some ⟨left, right⟩ := by
          unfold BandLimitedSampleCaptureState.captureBandLimitedSample
          rw [hrow]
          rfl
        constructor
        · intro hfits
          obtain ⟨emitted, hleft, hright⟩ := hfits pushed row hrecalls hmem
          rw [hcapture, hleft, hright]
          exact ⟨_, rfl⟩
        · intro d' hd'
          rw [hcapture] at hd'
          cases hleft : divideAndRoundToI32 (pushed.filtered row (·.left))
              bandLimitedResamplerCoefficientOne with
          | none =>
              rw [hleft] at hd'
              cases hd'
          | some left =>
              cases hright : divideAndRoundToI32 (pushed.filtered row (·.right))
                  bandLimitedResamplerCoefficientOne with
              | none =>
                  rw [hleft, hright] at hd'
                  cases hd'
              | some right =>
                  rw [hleft, hright] at hd'
                  have hout : FilterOutput coefficients (inputs ++ [sample]) ⟨left, right⟩ :=
                    ⟨pushed, row, hrecalls, hmem, hleft, hright⟩
                  rw [← Option.some.inj hd']
                  have hemitted : (⟨d.drained, { d.capture with
                      mode := .bandLimited { pushed with
                        samplePhaseAccumulator :=
                          s.samplePhaseAccumulator + rate - dmgFamilyApuCaptureClockHz }
                      pendingSamples := d.capture.pendingSamples ++ [⟨left, right⟩] }⟩ :
                      DrainedCapture).emitted = d.emitted ++ [⟨left, right⟩] :=
                    (List.append_assoc _ _ _).symm
                  refine ⟨{ pushed with samplePhaseAccumulator :=
                    s.samplePhaseAccumulator + rate - dmgFamilyApuCaptureClockHz },
                    h.hz, rfl, hcoefficients, ?_, ?_, ?_, ?_⟩
                  · have hcount : (d.emitted ++ [(⟨left, right⟩ : ApuHostSample)]).length =
                        d.emitted.length + 1 := List.length_append
                    have hinput : (inputs ++ [sample]).length = inputs.length + 1 :=
                      List.length_append
                    rw [hemitted, hcount, hinput]
                    show s.samplePhaseAccumulator + rate - dmgFamilyApuCaptureClockHz +
                      dmgFamilyApuCaptureClockHz * (d.emitted.length + 1) = _
                    rw [Nat.mul_succ, Nat.mul_succ]
                    omega
                  · show s.samplePhaseAccumulator + rate - dmgFamilyApuCaptureClockHz < _
                    omega
                  · intro _ i
                    exact hrecalls i
                  · intro emitted hmem'
                    rw [hemitted] at hmem'
                    rcases List.mem_append.mp hmem' with hold | hnew
                    · exact hkept emitted hold
                    · rw [List.mem_singleton.mp hnew]
                      exact hout

/-! ### From the first T-cycle on -/

theorem run_cons (d : DrainedCapture) (event : CaptureEvent) (events : List CaptureEvent) :
    d.run (event :: events) = (d.step event).bind fun d' => d'.run events := rfl

theorem capturedInputs_cons (event : CaptureEvent) (events : List CaptureEvent) :
    capturedInputs (event :: events) = capturedInputs [event] ++ capturedInputs events := by
  cases event <;> rfl

theorem Integrates.run {rate : Nat} {inputs : List ApuHostSample} {d : DrainedCapture}
    {s : IntegratedSampleCaptureState} (h : d.Integrates rate inputs s)
    (events : List CaptureEvent) :
    ∃ d' s', d.run events = some d' ∧ d'.Integrates rate (inputs ++ capturedInputs events) s' := by
  induction events generalizing d s inputs with
  | nil => exact ⟨d, s, rfl, by rw [show capturedInputs [] = [] from rfl, List.append_nil]; exact h⟩
  | cons event events ih =>
      obtain ⟨d₁, s₁, hstep, h₁⟩ := h.step event
      obtain ⟨d', s', hrun, h'⟩ := ih h₁
      refine ⟨d', s', ?_, ?_⟩
      · rw [run_cons, hstep]
        exact hrun
      · rw [capturedInputs_cons, ← List.append_assoc]
        exact h'

theorem Filters.run {rate : Nat} (hrate : rate < dmgFamilyApuCaptureClockHz)
    {coefficients : List (Vector Int bandLimitedResamplerTaps)}
    (htable : coefficients.length = bandLimitedResamplerPhases) {inputs : List ApuHostSample}
    {d : DrainedCapture} {s : BandLimitedSampleCaptureState}
    (h : d.Filters rate coefficients inputs s) (events : List CaptureEvent) :
    (Fits coefficients (inputs ++ capturedInputs events) → ∃ d', d.run events = some d') ∧
      ∀ d', d.run events = some d' →
        ∃ s', d'.Filters rate coefficients (inputs ++ capturedInputs events) s' := by
  induction events generalizing d s inputs with
  | nil =>
      rw [show capturedInputs [] = [] from rfl, List.append_nil]
      refine ⟨fun _ => ⟨d, rfl⟩, ?_⟩
      rintro d' ⟨⟩
      exact ⟨s, h⟩
  | cons event events ih =>
      obtain ⟨hgoes, hkeeps⟩ := h.step hrate htable event
      rw [run_cons, capturedInputs_cons, ← List.append_assoc]
      constructor
      · intro hfits
        obtain ⟨d₁, hstep⟩ := hgoes fun s row hrecalls =>
          hfits s row fun i => List.mem_append_left _ (hrecalls i)
        obtain ⟨s₁, h₁⟩ := hkeeps d₁ hstep
        rw [hstep]
        exact (ih h₁).1 hfits
      · intro d' hd'
        obtain ⟨d₁, hstep, hrun⟩ := Option.bind_eq_some_iff.mp hd'
        obtain ⟨s₁, h₁⟩ := hkeeps d₁ hstep
        exact (ih h₁).2 d' hrun

/-- A capture that nothing has happened to. -/
def fresh (capture : ApuSampleCapture) : DrainedCapture := ⟨[], capture⟩

theorem integrates_fresh (rate : Nat) :
    (fresh ⟨rate, .integrated .default, []⟩).Integrates rate [] .default :=
  ⟨rfl, rfl, rfl, ⟨⟨by decide, by decide⟩, ⟨by decide, by decide⟩⟩,
    ⟨[], .nil, rfl⟩, ⟨[], .nil, rfl⟩⟩

theorem filters_fresh (rate : Nat) (coefficients : List (Vector Int bandLimitedResamplerTaps)) :
    (fresh ⟨rate, .bandLimited (.new coefficients), []⟩).Filters rate coefficients []
      (.new coefficients) :=
  ⟨rfl, rfl, rfl, rfl, Nat.zero_lt_succ _, by rintro ⟨⟩, by rintro emitted ⟨⟩⟩

end DrainedCapture

/-- The count is the quotient, whatever phase is open. -/
theorem count_of_phase {phase count rate inputs : Nat} (hlt : phase < dmgFamilyApuCaptureClockHz)
    (h : phase + dmgFamilyApuCaptureClockHz * count = rate * inputs) :
    count = inputs * rate / dmgFamilyApuCaptureClockHz := by
  rw [Nat.mul_comm inputs, ← h, Nat.add_mul_div_left _ _ (by decide), Nat.div_eq_of_lt hlt,
    Nat.zero_add]

/-- A capture at any rate, over any T-cycles and drains.  At the APU clock and above it never stops,
and the samples and the open interval account for the whole input.  Below the clock every row that
is asked for is in the table and the capture goes on as long as the samples fit; a table whose rows
sum to one leaves a constant as it is.  The samples that are out are as many as the rate has them. -/
theorem ApuSampleCapture.capture_law
    (buildBandLimitedResamplerCoefficients : Nat → List (Vector Int bandLimitedResamplerTaps))
    {rate : Nat} (hrate : 0 < rate)
    (htable : (buildBandLimitedResamplerCoefficients rate).length = bandLimitedResamplerPhases) :
    ∃ capture, ApuSampleCapture.new buildBandLimitedResamplerCoefficients rate = .ok capture ∧
      ∀ events,
        (∀ d, (DrainedCapture.fresh capture).run events = some d →
          d.emitted.length = (capturedInputs events).length * rate / dmgFamilyApuCaptureClockHz) ∧
        (dmgFamilyApuCaptureClockHz ≤ rate →
          ∃ d s, (DrainedCapture.fresh capture).run events = some d ∧
            d.capture.mode = .integrated s ∧
            Accounts ((capturedInputs events).map fun sample => sample.left.val * (rate : Int)).sum
              s.integratedLeft (d.emitted.map (·.left)) ∧
            Accounts ((capturedInputs events).map fun sample => sample.right.val * (rate : Int)).sum
              s.integratedRight (d.emitted.map (·.right))) ∧
        (rate < dmgFamilyApuCaptureClockHz →
          (∀ bound : Int,
            (∀ row ∈ buildBandLimitedResamplerCoefficients rate,
              bound * rowGain row ≤ bandLimitedResamplerCoefficientOne * (2 ^ 31 - 1)) →
            (∀ sample ∈ capturedInputs events,
              |sample.left.val| ≤ bound ∧ |sample.right.val| ≤ bound) →
            ∃ d, (DrainedCapture.fresh capture).run events = some d) ∧
          (∀ d, (DrainedCapture.fresh capture).run events = some d →
            ∃ s, d.capture.mode = .bandLimited s ∧
              (dmgFamilyApuCaptureClockHz ≤ s.samplePhaseAccumulator + rate →
                phaseIndexFromRemainingPhase
                  (dmgFamilyApuCaptureClockHz - s.samplePhaseAccumulator) rate <
                    bandLimitedResamplerPhases)) ∧
          ((∀ row ∈ buildBandLimitedResamplerCoefficients rate,
              rowSum row = bandLimitedResamplerCoefficientOne) →
            ∀ c, (∀ sample ∈ capturedInputs events, sample = c) →
              ∃ d, (DrainedCapture.fresh capture).run events = some d ∧
                ∀ emitted ∈ d.emitted, emitted = c)) := by
  unfold ApuSampleCapture.new
  rw [if_neg (Nat.pos_iff_ne_zero.mp hrate)]
  refine ⟨_, rfl, ?_⟩
  intro events
  by_cases hmode : dmgFamilyApuCaptureClockHz ≤ rate
  · simp only [hmode, if_true]
    obtain ⟨d, s, hrun, h⟩ := (DrainedCapture.integrates_fresh rate).run events
    rw [List.nil_append] at h
    refine ⟨?_, fun _ => ⟨d, s, hrun, h.mode, h.left, h.right⟩, fun hlt => absurd hmode (by omega)⟩
    intro d' hd'
    obtain rfl : d = d' := Option.some.inj (hrun.symm.trans hd')
    exact count_of_phase s.phase_lt h.phase
  · simp only [hmode, if_false]
    have hbelow : rate < dmgFamilyApuCaptureClockHz := Nat.lt_of_not_le hmode
    obtain ⟨hgoes, hkeeps⟩ := (DrainedCapture.filters_fresh rate
      (buildBandLimitedResamplerCoefficients rate)).run hbelow htable events
    rw [List.nil_append] at hgoes hkeeps
    refine ⟨?_, fun h => absurd h id, fun _ => ⟨?_, ?_, ?_⟩⟩
    · intro d hd
      obtain ⟨s, h⟩ := hkeeps d hd
      exact count_of_phase h.phase_lt h.phase
    · intro bound hgain hbound
      exact hgoes (fits_of_gain hgain hbound)
    · intro d hd
      obtain ⟨s, h⟩ := hkeeps d hd
      have hphase := h.phase_lt
      exact ⟨s, h.mode, fun hdue => phaseIndex_lt (by omega) (by omega)⟩
    · intro hrows c hconstant
      obtain ⟨d, hd⟩ := hgoes (fits_of_constant hrows hconstant)
      obtain ⟨s, h⟩ := hkeeps d hd
      exact ⟨d, hd, fun emitted hmem => (h.emitted emitted hmem).eq_constant hrows hconstant⟩

/-- The row that the filter has at a quarter of the APU clock. -/
def quarterRateRow : Vector Int bandLimitedResamplerTaps :=
  #v[-9, -12, -5, 44, 148, 240, 153, -278, -1015, -1616, -1288, 726, 4571, 9396, 13554, 15361,
    14011, 10043, 5055, 832, -1532, -1998, -1309, -376, 218, 361, 240, 78, -10, -26, -15, -6]

theorem ApuSampleCapture.capture_law_quarter :
    ∃ capture, ApuSampleCapture.new (fun _ => List.replicate 256 quarterRateRow) 1048576 =
        .ok capture ∧
      ∀ events d, (DrainedCapture.fresh capture).run events = some d →
        d.emitted.length =
          (capturedInputs events).length * 1048576 / dmgFamilyApuCaptureClockHz := by
  have hrate : 0 < 1048576 := by decide
  obtain ⟨capture, hnew, hlaw⟩ := ApuSampleCapture.capture_law
    (fun _ => List.replicate 256 quarterRateRow) hrate List.length_replicate
  exact ⟨capture, hnew, fun events d hd => (hlaw events).1 d hd⟩

/-- At the ends of `i32` the filter overshoots, and the conversion of its value stops the capture. -/
theorem ApuSampleCapture.overshoot_stops :
    ∃ capture, ApuSampleCapture.new (fun _ => List.replicate 256 quarterRateRow) 1048576 =
        .ok capture ∧
      (∀ row ∈ List.replicate 256 quarterRateRow,
        rowSum row = bandLimitedResamplerCoefficientOne) ∧
      ((DrainedCapture.fresh capture).run
        [.record ⟨⟨2 ^ 31 - 1, by decide⟩, ⟨0, by decide⟩⟩,
          .record ⟨⟨-2 ^ 31, by decide⟩, ⟨0, by decide⟩⟩,
          .record ⟨⟨-2 ^ 31, by decide⟩, ⟨0, by decide⟩⟩,
          .record ⟨⟨-2 ^ 31, by decide⟩, ⟨0, by decide⟩⟩]).isNone = true := by
  refine ⟨_, rfl, ?_, by decide +kernel⟩
  intro row hrow
  rw [List.eq_of_mem_replicate hrow]
  decide +kernel

end GbCycle
