import GbCycle.Model
import Mathlib.Algebra.Ring.Int.Defs
import Mathlib.Data.List.FinRange
import Mathlib.Tactic.Common

/-!
# Sample capture

The APU puts out a sample every T-cycle, and a host wants them at a rate of its own.  At rates from
the APU clock on the samples are integrated over the host's intervals, of which several may end in
one T-cycle.  Below the clock a filter of thirty-two taps runs over the last samples, with the
coefficients of the phase at which the interval of the host ends.

The coefficients are computed in floating point, so the table that they are in is a parameter.  The
conversion of a result to `i32` that does not fit is an `expect` of the source, `none` here.
-/

namespace GbCycle

def dmgFamilyApuCaptureClockHz : Nat := 4194304
def bandLimitedResamplerTaps : Nat := 32
def bandLimitedResamplerPhases : Nat := 256
def bandLimitedResamplerCoefficientOne : Nat := 0x10000

abbrev I32 := { x : Int // -2 ^ 31 ≤ x ∧ x < 2 ^ 31 }

/-- `i32::try_from`. -/
def I32.tryFrom (x : Int) : Option I32 :=
  if h : -2 ^ 31 ≤ x ∧ x < 2 ^ 31 then some ⟨x, h⟩ else none

structure ApuHostSample where
  left : I32
  right : I32
  deriving DecidableEq

inductive ApuSampleCaptureError where
  | outputSampleRateZero
  deriving Repr, DecidableEq

/-- The division of `i128` is towards zero. -/
def divideAndRoundToI32 (value : Int) (divisor : Nat) : Option I32 :=
  let rounded :=
    if 0 ≤ value then (value + divisor / 2).tdiv divisor else (value - divisor / 2).tdiv divisor
  I32.tryFrom rounded

/-! ## The integrating mode -/

structure IntegratedSampleCaptureState where
  samplePhaseAccumulator : Nat
  integratedLeft : Int
  integratedRight : Int
  phase_lt : samplePhaseAccumulator < dmgFamilyApuCaptureClockHz

namespace IntegratedSampleCaptureState

def default : IntegratedSampleCaptureState := ⟨0, 0, 0, by decide⟩

/-- The loop over the intervals that a T-cycle is part of. -/
def recordPhase (sample : ApuHostSample) (remainingPhase : Nat)
    (s : IntegratedSampleCaptureState) (pendingSamples : List ApuHostSample) :
    Option (IntegratedSampleCaptureState × List ApuHostSample) :=
  if hdone : remainingPhase = 0 then some (s, pendingSamples)
  else
    let phaseUntilEmit := dmgFamilyApuCaptureClockHz - s.samplePhaseAccumulator
    let phaseStep := min remainingPhase phaseUntilEmit
    have hstep : 0 < phaseStep := by
      have hphase := s.phase_lt
      simp only [phaseStep, phaseUntilEmit]
      omega
    let integratedLeft := s.integratedLeft + sample.left.val * phaseStep
    let integratedRight := s.integratedRight + sample.right.val * phaseStep
    if hemit : s.samplePhaseAccumulator + phaseStep = dmgFamilyApuCaptureClockHz then
      (divideAndRoundToI32 integratedLeft dmgFamilyApuCaptureClockHz).bind fun left =>
        (divideAndRoundToI32 integratedRight dmgFamilyApuCaptureClockHz).bind fun right =>
          recordPhase sample (remainingPhase - phaseStep) default
            (pendingSamples ++ [⟨left, right⟩])
    else
      recordPhase sample (remainingPhase - phaseStep)
        { samplePhaseAccumulator := s.samplePhaseAccumulator + phaseStep
          integratedLeft, integratedRight
          phase_lt := by
            have hphase := s.phase_lt
            simp only [phaseStep, phaseUntilEmit] at hemit ⊢
            omega }
        pendingSamples
  termination_by remainingPhase
  decreasing_by all_goals omega

def recordOutputTCycle (s : IntegratedSampleCaptureState) (sample : ApuHostSample)
    (outputSampleRateHz : Nat) (pendingSamples : List ApuHostSample) :
    Option (IntegratedSampleCaptureState × List ApuHostSample) :=
  s.recordPhase sample outputSampleRateHz pendingSamples

end IntegratedSampleCaptureState

/-! ## The band-limited mode -/

def phaseIndexFromRemainingPhase (remainingPhase outputSampleRateHz : Nat) : Nat :=
  (remainingPhase * bandLimitedResamplerPhases - 1) / outputSampleRateHz

structure BandLimitedSampleCaptureState where
  samplePhaseAccumulator : Nat
  history : Vector ApuHostSample bandLimitedResamplerTaps
  historyWriteIndex : Fin bandLimitedResamplerTaps
  hasHistory : Bool
  coefficients : List (Vector Int bandLimitedResamplerTaps)

namespace BandLimitedSampleCaptureState

def new (coefficients : List (Vector Int bandLimitedResamplerTaps)) :
    BandLimitedSampleCaptureState :=
  { samplePhaseAccumulator := 0
    history := Vector.replicate _ ⟨⟨0, by decide⟩, ⟨0, by decide⟩⟩
    historyWriteIndex := ⟨0, by decide⟩, hasHistory := false, coefficients }

/-- The sample that a tap is on: the first is on the last one. -/
def historyAt (s : BandLimitedSampleCaptureState) (tap : Fin bandLimitedResamplerTaps) :
    ApuHostSample :=
  s.history.get
    ⟨(s.historyWriteIndex + bandLimitedResamplerTaps - 1 - tap) % bandLimitedResamplerTaps,
      Nat.mod_lt _ (by decide)⟩

/-- The sum over the taps, on one side. -/
def filtered (s : BandLimitedSampleCaptureState) (row : Vector Int bandLimitedResamplerTaps)
    (side : ApuHostSample → I32) : Int :=
  ((List.finRange bandLimitedResamplerTaps).map fun tap =>
    (side (s.historyAt tap)).val * row.get tap).sum

def captureBandLimitedSample (s : BandLimitedSampleCaptureState) (phaseIndex : Nat) :
    Option ApuHostSample := do
  let row ← s.coefficients[phaseIndex]?
  let left ← divideAndRoundToI32 (s.filtered row (·.left)) bandLimitedResamplerCoefficientOne
  let right ← divideAndRoundToI32 (s.filtered row (·.right)) bandLimitedResamplerCoefficientOne
  return ⟨left, right⟩

/-- The sample enters the history, which it fills if it is the first. -/
def pushHistory (s : BandLimitedSampleCaptureState) (sample : ApuHostSample) :
    BandLimitedSampleCaptureState :=
  let history := if !s.hasHistory then Vector.replicate _ sample else s.history
  { s with
    history := history.set s.historyWriteIndex sample
    historyWriteIndex :=
      ⟨(s.historyWriteIndex + 1) % bandLimitedResamplerTaps, Nat.mod_lt _ (by decide)⟩
    hasHistory := true }

def recordOutputTCycle (s : BandLimitedSampleCaptureState) (sample : ApuHostSample)
    (outputSampleRateHz : Nat) (pendingSamples : List ApuHostSample) :
    Option (BandLimitedSampleCaptureState × List ApuHostSample) :=
  let s := s.pushHistory sample
  let oldPhase := s.samplePhaseAccumulator
  let phase := oldPhase + outputSampleRateHz
  if phase < dmgFamilyApuCaptureClockHz then
    some ({ s with samplePhaseAccumulator := phase }, pendingSamples)
  else do
    let phaseUntilEmit := dmgFamilyApuCaptureClockHz - oldPhase
    let phaseIndex := phaseIndexFromRemainingPhase phaseUntilEmit outputSampleRateHz
    let emitted ← s.captureBandLimitedSample phaseIndex
    return ({ s with samplePhaseAccumulator := phase - dmgFamilyApuCaptureClockHz },
      pendingSamples ++ [emitted])

end BandLimitedSampleCaptureState

/-! ## The capture -/

inductive ApuSampleCaptureMode where
  | integrated (state : IntegratedSampleCaptureState)
  | bandLimited (state : BandLimitedSampleCaptureState)

structure ApuSampleCapture where
  outputSampleRateHz : Nat
  mode : ApuSampleCaptureMode
  pendingSamples : List ApuHostSample

namespace ApuSampleCapture

/-- `ApuSampleCapture::new`, with `build_band_limited_resampler_coefficients`. -/
def new (buildBandLimitedResamplerCoefficients :
      Nat → List (Vector Int bandLimitedResamplerTaps)) (outputSampleRateHz : Nat) :
    Except ApuSampleCaptureError ApuSampleCapture :=
  if outputSampleRateHz = 0 then .error .outputSampleRateZero
  else
    let mode :=
      if dmgFamilyApuCaptureClockHz ≤ outputSampleRateHz then
        .integrated IntegratedSampleCaptureState.default
      else
        .bandLimited
          (BandLimitedSampleCaptureState.new
            (buildBandLimitedResamplerCoefficients outputSampleRateHz))
    .ok { outputSampleRateHz, mode, pendingSamples := [] }

def recordOutputTCycle (c : ApuSampleCapture) (sample : ApuHostSample) :
    Option ApuSampleCapture :=
  match c.mode with
  | .integrated state =>
      (state.recordOutputTCycle sample c.outputSampleRateHz c.pendingSamples).map fun r =>
        { c with mode := .integrated r.1, pendingSamples := r.2 }
  | .bandLimited state =>
      (state.recordOutputTCycle sample c.outputSampleRateHz c.pendingSamples).map fun r =>
        { c with mode := .bandLimited r.1, pendingSamples := r.2 }

/-- `drain_samples`, and `drain_samples_into` a buffer of the host. -/
def drainSamples (c : ApuSampleCapture) : List ApuHostSample × ApuSampleCapture :=
  (c.pendingSamples, { c with pendingSamples := [] })

end ApuSampleCapture

/-- What happens to a capture: a T-cycle, or the host takes what is there. -/
inductive CaptureEvent where
  | record (sample : ApuHostSample)
  | drain

/-- A capture with all that the host has taken from it. -/
structure DrainedCapture where
  drained : List ApuHostSample
  capture : ApuSampleCapture

namespace DrainedCapture

/-- The samples that have been put out, drained or not. -/
def emitted (d : DrainedCapture) : List ApuHostSample := d.drained ++ d.capture.pendingSamples

def drain (d : DrainedCapture) : DrainedCapture :=
  { drained := d.drained ++ d.capture.drainSamples.1, capture := d.capture.drainSamples.2 }

def step (d : DrainedCapture) : CaptureEvent → Option DrainedCapture
  | .record sample =>
      (d.capture.recordOutputTCycle sample).map fun capture => { d with capture }
  | .drain => some d.drain

def run (d : DrainedCapture) (events : List CaptureEvent) : Option DrainedCapture :=
  events.foldlM step d

end DrainedCapture

/-- The samples that the APU puts in. -/
def capturedInputs (events : List CaptureEvent) : List ApuHostSample :=
  events.filterMap fun
    | .record sample => some sample
    | .drain => none

end GbCycle
