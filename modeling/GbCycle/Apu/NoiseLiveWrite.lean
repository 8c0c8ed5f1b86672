import GbCycle.Apu.Common

/-!
# Writes of NR43 while the noise runs

The noise is clocked by a bit of a hidden counter, and NR43 chooses the bit.  A write while the
channel is active shows the choice intermediate values on its way, each of which may make the
chosen bit rise and so clock the feedback register, or corrupt it.
-/

namespace GbCycle

def noiseClockShiftShift : Nat := 4
def noiseClockShiftMask : U8 := 0x0F
def noiseShortWidthBit : U8 := 0x08
def noiseDividerCodeMask : U8 := 0x07
def noiseLfsrInitialState : U16 := 0
def noiseLfsrOutputBit : Nat := 0
def noiseLfsrTapBit : Nat := 1
def noiseLfsrFeedbackBit : Nat := 14
def noiseLfsrShortWidthFeedbackBit : Nat := 6

/-- One above `NOISE_COUNTER_MASK`. -/
def noiseCounterModulus : Nat := 0x4000

def noiseDivisorBase (clockDividerCode : U8) : Nat :=
  match clockDividerCode &&& noiseDividerCodeMask with
  | 0 => 8
  | 1 => 16
  | 2 => 32
  | 3 => 48
  | 4 => 64
  | 5 => 80
  | 6 => 96
  | _ => 112

def noiseTimerReload (clockShift clockDividerCode : U8) : Nat :=
  noiseDivisorBase clockDividerCode <<< (clockShift &&& noiseClockShiftMask).toNat

def noiseCounterTimerReload (clockDividerCode : U8) : Nat :=
  let divisor := (clockDividerCode &&& noiseDividerCodeMask).toNat <<< 2
  if divisor = 0 then 2 else divisor

def noiseClockingSuppressed (clockShift : U8) : Bool := 14 ≤ clockShift

def noiseCounterBit (counter : Nat) (clockShift : U8) : Bool :=
  if noiseClockingSuppressed clockShift then false
  else counter.testBit (clockShift &&& noiseClockShiftMask).toNat

structure Channel4NoiseSignalState where
  clockShift : U8
  shortWidthMode : Bool
  clockDividerCode : U8
  periodTimer : Nat
  lfsrState : U16
  deriving Repr, DecidableEq

structure Channel4Nr43LiveWriteState where
  alignment : Nat
  alignmentSubphase : Bool
  counterTimer : Nat
  noiseCounter : Nat
  countdownReloaded : Bool
  didStepCounter : Bool
  counterActive : Bool
  backgroundCounting : Bool
  startedWithDacDisabled : Bool
  deriving Repr, DecidableEq

/-- `step_channel4_lfsr`: the two lowest bits agree into the feedback bits. -/
def stepChannel4Lfsr (shortWidthMode : Bool) (lfsrState : U16) : U16 :=
  let feedbackBit : U16 :=
    if lfsrState.getLsbD noiseLfsrOutputBit = lfsrState.getLsbD noiseLfsrTapBit then 1 else 0
  let feedInto (state : U16) (bit : Nat) : U16 :=
    (state &&& ~~~((1 : U16) <<< bit)) ||| (feedbackBit <<< bit)
  let shifted := feedInto (lfsrState >>> 1) noiseLfsrFeedbackBit
  if shortWidthMode then feedInto shifted noiseLfsrShortWidthFeedbackBit else shifted

/-! ## The values on the way -/

structure Channel4Stage where
  value : U8
  shift : U8
  bit : Bool
  shortWidthMode : Bool
  deriving Repr, DecidableEq

def decodeNr43ClockShift (value : U8) : U8 :=
  (value >>> noiseClockShiftShift) &&& noiseClockShiftMask

namespace Channel4Stage

def fromNr43 (value : U8) (effectiveCounter : Nat) : Channel4Stage :=
  let shift := decodeNr43ClockShift value
  { value, shift, bit := noiseCounterBit effectiveCounter shift
    shortWidthMode := value &&& noiseShortWidthBit ≠ 0 }

def syntheticFf (effectiveCounter : Nat) : Channel4Stage :=
  { value := 0xFF, shift := 15, bit := noiseCounterBit effectiveCounter 15
    shortWidthMode := true }

end Channel4Stage

def firstGlitchValue (oldNr43 newNr43 : U8) : U8 := (oldNr43 &&& 0x7F) ||| (newNr43 &&& 0x80)

inductive ApuCh4Nr43LfsrAction where
  | none
  | plainStep
  | forcedShortStep
  | forcedShortStepThenLowShiftCorruption
  deriving Repr, DecidableEq

structure Channel4ActualWriteResolution where
  action : ApuCh4Nr43LfsrAction
  lowShiftFollowup : Bool
  deriving Repr, DecidableEq

def resolveBasicLiveWriteTransition (oldStage newStage : Channel4Stage) (effectiveCounter : Nat) :
    Channel4ActualWriteResolution :=
  let glitchStage :=
    Channel4Stage.fromNr43 (firstGlitchValue oldStage.value newStage.value) effectiveCounter
  if oldStage.bit = newStage.bit ∧ newStage.bit ≠ glitchStage.bit then
    ⟨if newStage.bit then .none else .plainStep, false⟩
  else if !oldStage.bit ∧ newStage.bit then
    ⟨if newStage.shift ≤ 2 ∧ glitchStage.bit ∧ !effectiveCounter.testBit 3 then
        .forcedShortStepThenLowShiftCorruption
      else .forcedShortStep, false⟩
  else
    ⟨.none, newStage.shift ≤ 2 && !glitchStage.bit && !newStage.bit && !oldStage.bit &&
      effectiveCounter.testBit 3⟩

/-! ## What the register makes of them -/

namespace Channel4NoiseSignalState

def stepLfsr (n : Channel4NoiseSignalState) : Channel4NoiseSignalState :=
  { n with lfsrState := stepChannel4Lfsr n.shortWidthMode n.lfsrState }

/-- `step_channel4_lfsr_with_forced_short_width`. -/
def stepLfsrForcedShort (n : Channel4NoiseSignalState) : Channel4NoiseSignalState :=
  { n with lfsrState := stepChannel4Lfsr true n.lfsrState }

/-- `apply_channel4_feedback_bit_corruption`. -/
def corruptFeedbackBit (n : Channel4NoiseSignalState) : Channel4NoiseSignalState :=
  let feedbackMask : U16 := if n.shortWidthMode then 0x4040 else 0x4000
  let previousFeedbackMask : U16 := if n.shortWidthMode then 0x2020 else 0x2000
  let cleared := n.lfsrState &&& ~~~feedbackMask
  { n with lfsrState := cleared ||| ((cleared &&& previousFeedbackMask) <<< 1) }

def applyLfsrAction (n : Channel4NoiseSignalState) :
    ApuCh4Nr43LfsrAction → Channel4NoiseSignalState
  | .none => n
  | .plainStep => n.stepLfsr
  | .forcedShortStep => n.stepLfsrForcedShort
  | .forcedShortStepThenLowShiftCorruption =>
    n.stepLfsrForcedShort.stepLfsr.corruptFeedbackBit

/-- `materialize_actionable_pass_trace`. -/
def applyPass (n : Channel4NoiseSignalState) (action : ApuCh4Nr43LfsrAction)
    (actionShortWidthMode : Bool) : Channel4NoiseSignalState :=
  { n with shortWidthMode := actionShortWidthMode }.applyLfsrAction action

end Channel4NoiseSignalState

/-! ## The write -/

inductive Channel4Nr43LiveWriteProfile where
  | dmgPreCgbD
  | cgbDirect
  deriving Repr, DecidableEq

/-- `noise_counter.wrapping_sub(1) & NOISE_COUNTER_MASK`. -/
def previousNoiseCounter (noiseCounter : Nat) : Nat :=
  (noiseCounter + (noiseCounterModulus - 1)) % noiseCounterModulus

def sameShiftGroup (oldNr43 newNr43 : U8) : Bool := oldNr43 &&& 0xF0 = newNr43 &&& 0xF0

def effectiveNoiseCounter (live : Channel4Nr43LiveWriteState) : Nat :=
  if live.countdownReloaded then live.noiseCounter ||| previousNoiseCounter live.noiseCounter
  else live.noiseCounter

def applyReloadSeamPass (oldStage : Channel4Stage) (newNr43 : U8)
    (live : Channel4Nr43LiveWriteState) (noise : Channel4NoiseSignalState) :
    Channel4NoiseSignalState :=
  let current := live.noiseCounter
  let previous := previousNoiseCounter current
  let newShift := decodeNr43ClockShift newNr43
  if !noiseCounterBit current oldStage.shift ∧ noiseCounterBit current newShift ∧
      noiseCounterBit current 7 ∧ noiseCounterBit previous oldStage.shift ∧
      !noiseCounterBit previous newShift ∧ noiseCounterBit previous 7 then noise.stepLfsr
  else noise

def resolveDmgPreCgbD (runtimeActive : Bool) (oldNr43 newNr43 : U8)
    (live : Channel4Nr43LiveWriteState) (noise : Channel4NoiseSignalState) :
    Channel4NoiseSignalState :=
  let effectiveCounter := effectiveNoiseCounter live
  let oldStage := Channel4Stage.fromNr43 oldNr43 effectiveCounter
  let ffStage := Channel4Stage.syntheticFf effectiveCounter
  let newStage := Channel4Stage.fromNr43 newNr43 effectiveCounter
  if !runtimeActive ∨ sameShiftGroup oldNr43 newNr43 then noise
  else
    let noise :=
      if live.countdownReloaded then applyReloadSeamPass oldStage newNr43 live noise else noise
    let oldToFf := resolveBasicLiveWriteTransition oldStage ffStage effectiveCounter
    let ffToNew := resolveBasicLiveWriteTransition ffStage newStage effectiveCounter
    let noise := noise.applyPass oldToFf.action ffStage.shortWidthMode
    let noise := noise.applyPass ffToNew.action newStage.shortWidthMode
    let noise :=
      if ffToNew.lowShiftFollowup then noise.applyPass .plainStep newStage.shortWidthMode
      else noise
    { noise with shortWidthMode := newStage.shortWidthMode }

def resolveCgbDirect (runtimeActive : Bool) (oldNr43 newNr43 : U8)
    (live : Channel4Nr43LiveWriteState) (noise : Channel4NoiseSignalState) :
    Channel4NoiseSignalState :=
  let effectiveCounter := live.noiseCounter
  let oldStage := Channel4Stage.fromNr43 oldNr43 effectiveCounter
  let newStage := Channel4Stage.fromNr43 newNr43 effectiveCounter
  if !runtimeActive ∨ sameShiftGroup oldNr43 newNr43 then
    { noise with shortWidthMode := newStage.shortWidthMode }
  else
    let direct := resolveBasicLiveWriteTransition oldStage newStage effectiveCounter
    { noise.applyPass direct.action newStage.shortWidthMode with
      shortWidthMode := newStage.shortWidthMode }

/-- `trace_channel4_live_nr43_write`, without its trace. -/
def resolveLiveNr43Write (profile : Channel4Nr43LiveWriteProfile) (runtimeActive : Bool)
    (oldNr43 newNr43 : U8) (live : Channel4Nr43LiveWriteState)
    (noise : Channel4NoiseSignalState) : Channel4NoiseSignalState :=
  match profile with
  | .dmgPreCgbD => resolveDmgPreCgbD runtimeActive oldNr43 newNr43 live noise
  | .cgbDirect => resolveCgbDirect runtimeActive oldNr43 newNr43 live noise

def resolveChannel4NoiseCounterTimerAfterLiveWrite (profile : Channel4Nr43LiveWriteProfile)
    (newNr43 : U8) (live : Channel4Nr43LiveWriteState) : Nat :=
  if !live.countdownReloaded ∧ live.counterTimer ≠ 0 then live.counterTimer
  else
    let divisor := noiseCounterTimerReload newNr43
    if divisor = 2 then divisor
    else
      let alignmentOffsets : List Nat :=
        match profile with
        | .dmgPreCgbD => [2, 1, 4, 3]
        | .cgbDirect => [2, 1, 0, 3]
      divisor + alignmentOffsets.getD (live.alignment % 4) 0

end GbCycle
