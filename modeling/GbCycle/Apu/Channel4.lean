import GbCycle.Apu.NoiseLiveWrite

/-!
# Channel 4

The noise channel shifts a feedback register.  Two clocks run beside each other: a timer of the
period, and a hidden counter that a prescaler advances and one bit of which, rising, clocks the
register.  A trigger starts the hidden counter from a phase that keeps what the steps of the APU
were aligned to; on a DMG that is not aligned the trigger waits for some of those steps.
-/

namespace GbCycle

inductive Channel4Register where
  | nr41
  | nr42
  | nr43
  | nr44
  deriving Repr, DecidableEq

structure Channel4State where
  nr41 : U8
  nr42 : U8
  nr43 : U8
  nr44 : U8
  dmgDelayedStart : Nat
  pendingTriggerEnvelopeReload : Bool
  runtime : ChannelRuntimeState
  lengthCounter : Nat
  lengthEnabled : Bool
  envelope : EnvelopeState
  noise : Channel4NoiseSignalState
  nr43LiveWrite : Channel4Nr43LiveWriteState
  deriving Repr, DecidableEq

namespace Channel4State

def default : Channel4State :=
  { nr41 := 0, nr42 := 0, nr43 := 0, nr44 := 0, dmgDelayedStart := 0
    pendingTriggerEnvelopeReload := false, runtime := .default, lengthCounter := 0
    lengthEnabled := false, envelope := .default
    noise := ⟨0, false, 0, 0, 0⟩
    nr43LiveWrite := ⟨0, false, 0, 0, false, false, false, false, false⟩ }

def derivedDacEnabled (c : Channel4State) : Bool := c.nr42 &&& dacEnableRegisterMask ≠ 0

def ownTimerReload (c : Channel4State) : Nat :=
  noiseTimerReload c.noise.clockShift c.noise.clockDividerCode

def stepLfsr (c : Channel4State) : Channel4State :=
  { c with noise := c.noise.stepLfsr }

def hiddenCounterBit (c : Channel4State) : Bool :=
  noiseCounterBit c.nr43LiveWrite.noiseCounter c.noise.clockShift

def incrementHiddenCounter (c : Channel4State) : Channel4State :=
  { c with
    nr43LiveWrite := { c.nr43LiveWrite with
      noiseCounter := (c.nr43LiveWrite.noiseCounter + 1) % noiseCounterModulus } }

def hiddenCounterRunning (c : Channel4State) : Bool :=
  c.nr43LiveWrite.counterActive || c.nr43LiveWrite.backgroundCounting

/-! ## The trigger -/

/-- The first count of a started hidden counter. -/
def startedCounterTimer (c : Channel4State) (divisor : Nat) (div1Glitch counterActive
    wasBackgroundCounting wasStartedWithDacDisabled : Bool) : Int :=
  let alignment := c.nr43LiveWrite.alignment % 4
  let active := c.runtime.active
  let base : Int := if divisor = 0 then 6 else divisor * 4 + 6
  let aligned : Int :=
    if alignment % 2 ≠ 0 then
      if divisor = 0 then base + 1
      else if alignment / 2 ≠ 0 then
        if divisor = 1 ∧ !active then base + 1 else base - 3
      else if divisor = 1 ∧ active then base - 1 - 4
      else base - 1
    else if divisor = 0 then base
    else if alignment / 2 ≠ 0 then base - 2
    else if 1 < divisor ∨ (divisor = 1 ∧ active ∧ c.nr43 &&& 0xF0 = 0) then base - 4
    else base
  let backgrounded : Int :=
    if 1 < divisor then
      if !counterActive ∧ alignment = 0 then aligned + 4 else aligned
    else if wasBackgroundCounting ∧ !active ∧ alignment = 0 then
      if divisor = 0 then
        if wasStartedWithDacDisabled then aligned + 28 else aligned
      else aligned - 4
    else aligned
  if div1Glitch then backgrounded - 4 else backgrounded

/-- `prepare_hidden_counter_start`. -/
def prepareHiddenCounterStart (c : Channel4State) : Channel4State :=
  let live := c.nr43LiveWrite
  let counterActive := c.derivedDacEnabled
  let firstBootstrapStart : Bool :=
    !live.backgroundCounting && !counterActive && !c.runtime.active && live.noiseCounter = 0 &&
      !live.didStepCounter
  let divisorCode := (c.noise.clockDividerCode &&& noiseDividerCodeMask).toNat
  let alignment := live.alignment % 4
  let c := { c with
    nr43LiveWrite := { live with
      counterActive
      startedWithDacDisabled := !counterActive
      backgroundCounting := true
      noiseCounter :=
        if firstBootstrapStart then (live.noiseCounter + 8) % noiseCounterModulus
        else live.noiseCounter } }
  let glitching : Bool := live.counterTimer = 2 && alignment = 0 && c.runtime.active
  let divisor := if glitching ∧ divisorCode = 0 then 8 else divisorCode
  let incremented :=
    if (1 < divisorCode ∧ live.counterTimer = 1) ∨ (glitching ∧ divisorCode = 1) then
      c.incrementHiddenCounter
    else c
  let div1Glitch : Bool := glitching && divisorCode = 1 && !live.didStepCounter
  let instantStep : Bool :=
    glitching && divisorCode = 1 && incremented.hiddenCounterBit && !c.hiddenCounterBit
  let counterTimer := incremented.startedCounterTimer divisor div1Glitch counterActive
    live.backgroundCounting live.startedWithDacDisabled
  let started := { incremented with
    noise := { incremented.noise with
      lfsrState :=
        if divisor = 0 ∧ c.runtime.active ∧ alignment = 3 then 0x0055
        else noiseLfsrInitialState }
    nr43LiveWrite := { incremented.nr43LiveWrite with
      counterTimer := counterTimer.toNat
      countdownReloaded := false
      didStepCounter := alignment = 2 } }
  if instantStep then started.stepLfsr else started

/-- The length counter a trigger finds at zero, with whether it did. -/
def reloadZeroLength (c : Channel4State) : Channel4State × Bool :=
  if c.lengthCounter = 0 then
    ({ c with lengthCounter := pulseLengthCounterReload, lengthEnabled := false }, true)
  else (c, false)

/-- `trigger`, with whether it reloaded a length counter at zero. -/
def trigger (c : Channel4State) (nextStepClocksEnvelope : Bool) : Channel4State × Bool :=
  let (c, reloadedZeroLength) := c.reloadZeroLength
  let envelope := c.envelope.applyWrite c.nr42
  let c := { c with envelope }.prepareHiddenCounterStart
  ({ c with
     noise := { c.noise with periodTimer := c.ownTimerReload }
     envelope := envelope.reload nextStepClocksEnvelope
     runtime := c.runtime.trigger }, reloadedZeroLength)

/-! ## The registers -/

def writeNr41 (c : Channel4State) (value : U8) : Channel4State :=
  { c with nr41 := value, lengthCounter := pulseLengthCounterFromLoad value }

def handleHiddenCounterDacDisable (c : Channel4State) : Channel4State :=
  let c :=
    if c.runtime.active ∧ c.noise.clockDividerCode ≠ 0 then
      let c := if 0 < c.nr43LiveWrite.counterTimer ∧ c.nr43LiveWrite.counterTimer ≤ 2 then
          c.incrementHiddenCounter
        else c
      { c with nr43LiveWrite := { c.nr43LiveWrite with backgroundCounting := false } }
    else c
  { c with nr43LiveWrite := { c.nr43LiveWrite with counterActive := false } }

def writeNr42 (c : Channel4State) (value : U8) (consoleModel : ConsoleModel) : Channel4State :=
  let dacDisabling : Bool := c.runtime.dacEnabled && value &&& dacEnableRegisterMask = 0
  let c := if dacDisabling then c.handleHiddenCounterDacDisable else c
  let c := { c with
    envelope := c.envelope.applyLiveWriteEffect consoleModel c.runtime.active value
    nr42 := value }
  { c with runtime := c.runtime.setDacEnabled c.derivedDacEnabled }

def decodeNr43 (n : Channel4NoiseSignalState) (value : U8) : Channel4NoiseSignalState :=
  { n with
    clockShift := decodeNr43ClockShift value
    shortWidthMode := value &&& noiseShortWidthBit ≠ 0
    clockDividerCode := value &&& noiseDividerCodeMask }

def channel4Nr43LiveWriteProfile (consoleModel : ConsoleModel) : Channel4Nr43LiveWriteProfile :=
  if consoleModel.isCgbFamily then .cgbDirect else .dmgPreCgbD

/-- `write_nr43_for_model`. -/
def writeNr43 (c : Channel4State) (value : U8) (consoleModel : ConsoleModel) : Channel4State :=
  let profile := channel4Nr43LiveWriteProfile consoleModel
  let noise := decodeNr43
    (resolveLiveNr43Write profile c.runtime.active c.nr43 value c.nr43LiveWrite c.noise) value
  { c with
    nr43 := value
    noise := { noise with
      periodTimer := noiseTimerReload noise.clockShift noise.clockDividerCode }
    nr43LiveWrite := { c.nr43LiveWrite with
      counterTimer :=
        resolveChannel4NoiseCounterTimerAfterLiveWrite profile value c.nr43LiveWrite
      countdownReloaded := false } }

/-- The length counter with the activity that it decides. -/
def length (c : Channel4State) : LengthCounter := ⟨c.lengthCounter, c.runtime.active⟩

def setLength (c : Channel4State) (l : LengthCounter) : Channel4State :=
  { c with lengthCounter := l.counter, runtime := { c.runtime with active := l.active } }

/-- The trigger of a write, at once or as a start after six steps of the APU. -/
def triggerOrDelay (c : Channel4State) (consoleModel : ConsoleModel)
    (nextStepClocksEnvelope : Bool) : Channel4State × Bool :=
  if consoleModel.isDmgFamily ∧ c.nr43LiveWrite.alignment % 4 ≠ 0 then
    let (c, reloadedZeroLength) := c.reloadZeroLength
    ({ c with dmgDelayedStart := 6, pendingTriggerEnvelopeReload := nextStepClocksEnvelope },
      reloadedZeroLength)
  else c.trigger nextStepClocksEnvelope

def writeNr44 (c : Channel4State) (value : U8) (consoleModel : ConsoleModel)
    (nextFrameSequencerStep : U8) : Channel4State :=
  let context := nrx4WriteContext value nextFrameSequencerStep
  let wasLengthEnabled := c.lengthEnabled
  let c := { c with nr44 := value &&& nr44WritableMask }
  let (c, wasLengthEnabled, reloaded) :=
    if context.trigger then
      let (c, reloaded) := c.triggerOrDelay consoleModel context.nextStepClocksEnvelope
      (c, c.lengthEnabled, reloaded)
    else (c, wasLengthEnabled, false)
  let c := { c with lengthEnabled := context.lengthEnabled }
  c.setLength
    (applyExtraLengthClocking context wasLengthEnabled reloaded pulseLengthCounterReload c.length)

def writeRegister (c : Channel4State) (register : Channel4Register) (value : U8)
    (consoleModel : ConsoleModel) (nextFrameSequencerStep : U8) : Channel4State :=
  match register with
  | .nr41 => c.writeNr41 value
  | .nr42 => c.writeNr42 value consoleModel
  | .nr43 => c.writeNr43 value consoleModel
  | .nr44 => c.writeNr44 value consoleModel nextFrameSequencerStep

/-! ## The clocks -/

/-- `tick_alignment_phase_only`, with whether it is a step of the APU at 2 MHz. -/
def tickAlignmentPhaseOnly (c : Channel4State) : Channel4State × Bool :=
  let live := c.nr43LiveWrite
  let apu2MhzStep := !live.alignmentSubphase
  ({ c with
     nr43LiveWrite := { live with
       alignmentSubphase := apu2MhzStep
       alignment := if apu2MhzStep then (live.alignment + 1) % 4 else live.alignment } },
    apu2MhzStep)

def setCounterTimer (c : Channel4State) (counterTimer : Nat) (countdownReloaded : Bool) :
    Channel4State :=
  { c with nr43LiveWrite := { c.nr43LiveWrite with counterTimer, countdownReloaded } }

def tickNoiseCounterPhase (c : Channel4State) : Channel4State :=
  if !c.hiddenCounterRunning then
    { c with nr43LiveWrite := { c.nr43LiveWrite with countdownReloaded := false } }
  else
    let divisor := noiseCounterTimerReload c.noise.clockDividerCode
    let counterTimer :=
      if c.nr43LiveWrite.counterTimer = 0 then divisor else c.nr43LiveWrite.counterTimer
    if 1 < counterTimer then c.setCounterTimer (counterTimer - 1) false
    else
      let stepped := (c.setCounterTimer divisor true).incrementHiddenCounter
      let stepped := { stepped with
        nr43LiveWrite := { stepped.nr43LiveWrite with didStepCounter := true } }
      if stepped.hiddenCounterBit && !c.hiddenCounterBit && c.runtime.active then stepped.stepLfsr
      else stepped

def tickPeriodTimer (c : Channel4State) : Channel4State :=
  if noiseClockingSuppressed c.noise.clockShift then c
  else
    let periodTimer := c.noise.periodTimer - 1
    { c with
      noise := { c.noise with
        periodTimer := if periodTimer = 0 then c.ownTimerReload else periodTimer } }

def tickFastTimer (c : Channel4State) : Channel4State :=
  let (c, apu2MhzStep) := c.tickAlignmentPhaseOnly
  if !apu2MhzStep then c.tickPeriodTimer
  else
    let startAfterTick : Bool := c.dmgDelayedStart = 1
    let c := { c with dmgDelayedStart := c.dmgDelayedStart - 1 }.tickNoiseCounterPhase
    let c :=
      if startAfterTick then
        ({ c with pendingTriggerEnvelopeReload := false }.trigger c.pendingTriggerEnvelopeReload).1
      else c
    c.tickPeriodTimer

def clockLength (c : Channel4State) : Channel4State :=
  c.setLength (clockLengthCounter c.lengthEnabled c.length)

def clockEnvelope (c : Channel4State) : Channel4State := { c with envelope := c.envelope.clock }

def clockCgbLiveWritePendingEvenEnvelopeTick (c : Channel4State) : Channel4State :=
  { c with envelope := c.envelope.clockCgbLiveWritePendingEvenTick }

end Channel4State

end GbCycle
