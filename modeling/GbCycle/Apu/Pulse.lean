import GbCycle.Apu.Common

/-!
# The pulse channels

Channels 1 and 2 share a pulse generator: a timer that counts the generation clocks of a period
down, and with each period moves the duty on by a step.  After the power comes on it stands still
until the first trigger; and a trigger on a CGB holds it back for a few clocks.
-/

namespace GbCycle

structure PulseChannelState where
  runtime : ChannelRuntimeState
  duty : U8
  pendingDuty : Option U8
  dutyStep : U8
  firstTriggerAfterPowerOnPending : Bool
  powerOnPhase : Nat
  suppressInitialTriggerOutput : Bool
  triggerDelayTCycles : Nat
  justSampled : Bool
  justSampledReloadClocksRemaining : Nat
  timerStoppedByDacDisable : Bool
  periodTimer : Nat
  lengthCounter : Nat
  lengthEnabled : Bool
  envelope : EnvelopeState
  deriving Repr, DecidableEq

def pulseDutyMask : U8 := 0xC0
def pulseDutyShift : Nat := 6
def pulseDutyStepMask : U8 := 0x07

def pulseDutyPatterns : List (List Bool) :=
  [[false, false, false, false, false, false, false, true],
    [true, false, false, false, false, false, false, true],
    [true, false, false, false, false, true, true, true],
    [false, true, true, true, true, true, true, false]]

def pulseWaveformHigh (duty dutyStep : U8) : Bool :=
  (pulseDutyPatterns.getD (duty &&& 0x03).toNat []).getD (dutyStep &&& pulseDutyStepMask).toNat false

namespace PulseChannelState

def default : PulseChannelState :=
  { runtime := .default, duty := 0, pendingDuty := none, dutyStep := 0
    firstTriggerAfterPowerOnPending := false, powerOnPhase := 0
    suppressInitialTriggerOutput := false, triggerDelayTCycles := 0, justSampled := false
    justSampledReloadClocksRemaining := 0, timerStoppedByDacDisable := false, periodTimer := 0
    lengthCounter := 0, lengthEnabled := false, envelope := .default }

def markPoweredOn (p : PulseChannelState) : PulseChannelState :=
  { p with
    firstTriggerAfterPowerOnPending := true, powerOnPhase := 0
    suppressInitialTriggerOutput := false, triggerDelayTCycles := 0, justSampled := false
    justSampledReloadClocksRemaining := 0
    timerStoppedByDacDisable := !p.runtime.dacEnabled }

/-! ## The registers -/

def applyLengthDutyWrite (p : PulseChannelState) (value : U8) : PulseChannelState :=
  let duty := (value &&& pulseDutyMask) >>> pulseDutyShift
  let p := if p.runtime.active then { p with pendingDuty := some duty }
    else { p with duty, pendingDuty := none }
  { p with lengthCounter := pulseLengthCounterFromLoad value }

def writeLengthCounterWhilePoweredOff (p : PulseChannelState) (value : U8) : PulseChannelState :=
  { p with lengthCounter := pulseLengthCounterFromLoad value }

def applyLiveEnvelopeWriteEffect (p : PulseChannelState) (consoleModel : ConsoleModel)
    (value : U8) : PulseChannelState :=
  { p with envelope := p.envelope.applyLiveWriteEffect consoleModel p.runtime.active value }

def applyDacEnabled (p : PulseChannelState) (dacEnabled : Bool) : PulseChannelState :=
  let p :=
    if !dacEnabled then
      { p with
        timerStoppedByDacDisable := true, triggerDelayTCycles := 0, justSampled := false
        justSampledReloadClocksRemaining := 0 }
    else p
  { p with runtime := p.runtime.setDacEnabled dacEnabled }

/-- The length counter with the activity that it decides. -/
def length (p : PulseChannelState) : LengthCounter := ⟨p.lengthCounter, p.runtime.active⟩

def setLength (p : PulseChannelState) (l : LengthCounter) : PulseChannelState :=
  { p with lengthCounter := l.counter, runtime := { p.runtime with active := l.active } }

/-- `trigger`, with whether it reloaded a length counter at zero. -/
def trigger (p : PulseChannelState) (consoleModel : ConsoleModel) (speedMode : CgbSpeedMode)
    (periodValue : U16) (envelopeValue : U8) (nextStepClocksEnvelope : Bool) :
    PulseChannelState × Bool :=
  let wasActive := p.runtime.active
  let reloadedZeroLength : Bool := p.lengthCounter = 0
  let p := if reloadedZeroLength then
      { p with lengthCounter := pulseLengthCounterReload, lengthEnabled := false }
    else p
  let runtime := p.runtime.trigger
  ({ p with
     envelope := (p.envelope.applyWrite envelopeValue).reload nextStepClocksEnvelope
     periodTimer := pulseTimerReloadPreservingTriggerPhase periodValue p.periodTimer
     triggerDelayTCycles :=
       cgbPulseTriggerDelayTCycles consoleModel speedMode wasActive p.powerOnPhase
     runtime
     suppressInitialTriggerOutput :=
       if runtime.active && !wasActive then true else p.suppressInitialTriggerOutput
     timerStoppedByDacDisable :=
       if runtime.active then false else p.timerStoppedByDacDisable
     firstTriggerAfterPowerOnPending := false },
    reloadedZeroLength)

def reloadPeriodAfterWriteIfJustSampled (p : PulseChannelState) (periodValue : U16) :
    PulseChannelState :=
  if p.justSampled then { p with periodTimer := pulseTimerReload periodValue } else p

def applyPoweredStartup (lengthDutyValue envelopeValue nrx4 : U8) (periodValue : U16)
    (runtime : ChannelRuntimeState) (firstTriggerAfterPowerOnPending : Bool) :
    PulseChannelState :=
  let p := default.applyLengthDutyWrite lengthDutyValue
  { p with
    lengthEnabled := nrx4 &&& lengthEnableBit ≠ 0
    firstTriggerAfterPowerOnPending
    periodTimer := pulseTimerReload periodValue
    envelope := (p.envelope.applyWrite envelopeValue).reload false
    runtime
    timerStoppedByDacDisable := !runtime.dacEnabled }

def applyChannelStartup (lengthDutyValue envelopeValue nrx4 : U8) (periodValue : U16)
    (dacEnabled active : Bool) : PulseChannelState :=
  let runtime := (ChannelRuntimeState.default.setDacEnabled dacEnabled).setActiveFromStartup active
  applyPoweredStartup lengthDutyValue envelopeValue nrx4 periodValue runtime (!active)

def powerOff (p : PulseChannelState) (consoleModel : ConsoleModel) : PulseChannelState :=
  if consoleModel.isDmgFamily then { default with lengthCounter := p.lengthCounter } else default

/-! ## The clocks -/

/-- The window after a step in which a write of the period still reloads the timer. -/
def closeSampleWindow (p : PulseChannelState) : PulseChannelState :=
  if p.justSampled then
    let remaining := p.justSampledReloadClocksRemaining - 1
    { p with
      justSampledReloadClocksRemaining := remaining
      justSampled := remaining ≠ 0 }
  else p

/-- The end of a period. -/
def advanceDuty (p : PulseChannelState) (periodValue : U16) : PulseChannelState :=
  { p with
    periodTimer := pulseTimerReload periodValue
    dutyStep := (p.dutyStep + 1) &&& pulseDutyStepMask
    duty := p.pendingDuty.getD p.duty
    pendingDuty := none
    suppressInitialTriggerOutput := false
    justSampled := true
    justSampledReloadClocksRemaining := 3 }

def tickFastTimerWithClockGate (p : PulseChannelState) (periodValue : U16)
    (clockPeriodTimer : Bool) : PulseChannelState :=
  let p := if clockPeriodTimer then p.closeSampleWindow else p
  if p.firstTriggerAfterPowerOnPending then
    { p with powerOnPhase := (p.powerOnPhase + 1) % 8 }
  else if 0 < p.triggerDelayTCycles then
    { p with triggerDelayTCycles := p.triggerDelayTCycles - 1 }
  else if !clockPeriodTimer then p
  else if p.timerStoppedByDacDisable then p
  else
    let periodTimer := p.periodTimer - 1
    if periodTimer = 0 then p.advanceDuty periodValue else { p with periodTimer }

def clockLength (p : PulseChannelState) : PulseChannelState :=
  p.setLength (clockLengthCounter p.lengthEnabled p.length)

def clockEnvelope (p : PulseChannelState) : PulseChannelState :=
  { p with envelope := p.envelope.clock }

def clockCgbLiveWritePendingEvenEnvelopeTick (p : PulseChannelState) : PulseChannelState :=
  { p with envelope := p.envelope.clockCgbLiveWritePendingEvenTick }

def currentDigitalOutput (p : PulseChannelState) : U8 :=
  if !p.runtime.active then 0
  else if p.suppressInitialTriggerOutput then 0
  else if pulseWaveformHigh p.duty p.dutyStep then p.envelope.currentVolume
  else 0

/-- `write_nr14` and `write_nr24`, from the trigger on: the length enable and the extra clock. -/
def finishNrx4Write (p : PulseChannelState) (context : Nrx4WriteContext)
    (wasLengthEnabled triggerReloadedZeroLength : Bool) : PulseChannelState :=
  let p := { p with lengthEnabled := context.lengthEnabled }
  p.setLength
    (applyExtraLengthClocking context wasLengthEnabled triggerReloadedZeroLength
      pulseLengthCounterReload p.length)

end PulseChannelState

end GbCycle
