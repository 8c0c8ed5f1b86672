import GbCycle.Apu.Pulse

/-!
# Channel 2

The second pulse channel: the generator of channel 1 without its sweep.
-/

namespace GbCycle

inductive Channel2Register where
  | nr21
  | nr22
  | nr23
  | nr24
  deriving Repr, DecidableEq

structure Channel2State where
  nr21 : U8
  nr22 : U8
  nr23 : U8
  nr24 : U8
  pulse : PulseChannelState
  deriving Repr, DecidableEq

namespace Channel2State

def default : Channel2State := ⟨0, 0, 0, 0, .default⟩

def derivedDacEnabled (c : Channel2State) : Bool := c.nr22 &&& dacEnableRegisterMask ≠ 0
def periodValue (c : Channel2State) : U16 := pulsePeriodFromRegisters c.nr23 c.nr24

/-! ## The registers -/

def writeNr21 (c : Channel2State) (value : U8) : Channel2State :=
  { c with nr21 := value, pulse := c.pulse.applyLengthDutyWrite value }

def writeNr22 (c : Channel2State) (value : U8) (consoleModel : ConsoleModel) : Channel2State :=
  let c := { c with
    nr22 := value, pulse := c.pulse.applyLiveEnvelopeWriteEffect consoleModel value }
  { c with pulse := c.pulse.applyDacEnabled c.derivedDacEnabled }

def reloadPeriodIfJustSampled (c : Channel2State) (consoleModel : ConsoleModel) :
    Channel2State :=
  if consoleModel.isCgbFamily then
    { c with pulse := c.pulse.reloadPeriodAfterWriteIfJustSampled c.periodValue }
  else c

def writeNr23 (c : Channel2State) (value : U8) (consoleModel : ConsoleModel) : Channel2State :=
  { c with nr23 := value }.reloadPeriodIfJustSampled consoleModel

/-- `trigger`, with whether it reloaded a length counter at zero. -/
def trigger (c : Channel2State) (consoleModel : ConsoleModel) (speedMode : CgbSpeedMode)
    (nextStepClocksEnvelope : Bool) : Channel2State × Bool :=
  let (pulse, reloaded) :=
    c.pulse.trigger consoleModel speedMode c.periodValue c.nr22 nextStepClocksEnvelope
  ({ c with pulse }, reloaded)

def writeNr24 (c : Channel2State) (value : U8) (consoleModel : ConsoleModel)
    (speedMode : CgbSpeedMode) (nextFrameSequencerStep : U8) : Channel2State :=
  let context := nrx4WriteContext value nextFrameSequencerStep
  let wasLengthEnabled := c.pulse.lengthEnabled
  let c := { c with nr24 := value &&& nrx4WritableMask }
  let (c, wasLengthEnabled, reloaded) :=
    if context.trigger then
      let (c, reloaded) := c.trigger consoleModel speedMode context.nextStepClocksEnvelope
      (c, c.pulse.lengthEnabled, reloaded)
    else (c.reloadPeriodIfJustSampled consoleModel, wasLengthEnabled, false)
  { c with pulse := c.pulse.finishNrx4Write context wasLengthEnabled reloaded }

def writeRegister (c : Channel2State) (register : Channel2Register) (value : U8)
    (consoleModel : ConsoleModel) (speedMode : CgbSpeedMode) (nextFrameSequencerStep : U8) :
    Channel2State :=
  match register with
  | .nr21 => c.writeNr21 value
  | .nr22 => c.writeNr22 value consoleModel
  | .nr23 => c.writeNr23 value consoleModel
  | .nr24 => c.writeNr24 value consoleModel speedMode nextFrameSequencerStep

/-! ## The clocks -/

def tickFastTimerWithClockGate (c : Channel2State) (clockPeriodTimer : Bool) : Channel2State :=
  { c with pulse := c.pulse.tickFastTimerWithClockGate c.periodValue clockPeriodTimer }

def clockLength (c : Channel2State) : Channel2State := { c with pulse := c.pulse.clockLength }
def clockEnvelope (c : Channel2State) : Channel2State := { c with pulse := c.pulse.clockEnvelope }

def clockCgbLiveWritePendingEvenEnvelopeTick (c : Channel2State) : Channel2State :=
  { c with pulse := c.pulse.clockCgbLiveWritePendingEvenEnvelopeTick }

end Channel2State

end GbCycle
