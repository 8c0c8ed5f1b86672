import GbCycle.Apu.Channel1
import GbCycle.Apu.Channel2
import GbCycle.Apu.Channel3
import GbCycle.Apu.Channel4

/-!
# What happens to a channel

A channel of a powered APU is written, ticks with the T-cycles of the machine, of which the ones
that are due clock its generation, and is clocked by the frame sequencer.
-/

namespace GbCycle

inductive ChannelEvent (Register : Type) where
  | tCycle (clockGenerationTimers : Bool) (apuClock tCyclePhase : Nat)
  | clockLength
  | clockSweep
  | clockEnvelope
  | clockPendingEvenEnvelope
  | write (register : Register) (value : U8) (speedMode : CgbSpeedMode)
      (nextFrameSequencerStep : U8)
  deriving Repr, DecidableEq

namespace ChannelEvent

variable {Register : Type}

def isGenerationClock : ChannelEvent Register → Bool
  | tCycle clockGenerationTimers _ _ => clockGenerationTimers
  | _ => false

def isWrite : ChannelEvent Register → Bool
  | write .. => true
  | _ => false

def isLengthClock : ChannelEvent Register → Bool
  | clockLength => true
  | _ => false

def isSweepClock : ChannelEvent Register → Bool
  | clockSweep => true
  | _ => false

end ChannelEvent

/-- The APU a channel belongs to. -/
structure ApuModel where
  consoleModel : ConsoleModel
  revision : HardwareRevision
  deriving Repr, DecidableEq

namespace Channel1State

def step (m : ApuModel) (c : Channel1State) : ChannelEvent Channel1Register → Channel1State
  | .tCycle clockGenerationTimers apuClock tCyclePhase =>
    c.tickFastTimerWithClockGate m.consoleModel clockGenerationTimers apuClock tCyclePhase
  | .clockLength => c.clockLength
  | .clockSweep => c.clockSweep m.consoleModel
  | .clockEnvelope => c.clockEnvelope
  | .clockPendingEvenEnvelope => c.clockCgbLiveWritePendingEvenEnvelopeTick
  | .write register value speedMode nextFrameSequencerStep =>
    c.writeRegister register value m.consoleModel m.revision speedMode nextFrameSequencerStep

def run (m : ApuModel) (c : Channel1State) (events : List (ChannelEvent Channel1Register)) :
    Channel1State := events.foldl (step m) c

end Channel1State

namespace Channel2State

def step (m : ApuModel) (c : Channel2State) : ChannelEvent Channel2Register → Channel2State
  | .tCycle clockGenerationTimers _ _ => c.tickFastTimerWithClockGate clockGenerationTimers
  | .clockLength => c.clockLength
  | .clockSweep => c
  | .clockEnvelope => c.clockEnvelope
  | .clockPendingEvenEnvelope => c.clockCgbLiveWritePendingEvenEnvelopeTick
  | .write register value speedMode nextFrameSequencerStep =>
    c.writeRegister register value m.consoleModel speedMode nextFrameSequencerStep

def run (m : ApuModel) (c : Channel2State) (events : List (ChannelEvent Channel2Register)) :
    Channel2State := events.foldl (step m) c

end Channel2State

namespace Channel3State

def step (m : ApuModel) (c : Channel3State) : ChannelEvent Channel3Register → Channel3State
  | .tCycle clockGenerationTimers _ _ =>
    if clockGenerationTimers then c.beginTCycle.tickFastTimer else c.beginTCycle
  | .clockLength => c.clockLength
  | .clockSweep | .clockEnvelope | .clockPendingEvenEnvelope => c
  | .write register value _ nextFrameSequencerStep =>
    c.writeRegister register value m.consoleModel nextFrameSequencerStep

def run (m : ApuModel) (c : Channel3State) (events : List (ChannelEvent Channel3Register)) :
    Channel3State := events.foldl (step m) c

end Channel3State

namespace Channel4State

def step (m : ApuModel) (c : Channel4State) : ChannelEvent Channel4Register → Channel4State
  | .tCycle clockGenerationTimers _ _ => if clockGenerationTimers then c.tickFastTimer else c
  | .clockLength => c.clockLength
  | .clockSweep => c
  | .clockEnvelope => c.clockEnvelope
  | .clockPendingEvenEnvelope => c.clockCgbLiveWritePendingEvenEnvelopeTick
  | .write register value _ nextFrameSequencerStep =>
    c.writeRegister register value m.consoleModel nextFrameSequencerStep

def run (m : ApuModel) (c : Channel4State) (events : List (ChannelEvent Channel4Register)) :
    Channel4State := events.foldl (step m) c

end Channel4State

end GbCycle
