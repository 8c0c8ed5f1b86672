import GbCycle.Apu.Output
import GbCycle.Apu.Registers

/-!
# The whole APU

The APU puts the four channels under a master control that powers them, a frame sequencer that
clocks their length counters, sweep and envelopes, and the output path.  A T-cycle moves the
generators on and then delivers the edges of the frame sequencer that it brings; the divider brings
such edges outside a T-cycle too.  A register write may switch the power, and every change is shown
to the output path.

The observation of the last register write, which nothing of the APU reads, is left out.
-/

namespace GbCycle

/-! ## The frame sequencer -/

def powerOnDivApuSignalHighPhase : U8 := 7

structure FrameSequencerState where
  step : U8
  lengthClockCount : Nat
  sweepClockCount : Nat
  envelopeClockCount : Nat
  deriving Repr, DecidableEq

structure FrameSequencerClocks where
  length : Bool
  sweep : Bool
  envelope : Bool
  deriving Repr, DecidableEq

def frameSequencerClocks (step : U8) : FrameSequencerClocks :=
  { length := frameSequencerStepClocksLength step
    sweep := frameSequencerStepClocksSweep step
    envelope := frameSequencerStepClocksEnvelope step }

def divApuPhaseFromSystemCounter (systemCounter : U16) : U8 :=
  ((systemCounter >>> 13) &&& U16.ofByte frameSequencerStepMask).setWidth 8

namespace FrameSequencerState

def default : FrameSequencerState := ⟨0, 0, 0, 0⟩

def applyStartupPhase (_ : FrameSequencerState) (divApu : U8) : FrameSequencerState :=
  { default with step := divApu &&& frameSequencerStepMask }

def advance (f : FrameSequencerState) : FrameSequencerState × FrameSequencerClocks :=
  let clocks := frameSequencerClocks f.step
  ({ step := (f.step + 1) &&& frameSequencerStepMask
     lengthClockCount := f.lengthClockCount + clocks.length.toNat
     sweepClockCount := f.sweepClockCount + clocks.sweep.toNat
     envelopeClockCount := f.envelopeClockCount + clocks.envelope.toNat }, clocks)

end FrameSequencerState

/-! ## The channels together -/

structure ApuChannels where
  channel1 : Channel1State
  channel2 : Channel2State
  channel3 : Channel3State
  channel4 : Channel4State
  deriving Repr, DecidableEq

namespace ApuChannels

def default : ApuChannels := ⟨.default, .default, .default, .default⟩

def beginTCycle (c : ApuChannels) : ApuChannels := { c with channel3 := c.channel3.beginTCycle }

def tickFastTimers (c : ApuChannels) (consoleModel : ConsoleModel) (clockGenerationTimers : Bool)
    (apuClock tCyclePhase : Nat) : ApuChannels :=
  { channel1 :=
      c.channel1.tickFastTimerWithClockGate consoleModel clockGenerationTimers apuClock tCyclePhase
    channel2 := c.channel2.tickFastTimerWithClockGate clockGenerationTimers
    channel3 := if clockGenerationTimers then c.channel3.tickFastTimer else c.channel3
    channel4 := if clockGenerationTimers then c.channel4.tickFastTimer else c.channel4 }

def tickPoweredOffTimebase (c : ApuChannels) : ApuChannels :=
  { c with channel4 := c.channel4.tickAlignmentPhaseOnly.1 }

def clockLengthAll (c : ApuChannels) : ApuChannels :=
  { channel1 := c.channel1.clockLength
    channel2 := c.channel2.clockLength
    channel3 := c.channel3.clockLength
    channel4 := c.channel4.clockLength }

def clockEnvelopeAll (c : ApuChannels) : ApuChannels :=
  { c with
    channel1 := c.channel1.clockEnvelope
    channel2 := c.channel2.clockEnvelope
    channel4 := c.channel4.clockEnvelope }

def clockCgbLiveWritePendingEvenEnvelopeAll (c : ApuChannels) : ApuChannels :=
  { c with
    channel1 := c.channel1.clockCgbLiveWritePendingEvenEnvelopeTick
    channel2 := c.channel2.clockCgbLiveWritePendingEvenEnvelopeTick
    channel4 := c.channel4.clockCgbLiveWritePendingEvenEnvelopeTick }

def clockSweepCh1 (c : ApuChannels) (consoleModel : ConsoleModel) : ApuChannels :=
  { c with channel1 := c.channel1.clockSweep consoleModel }

def markPoweredOn (c : ApuChannels) : ApuChannels :=
  { c with
    channel1 := c.channel1.markPoweredOn
    channel2 := c.channel2.markPoweredOn
    channel4 := c.channel4.markPoweredOn }

def powerOffRegisters (c : ApuChannels) (consoleModel : ConsoleModel) : ApuChannels :=
  { channel1 := c.channel1.powerOffRegisters consoleModel
    channel2 := c.channel2.powerOffRegisters consoleModel
    channel3 := c.channel3.powerOffRegisters consoleModel
    channel4 := c.channel4.powerOffRegisters consoleModel }

def applyStartup (c : ApuChannels) (consoleModel : ConsoleModel) (s : ApuStartupState) :
    ApuChannels :=
  if !s.powered then
    { c with channel3 := { c.channel3 with waveRam := s.waveRam } }.powerOffRegisters consoleModel
  else
    { channel1 := .applyPoweredStartup s.nr10 s.nr11 s.nr12 s.nr13 s.nr14
        (s.channelActiveMask &&& channelActiveCh1 ≠ 0)
      channel2 := .applyPoweredStartup s.nr21 s.nr22 s.nr23 s.nr24
        (s.channelActiveMask &&& channelActiveCh2 ≠ 0)
      channel3 := .applyPoweredStartup s.waveRam s.nr30 s.nr31 s.nr32 s.nr33 s.nr34
        (s.channelActiveMask &&& channelActiveCh3 ≠ 0)
      channel4 := .applyPoweredStartup s.nr41 s.nr42 s.nr43 s.nr44
        (s.channelActiveMask &&& channelActiveCh4 ≠ 0) }

/-- The channels' runtimes, in their order. -/
def runtimes (c : ApuChannels) : Vector ChannelRuntimeState channelCount :=
  #v[c.channel1.pulse.runtime, c.channel2.pulse.runtime, c.channel3.runtime, c.channel4.runtime]

def digitalOutputs (c : ApuChannels) : Vector U8 channelCount :=
  #v[c.channel1.currentDigitalOutput, c.channel2.currentDigitalOutput,
    c.channel3.currentDigitalOutput, c.channel4.currentDigitalOutput]

/-- The bits of the channels that a test holds of. -/
def maskOf (c : ApuChannels) (test : ChannelRuntimeState → Bool) : U8 :=
  (List.finRange channelCount).foldl
    (fun mask channel =>
      if test (c.runtimes.get channel) then mask ||| channelMask channel else mask) 0

def activeMask (c : ApuChannels) : U8 := c.maskOf (·.active) &&& channelActiveMask

def dacMask (c : ApuChannels) : U8 := c.maskOf (·.dacEnabled) &&& channelActiveMask

end ApuChannels

/-! ## The APU -/

structure Apu where
  model : ApuModel
  master : MasterControlState
  frameSequencer : FrameSequencerState
  outputPath : OutputPathState
  channels : ApuChannels
  startupSilentChannelMask : U8
  apuClock : Nat
  tCyclePhase : Nat
  skipNextFrameSequencerEdge : Bool
  deriving Repr, DecidableEq

namespace Apu

/-- `Apu::new_with_revision`. -/
def new (model : ApuModel) : Apu :=
  { model
    master := ⟨false, 0, 0, .default⟩
    frameSequencer := .default
    outputPath := .new model.consoleModel
    channels := .default
    startupSilentChannelMask := 0
    apuClock := 0
    tCyclePhase := 0
    skipNextFrameSequencerEdge := false }

def consoleModel (a : Apu) : ConsoleModel := a.model.consoleModel

/-! ### What it shows -/

/-- A channel that the boot left silent shows no digit and no DAC. -/
def channelOutputState (a : Apu) : ChannelOutputState :=
  let silent (channel : Fin channelCount) : Bool :=
    a.startupSilentChannelMask &&& channelActiveMask &&& channelMask channel ≠ 0
  { dacMask :=
      (List.finRange channelCount).foldl
        (fun mask channel => if silent channel then mask &&& ~~~channelMask channel else mask)
        a.channels.dacMask
    digitalOutputs :=
      Vector.ofFn fun channel =>
        if silent channel then 0 else a.channels.digitalOutputs.get channel }

def readNr52 (a : Apu) : U8 :=
  nr52ForcedHighMask ||| (if a.master.powered then nr52MasterPowerBit else 0) |||
    a.channels.activeMask

def readMasterRegister (a : Apu) : MasterRegister → U8
  | .nr50 => a.master.nr50
  | .nr51 => a.master.nr51
  | .nr52 => a.readNr52

def readApuRegister (a : Apu) : ApuRegisterOwner → U8
  | .channel1 register => a.channels.channel1.readRegister register
  | .channel2 register => a.channels.channel2.readRegister register
  | .channel3 register => a.channels.channel3.readRegister register
  | .channel4 register => a.channels.channel4.readRegister register
  | .master register => a.readMasterRegister register
  | .unused => apuUnmappedReadValue

def readRegister (a : Apu) (address : U16) : U8 :=
  match ApuMmioRegister.decode address with
  | .register owner => a.readApuRegister owner
  | .waveRam index => a.channels.channel3.readWaveRam a.consoleModel index
  | .unmapped => apuUnmappedReadValue

def readPcm12 (a : Apu) : U8 :=
  let outputs := a.channelOutputState.digitalOutputs
  (outputs.getD 1 0 <<< 4) ||| outputs.getD 0 0

def readPcm34 (a : Apu) : U8 :=
  let outputs := a.channelOutputState.digitalOutputs
  (outputs.getD 3 0 <<< 4) ||| outputs.getD 2 0

def previewOutputPath (a : Apu) : Apu :=
  { a with outputPath := a.outputPath.preview a.master a.channelOutputState }

def tickOutputPath (a : Apu) : Apu :=
  { a with outputPath := a.outputPath.tick a.master a.channelOutputState }

/-! ### The power -/

def powerOff (a : Apu) : Apu :=
  { a with
    startupSilentChannelMask := 0
    master := { a.master with powered := false, nr50 := 0, nr51 := 0 }
    channels := a.channels.powerOffRegisters a.consoleModel }

def powerOn (a : Apu) (divApuSignalHigh : Bool) : Apu :=
  { a with
    startupSilentChannelMask := 0
    master := { a.master with powered := true }
    frameSequencer := a.frameSequencer.applyStartupPhase
      (if divApuSignalHigh && a.consoleModel.isCgbFamily then powerOnDivApuSignalHighPhase else 0)
    skipNextFrameSequencerEdge := divApuSignalHigh && !a.consoleModel.isCgbFamily
    channels := a.channels.markPoweredOn
    apuClock := 0
    tCyclePhase := 0 }

def writeNr52 (a : Apu) (value : U8) (divApuSignalHigh : Bool) : Apu :=
  let nextPowered : Bool := value &&& nr52MasterPowerBit ≠ 0
  match a.master.powered, nextPowered with
  | true, false => a.powerOff
  | false, true => a.powerOn divApuSignalHigh
  | _, _ => a

/-! ### The writes -/

def effectiveFrameSequencerStep (a : Apu) : U8 :=
  if a.skipNextFrameSequencerEdge then 1 else a.frameSequencer.step

def writeChannel1Register (c : Channel1State) (a : Apu) (register : Channel1Register) (value : U8)
    (speedMode : CgbSpeedMode) : Channel1State :=
  if a.master.powered then
    c.writeRegister register value a.consoleModel a.model.revision speedMode
      a.effectiveFrameSequencerStep
  else c.writePoweredOffRegister register value a.consoleModel

def writeChannel2Register (c : Channel2State) (a : Apu) (register : Channel2Register) (value : U8)
    (speedMode : CgbSpeedMode) : Channel2State :=
  if a.master.powered then
    c.writeRegister register value a.consoleModel speedMode a.effectiveFrameSequencerStep
  else c.writePoweredOffRegister register value a.consoleModel

def writeChannel3Register (c : Channel3State) (a : Apu) (register : Channel3Register)
    (value : U8) : Channel3State :=
  if a.master.powered then
    c.writeRegister register value a.consoleModel a.effectiveFrameSequencerStep
  else c.writePoweredOffRegister register value a.consoleModel

def writeChannel4Register (c : Channel4State) (a : Apu) (register : Channel4Register)
    (value : U8) : Channel4State :=
  if a.master.powered then
    c.writeRegister register value a.consoleModel a.effectiveFrameSequencerStep
  else c.writePoweredOffRegister register value a.consoleModel

def writeMasterRegister (a : Apu) (register : MasterRegister) (value : U8)
    (divApuSignalHigh : Bool) : Apu :=
  match register with
  | .nr50 => if a.master.powered then { a with master := { a.master with nr50 := value } } else a
  | .nr51 => if a.master.powered then { a with master := { a.master with nr51 := value } } else a
  | .nr52 => a.writeNr52 value divApuSignalHigh

/-- A trigger ends the silence that the boot left on its channel. -/
def clearStartupSilentChannelMask (a : Apu) (isNrx4 : Bool) (value channelMask : U8) : U8 :=
  if isNrx4 ∧ value &&& channelTriggerBit ≠ 0 then a.startupSilentChannelMask &&& ~~~channelMask
  else a.startupSilentChannelMask

def writeApuRegister (a : Apu) (owner : ApuRegisterOwner) (value : U8) (speedMode : CgbSpeedMode)
    (divApuSignalHigh : Bool) : Apu :=
  match owner with
  | .channel1 register =>
    { a with
      channels := { a.channels with
        channel1 := writeChannel1Register a.channels.channel1 a register value speedMode }
      startupSilentChannelMask :=
        a.clearStartupSilentChannelMask (register = .nr14) value channelActiveCh1 }
  | .channel2 register =>
    { a with
      channels := { a.channels with
        channel2 := writeChannel2Register a.channels.channel2 a register value speedMode }
      startupSilentChannelMask :=
        a.clearStartupSilentChannelMask (register = .nr24) value channelActiveCh2 }
  | .channel3 register =>
    { a with
      channels := { a.channels with
        channel3 := writeChannel3Register a.channels.channel3 a register value }
      startupSilentChannelMask :=
        a.clearStartupSilentChannelMask (register = .nr34) value channelActiveCh3 }
  | .channel4 register =>
    { a with
      channels := { a.channels with
        channel4 := writeChannel4Register a.channels.channel4 a register value }
      startupSilentChannelMask :=
        a.clearStartupSilentChannelMask (register = .nr44) value channelActiveCh4 }
  | .master register => a.writeMasterRegister register value divApuSignalHigh
  | .unused => a

/-- `write_register_for_speed_with_div_apu_signal`. -/
def writeRegister (a : Apu) (address : U16) (value : U8) (speedMode : CgbSpeedMode)
    (divApuSignalHigh : Bool) : Apu :=
  match ApuMmioRegister.decode address with
  | .waveRam index =>
    { a with
      channels := { a.channels with
        channel3 := a.channels.channel3.writeWaveRam a.consoleModel index value }
      }.previewOutputPath
  | .register owner =>
    (a.writeApuRegister owner value speedMode divApuSignalHigh).previewOutputPath
  | .unmapped => a.previewOutputPath

/-! ### The start of the machine -/

def applyStartupState (a : Apu) (s : ApuStartupState) : Apu :=
  { a with
    startupSilentChannelMask :=
      if s.powered then s.startupSilentChannelMask &&& channelActiveMask else 0
    outputPath := .new a.consoleModel
    master := { a.master with
      powered := s.powered
      nr50 := if s.powered then s.nr50 else 0
      nr51 := if s.powered then s.nr51 else 0 }
    channels := a.channels.applyStartup a.consoleModel s
    frameSequencer := a.frameSequencer.applyStartupPhase s.divApu
    apuClock := 0
    tCyclePhase := 0
    skipNextFrameSequencerEdge := false }.previewOutputPath

def applyDivApuStartupPhaseFromSystemCounter (a : Apu) (systemCounter : U16) : Apu :=
  { a with
    frameSequencer :=
      a.frameSequencer.applyStartupPhase (divApuPhaseFromSystemCounter systemCounter)
    }.previewOutputPath

/-! ### The clocks -/

/-- What the clocks of a step of the frame sequencer do to the channels. -/
def clockChannels (consoleModel : ConsoleModel) (clocks : FrameSequencerClocks)
    (c : ApuChannels) : ApuChannels :=
  let c := if clocks.length then c.clockLengthAll else c
  let c := if clocks.sweep then c.clockSweepCh1 consoleModel else c
  let c :=
    if !clocks.length && consoleModel.isCgbFamily then c.clockCgbLiveWritePendingEvenEnvelopeAll
    else c
  if clocks.envelope then c.clockEnvelopeAll else c

def advanceFrameSequencer (a : Apu) : Apu :=
  if a.skipNextFrameSequencerEdge then
    { a with skipNextFrameSequencerEdge := false }.previewOutputPath
  else
    let (frameSequencer, clocks) := a.frameSequencer.advance
    let a := { a with frameSequencer }
    if !a.master.powered then a.previewOutputPath
    else
      { a with channels := clockChannels a.consoleModel clocks a.channels }.previewOutputPath

/-- The generators of a T-cycle. -/
def tickGenerators (a : Apu) (clockGenerationTimers : Bool) : Apu :=
  let a := { a with channels := a.channels.beginTCycle }
  let tCyclePhase := a.tCyclePhase
  let a :=
    if a.master.powered then
      let apuClock :=
        if tCyclePhase % 2 = 0 ∧ clockGenerationTimers then (a.apuClock + 1) % 4 else a.apuClock
      { a with
        apuClock
        channels :=
          a.channels.tickFastTimers a.consoleModel clockGenerationTimers apuClock tCyclePhase }
    else if clockGenerationTimers then
      { a with channels := a.channels.tickPoweredOffTimebase }
    else a
  if clockGenerationTimers then { a with tCyclePhase := (tCyclePhase + 1) % 4 } else a

/-- `tick_t_cycle_for_speed`, with how many edges of the frame sequencer the T-cycle brings. -/
def tickTCycleForSpeed (a : Apu) (schedulerTCycle frameSequencerEdges : Nat)
    (speedMode : CgbSpeedMode) : Apu :=
  let a := a.tickGenerators (speedMode.apuTickDueAtSchedulerTCycle schedulerTCycle)
  (advanceFrameSequencer^[frameSequencerEdges] a).tickOutputPath

end Apu

/-- What happens to the APU. -/
inductive ApuEvent where
  | tCycle (schedulerTCycle frameSequencerEdges : Nat) (speedMode : CgbSpeedMode)
  | divApuEdge
  | write (address : U16) (value : U8) (speedMode : CgbSpeedMode) (divApuSignalHigh : Bool)
  | startup (s : ApuStartupState)
  | divApuStartupPhase (systemCounter : U16)
  deriving DecidableEq

namespace Apu

def step (a : Apu) : ApuEvent → Apu
  | .tCycle schedulerTCycle frameSequencerEdges speedMode =>
    a.tickTCycleForSpeed schedulerTCycle frameSequencerEdges speedMode
  | .divApuEdge => a.advanceFrameSequencer
  | .write address value speedMode divApuSignalHigh =>
    a.writeRegister address value speedMode divApuSignalHigh
  | .startup s => a.applyStartupState s
  | .divApuStartupPhase systemCounter =>
    a.applyDivApuStartupPhaseFromSystemCounter systemCounter

def run (a : Apu) (events : List ApuEvent) : Apu := events.foldl step a

end Apu

end GbCycle
