import GbCycle.Apu.Events

/-!
# The registers of the APU

The addresses `FF10` to `FF26` are registers of the channels and of the master control, and `FF30`
to `FF3F` are the wave RAM.  A register is read with its unreadable bits high.  While the power is
off a write reaches only the length counters, and only on a DMG; while the wave channel plays, an
access of its RAM reaches the byte that plays, or nothing.
-/

namespace GbCycle

def channelActiveCh1 : U8 := 0x01
def channelActiveCh2 : U8 := 0x02
def channelActiveCh3 : U8 := 0x04
def channelActiveCh4 : U8 := 0x08
def channelActiveMask : U8 := 0x0F
def apuUnmappedReadValue : U8 := 0xFF
def nr10ForcedHighMask : U8 := 0x80
def nr11WriteOnlyMask : U8 := 0x3F
def nr13WriteOnlyReadValue : U8 := 0xFF
def nr23WriteOnlyReadValue : U8 := 0xFF
def nr14ReadMask : U8 := 0x40
def nr14ForcedHighMask : U8 := 0xBF
def nr30ForcedHighMask : U8 := 0x7F
def nr31WriteOnlyReadValue : U8 := 0xFF
def nr32ForcedHighMask : U8 := 0x9F
def nr33WriteOnlyReadValue : U8 := 0xFF
def nr41WriteOnlyReadValue : U8 := 0xFF
def nr44ReadMask : U8 := 0x40
def nr44ForcedHighMask : U8 := 0xBF
def nr52ForcedHighMask : U8 := 0x70
def nr52MasterPowerBit : U8 := 0x80
def waveRamInaccessibleReadValue : U8 := 0xFF

inductive MasterRegister where
  | nr50
  | nr51
  | nr52
  deriving Repr, DecidableEq

/-- A register with the part of the APU that owns it: `ApuRegister` and its `owner`. -/
inductive ApuRegisterOwner where
  | channel1 (register : Channel1Register)
  | channel2 (register : Channel2Register)
  | channel3 (register : Channel3Register)
  | channel4 (register : Channel4Register)
  | master (register : MasterRegister)
  | unused
  deriving Repr, DecidableEq

inductive ApuMmioRegister where
  | register (owner : ApuRegisterOwner)
  | waveRam (index : Nat)
  | unmapped
  deriving Repr, DecidableEq

/-- The registers in the order of their addresses, from `FF10` on. -/
def apuRegisters : List ApuRegisterOwner :=
  [.channel1 .nr10, .channel1 .nr11, .channel1 .nr12, .channel1 .nr13, .channel1 .nr14, .unused,
    .channel2 .nr21, .channel2 .nr22, .channel2 .nr23, .channel2 .nr24, .channel3 .nr30,
    .channel3 .nr31, .channel3 .nr32, .channel3 .nr33, .channel3 .nr34, .unused, .channel4 .nr41,
    .channel4 .nr42, .channel4 .nr43, .channel4 .nr44, .master .nr50, .master .nr51,
    .master .nr52]

def nr10Address : U16 := 0xFF10
def waveRamStartAddress : U16 := 0xFF30
def waveRamEndAddress : U16 := 0xFF3F

def ApuMmioRegister.decode (address : U16) : ApuMmioRegister :=
  if waveRamStartAddress ≤ address ∧ address ≤ waveRamEndAddress then
    .waveRam (address - waveRamStartAddress).toNat
  else if address < nr10Address then .unmapped
  else
    match apuRegisters[(address - nr10Address).toNat]? with
    | some owner => .register owner
    | none => .unmapped

/-- What the machine starts with, once the boot ROM has run or been left out. -/
structure ApuStartupState where
  powered : Bool
  nr10 : U8
  nr11 : U8
  nr12 : U8
  nr13 : U8
  nr14 : U8
  nr21 : U8
  nr22 : U8
  nr23 : U8
  nr24 : U8
  nr30 : U8
  nr31 : U8
  nr32 : U8
  nr33 : U8
  nr34 : U8
  nr41 : U8
  nr42 : U8
  nr43 : U8
  nr44 : U8
  nr50 : U8
  nr51 : U8
  channelActiveMask : U8
  startupSilentChannelMask : U8
  divApu : U8
  waveRam : List U8
  waveRam_length : waveRam.length = waveRamLen
  deriving DecidableEq

/-! ## Channel 1 -/

namespace Channel1State

def readRegister (c : Channel1State) : Channel1Register → U8
  | .nr10 => c.nr10 ||| nr10ForcedHighMask
  | .nr11 => (c.nr11 &&& pulseDutyMask) ||| nr11WriteOnlyMask
  | .nr12 => c.nr12
  | .nr13 => nr13WriteOnlyReadValue
  | .nr14 => (c.nr14 &&& nr14ReadMask) ||| nr14ForcedHighMask

def writePoweredOffRegister (c : Channel1State) (register : Channel1Register) (value : U8)
    (consoleModel : ConsoleModel) : Channel1State :=
  if !consoleModel.isDmgFamily then c
  else if register = .nr11 then
    { c with pulse := c.pulse.writeLengthCounterWhilePoweredOff value }
  else c

def applyPoweredStartup (nr10 nr11 nr12 nr13 nr14 : U8) (active : Bool) : Channel1State :=
  let c := { default with
    nr10 := nr10 &&& nr10WritableMask
    nr11, nr12, nr13
    nr14 := nr14 &&& nrx4WritableMask }
  let pulse := PulseChannelState.applyChannelStartup c.nr11 c.nr12 c.nr14 c.periodValue
    c.derivedDacEnabled active
  { c with
    pulse
    sweep := .applyPoweredStartup c.nr10 c.periodValue pulse.runtime.active }

def powerOffRegisters (c : Channel1State) (consoleModel : ConsoleModel) : Channel1State :=
  { default with pulse := c.pulse.powerOff consoleModel }

def markPoweredOn (c : Channel1State) : Channel1State :=
  { c with pulse := c.pulse.markPoweredOn }

def currentDigitalOutput (c : Channel1State) : U8 := c.pulse.currentDigitalOutput

end Channel1State

/-! ## Channel 2 -/

namespace Channel2State

def readRegister (c : Channel2State) : Channel2Register → U8
  | .nr21 => (c.nr21 &&& pulseDutyMask) ||| nr11WriteOnlyMask
  | .nr22 => c.nr22
  | .nr23 => nr23WriteOnlyReadValue
  | .nr24 => (c.nr24 &&& nr14ReadMask) ||| nr14ForcedHighMask

def writePoweredOffRegister (c : Channel2State) (register : Channel2Register) (value : U8)
    (consoleModel : ConsoleModel) : Channel2State :=
  if !consoleModel.isDmgFamily then c
  else if register = .nr21 then
    { c with pulse := c.pulse.writeLengthCounterWhilePoweredOff value }
  else c

def applyPoweredStartup (nr21 nr22 nr23 nr24 : U8) (active : Bool) : Channel2State :=
  let c := { default with nr21, nr22, nr23, nr24 := nr24 &&& nrx4WritableMask }
  { c with
    pulse := .applyChannelStartup c.nr21 c.nr22 c.nr24 c.periodValue c.derivedDacEnabled active }

def powerOffRegisters (c : Channel2State) (consoleModel : ConsoleModel) : Channel2State :=
  { default with pulse := c.pulse.powerOff consoleModel }

def markPoweredOn (c : Channel2State) : Channel2State :=
  { c with pulse := c.pulse.markPoweredOn }

def currentDigitalOutput (c : Channel2State) : U8 := c.pulse.currentDigitalOutput

end Channel2State

/-! ## Channel 3 -/

inductive WaveRamMmioPolicy where
  | dmgCurrentByteDuringFetchOnly
  | cgbCurrentByteWhileActive
  | agbInaccessibleWhileActive
  deriving Repr, DecidableEq

def waveRamMmioPolicy (consoleModel : ConsoleModel) : WaveRamMmioPolicy :=
  if consoleModel.isDmgFamily then .dmgCurrentByteDuringFetchOnly
  else if consoleModel = .gameBoyAdvance then .agbInaccessibleWhileActive
  else .cgbCurrentByteWhileActive

namespace Channel3State

def readRegister (c : Channel3State) : Channel3Register → U8
  | .nr30 => (c.nr30 &&& nr30DacPowerBit) ||| nr30ForcedHighMask
  | .nr31 => nr31WriteOnlyReadValue
  | .nr32 => (c.nr32 &&& nr32ReadMask) ||| nr32ForcedHighMask
  | .nr33 => nr33WriteOnlyReadValue
  | .nr34 => (c.nr34 &&& nr14ReadMask) ||| nr14ForcedHighMask

def writePoweredOffRegister (c : Channel3State) (register : Channel3Register) (value : U8)
    (consoleModel : ConsoleModel) : Channel3State :=
  if !consoleModel.isDmgFamily then c
  else if register = .nr31 then { c with lengthCounter := waveLengthCounterFromLoad value }
  else c

/-- `initialize_wave_ram` and `apply_powered_startup`. -/
def applyPoweredStartup (waveRam : List U8) (nr30 nr31 nr32 nr33 nr34 : U8) (active : Bool) :
    Channel3State :=
  let c := { default with
    nr30 := nr30 &&& nr30DacPowerBit
    nr31
    nr32 := nr32 &&& nr32ReadMask
    nr33
    nr34 := nr34 &&& nrx4WritableMask }
  { c with
    waveRam
    periodTimer := waveTimerReload c.periodValue
    lengthCounter := waveLengthCounterFromLoad c.nr31
    lengthEnabled := c.nr34 &&& lengthEnableBit ≠ 0
    runtime :=
      (ChannelRuntimeState.default.setDacEnabled c.derivedDacEnabled).setActiveFromStartup active }

/-- The registers are cleared, the wave RAM is not. -/
def powerOffRegisters (c : Channel3State) (consoleModel : ConsoleModel) : Channel3State :=
  { default with
    waveRam := c.waveRam
    lengthCounter := if consoleModel.isDmgFamily then c.lengthCounter else 0 }

def currentWaveRamByteIndex (c : Channel3State) : Nat :=
  (c.sampleIndex >>> waveSampleByteShift).toNat % waveRamLen

def activeWaveRamAccessByteIndex (c : Channel3State) (consoleModel : ConsoleModel) : Option Nat :=
  if c.runtime.active ∧ consoleModel.isDmgFamily then c.waveRamAccessWindowByteIndex else none

/-- The byte of the wave RAM that an access of the byte at `index` reaches. -/
def reachedWaveRamByte (c : Channel3State) (consoleModel : ConsoleModel) (index : Nat) :
    Option Nat :=
  match c.activeWaveRamAccessByteIndex consoleModel with
  | some byteIndex => some byteIndex
  | none =>
    if !c.runtime.active then some index
    else
      match waveRamMmioPolicy consoleModel with
      | .dmgCurrentByteDuringFetchOnly | .agbInaccessibleWhileActive => none
      | .cgbCurrentByteWhileActive => some c.currentWaveRamByteIndex

def readWaveRam (c : Channel3State) (consoleModel : ConsoleModel) (index : Nat) : U8 :=
  match c.reachedWaveRamByte consoleModel index with
  | some reached => c.waveRam.getD reached 0
  | none => waveRamInaccessibleReadValue

def writeWaveRam (c : Channel3State) (consoleModel : ConsoleModel) (index : Nat) (value : U8) :
    Channel3State :=
  match c.reachedWaveRamByte consoleModel index with
  | some reached => { c with waveRam := c.waveRam.set reached value }
  | none => c

def currentDigitalOutput (c : Channel3State) : U8 :=
  if !c.runtime.active then 0
  else
    match (c.nr32 &&& nr32ReadMask) >>> waveOutputLevelShift with
    | 0 => 0
    | 1 => c.sampleBuffer
    | 2 => c.sampleBuffer >>> waveOutputLevelHalfShift
    | _ => c.sampleBuffer >>> waveOutputLevelQuarterShift

end Channel3State

/-! ## Channel 4 -/

namespace Channel4State

def readRegister (c : Channel4State) : Channel4Register → U8
  | .nr41 => nr41WriteOnlyReadValue
  | .nr42 => c.nr42
  | .nr43 => c.nr43
  | .nr44 => (c.nr44 &&& nr44ReadMask) ||| nr44ForcedHighMask

def writePoweredOffRegister (c : Channel4State) (register : Channel4Register) (value : U8)
    (consoleModel : ConsoleModel) : Channel4State :=
  if !consoleModel.isDmgFamily then c
  else if register = .nr41 then { c with lengthCounter := pulseLengthCounterFromLoad value }
  else c

def applyPoweredStartup (nr41 nr42 nr43 nr44 : U8) (active : Bool) : Channel4State :=
  let c := { default with
    nr41, nr42, nr43
    nr44 := nr44 &&& nr44WritableMask }
  let noise := decodeNr43 c.noise c.nr43
  { c with
    lengthCounter := pulseLengthCounterFromLoad c.nr41
    lengthEnabled := c.nr44 &&& lengthEnableBit ≠ 0
    envelope := (c.envelope.applyWrite c.nr42).reload false
    noise := { noise with
      periodTimer := noiseTimerReload noise.clockShift noise.clockDividerCode
      lfsrState := noiseLfsrInitialState }
    nr43LiveWrite := { c.nr43LiveWrite with
      counterActive := active && c.derivedDacEnabled
      backgroundCounting := active }
    runtime :=
      (ChannelRuntimeState.default.setDacEnabled c.derivedDacEnabled).setActiveFromStartup active }

def powerOffRegisters (c : Channel4State) (consoleModel : ConsoleModel) : Channel4State :=
  { default with lengthCounter := if consoleModel.isDmgFamily then c.lengthCounter else 0 }

def markPoweredOn (c : Channel4State) : Channel4State :=
  { c with
    nr43LiveWrite := { c.nr43LiveWrite with alignment := 0, alignmentSubphase := false }
    dmgDelayedStart := 0
    pendingTriggerEnvelopeReload := false }

def currentDigitalOutput (c : Channel4State) : U8 :=
  if !c.runtime.active then 0
  else if c.noise.lfsrState.getLsbD noiseLfsrOutputBit then c.envelope.currentVolume
  else 0

end Channel4State

end GbCycle
