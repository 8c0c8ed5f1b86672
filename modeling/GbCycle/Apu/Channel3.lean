import GbCycle.Apu.Common

/-!
# Channel 3

The wave channel plays the nibbles of its RAM.  Its timer counts the generation clocks of a period
while the channel is active, and with each period moves to the next sample.  A DMG that is
triggered again just before a sample is fetched corrupts the start of the RAM.
-/

namespace GbCycle

def nr30DacPowerBit : U8 := 0x80
def nr32ReadMask : U8 := 0x60
def waveRamLen : Nat := 16
def waveSampleCount : U8 := 32
def waveTriggerStartupDelayTCycles : Nat := 6
def waveDmgRetriggerCorruptionWindowTCycles : Nat := 2
def waveSampleByteShift : Nat := 1
def waveSampleLowBit : U8 := 0x01
def waveSampleNibbleMask : U8 := 0x0F
def waveHighNibbleShift : Nat := 4
def waveRetriggerCorruptionBlockLen : Nat := 4
def waveOutputLevelShift : Nat := 5
def waveOutputLevelHalfShift : Nat := 1
def waveOutputLevelQuarterShift : Nat := 2

inductive Channel3Register where
  | nr30
  | nr31
  | nr32
  | nr33
  | nr34
  deriving Repr, DecidableEq

structure Channel3State where
  nr30 : U8
  nr31 : U8
  nr32 : U8
  nr33 : U8
  nr34 : U8
  waveRam : List U8
  runtime : ChannelRuntimeState
  sampleIndex : U8
  sampleBuffer : U8
  periodTimer : Nat
  lengthCounter : Nat
  lengthEnabled : Bool
  waveRamAccessWindowByteIndex : Option Nat
  deriving Repr, DecidableEq

namespace Channel3State

def default : Channel3State :=
  { nr30 := 0, nr31 := 0, nr32 := 0, nr33 := 0, nr34 := 0
    waveRam := List.replicate waveRamLen 0, runtime := .default, sampleIndex := 0
    sampleBuffer := 0, periodTimer := 0, lengthCounter := 0, lengthEnabled := false
    waveRamAccessWindowByteIndex := none }

def derivedDacEnabled (c : Channel3State) : Bool := c.nr30 &&& nr30DacPowerBit ≠ 0
def periodValue (c : Channel3State) : U16 := pulsePeriodFromRegisters c.nr33 c.nr34

/-! ## The registers -/

def writeNr30 (c : Channel3State) (value : U8) : Channel3State :=
  let c := { c with nr30 := value &&& nr30DacPowerBit }
  { c with runtime := c.runtime.setDacEnabled c.derivedDacEnabled }

def writeNr31 (c : Channel3State) (value : U8) : Channel3State :=
  { c with nr31 := value, lengthCounter := waveLengthCounterFromLoad value }

def writeNr32 (c : Channel3State) (value : U8) : Channel3State :=
  { c with nr32 := value &&& nr32ReadMask }

def writeNr33 (c : Channel3State) (value : U8) : Channel3State := { c with nr33 := value }

def applyDmgRetriggerWaveRamCorruption (c : Channel3State) (consoleModel : ConsoleModel) :
    Channel3State :=
  if !consoleModel.isDmgFamily ∨ !c.runtime.active ∨
      c.periodTimer ≠ waveDmgRetriggerCorruptionWindowTCycles then c
  else
    let currentByteIndex := ((c.sampleIndex.toNat + 1) >>> waveSampleByteShift) % waveRamLen
    if currentByteIndex < waveRetriggerCorruptionBlockLen then
      { c with waveRam := c.waveRam.set 0 (c.waveRam.getD currentByteIndex 0) }
    else
      let blockStart := currentByteIndex / waveRetriggerCorruptionBlockLen *
        waveRetriggerCorruptionBlockLen
      { c with
        waveRam := (c.waveRam.drop blockStart).take waveRetriggerCorruptionBlockLen ++
          c.waveRam.drop waveRetriggerCorruptionBlockLen }

/-- `trigger`, with whether it reloaded a length counter at zero. -/
def trigger (c : Channel3State) (consoleModel : ConsoleModel) : Channel3State × Bool :=
  let c := c.applyDmgRetriggerWaveRamCorruption consoleModel
  let reloadedZeroLength : Bool := c.lengthCounter = 0
  let c := if reloadedZeroLength then
      { c with lengthCounter := waveLengthCounterReload, lengthEnabled := false }
    else c
  ({ c with
     periodTimer := waveTimerReload c.periodValue + waveTriggerStartupDelayTCycles
     sampleIndex := 0
     runtime := c.runtime.trigger }, reloadedZeroLength)

/-- The length counter with the activity that it decides. -/
def length (c : Channel3State) : LengthCounter := ⟨c.lengthCounter, c.runtime.active⟩

def setLength (c : Channel3State) (l : LengthCounter) : Channel3State :=
  { c with lengthCounter := l.counter, runtime := { c.runtime with active := l.active } }

def writeNr34 (c : Channel3State) (value : U8) (consoleModel : ConsoleModel)
    (nextFrameSequencerStep : U8) : Channel3State :=
  let context := nrx4WriteContext value nextFrameSequencerStep
  let wasLengthEnabled := c.lengthEnabled
  let c := { c with nr34 := value &&& nrx4WritableMask }
  let (c, reloaded) := if context.trigger then c.trigger consoleModel else (c, false)
  let c := { c with lengthEnabled := context.lengthEnabled }
  c.setLength
    (applyExtraLengthClocking context wasLengthEnabled reloaded waveLengthCounterReload c.length)

def writeRegister (c : Channel3State) (register : Channel3Register) (value : U8)
    (consoleModel : ConsoleModel) (nextFrameSequencerStep : U8) : Channel3State :=
  match register with
  | .nr30 => c.writeNr30 value
  | .nr31 => c.writeNr31 value
  | .nr32 => c.writeNr32 value
  | .nr33 => c.writeNr33 value
  | .nr34 => c.writeNr34 value consoleModel nextFrameSequencerStep

/-! ## The clocks -/

def beginTCycle (c : Channel3State) : Channel3State :=
  { c with waveRamAccessWindowByteIndex := none }

def waveSample (c : Channel3State) (sampleIndex : U8) : U8 :=
  let byte := c.waveRam.getD ((sampleIndex >>> waveSampleByteShift).toNat % waveRamLen) 0
  if sampleIndex &&& waveSampleLowBit = 0 then byte >>> waveHighNibbleShift
  else byte &&& waveSampleNibbleMask

def advanceSample (c : Channel3State) : Channel3State :=
  let sampleIndex := (c.sampleIndex + 1) % waveSampleCount
  { c with
    sampleIndex
    waveRamAccessWindowByteIndex :=
      some ((sampleIndex >>> waveSampleByteShift).toNat % waveRamLen)
    sampleBuffer := c.waveSample sampleIndex }

def tickFastTimer (c : Channel3State) : Channel3State :=
  if !c.runtime.active then c
  else
    let periodTimer := c.periodTimer - 1
    if periodTimer = 0 then { c with periodTimer := waveTimerReload c.periodValue }.advanceSample
    else { c with periodTimer }

def clockLength (c : Channel3State) : Channel3State :=
  c.setLength (clockLengthCounter c.lengthEnabled c.length)

end Channel3State

end GbCycle
