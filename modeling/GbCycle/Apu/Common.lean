import GbCycle.Model
import GbCycle.Speed
import GbCycle.Word

/-!
# What the channels of the APU share

Every channel has a DAC and is active or not, a length counter that can silence it, and a period
that its registers hold in two parts.  Three of them have an envelope.  A write to the last register
of a channel is a plan of several steps: it may trigger, it sets the length enable, and in one half
of the frame sequencer's steps it may clock the length counter once more.
-/

namespace GbCycle

def channelTriggerBit : U8 := 0x80
def lengthEnableBit : U8 := 0x40
def periodHighMask : U8 := 0x07
def pulsePeriodMax : U16 := 0x07FF
def pulseLengthLoadMask : U8 := 0x3F
def pulseLengthCounterReload : Nat := 64
def waveLengthCounterReload : Nat := 256
def nrx4WritableMask : U8 := 0x47
def nr44WritableMask : U8 := 0x40
def dacEnableRegisterMask : U8 := 0xF8
def frameSequencerStepMask : U8 := 0x07

structure ChannelRuntimeState where
  dacEnabled : Bool
  active : Bool
  deriving Repr, DecidableEq

namespace ChannelRuntimeState

def default : ChannelRuntimeState := ⟨false, false⟩

def setDacEnabled (r : ChannelRuntimeState) (dacEnabled : Bool) : ChannelRuntimeState :=
  { dacEnabled, active := r.active && dacEnabled }

def setActiveFromStartup (r : ChannelRuntimeState) (active : Bool) : ChannelRuntimeState :=
  { r with active := r.dacEnabled && active }

def trigger (r : ChannelRuntimeState) : ChannelRuntimeState :=
  if r.dacEnabled then { r with active := true } else r

end ChannelRuntimeState

/-! ## The frame sequencer's steps -/

def frameSequencerStepClocksLength (step : U8) : Bool :=
  match step &&& frameSequencerStepMask with
  | 0 | 2 | 4 | 6 => true
  | _ => false

def frameSequencerStepClocksSweep (step : U8) : Bool :=
  match step &&& frameSequencerStepMask with
  | 2 | 6 => true
  | _ => false

def frameSequencerStepClocksEnvelope (step : U8) : Bool := step &&& frameSequencerStepMask = 7

/-! ## Periods -/

def pulsePeriodFromRegisters (periodLow periodHigh : U8) : U16 :=
  ((U16.ofByte (periodHigh &&& periodHighMask) <<< 8) ||| U16.ofByte periodLow) &&& pulsePeriodMax

def pulseTimerReload (periodValue : U16) : Nat := (2048 - (periodValue &&& pulsePeriodMax).toNat) * 4

def pulseTimerReloadPreservingTriggerPhase (periodValue : U16) (currentPeriodTimer : Nat) : Nat :=
  let preservedPhase := (4 - currentPeriodTimer % 4) % 4
  pulseTimerReload periodValue - preservedPhase

def waveTimerReload (periodValue : U16) : Nat := (2048 - (periodValue &&& pulsePeriodMax).toNat) * 2

def cgbPulseTriggerDelayTCycles (consoleModel : ConsoleModel) (speedMode : CgbSpeedMode)
    (wasActive : Bool) (powerOnPhase : Nat) : Nat :=
  if !consoleModel.isCgbFamily then 0
  else
    match wasActive, speedMode with
    | true, .normal => 4
    | true, .double => 8
    | false, .normal => 8
    | false, .double => 16 + powerOnPhase % 8

/-! ## Length counters -/

def pulseLengthCounterFromLoad (value : U8) : Nat :=
  pulseLengthCounterReload - (value &&& pulseLengthLoadMask).toNat

def waveLengthCounterFromLoad (value : U8) : Nat := waveLengthCounterReload - value.toNat

/-- A length counter, and whether its channel is active. -/
structure LengthCounter where
  counter : Nat
  active : Bool
  deriving Repr, DecidableEq

/-- `clock_length_counter_u8` and `clock_length_counter_u16`. -/
def clockLengthCounter (lengthEnabled : Bool) (l : LengthCounter) : LengthCounter :=
  if !lengthEnabled ∨ l.counter = 0 then l
  else { counter := l.counter - 1, active := l.active && l.counter ≠ 1 }

structure Nrx4WriteContext where
  trigger : Bool
  lengthEnabled : Bool
  nextStepClocksLength : Bool
  nextStepClocksEnvelope : Bool
  deriving Repr, DecidableEq

def nrx4WriteContext (value nextFrameSequencerStep : U8) : Nrx4WriteContext :=
  { trigger := value &&& channelTriggerBit ≠ 0
    lengthEnabled := value &&& lengthEnableBit ≠ 0
    nextStepClocksLength := frameSequencerStepClocksLength nextFrameSequencerStep
    nextStepClocksEnvelope := frameSequencerStepClocksEnvelope nextFrameSequencerStep }

/-- Both policies of the source are the same. -/
def shouldApplyExtraLengthClockingOnEnable (lengthEnabled lengthCounterIsZero wasLengthEnabled
    nextStepClocksLength triggerReloadedZeroLength : Bool) : Bool :=
  if nextStepClocksLength || !lengthEnabled || lengthCounterIsZero then false
  else !wasLengthEnabled || triggerReloadedZeroLength

/-- `apply_extra_length_clocking_u8` and `apply_extra_length_clocking_u16`. -/
def applyExtraLengthClocking (context : Nrx4WriteContext) (wasLengthEnabled
    triggerReloadedZeroLength : Bool) (reloadValue : Nat) (l : LengthCounter) : LengthCounter :=
  if !shouldApplyExtraLengthClockingOnEnable context.lengthEnabled (l.counter = 0)
      wasLengthEnabled context.nextStepClocksLength triggerReloadedZeroLength then l
  else
    let counter := l.counter - 1
    if counter = 0 then
      if context.trigger then { l with counter := reloadValue - 1 }
      else { counter, active := false }
    else { l with counter }

/-! ## Envelopes -/

def maxEnvelopeVolume : U8 := 0x0F
def envelopePaceMask : U8 := 0x07
def envelopeDirectionBit : U8 := 0x08
def envelopeInitialVolumeMask : U8 := 0xF0
def envelopeInitialVolumeShift : Nat := 4

structure EnvelopeState where
  initialVolume : U8
  increase : Bool
  pace : U8
  automaticUpdatesEnabled : Bool
  timer : U8
  currentVolume : U8
  cgbLiveWriteShortReload : Bool
  cgbLiveWritePendingEvenTick : Bool
  deriving Repr, DecidableEq

def envelopeTimerReload (envelopePace : U8) : U8 := if envelopePace = 0 then 8 else envelopePace

def encodeEnvelopeRegister (initialVolume : U8) (envelopeIncrease : Bool) (envelopePace : U8) : U8 :=
  ((initialVolume &&& maxEnvelopeVolume) <<< envelopeInitialVolumeShift) |||
    (if envelopeIncrease then envelopeDirectionBit else 0) ||| (envelopePace &&& envelopePaceMask)

def applyConsistentZombieModeIncrement (currentVolume value : U8) : U8 :=
  if value &&& (envelopeDirectionBit ||| envelopePaceMask) ≠ envelopeDirectionBit then currentVolume
  else (currentVolume + 1) &&& maxEnvelopeVolume

/-- `apply_cgb_zombie_mode_write`: the write may invert the volume, and it may tick it. -/
def applyCgbZombieModeWrite (currentVolume newValue oldValue : U8)
    (volumeUpdatesLocked : Bool) : U8 :=
  let pureUp (value : U8) : Bool :=
    value &&& (envelopeDirectionBit ||| envelopePaceMask) = envelopeDirectionBit
  let shouldTick : Bool :=
    newValue &&& envelopePaceMask ≠ 0 && oldValue &&& envelopePaceMask = 0 &&
        !volumeUpdatesLocked ||
      pureUp newValue && pureUp oldValue && !volumeUpdatesLocked
  let shouldInvert : Bool := (newValue ^^^ oldValue) &&& envelopeDirectionBit ≠ 0
  let upward : Bool := newValue &&& envelopeDirectionBit ≠ 0
  let inverted :=
    if !shouldInvert then currentVolume
    else if upward then
      if oldValue &&& envelopePaceMask = 0 && !volumeUpdatesLocked then
        currentVolume ^^^ maxEnvelopeVolume
      else (0x0E - currentVolume) &&& maxEnvelopeVolume
    else (0x10 - currentVolume) &&& maxEnvelopeVolume
  if !(shouldTick && !(shouldInvert && upward)) then inverted
  else if upward then (inverted + 1) &&& maxEnvelopeVolume
  else (inverted - 1) &&& maxEnvelopeVolume

namespace EnvelopeState

def default : EnvelopeState := ⟨0, false, 0, false, 0, 0, false, false⟩

def applyWrite (e : EnvelopeState) (value : U8) : EnvelopeState :=
  { e with
    initialVolume := (value &&& envelopeInitialVolumeMask) >>> envelopeInitialVolumeShift
    increase := value &&& envelopeDirectionBit ≠ 0
    pace := value &&& envelopePaceMask }

def applyLiveWriteEffect (e : EnvelopeState) (consoleModel : ConsoleModel) (active : Bool)
    (value : U8) : EnvelopeState :=
  if !active then e
  else if consoleModel.isCgbFamily then
    let oldValue := encodeEnvelopeRegister e.initialVolume e.increase e.pace
    let volumeUpdatesLocked : Bool := e.pace ≠ 0 && !e.automaticUpdatesEnabled
    let e' := { e with
      currentVolume :=
        applyCgbZombieModeWrite e.currentVolume value oldValue volumeUpdatesLocked }.applyWrite value
    let e' := { e' with
      cgbLiveWriteShortReload := false, cgbLiveWritePendingEvenTick := false
      automaticUpdatesEnabled := e'.pace ≠ 0 && !volumeUpdatesLocked }
    if e.pace = 0 ∧ e'.pace ≠ 0 ∧ volumeUpdatesLocked = false then
      { e' with
        timer := if e.increase = e'.increase then e'.pace else 1
        cgbLiveWriteShortReload := true, cgbLiveWritePendingEvenTick := true }
    else e'
  else { e with currentVolume := applyConsistentZombieModeIncrement e.currentVolume value }

def reload (e : EnvelopeState) (nextStepClocksEnvelope : Bool) : EnvelopeState :=
  { e with
    automaticUpdatesEnabled := e.pace ≠ 0
    timer := envelopeTimerReload e.pace + (if nextStepClocksEnvelope then 1 else 0)
    currentVolume := e.initialVolume
    cgbLiveWriteShortReload := false, cgbLiveWritePendingEvenTick := false }

/-- The end of an envelope step. -/
def moveVolume (e : EnvelopeState) : EnvelopeState :=
  if e.increase then
    if e.currentVolume < maxEnvelopeVolume then { e with currentVolume := e.currentVolume + 1 }
    else { e with automaticUpdatesEnabled := false }
  else if 0 < e.currentVolume then { e with currentVolume := e.currentVolume - 1 }
  else { e with automaticUpdatesEnabled := false }

/-- `clock_envelope_unit`. -/
def clock (e : EnvelopeState) : EnvelopeState :=
  if e.pace = 0 ∨ e.automaticUpdatesEnabled = false then e
  else
    let timer := if 0 < e.timer then e.timer - 1 else e.timer
    if timer ≠ 0 then { e with timer }
    else
      let e' :=
        if e.cgbLiveWriteShortReload then
          { e with cgbLiveWriteShortReload := false, timer := envelopeTimerReload e.pace - 1 }
        else { e with timer := envelopeTimerReload e.pace }
      e'.moveVolume

def clockCgbLiveWritePendingEvenTick (e : EnvelopeState) : EnvelopeState :=
  if !e.cgbLiveWritePendingEvenTick then e
  else { e with cgbLiveWritePendingEvenTick := false }.clock

end EnvelopeState

end GbCycle
