import GbCycle.Cartridge.Access
import GbCycle.Cartridge.Classify
import GbCycle.Cartridge.Huc3Clock
import GbCycle.Cartridge.LinearRam

/-!
# HuC-3

RAM, infrared, and a microcontroller behind a mailbox: a program writes a command with its
argument, clears the semaphore to have it executed, and reads the response.  The commands reach
the controller's nibble memory, and through it the clock.
-/

namespace GbCycle

inductive Huc3SelectMode where
  | ramReadOnly
  | ramReadWrite
  | rtcCommandArgument
  | rtcCommandResponse
  | rtcSemaphore
  | ir
  | openBus (raw : U8)
  deriving Repr, DecidableEq

namespace Huc3SelectMode

def fromValue (value : U8) : Huc3SelectMode :=
  if value &&& 0x0F = 0x00 then .ramReadOnly
  else if value &&& 0x0F = 0x0A then .ramReadWrite
  else if value &&& 0x0F = 0x0B then .rtcCommandArgument
  else if value &&& 0x0F = 0x0C then .rtcCommandResponse
  else if value &&& 0x0F = 0x0D then .rtcSemaphore
  else if value &&& 0x0F = 0x0E then .ir
  else .openBus (value &&& 0x0F)

def rawValue : Huc3SelectMode → U8
  | .ramReadOnly => 0x00
  | .ramReadWrite => 0x0A
  | .rtcCommandArgument => 0x0B
  | .rtcCommandResponse => 0x0C
  | .rtcSemaphore => 0x0D
  | .ir => 0x0E
  | .openBus raw => raw &&& 0x0F

/-- A mode that was selected is selected again by its raw value. -/
theorem fromValue_rawValue_fromValue (value : U8) :
    fromValue (fromValue value).rawValue = fromValue value := by
  have hlow : (fromValue value).rawValue &&& 0x0F = value &&& 0x0F := by
    unfold fromValue
    by_cases h₀ : value &&& 0x0F = 0x00
    · rw [if_pos h₀, h₀]
      rfl
    rw [if_neg h₀]
    by_cases hA : value &&& 0x0F = 0x0A
    · rw [if_pos hA, hA]
      rfl
    rw [if_neg hA]
    by_cases hB : value &&& 0x0F = 0x0B
    · rw [if_pos hB, hB]
      rfl
    rw [if_neg hB]
    by_cases hC : value &&& 0x0F = 0x0C
    · rw [if_pos hC, hC]
      rfl
    rw [if_neg hC]
    by_cases hD : value &&& 0x0F = 0x0D
    · rw [if_pos hD, hD]
      rfl
    rw [if_neg hD]
    by_cases hE : value &&& 0x0F = 0x0E
    · rw [if_pos hE, hE]
      rfl
    rw [if_neg hE]
    show value &&& 0x0F &&& 0x0F &&& 0x0F = value &&& 0x0F
    rw [BitVec.and_assoc, BitVec.and_assoc]
    rfl
  rw [fromValue, hlow, fromValue]

end Huc3SelectMode

structure Huc3Mailbox where
  command : U8 := 0
  argument : U8 := 0
  lastResponseNybble : U8 := 0
  semaphoreReady : Bool := true
  deriving Repr, DecidableEq

structure Huc3Cartridge where
  rom : List U8
  ram : List U8
  hasBattery : Bool
  header : CartridgeHeader
  classification : CartridgeClassification
  selectMode : Huc3SelectMode
  romBank : U8
  ramBank : U8
  accessAddress : U8
  mailbox : Huc3Mailbox
  mcuRam : McuRam
  rtc : Huc3RtcState
  irEmitterOn : Bool
  irLightDetected : Bool
  lastControlWrite : Option U8
  lastUnsupportedCommand : Option U8
  lastUnsupportedArgument : Option U8
  deriving Repr, DecidableEq

namespace Huc3Cartridge

def initializeRuntimeState (c : Huc3Cartridge) : Huc3Cartridge :=
  { c with
    rtc := c.rtc.reduced
    mcuRam := c.mcuRam.maskNibbles.syncTrackedRtcLocations c.rtc.reduced }

def powerOn (rom : List U8) (header : CartridgeHeader) (classification : CartridgeClassification)
    (ramLen : Nat) : Huc3Cartridge :=
  { rom, ram := List.replicate ramLen 0, hasBattery := true, header, classification
    selectMode := .ramReadOnly, romBank := 0, ramBank := 0, accessAddress := 0, mailbox := {}
    mcuRam := .blank, rtc := .zero
    irEmitterOn := false, irLightDetected := false, lastControlWrite := none
    lastUnsupportedCommand := none, lastUnsupportedArgument := none }

/-! ## Accesses -/

def effectiveRomBank (c : Huc3Cartridge) (bankCount : Nat) : Nat :=
  if bankCount = 0 then 0 else c.romBank.toNat % bankCount

def effectiveRamBank (c : Huc3Cartridge) : U8 :=
  BitVec.ofNat 8 (c.ramBank.toNat % max (c.ram.length / 0x2000) 1)

def effectiveRamOffset (c : Huc3Cartridge) (address : U16) : Nat :=
  (ramWindowOffset address + c.effectiveRamBank.toNat * 0x2000) % max c.ram.length 1

def describeExternalAccess (c : Huc3Cartridge) (address : U16) : CartridgeExternalAccessInfo :=
  match c.selectMode with
  | .ramReadOnly =>
      { address, target := .bankedRam c.effectiveRamBank, availability := .accessible
        readBehavior := .storage, writeBehavior := .ignored }
  | .ramReadWrite =>
      { address, target := .bankedRam c.effectiveRamBank, availability := .accessible
        readBehavior := .storage, writeBehavior := .storage }
  | .rtcCommandArgument =>
      { address, target := .huc3CommandMailbox, availability := .accessible
        readBehavior := .openBus, writeBehavior := .huc3MailboxCommandArgument }
  | .rtcCommandResponse =>
      { address, target := .huc3ResponseMailbox, availability := .accessible
        readBehavior := .huc3MailboxResponse, writeBehavior := .ignored }
  | .rtcSemaphore =>
      { address, target := .huc3Semaphore, availability := .accessible
        readBehavior := .huc3SemaphoreReady, writeBehavior := .huc3SemaphoreControl }
  | .ir =>
      { address, target := .irRegister, availability := .accessible
        readBehavior := .infraredSensor, writeBehavior := .infraredTransmitter }
  | .openBus raw =>
      { address, target := .huc3InvalidSelector raw, availability := .reserved
        readBehavior := .openBus, writeBehavior := .ignored }

def readRom (c : Huc3Cartridge) (address : U16) : U8 :=
  readOr c.rom
    (bankedRomIndex 0 (c.effectiveRomBank (c.header.romSize.bankCount.getD 0)) address)

def mappedRomWindow (c : Huc3Cartridge) (address : U16) : Option CartridgeMappedRomWindow :=
  bankedRomWindow 0 (c.effectiveRomBank (c.header.romSize.bankCount.getD 0)) address

def writeRom (c : Huc3Cartridge) (address : U16) (value : U8) : Huc3Cartridge :=
  if address ≤ 0x1FFF then { c with selectMode := .fromValue value }
  else if address ≤ 0x3FFF then { c with romBank := value &&& 0x7F }
  else if address ≤ 0x5FFF then { c with ramBank := value &&& 0x03 }
  else if address ≤ 0x7FFF then { c with lastControlWrite := some value }
  else c

def readRam (c : Huc3Cartridge) (address : U16) : U8 :=
  match c.selectMode with
  | .ramReadOnly | .ramReadWrite => readOr c.ram (c.effectiveRamOffset address)
  | .rtcCommandArgument => 0xFF
  | .rtcCommandResponse =>
      0x80 ||| ((c.mailbox.command &&& 0x07) <<< 4) ||| (c.mailbox.lastResponseNybble &&& 0x0F)
  | .rtcSemaphore => 0x80 ||| (if c.mailbox.semaphoreReady then 1 else 0)
  | .ir => 0x80 ||| (if c.irLightDetected then 1 else 0)
  | .openBus _ => 0xFF

/-! ## Commands -/

def writeMcuNibble (c : Huc3Cartridge) (address value : U8) : Huc3Cartridge :=
  let mcuRam := c.mcuRam.write address.toNat (value &&& 0x0F)
  if 0x10 ≤ address ∧ address ≤ 0x15 then
    { c with mcuRam, rtc := mcuRam.syncCurrentTimeFromMcuWindow c.rtc }
  else if 0x58 ≤ address ∧ address ≤ 0x5D then
    { c with mcuRam, rtc := mcuRam.syncEventTimeFromMcuWindow c.rtc }
  else { c with mcuRam }

def copyCurrentTimeToIoWindow (c : Huc3Cartridge) : Huc3Cartridge :=
  { c with
    mcuRam :=
      ((c.mcuRam.writeTripletNybbles 0x00 c.rtc.currentMinutesOfDay).writeTripletNybbles 0x03
        c.rtc.currentDays).write 0x06 0 }

def ioWindowTime (c : Huc3Cartridge) : Huc3RtcState :=
  { c.rtc with
    currentMinutesOfDay := c.mcuRam.readTripletNybbles 0x00 % 1440
    currentDays := c.mcuRam.readTripletNybbles 0x03 % 0x1000
    currentSubminuteSeconds := 0 }

def applyIoWindowCurrentTimePreservingEventDelta (c : Huc3Cartridge) : Huc3Cartridge :=
  let newEventTotal := (c.ioWindowTime.currentTotalMinutes + c.rtc.remainingEventDeltaMinutes) %
    Huc3RtcPersistentState.rtcCycleMinutes
  let rtc := c.ioWindowTime.setEventTotalMinutes newEventTotal
  { c with rtc, mcuRam := c.mcuRam.syncTrackedRtcLocations rtc }

def executeExtendedCommand (c : Huc3Cartridge) (argument : U8) : Huc3Cartridge :=
  if argument &&& 0x0F = 0x00 then c.copyCurrentTimeToIoWindow
  else if argument &&& 0x0F = 0x01 then c.applyIoWindowCurrentTimePreservingEventDelta
  else if argument &&& 0x0F = 0x02 then
    { c with mailbox := { c.mailbox with lastResponseNybble := 0x01 } }
  else
    { c with
      lastUnsupportedCommand := some 0x06
      lastUnsupportedArgument := some (argument &&& 0x0F) }

/-- `execute_mailbox_command`, after the last refusal has been forgotten. -/
def executeCommand (c : Huc3Cartridge) : Huc3Cartridge :=
  if c.mailbox.command &&& 0x07 = 0x01 then
    { c with
      mailbox :=
        { c.mailbox with lastResponseNybble := c.mcuRam.nibble c.accessAddress.toNat &&& 0x0F }
      accessAddress := c.accessAddress + 1 }
  else if c.mailbox.command &&& 0x07 = 0x03 then
    { c.writeMcuNibble c.accessAddress c.mailbox.argument with accessAddress := c.accessAddress + 1 }
  else if c.mailbox.command &&& 0x07 = 0x04 then
    { c with accessAddress := (c.accessAddress &&& 0xF0) ||| (c.mailbox.argument &&& 0x0F) }
  else if c.mailbox.command &&& 0x07 = 0x05 then
    { c with
      accessAddress := (c.accessAddress &&& 0x0F) ||| ((c.mailbox.argument &&& 0x0F) <<< 4) }
  else if c.mailbox.command &&& 0x07 = 0x06 then c.executeExtendedCommand c.mailbox.argument
  else
    { c with
      lastUnsupportedCommand := some (c.mailbox.command &&& 0x07)
      lastUnsupportedArgument := some (c.mailbox.argument &&& 0x0F) }

def executeMailboxCommand (c : Huc3Cartridge) : Huc3Cartridge :=
  executeCommand { c with lastUnsupportedCommand := none, lastUnsupportedArgument := none }

def setSemaphore (c : Huc3Cartridge) (semaphoreReady : Bool) : Huc3Cartridge :=
  { c with mailbox := { c.mailbox with semaphoreReady } }

def requestMcuCommandExecution (c : Huc3Cartridge) : Huc3Cartridge :=
  (c.setSemaphore false).executeMailboxCommand.setSemaphore true

def writeRam (c : Huc3Cartridge) (address : U16) (value : U8) : Huc3Cartridge :=
  match c.selectMode with
  | .ramReadOnly => c
  | .ramReadWrite => { c with ram := c.ram.set (c.effectiveRamOffset address) value }
  | .rtcCommandArgument =>
      { c with
        mailbox :=
          { c.mailbox with command := (value >>> 4) &&& 0x07, argument := value &&& 0x0F }
        lastUnsupportedCommand := none
        lastUnsupportedArgument := none }
  | .rtcCommandResponse => c
  | .rtcSemaphore => if value &&& 0x01 = 0 then c.requestMcuCommandExecution else c
  | .ir => { c with irEmitterOn := value &&& 0x01 ≠ 0 }
  | .openBus _ => c

def advanceRtcSeconds (c : Huc3Cartridge) (elapsedSeconds : Nat) : Huc3Cartridge :=
  { c with
    rtc := c.rtc.applyElapsedSeconds elapsedSeconds
    mcuRam := c.mcuRam.syncTrackedRtcLocations (c.rtc.applyElapsedSeconds elapsedSeconds) }

/-! ## Persistence -/

def persistenceMetadata (c : Huc3Cartridge) : CartridgePersistenceMetadata :=
  { hasBattery := c.hasBattery, hasRtc := true
    profile := .persistentRamAndRtc (.linear c.ram.length) }

def mcuState (c : Huc3Cartridge) : Huc3PersistentState :=
  { mcuRam := c.mcuRam
    rtc := c.rtc
    romBank := c.romBank
    ramBank := c.ramBank
    selectMode := c.selectMode.rawValue
    accessAddress := c.accessAddress
    mailboxCommand := c.mailbox.command
    mailboxArgument := c.mailbox.argument
    lastResponseNybble := c.mailbox.lastResponseNybble
    semaphoreReady := c.mailbox.semaphoreReady
    irEmitterOn := c.irEmitterOn
    irLightDetected := c.irLightDetected
    lastControlWrite := c.lastControlWrite
    lastUnsupportedCommand := c.lastUnsupportedCommand
    lastUnsupportedArgument := c.lastUnsupportedArgument }

def persistentState (c : Huc3Cartridge) : PersistentCartState :=
  if !c.hasBattery then .none else .huc3 c.ram c.mcuState

/-- The fields a restore takes from a state. -/
def restored (c : Huc3Cartridge) (persistedRam : List U8) (state : Huc3PersistentState) :
    Huc3Cartridge :=
  { c with
    ram := persistedRam
    mcuRam := state.mcuRam
    rtc := state.rtc
    romBank := state.romBank &&& 0x7F
    ramBank := state.ramBank &&& 0x03
    selectMode := .fromValue state.selectMode
    accessAddress := state.accessAddress
    mailbox :=
      { command := state.mailboxCommand &&& 0x07
        argument := state.mailboxArgument &&& 0x0F
        lastResponseNybble := state.lastResponseNybble &&& 0x0F
        semaphoreReady := state.semaphoreReady }
    irEmitterOn := state.irEmitterOn
    irLightDetected := state.irLightDetected
    lastControlWrite := state.lastControlWrite
    lastUnsupportedCommand := state.lastUnsupportedCommand.map (· &&& 0x07)
    lastUnsupportedArgument := state.lastUnsupportedArgument.map (· &&& 0x0F) }

def restorePersistentState (c : Huc3Cartridge) (state : PersistentCartState) :
    Except CartridgePersistentStateError Unit × Huc3Cartridge :=
  if !c.hasBattery then (expectNoState state, c)
  else
    match state with
    | .huc3 persistedRam mcu =>
        if c.ram.length ≠ persistedRam.length then
          (.error (.ramLengthMismatch c.ram.length persistedRam.length), c)
        else
          match firstRefused (0x0F < ·) mcu.mcuRam.toList with
          | some (index, value) => (.error (.invalidHuc3NibbleValue index value), c)
          | none => (.ok (), (c.restored persistedRam mcu).initializeRuntimeState)
    | other => (.error (.kindMismatch "Huc3" other.kindName), c)

/-! ## The loaded cartridge -/

def fresh (c : Huc3Cartridge) : Huc3Cartridge :=
  { c with
    ram := List.replicate c.ram.length 0
    selectMode := .ramReadOnly, romBank := 0, ramBank := 0, accessAddress := 0, mailbox := {}
    mcuRam := .blank, rtc := .zero
    irEmitterOn := false, irLightDetected := false, lastControlWrite := none
    lastUnsupportedCommand := none, lastUnsupportedArgument := none }

theorem initializeRuntimeState_powerOn (rom : List U8) (header : CartridgeHeader)
    (classification : CartridgeClassification) (ramLen : Nat) :
    (powerOn rom header classification ramLen).initializeRuntimeState =
      powerOn rom header classification ramLen := by
  have hclock : Huc3RtcPersistentState.zero.reduced = .zero := by decide
  simp only [initializeRuntimeState, powerOn, hclock, McuRam.maskNibbles_blank, McuRam.sync_blank]

@[simp] theorem fresh_writeRom (c : Huc3Cartridge) (address : U16) (value : U8) :
    (c.writeRom address value).fresh = c.fresh := by
  unfold writeRom
  repeat' split
  all_goals rfl

theorem fresh_writeMcuNibble (c : Huc3Cartridge) (address value : U8) :
    (c.writeMcuNibble address value).fresh = c.fresh := by
  unfold writeMcuNibble
  dsimp only
  split
  · rfl
  · split
    · rfl
    · rfl

theorem fresh_setAccessAddress (c : Huc3Cartridge) (accessAddress : U8) :
    ({ c with accessAddress }).fresh = c.fresh := rfl

theorem fresh_executeExtendedCommand (c : Huc3Cartridge) (argument : U8) :
    (c.executeExtendedCommand argument).fresh = c.fresh := by
  unfold executeExtendedCommand
  split
  · simp only [fresh, copyCurrentTimeToIoWindow]
  · split
    · simp only [fresh, applyIoWindowCurrentTimePreservingEventDelta]
    · split
      · rfl
      · rfl

theorem fresh_executeCommand (c : Huc3Cartridge) : c.executeCommand.fresh = c.fresh := by
  unfold executeCommand
  split
  · simp only [fresh]
  · split
    · rw [fresh_setAccessAddress, fresh_writeMcuNibble]
    · split
      · exact fresh_setAccessAddress c _
      · split
        · exact fresh_setAccessAddress c _
        · split
          · exact fresh_executeExtendedCommand c _
          · rfl

@[simp] theorem fresh_writeRam (c : Huc3Cartridge) (address : U16) (value : U8) :
    (c.writeRam address value).fresh = c.fresh := by
  unfold writeRam
  split
  · rfl
  · simp only [fresh, List.length_set]
  · rfl
  · rfl
  · split
    · exact fresh_executeCommand _
    · rfl
  · rfl
  · rfl

@[simp] theorem fresh_advanceRtcSeconds (c : Huc3Cartridge) (elapsedSeconds : Nat) :
    (c.advanceRtcSeconds elapsedSeconds).fresh = c.fresh := by
  simp only [fresh, advanceRtcSeconds]

@[simp] theorem fresh_restorePersistentState (c : Huc3Cartridge) (state : PersistentCartState) :
    (c.restorePersistentState state).2.fresh = c.fresh := by
  unfold restorePersistentState
  split
  · rfl
  · split
    · split
      · rfl
      · rename_i hlength
        split
        · rfl
        · simp only [fresh, initializeRuntimeState, restored, not_not.mp hlength]
    · rfl

def RamFits (c : Huc3Cartridge) : Prop := 0 < c.ram.length

theorem ram_length_of_fresh {c loaded : Huc3Cartridge} (hfresh : c.fresh = loaded.fresh) :
    c.ram.length = loaded.ram.length := by
  simp only [fresh, mk.injEq] at hfresh
  have hlength := congrArg List.length hfresh.2.1
  rwa [List.length_replicate, List.length_replicate] at hlength

theorem RamFits.of_fresh {c loaded : Huc3Cartridge} (hfresh : c.fresh = loaded.fresh)
    (h : loaded.RamFits) : c.RamFits := by
  rw [RamFits, ram_length_of_fresh hfresh]
  exact h

/-! ## Registers within their masks, and a clock that is tracked -/

structure Coherent (c : Huc3Cartridge) : Prop where
  tracks : c.mcuRam.Tracks c.rtc
  romBank : c.romBank &&& 0x7F = c.romBank
  ramBank : c.ramBank &&& 0x03 = c.ramBank
  selectMode : Huc3SelectMode.fromValue c.selectMode.rawValue = c.selectMode
  command : c.mailbox.command &&& 0x07 = c.mailbox.command
  argument : c.mailbox.argument &&& 0x0F = c.mailbox.argument
  response : c.mailbox.lastResponseNybble &&& 0x0F = c.mailbox.lastResponseNybble
  unsupportedCommand : c.lastUnsupportedCommand.map (· &&& 0x07) = c.lastUnsupportedCommand
  unsupportedArgument : c.lastUnsupportedArgument.map (· &&& 0x0F) = c.lastUnsupportedArgument

theorem and_and_mask (value mask : U8) : (value &&& mask) &&& mask = value &&& mask := by
  rw [BitVec.and_assoc, BitVec.and_self]

theorem coherent_powerOn (rom : List U8) (header : CartridgeHeader)
    (classification : CartridgeClassification) (ramLen : Nat) :
    (powerOn rom header classification ramLen).Coherent := by
  refine ⟨McuRam.tracks_blank, ?_, ?_, ?_, ?_, ?_, ?_, rfl, rfl⟩
  · exact (by decide : (0 : U8) &&& 0x7F = 0)
  · exact (by decide : (0 : U8) &&& 0x03 = 0)
  · exact (by decide : Huc3SelectMode.fromValue 0x00 = .ramReadOnly)
  · exact (by decide : (0 : U8) &&& 0x07 = 0)
  · exact (by decide : (0 : U8) &&& 0x0F = 0)
  · exact (by decide : (0 : U8) &&& 0x0F = 0)

theorem Coherent.writeRom {c : Huc3Cartridge} (h : c.Coherent) (address : U16) (value : U8) :
    (c.writeRom address value).Coherent := by
  unfold Huc3Cartridge.writeRom
  split
  · exact { h with selectMode := Huc3SelectMode.fromValue_rawValue_fromValue value }
  · split
    · exact { h with romBank := and_and_mask value 0x7F }
    · split
      · exact { h with ramBank := and_and_mask value 0x03 }
      · split
        · exact { h with }
        · exact h

theorem Coherent.writeMcuNibble {c : Huc3Cartridge} (h : c.Coherent) (address value : U8) :
    (c.writeMcuNibble address value).Coherent := by
  have hin : address.toNat < huc3McuRamNibbleCount := address.isLt
  have hm : (c.mcuRam.write address.toNat (value &&& 0x0F)).Masked :=
    h.tracks.masked.write hin (McuRam.and_nibble_lt value)
  have hagree (index : Nat) (hother : address.toNat ≠ index) :
      (c.mcuRam.write address.toNat (value &&& 0x0F)).nibble index = c.mcuRam.nibble index := by
    rw [McuRam.nibble_write _ hin, if_neg hother]
  unfold Huc3Cartridge.writeMcuNibble
  dsimp only
  split
  · rename_i hcurrent
    refine { h with tracks := h.tracks.syncCurrent hm fun index hindex => hagree index ?_ }
    bv_omega
  · rename_i hnotCurrent
    split
    · rename_i hevent
      refine { h with tracks := h.tracks.syncEvent hm fun index hindex => hagree index ?_ }
      bv_omega
    · rename_i hnotEvent
      refine { h with tracks := h.tracks.of_agree hm fun index hindex => hagree index ?_ }
      bv_omega

theorem Coherent.copyCurrentTimeToIoWindow {c : Huc3Cartridge} (h : c.Coherent) :
    c.copyCurrentTimeToIoWindow.Coherent := by
  unfold Huc3Cartridge.copyCurrentTimeToIoWindow
  refine { h with tracks := h.tracks.of_agree ?_ ?_ }
  · exact ((h.tracks.masked.writeTripletNybbles (by decide) _).writeTripletNybbles (by decide)
      _).write (by decide) (by decide)
  · intro index hindex
    rw [McuRam.nibble_write_of_ne, McuRam.nibble_writeTripletNybbles_of_outside,
      McuRam.nibble_writeTripletNybbles_of_outside]
    all_goals first
      | decide
      | omega

theorem Coherent.applyIoWindowCurrentTimePreservingEventDelta {c : Huc3Cartridge}
    (h : c.Coherent) : c.applyIoWindowCurrentTimePreservingEventDelta.Coherent := by
  have htime : c.ioWindowTime.InRange :=
    ⟨Huc3RtcPersistentState.mod_lt_minutes _, Huc3RtcPersistentState.mod_lt_days _,
      (by decide : (0 : U8) < 60), h.tracks.inRange.eventMinutes, h.tracks.inRange.eventDays⟩
  unfold Huc3Cartridge.applyIoWindowCurrentTimePreservingEventDelta
  dsimp only
  exact { h with tracks := McuRam.tracks_sync h.tracks.masked (htime.setEventTotalMinutes _) }

theorem Coherent.executeExtendedCommand {c : Huc3Cartridge} (h : c.Coherent) (argument : U8) :
    (c.executeExtendedCommand argument).Coherent := by
  unfold Huc3Cartridge.executeExtendedCommand
  split
  · exact h.copyCurrentTimeToIoWindow
  · split
    · exact h.applyIoWindowCurrentTimePreservingEventDelta
    · split
      · exact { h with response := (by decide : (0x01 : U8) &&& 0x0F = 0x01) }
      · exact { h with
          unsupportedCommand := rfl
          unsupportedArgument := congrArg some (and_and_mask argument 0x0F) }

theorem Coherent.executeCommand {c : Huc3Cartridge} (h : c.Coherent) : c.executeCommand.Coherent := by
  unfold Huc3Cartridge.executeCommand
  split
  · exact { h with response := and_and_mask _ 0x0F }
  · split
    · exact { h.writeMcuNibble c.accessAddress c.mailbox.argument with }
    · split
      · exact { h with }
      · split
        · exact { h with }
        · split
          · exact h.executeExtendedCommand _
          · exact { h with
              unsupportedCommand := congrArg some (and_and_mask _ 0x07)
              unsupportedArgument := congrArg some (and_and_mask _ 0x0F) }

theorem Coherent.setSemaphore {c : Huc3Cartridge} (h : c.Coherent) (ready : Bool) :
    (c.setSemaphore ready).Coherent := { h with }

theorem Coherent.requestMcuCommandExecution {c : Huc3Cartridge} (h : c.Coherent) :
    c.requestMcuCommandExecution.Coherent := by
  have hforgotten : ({ c.setSemaphore false with
      lastUnsupportedCommand := none, lastUnsupportedArgument := none }).Coherent :=
    { h.setSemaphore false with unsupportedCommand := rfl, unsupportedArgument := rfl }
  exact hforgotten.executeCommand.setSemaphore true

theorem Coherent.writeRam {c : Huc3Cartridge} (h : c.Coherent) (address : U16) (value : U8) :
    (c.writeRam address value).Coherent := by
  unfold Huc3Cartridge.writeRam
  split
  · exact h
  · exact { h with }
  · exact { h with
      command := and_and_mask _ 0x07
      argument := and_and_mask value 0x0F
      unsupportedCommand := rfl
      unsupportedArgument := rfl }
  · exact h
  · split
    · exact h.requestMcuCommandExecution
    · exact h
  · exact { h with }
  · exact h

theorem Coherent.advanceRtcSeconds {c : Huc3Cartridge} (h : c.Coherent) (elapsedSeconds : Nat) :
    (c.advanceRtcSeconds elapsedSeconds).Coherent := by
  unfold Huc3Cartridge.advanceRtcSeconds
  exact { h with
    tracks := McuRam.tracks_sync h.tracks.masked
      (h.tracks.inRange.applyElapsedSeconds elapsedSeconds) }

/-! ## Agreements -/

theorem readRom_eq_byteOf {c : Huc3Cartridge} {address : U16} {window : CartridgeMappedRomWindow}
    (h : c.mappedRomWindow address = some window) :
    window.source = .rom ∧ c.readRom address = window.byteOf c.rom := by
  obtain ⟨hsource, hbyte⟩ := byteOf_bankedRomWindow h c.rom
  exact ⟨hsource, hbyte.symm⟩

theorem effectiveRamOffset_lt {c : Huc3Cartridge} (hfits : c.RamFits) (address : U16) :
    c.effectiveRamOffset address < c.ram.length := by
  have hmax : max c.ram.length 1 = c.ram.length := Nat.max_eq_left hfits
  rw [effectiveRamOffset, hmax]
  exact Nat.mod_lt _ hfits

theorem describeExternalAccess_keeps {c : Huc3Cartridge} (hfits : c.RamFits) (address : U16) :
    (c.describeExternalAccess address).Keeps c (·.readRam address) (c.writeRam address) := by
  constructor
  · intro value hvalue
    unfold describeExternalAccess at hvalue
    split at hvalue
    all_goals cases hvalue
  · intro hignored value
    cases hmode : c.selectMode with
    | ramReadOnly => simp only [writeRam, hmode]
    | rtcCommandResponse => simp only [writeRam, hmode]
    | openBus raw => simp only [writeRam, hmode]
    | ramReadWrite => simp [describeExternalAccess, hmode] at hignored
    | rtcCommandArgument => simp [describeExternalAccess, hmode] at hignored
    | rtcSemaphore => simp [describeExternalAccess, hmode] at hignored
    | ir => simp [describeExternalAccess, hmode] at hignored
  · intro hread hwrite value
    cases hmode : c.selectMode with
    | ramReadWrite =>
        have hoffset : (c.writeRam address value).effectiveRamOffset address =
            c.effectiveRamOffset address := by
          simp only [writeRam, hmode, effectiveRamOffset, effectiveRamBank, List.length_set]
        have hafter : (c.writeRam address value).readRam address =
            readOr (c.ram.set (c.effectiveRamOffset address) value)
              ((c.writeRam address value).effectiveRamOffset address) := by
          simp only [writeRam, hmode, readRam]
        have hstored : CartridgeExternalAccessInfo.stored
            (c.describeExternalAccess address).target value = value := by
          simp only [describeExternalAccess, hmode, CartridgeExternalAccessInfo.stored]
        rw [hafter, hoffset, hstored]
        exact readOr_set (effectiveRamOffset_lt hfits address) value
    | ramReadOnly => simp [describeExternalAccess, hmode] at hwrite
    | rtcCommandResponse => simp [describeExternalAccess, hmode] at hwrite
    | openBus raw => simp [describeExternalAccess, hmode] at hwrite
    | rtcCommandArgument => simp [describeExternalAccess, hmode] at hread
    | rtcSemaphore => simp [describeExternalAccess, hmode] at hread
    | ir => simp [describeExternalAccess, hmode] at hread

theorem restorePersistentState_error {c : Huc3Cartridge} {state : PersistentCartState}
    {error : CartridgePersistentStateError} (h : (c.restorePersistentState state).1 = .error error) :
    (c.restorePersistentState state).2 = c := by
  unfold restorePersistentState at h ⊢
  by_cases hbattery : (!c.hasBattery) = true
  · rw [if_pos hbattery]
  · rw [if_neg hbattery] at h ⊢
    cases state with
    | huc3 persistedRam mcu =>
        dsimp only at h ⊢
        by_cases hlength : c.ram.length ≠ persistedRam.length
        · rw [if_pos hlength]
        · rw [if_neg hlength] at h ⊢
          cases hrefused : firstRefused (0x0F < ·) mcu.mcuRam.toList with
          | some cell => rfl
          | none =>
              rw [hrefused] at h
              cases h
    | _ => rfl

/-- A restored cartridge of the same board has the state that was saved, but for the nibbles of
the clock, which are written anew. -/
theorem restorePersistentState_persistentState {c loaded : Huc3Cartridge}
    (hfresh : c.fresh = loaded.fresh) (hbattery : loaded.hasBattery = true) (h : c.Coherent) :
    (loaded.restorePersistentState c.persistentState).1 = .ok () ∧
      (loaded.restorePersistentState c.persistentState).2.persistentState =
        .huc3 c.ram
          { c.mcuState with mcuRam := c.mcuRam.syncTrackedRtcLocations c.rtc } := by
  have hlength := ram_length_of_fresh hfresh
  have hc : c.hasBattery = true := by
    simp only [fresh, mk.injEq] at hfresh
    rw [hfresh.2.2.1, hbattery]
  have hnibbles : firstRefused (0x0F < ·) c.mcuState.mcuRam.toList = none := by
    apply firstRefused_eq_none.mpr
    intro value hmem
    obtain ⟨index, hindex⟩ := Vector.mem_iff_getElem?.mp (Vector.mem_toList_iff.mp hmem)
    have hnibble := h.tracks.masked index
    rw [McuRam.nibble, show c.mcuRam[index]? = some value from hindex, Option.getD_some] at hnibble
    apply decide_eq_false
    bv_omega
  have hrestore : loaded.restorePersistentState c.persistentState =
      (.ok (), (loaded.restored c.ram c.mcuState).initializeRuntimeState) := by
    simp only [persistentState, hc, Bool.not_true, Bool.false_eq_true, if_false,
      restorePersistentState, hbattery, hlength, ne_eq, not_true_eq_false, hnibbles]
  have hclock := Huc3RtcPersistentState.reduced_of_inRange h.tracks.inRange
  rw [hrestore]
  refine ⟨rfl, ?_⟩
  simp only [persistentState, initializeRuntimeState, restored, mcuState, hbattery, Bool.not_true,
    Bool.false_eq_true, if_false, hclock, McuRam.maskNibbles_of_masked h.tracks.masked, h.romBank,
    h.ramBank, h.selectMode, h.command, h.argument, h.response, h.unsupportedCommand,
    h.unsupportedArgument]

theorem withMcuRam_eq_iff (state : Huc3PersistentState) (mcuRam : McuRam) :
    { state with mcuRam } = state ↔ mcuRam = state.mcuRam := by
  cases state
  simp only [Huc3PersistentState.mk.injEq, and_true]

/-- So the state comes back exactly when the raw minutes are those of one day. -/
theorem restored_eq_iff {c : Huc3Cartridge} (hbattery : c.hasBattery = true) (h : c.Coherent) :
    PersistentCartState.huc3 c.ram
        { c.mcuState with mcuRam := c.mcuRam.syncTrackedRtcLocations c.rtc } = c.persistentState ↔
      c.mcuRam.RawTimesInDay := by
  have hstate : c.persistentState = .huc3 c.ram c.mcuState := by
    rw [persistentState, hbattery]
    rfl
  have hmemory : c.mcuState.mcuRam = c.mcuRam := rfl
  rw [hstate, PersistentCartState.huc3.injEq, withMcuRam_eq_iff, hmemory, h.tracks.sync_eq_iff]
  exact and_iff_right rfl

end Huc3Cartridge

end GbCycle
