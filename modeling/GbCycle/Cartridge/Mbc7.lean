import GbCycle.Cartridge.Access
import GbCycle.Cartridge.Classify
import GbCycle.Cartridge.PersistentState

/-!
# MBC7

ROM banks, an accelerometer that is latched, and a serial EEPROM behind one register: its bits
are the chip select, the clock and the data lines.  The EEPROM takes a start bit and ten bits of
a command with each rising edge of the clock; some commands go on with sixteen bits of data, in
or out.  It forgets what it was about when it is deselected.
-/

namespace GbCycle

def mbc7EepromBytes : Nat := 256
def mbc7EepromWords : Nat := mbc7EepromBytes / 2
def mbc7AccelerometerUnlatchedValue : U16 := 0x8000
def mbc7AccelerometerNeutralValue : U16 := 0x81D0
def mbc7EepromPinCs : U8 := 0x80
def mbc7EepromPinClk : U8 := 0x40
def mbc7EepromPinDi : U8 := 0x02
def mbc7EepromPinDo : U8 := 0x01
def mbc7EepromCommandBits : Nat := 10
def mbc7EepromDataBits : Nat := 16

/-! ## The EEPROM -/

structure Mbc7EepromPins where
  cs : Bool := false
  clk : Bool := false
  di : Bool := false
  doPin : Bool := true
  deriving Repr, DecidableEq

inductive Mbc7EepromDataTarget where
  | writeWord (address : U8)
  | writeAll
  deriving Repr, DecidableEq

inductive Mbc7EepromCommand where
  | idle
  | receivingCommand (bits : Nat) (value : U16)
  | receivingData (target : Mbc7EepromDataTarget) (bits : Nat) (value : U16)
  | sendingRead (bitsRemaining : Nat) (value : U16)
  deriving Repr, DecidableEq

/-- The fields of the cartridge that are the EEPROM's. -/
structure Mbc7Eeprom where
  eeprom : Vector U8 mbc7EepromBytes
  eepromPins : Mbc7EepromPins
  eepromCommand : Mbc7EepromCommand
  eepromWriteEnabled : Bool
  deriving Repr, DecidableEq

def pinCs (value : U8) : Bool := value &&& mbc7EepromPinCs ≠ 0
def pinClk (value : U8) : Bool := value &&& mbc7EepromPinClk ≠ 0
def pinDi (value : U8) : Bool := value &&& mbc7EepromPinDi ≠ 0

namespace Mbc7Eeprom

/-- Always in the EEPROM, and so is the byte after it. -/
def eepromWordOffset (address : U8) : Nat := address.toNat % mbc7EepromWords * 2

def readEepromWord (e : Mbc7Eeprom) (address : U8) : U16 :=
  U16.ofBytes (e.eeprom[eepromWordOffset address]?.getD 0)
    (e.eeprom[eepromWordOffset address + 1]?.getD 0)

def writeEepromWord (e : Mbc7Eeprom) (address : U8) (value : U16) : Mbc7Eeprom :=
  { e with
    eeprom := (e.eeprom.setIfInBounds (eepromWordOffset address) value.high).setIfInBounds
      (eepromWordOffset address + 1) value.low }

/-- The command is over, and the data line is high. -/
def endCommand (e : Mbc7Eeprom) : Mbc7Eeprom :=
  { e with eepromCommand := .idle, eepromPins := { e.eepromPins with doPin := true } }

def commitEepromData (e : Mbc7Eeprom) (target : Mbc7EepromDataTarget) (value : U16) :
    Mbc7Eeprom :=
  let e :=
    if e.eepromWriteEnabled then
      match target with
      | .writeWord address => e.writeEepromWord address value
      | .writeAll =>
          (List.range mbc7EepromWords).foldl
            (fun e address => e.writeEepromWord (BitVec.ofNat 8 address) value) e
    else e
  e.endCommand

def finishEepromExtendedCommand (e : Mbc7Eeprom) (command : U16) : Mbc7Eeprom :=
  if (command >>> 6) &&& 0x03 = 0b00 then { e with eepromWriteEnabled := false }.endCommand
  else if (command >>> 6) &&& 0x03 = 0b01 then
    { e with eepromCommand := .receivingData .writeAll 0 0 }
  else if (command >>> 6) &&& 0x03 = 0b10 then
    (if e.eepromWriteEnabled then
      { e with eeprom := Vector.replicate mbc7EepromBytes 0xFF }
    else e).endCommand
  else { e with eepromWriteEnabled := true }.endCommand

def finishEepromCommand (e : Mbc7Eeprom) (command : U16) : Mbc7Eeprom :=
  let address : U8 := (command &&& 0x7F).setWidth 8
  if (command >>> 8) &&& 0x03 = 0b10 then
    { e with
      eepromCommand := .sendingRead mbc7EepromDataBits (e.readEepromWord address)
      eepromPins := { e.eepromPins with doPin := false } }
  else if (command >>> 8) &&& 0x03 = 0b01 then
    { e with eepromCommand := .receivingData (.writeWord address) 0 0 }
  else if (command >>> 8) &&& 0x03 = 0b11 then
    (if e.eepromWriteEnabled then e.writeEepromWord address 0xFFFF else e).endCommand
  else e.finishEepromExtendedCommand command

/-- The next bit of a value that is received, the highest first. -/
def shiftIn (value : U16) (bit : Bool) : U16 := (value <<< 1) ||| (if bit then 1 else 0)

def clockEeprom (e : Mbc7Eeprom) : Mbc7Eeprom :=
  match e.eepromCommand with
  | .idle =>
      if e.eepromPins.di then
        { e with
          eepromCommand := .receivingCommand 0 0
          eepromPins := { e.eepromPins with doPin := true } }
      else e
  | .receivingCommand bits value =>
      if bits + 1 = mbc7EepromCommandBits then
        e.finishEepromCommand (shiftIn value e.eepromPins.di)
      else
        { e with eepromCommand := .receivingCommand (bits + 1) (shiftIn value e.eepromPins.di) }
  | .receivingData target bits value =>
      if bits + 1 = mbc7EepromDataBits then
        e.commitEepromData target (shiftIn value e.eepromPins.di)
      else
        { e with
          eepromCommand := .receivingData target (bits + 1) (shiftIn value e.eepromPins.di) }
  | .sendingRead bitsRemaining value =>
      if bitsRemaining = 0 then { e with eepromCommand := .idle }
      else
        { e with
          eepromPins :=
            { e.eepromPins with doPin := (value >>> (bitsRemaining - 1)) &&& 0x0001 ≠ 0 }
          eepromCommand :=
            if bitsRemaining - 1 = 0 then .idle else .sendingRead (bitsRemaining - 1) value }

def writeEepromPins (e : Mbc7Eeprom) (value : U8) : Mbc7Eeprom :=
  let previousClk := e.eepromPins.clk
  let e :=
    { e with
      eepromPins :=
        { e.eepromPins with cs := pinCs value, clk := pinClk value, di := pinDi value } }
  if !pinCs value then e.endCommand
  else if !previousClk && pinClk value then e.clockEeprom
  else e

def readEepromPins (e : Mbc7Eeprom) : U8 :=
  ((if e.eepromPins.cs then 1 else 0) <<< 7) ||| ((if e.eepromPins.clk then 1 else 0) <<< 6) |||
    ((if e.eepromPins.di then 1 else 0) <<< 1) |||
    (if e.eepromPins.doPin then mbc7EepromPinDo else 0)

end Mbc7Eeprom

/-! ## The cartridge -/

structure Mbc7AccelerometerInput where
  xRaw : U16
  yRaw : U16
  deriving Repr, DecidableEq

structure Mbc7Cartridge where
  rom : List U8
  header : CartridgeHeader
  classification : CartridgeClassification
  ramEnabled : Bool
  sensorEepromEnabled : Bool
  romBank : U8
  accelerometerInput : Mbc7AccelerometerInput
  accelerometerLatchArmed : Bool
  latchedX : U16
  latchedY : U16
  serialEeprom : Mbc7Eeprom
  deriving Repr, DecidableEq

namespace Mbc7Cartridge

def powerOn (rom : List U8) (header : CartridgeHeader)
    (classification : CartridgeClassification) : Mbc7Cartridge :=
  { rom, header, classification, ramEnabled := false, sensorEepromEnabled := false, romBank := 1
    accelerometerInput :=
      { xRaw := mbc7AccelerometerNeutralValue, yRaw := mbc7AccelerometerNeutralValue }
    accelerometerLatchArmed := false
    latchedX := mbc7AccelerometerUnlatchedValue, latchedY := mbc7AccelerometerUnlatchedValue
    serialEeprom :=
      { eeprom := Vector.replicate mbc7EepromBytes 0xFF, eepromPins := {}, eepromCommand := .idle
        eepromWriteEnabled := false } }

def effectiveRomBank (c : Mbc7Cartridge) (bankCount : Nat) : Nat :=
  c.romBank.toNat % max bankCount 1

def registersEnabled (c : Mbc7Cartridge) : Bool := c.ramEnabled && c.sensorEepromEnabled

def registerSelector (address : U16) : U8 := ((address >>> 4) &&& 0x0F).setWidth 8

def inRegisters (address : U16) : Bool := 0xA000 ≤ address && address ≤ 0xAFFF

/-- What a register is, how it is read and how it is written. -/
def describeRegister (selector : U8) :
    CartridgeExternalTarget × CartridgeExternalReadBehavior × CartridgeExternalWriteBehavior :=
  if selector = 0x00 then
    (.mbc7AccelerometerLatchReset, .fallbackValue ramAbsentReadValue, .mbc7AccelerometerLatch)
  else if selector = 0x01 then
    (.mbc7AccelerometerLatchCommit, .fallbackValue ramAbsentReadValue, .mbc7AccelerometerLatch)
  else if selector = 0x02 then (.mbc7AccelerometerAxis .x .low, .mbc7Accelerometer, .ignored)
  else if selector = 0x03 then (.mbc7AccelerometerAxis .x .high, .mbc7Accelerometer, .ignored)
  else if selector = 0x04 then (.mbc7AccelerometerAxis .y .low, .mbc7Accelerometer, .ignored)
  else if selector = 0x05 then (.mbc7AccelerometerAxis .y .high, .mbc7Accelerometer, .ignored)
  else if selector = 0x06 then (.mbc7FixedRegister 0x00, .fallbackValue 0x00, .ignored)
  else if selector = 0x08 then (.mbc7EepromSerial, .mbc7EepromSerial, .mbc7EepromSerial)
  else (.mbc7ReservedRegister selector, .fallbackValue ramAbsentReadValue, .ignored)

def describeExternalAccess (c : Mbc7Cartridge) (address : U16) : CartridgeExternalAccessInfo :=
  if !(0xA000 ≤ address && address ≤ 0xBFFF) then .noDevice address
  else if 0xAFFF < address then
    { address, target := .mbc7ReservedRegister 0x10, availability := .reserved
      readBehavior := .fallbackValue ramAbsentReadValue, writeBehavior := .ignored }
  else
    let selector := registerSelector address
    let (target, readBehavior, writeBehavior) := describeRegister selector
    if c.registersEnabled then
      { address, target
        availability := if selector ≤ 0x06 ∨ selector = 0x08 then .accessible else .reserved
        readBehavior, writeBehavior }
    else
      { address, target, availability := .disabled
        readBehavior := .fallbackValue ramAbsentReadValue, writeBehavior := .ignored }

def readRom (c : Mbc7Cartridge) (address : U16) : U8 :=
  readOr c.rom
    (bankedRomIndex 0 (c.effectiveRomBank (max (c.header.romSize.bankCount.getD 0) 1)) address)

def mappedRomWindow (c : Mbc7Cartridge) (address : U16) : Option CartridgeMappedRomWindow :=
  bankedRomWindow 0 (c.effectiveRomBank (max (c.header.romSize.bankCount.getD 0) 1)) address

def writeRom (c : Mbc7Cartridge) (address : U16) (value : U8) : Mbc7Cartridge :=
  if address ≤ 0x1FFF then { c with ramEnabled := value &&& 0x0F = 0x0A }
  else if address ≤ 0x3FFF then { c with romBank := value &&& 0x7F }
  else if address ≤ 0x5FFF then { c with sensorEepromEnabled := value = 0x40 }
  else c

/-- `read_register`, which `read_ram` and `read_ram_timed` both are. -/
def readRam (c : Mbc7Cartridge) (address : U16) : U8 :=
  if !inRegisters address || !c.registersEnabled then ramAbsentReadValue
  else
    let selector := registerSelector address
    if selector = 0x02 then c.latchedX.low
    else if selector = 0x03 then c.latchedX.high
    else if selector = 0x04 then c.latchedY.low
    else if selector = 0x05 then c.latchedY.high
    else if selector = 0x06 then 0x00
    else if selector = 0x08 then c.serialEeprom.readEepromPins
    else ramAbsentReadValue

/-- `write_register`, which `write_ram` and `write_ram_timed` both are. -/
def writeRam (c : Mbc7Cartridge) (address : U16) (value : U8) : Mbc7Cartridge :=
  if !inRegisters address || !c.registersEnabled then c
  else
    let selector := registerSelector address
    if selector = 0x00 ∧ value = 0x55 then
      { c with
        accelerometerLatchArmed := true
        latchedX := mbc7AccelerometerUnlatchedValue
        latchedY := mbc7AccelerometerUnlatchedValue }
    else if selector = 0x01 ∧ value = 0xAA ∧ c.accelerometerLatchArmed = true then
      { c with
        latchedX := c.accelerometerInput.xRaw
        latchedY := c.accelerometerInput.yRaw
        accelerometerLatchArmed := false }
    else if selector = 0x08 then { c with serialEeprom := c.serialEeprom.writeEepromPins value }
    else c

def setAccelerometerInput (c : Mbc7Cartridge) (input : Mbc7AccelerometerInput) : Mbc7Cartridge :=
  { c with accelerometerInput := input }

def persistenceMetadata (c : Mbc7Cartridge) : CartridgePersistenceMetadata :=
  { hasBattery := false, hasRtc := false
    profile := .persistentEeprom c.serialEeprom.eeprom.size }

def persistentState (c : Mbc7Cartridge) : PersistentCartState :=
  .mbc7Eeprom c.serialEeprom.eeprom.toList

def restorePersistentState (c : Mbc7Cartridge) (state : PersistentCartState) :
    Except CartridgePersistentStateError Unit × Mbc7Cartridge :=
  match state with
  | .mbc7Eeprom eeprom =>
      if h : eeprom.length = mbc7EepromBytes then
        (.ok (),
          { c with
            serialEeprom :=
              { eeprom := ⟨eeprom.toArray, h⟩, eepromPins := {}, eepromCommand := .idle
                eepromWriteEnabled := false } })
      else (.error (.eepromLengthMismatch mbc7EepromBytes eeprom.length), c)
  | other => (.error (.kindMismatch "Mbc7Eeprom" other.kindName), c)

/-! ## The loaded cartridge -/

def fresh (c : Mbc7Cartridge) : Mbc7Cartridge := powerOn c.rom c.header c.classification

/-- What a program cannot change decides the cartridge that was loaded. -/
theorem fresh_congr {c c' : Mbc7Cartridge} (hrom : c.rom = c'.rom) (hheader : c.header = c'.header)
    (hclassification : c.classification = c'.classification) : c.fresh = c'.fresh := by
  unfold fresh
  rw [hrom, hheader, hclassification]

@[simp] theorem fresh_writeRom (c : Mbc7Cartridge) (address : U16) (value : U8) :
    (c.writeRom address value).fresh = c.fresh := by
  unfold writeRom
  repeat' split
  all_goals exact fresh_congr rfl rfl rfl

@[simp] theorem fresh_writeRam (c : Mbc7Cartridge) (address : U16) (value : U8) :
    (c.writeRam address value).fresh = c.fresh := by
  unfold writeRam
  split
  · rfl
  · dsimp only
    split
    · exact fresh_congr rfl rfl rfl
    · split
      · exact fresh_congr rfl rfl rfl
      · split
        · exact fresh_congr rfl rfl rfl
        · rfl

/-! ## Agreements -/

theorem effectiveRomBank_lt (c : Mbc7Cartridge) (bankCount : Nat) :
    c.effectiveRomBank bankCount < max bankCount 1 := Nat.mod_lt _ (by omega)

theorem readRom_eq_byteOf {c : Mbc7Cartridge} {address : U16} {window : CartridgeMappedRomWindow}
    (h : c.mappedRomWindow address = some window) :
    window.source = .rom ∧ c.readRom address = window.byteOf c.rom := by
  obtain ⟨hsource, hbyte⟩ := byteOf_bankedRomWindow h c.rom
  exact ⟨hsource, hbyte.symm⟩

/-- A register that reads as a fixed value. -/
theorem describeRegister_fallback {selector value : U8}
    (h : (describeRegister selector).2.1 = .fallbackValue value) :
    (selector = 0x06 ∧ value = 0x00) ∨
      (value = ramAbsentReadValue ∧ selector ≠ 0x02 ∧ selector ≠ 0x03 ∧ selector ≠ 0x04 ∧
        selector ≠ 0x05 ∧ selector ≠ 0x06 ∧ selector ≠ 0x08) := by
  unfold describeRegister at h
  repeat' split at h
  all_goals first
    | cases h
      refine .inr ⟨rfl, ?_⟩
      bv_omega
    | cases h
      rename_i hfixed
      exact .inl ⟨hfixed, rfl⟩
    | cases h

/-- A register that ignores writes. -/
theorem describeRegister_ignored {selector : U8} (h : (describeRegister selector).2.2 = .ignored) :
    selector ≠ 0x00 ∧ selector ≠ 0x01 ∧ selector ≠ 0x08 := by
  unfold describeRegister at h
  repeat' split at h
  all_goals first
    | bv_omega
    | cases h

theorem describeRegister_noStorage (selector : U8) : (describeRegister selector).2.1 ≠ .storage := by
  intro h
  unfold describeRegister at h
  repeat' split at h
  all_goals cases h

/-- No register is storage: what is read from one is not what was written. -/
theorem describeExternalAccess_noStorage (c : Mbc7Cartridge) (address : U16) :
    (c.describeExternalAccess address).readBehavior ≠ .storage := by
  intro h
  unfold describeExternalAccess at h
  split at h
  · cases h
  · split at h
    · cases h
    · dsimp only at h
      split at h
      · exact describeRegister_noStorage _ h
      · cases h

theorem describeExternalAccess_keeps (c : Mbc7Cartridge) (address : ExternalAddress) :
    (c.describeExternalAccess address.address).Keeps c (·.readRam address.address)
      (c.writeRam address.address) := by
  obtain ⟨address, hlow, hhigh⟩ := address
  refine CartridgeExternalAccessInfo.keeps_of_noStorage (c.describeExternalAccess_noStorage _)
    ?_ ?_
  all_goals
    dsimp only
    unfold describeExternalAccess
    rw [if_neg (by simp only [hlow, hhigh, decide_true, Bool.and_true, Bool.not_true,
      Bool.false_eq_true, not_false_eq_true])]
  · intro value hvalue
    split at hvalue
    · rename_i hreserved
      have houtside : inRegisters address = false := by
        unfold inRegisters
        rw [decide_eq_false (BitVec.not_le.mpr hreserved), Bool.and_false]
      cases hvalue
      simp only [readRam, houtside, Bool.not_false, Bool.true_or, if_true]
    · rename_i hregisters
      have hinside : inRegisters address = true := by
        unfold inRegisters
        rw [decide_eq_true hlow, decide_eq_true (BitVec.not_lt.mp hregisters), Bool.true_and]
      unfold readRam
      rw [hinside]
      cases henabled : c.registersEnabled with
      | false =>
          rw [henabled] at hvalue
          cases hvalue
          rfl
      | true =>
          rw [henabled] at hvalue
          rcases describeRegister_fallback hvalue with ⟨hfixed, rfl⟩ | ⟨rfl, h2, h3, h4, h5, h6, h8⟩
          · dsimp only
            rw [hfixed]
            rfl
          · simp only [h2, h3, h4, h5, h6, h8, if_false, Bool.not_true, Bool.or_self,
              Bool.false_eq_true]
  · intro hignored value
    unfold writeRam
    split at hignored
    · rename_i hreserved
      have houtside : inRegisters address = false := by
        unfold inRegisters
        rw [decide_eq_false (BitVec.not_le.mpr hreserved), Bool.and_false]
      rw [houtside]
      rfl
    · cases henabled : c.registersEnabled with
      | false =>
          rw [Bool.not_false, Bool.or_true]
          rfl
      | true =>
          rw [henabled] at hignored
          obtain ⟨h0, h1, h8⟩ := describeRegister_ignored hignored
          split
          · rfl
          · simp only [h0, h1, h8, false_and, if_false]

@[simp] theorem fresh_restorePersistentState (c : Mbc7Cartridge) (state : PersistentCartState) :
    (c.restorePersistentState state).2.fresh = c.fresh := by
  unfold restorePersistentState
  split
  · split
    · exact fresh_congr rfl rfl rfl
    · rfl
  · rfl

theorem restorePersistentState_error {c : Mbc7Cartridge} {state : PersistentCartState}
    {error : CartridgePersistentStateError} (h : (c.restorePersistentState state).1 = .error error) :
    (c.restorePersistentState state).2 = c := by
  unfold restorePersistentState at h ⊢
  split at h
  · split at h
    · cases h
    · rename_i hlength
      rw [dif_neg hlength]
  · rfl

/-- Any MBC7 cartridge takes the state of another one. -/
theorem restorePersistentState_persistentState (c loaded : Mbc7Cartridge) :
    (loaded.restorePersistentState c.persistentState).1 = .ok () ∧
      (loaded.restorePersistentState c.persistentState).2.persistentState = c.persistentState := by
  unfold persistentState restorePersistentState
  simp only [Vector.length_toList, dif_pos]
  exact ⟨trivial, rfl⟩


end Mbc7Cartridge

end GbCycle
