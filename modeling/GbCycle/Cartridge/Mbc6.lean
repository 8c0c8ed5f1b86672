import GbCycle.Cartridge.Access
import GbCycle.Cartridge.Classify
import GbCycle.Cartridge.PersistentState

/-!
# MBC6

Two windows of 8 KiB that each show a bank of the ROM or of a flash chip, and two windows of
4 KiB into the RAM.  The flash chip is written with commands: two unlock cycles, a command, and
for what erases or reaches the hidden region two more unlock cycles and another command.  A
program command collects bytes of one block of 128, until its last byte is written twice.
-/

namespace GbCycle

def mbc6SupportedRamBytes : Nat := 32 * 1024
def mbc6RomFlashBankBytes : Nat := 8 * 1024
def mbc6RamBankBytes : Nat := 4 * 1024
def mbc6FlashBytes : Nat := 1024 * 1024
def mbc6HiddenBytes : Nat := 256
def mbc6FlashSectorBytes : Nat := 128 * 1024
def mbc6FlashProgramBlockBytes : Nat := 128
def mbc6FlashManufacturerId : U8 := 0xC2
def mbc6FlashDeviceId : U8 := 0x81
def mbc6FlashStatusDone : U8 := 0x80
def mbc6FlashStatusSector0Protected : U8 := 0x02
def mbc6FlashUnlockAaOffset : Nat := 0x5555
def mbc6FlashUnlock55Offset : Nat := 0x2AAA
def mbc6FlashBankCount : Nat := mbc6FlashBytes / mbc6RomFlashBankBytes
def mbc6RamBankCount : Nat := mbc6SupportedRamBytes / mbc6RamBankBytes
def mbc6FlashSectorCount : Nat := mbc6FlashBytes / mbc6FlashSectorBytes

/-! ## The flash chip -/

inductive Mbc6ProgramTarget where
  | mainFlash
  | hiddenRegion
  deriving Repr, DecidableEq

structure Mbc6ProgramState where
  target : Mbc6ProgramTarget
  blockBase : Option Nat
  buffer : Vector U8 mbc6FlashProgramBlockBytes
  written : Vector Bool mbc6FlashProgramBlockBytes
  finalByteSeen : Bool
  deriving Repr, DecidableEq

/-- `Mbc6ProgramState::new`. -/
def Mbc6ProgramState.empty (target : Mbc6ProgramTarget) : Mbc6ProgramState :=
  { target, blockBase := none, buffer := Vector.replicate mbc6FlashProgramBlockBytes 0xFF
    written := Vector.replicate mbc6FlashProgramBlockBytes false, finalByteSeen := false }

inductive Mbc6FlashStatusSource where
  | program
  | erase
  | protect
  | ignoredWriteProtected
  deriving Repr, DecidableEq

inductive Mbc6FlashMode where
  | readArray
  | awaitUnlock2
  | awaitCommand
  | eraseAwaitUnlock1
  | eraseAwaitUnlock2
  | eraseAwaitCommand
  | extendedAwaitUnlock1
  | extendedAwaitUnlock2
  | extendedAwaitCommand
  | hiddenReadAwaitUnlock1
  | hiddenReadAwaitUnlock2
  | hiddenReadAwaitCommand
  | idMode
  | hiddenReadMode
  | program (state : Mbc6ProgramState)
  | hiddenProgram (state : Mbc6ProgramState)
  | status (source : Mbc6FlashStatusSource) (status : U8)
  deriving Repr, DecidableEq

/-- The fields of the cartridge that are the flash chip's. -/
structure Mbc6Flash where
  flash : Vector U8 mbc6FlashBytes
  hiddenRegion : Vector U8 mbc6HiddenBytes
  flashWriteEnabled : Bool
  sector0Protected : Bool
  flashMode : Mbc6FlashMode
  deriving Repr, DecidableEq

def isUnlockAa (offset : Nat) (value : U8) : Bool :=
  offset = mbc6FlashUnlockAaOffset ∧ value = 0xAA

def isUnlock55 (offset : Nat) (value : U8) : Bool :=
  offset = mbc6FlashUnlock55Offset ∧ value = 0x55

def restartOrIdle (offset : Nat) (value : U8) : Mbc6FlashMode :=
  if isUnlockAa offset value then .awaitUnlock2 else .readArray

def executePrimaryCommand (offset : Nat) (value : U8) : Mbc6FlashMode :=
  if value = 0x80 then .eraseAwaitUnlock1
  else if value = 0x90 then .idMode
  else if value = 0xA0 then .program (.empty .mainFlash)
  else if value = 0x60 then .extendedAwaitUnlock1
  else if value = 0x77 then .hiddenReadAwaitUnlock1
  else restartOrIdle offset value

/-- The base of the block of 128 that an offset is in. -/
def programBlockBase (target : Mbc6ProgramTarget) (offset : Nat) : Nat :=
  match target with
  | .mainFlash =>
      offset % mbc6FlashBytes / mbc6FlashProgramBlockBytes * mbc6FlashProgramBlockBytes
  | .hiddenRegion =>
      offset % mbc6HiddenBytes / mbc6FlashProgramBlockBytes * mbc6FlashProgramBlockBytes

def programByteOffset (offset : Nat) : Nat := offset % mbc6FlashProgramBlockBytes

/-- `bytes[start..start + count].fill(0xFF)`. -/
def fillErased {n : Nat} (bytes : Vector U8 n) (start count : Nat) : Vector U8 n :=
  Vector.ofFn fun i => if start ≤ i.val ∧ i.val < start + count then 0xFF else bytes[i]

/-- The loop over a block that clears bits where a byte was written. -/
def commitBlock {n : Nat} (state : Mbc6ProgramState) (blockBase : Nat) (bytes : Vector U8 n) :
    Vector U8 n :=
  (List.range mbc6FlashProgramBlockBytes).foldl
    (fun bytes index =>
      if state.written[index]?.getD false then
        bytes.setIfInBounds (blockBase + index)
          (bytes[blockBase + index]?.getD 0xFF &&& state.buffer[index]?.getD 0xFF)
      else bytes)
    bytes

namespace Mbc6Flash

def statusMode (f : Mbc6Flash) (source : Mbc6FlashStatusSource) : Mbc6FlashMode :=
  .status source
    (mbc6FlashStatusDone ||| (if f.sector0Protected then mbc6FlashStatusSector0Protected else 0))

/-- The first sector is left alone. -/
def sector0Guarded (f : Mbc6Flash) : Bool := !f.flashWriteEnabled || f.sector0Protected

def eraseSectorIndex (f : Mbc6Flash) (sector : Nat) : Mbc6Flash :=
  { f with flash := fillErased f.flash (sector * mbc6FlashSectorBytes) mbc6FlashSectorBytes }

def eraseChip (f : Mbc6Flash) : Mbc6Flash :=
  (List.range mbc6FlashSectorCount).foldl
    (fun f sector =>
      if sector = 0 ∧ f.sector0Guarded = true then f else f.eraseSectorIndex sector)
    f

def eraseSector (f : Mbc6Flash) (offset : Nat) : Mbc6Flash :=
  let sector := offset / mbc6FlashSectorBytes % mbc6FlashSectorCount
  if sector = 0 ∧ f.sector0Guarded = true then f else f.eraseSectorIndex sector

/-- A command that is taken leaves a status behind. -/
def finish (f : Mbc6Flash) (source : Mbc6FlashStatusSource) : Mbc6Flash :=
  { f with flashMode := f.statusMode source }

def executeEraseCommand (f : Mbc6Flash) (offset : Nat) (value : U8) : Mbc6Flash :=
  if value = 0x10 ∧ offset = mbc6FlashUnlockAaOffset then f.eraseChip.finish .erase
  else if value = 0x30 then (f.eraseSector offset).finish .erase
  else { f with flashMode := restartOrIdle offset value }

def executeExtendedCommand (f : Mbc6Flash) (value : U8) : Mbc6Flash :=
  if value = 0x04 then
    if f.flashWriteEnabled then
      { f with hiddenRegion := Vector.replicate mbc6HiddenBytes 0xFF }.finish .erase
    else f.finish .ignoredWriteProtected
  else if value = 0xE0 then
    if f.flashWriteEnabled then { f with flashMode := .hiddenProgram (.empty .hiddenRegion) }
    else f.finish .ignoredWriteProtected
  else if value = 0x40 then
    if f.flashWriteEnabled then { f with sector0Protected := false }.finish .protect
    else f.finish .ignoredWriteProtected
  else if value = 0x20 then
    if f.flashWriteEnabled then { f with sector0Protected := true }.finish .protect
    else f.finish .ignoredWriteProtected
  else { f with flashMode := .readArray }

/-- The bytes of a block, all of which are there. -/
def seedProgramBuffer (f : Mbc6Flash) (target : Mbc6ProgramTarget) (blockBase : Nat) :
    Vector U8 mbc6FlashProgramBlockBytes :=
  match target with
  | .mainFlash => Vector.ofFn fun i => f.flash[blockBase + i.val]?.getD 0xFF
  | .hiddenRegion => Vector.ofFn fun i => f.hiddenRegion[blockBase + i.val]?.getD 0xFF

def commitProgramBuffer (f : Mbc6Flash) (state : Mbc6ProgramState) (blockBase : Nat) :
    Mbc6Flash :=
  match state.target with
  | .mainFlash =>
      if blockBase < mbc6FlashSectorBytes ∧ f.sector0Guarded = true then f
      else { f with flash := commitBlock state blockBase f.flash }
  | .hiddenRegion =>
      if !f.flashWriteEnabled then f
      else { f with hiddenRegion := commitBlock state blockBase f.hiddenRegion }

/-- A write that goes to another block than the last one starts over. -/
def selectBlock (f : Mbc6Flash) (state : Mbc6ProgramState) (blockBase : Nat) : Mbc6ProgramState :=
  if state.blockBase ≠ some blockBase then
    { state with
      blockBase := some blockBase
      finalByteSeen := false
      written := Vector.replicate mbc6FlashProgramBlockBytes false
      buffer := f.seedProgramBuffer state.target blockBase }
  else state

/-- `program_write`: the state that goes on, or the chip with the block committed. -/
def programWrite (f : Mbc6Flash) (state : Mbc6ProgramState) (offset : Nat) (value : U8) :
    Mbc6ProgramState ⊕ Mbc6Flash :=
  let blockBase := programBlockBase state.target offset
  let state := f.selectBlock state blockBase
  let byteOffset := programByteOffset offset
  let state :=
    { state with
      buffer := state.buffer.setIfInBounds byteOffset value
      written := state.written.setIfInBounds byteOffset true }
  if byteOffset ≠ mbc6FlashProgramBlockBytes - 1 then .inl state
  else if state.finalByteSeen then .inr (f.commitProgramBuffer state blockBase)
  else .inl { state with finalByteSeen := true }

def writeFlash (f : Mbc6Flash) (offset : Nat) (value : U8) : Mbc6Flash :=
  if value = 0xF0 then { f with flashMode := .readArray }
  else
    match f.flashMode with
    | .readArray | .idMode | .hiddenReadMode | .status .. =>
        { f with flashMode := restartOrIdle offset value }
    | .awaitUnlock2 =>
        { f with
          flashMode :=
            if isUnlock55 offset value then .awaitCommand else restartOrIdle offset value }
    | .awaitCommand => { f with flashMode := executePrimaryCommand offset value }
    | .eraseAwaitUnlock1 =>
        { f with
          flashMode :=
            if isUnlockAa offset value then .eraseAwaitUnlock2 else restartOrIdle offset value }
    | .eraseAwaitUnlock2 =>
        { f with
          flashMode :=
            if isUnlock55 offset value then .eraseAwaitCommand else restartOrIdle offset value }
    | .eraseAwaitCommand => f.executeEraseCommand offset value
    | .extendedAwaitUnlock1 =>
        { f with
          flashMode :=
            if isUnlockAa offset value then .extendedAwaitUnlock2 else restartOrIdle offset value }
    | .extendedAwaitUnlock2 =>
        { f with
          flashMode :=
            if isUnlock55 offset value then .extendedAwaitCommand else restartOrIdle offset value }
    | .extendedAwaitCommand => f.executeExtendedCommand value
    | .hiddenReadAwaitUnlock1 =>
        { f with
          flashMode :=
            if isUnlockAa offset value then .hiddenReadAwaitUnlock2
            else restartOrIdle offset value }
    | .hiddenReadAwaitUnlock2 =>
        { f with
          flashMode :=
            if isUnlock55 offset value then .hiddenReadAwaitCommand
            else restartOrIdle offset value }
    | .hiddenReadAwaitCommand =>
        { f with
          flashMode := if value = 0x77 then .hiddenReadMode else restartOrIdle offset value }
    | .program state =>
        match f.programWrite state offset value with
        | .inl state => { f with flashMode := .program state }
        | .inr f => f.finish .program
    | .hiddenProgram state =>
        match f.programWrite state offset value with
        | .inl state => { f with flashMode := .hiddenProgram state }
        | .inr f => f.finish .program

def readFlash (f : Mbc6Flash) (offset : Nat) : U8 :=
  match f.flashMode with
  | .idMode =>
      if offset % 16 = 0 then mbc6FlashManufacturerId
      else if offset % 16 = 1 then mbc6FlashDeviceId
      else ramAbsentReadValue
  | .hiddenReadMode => f.hiddenRegion[offset % mbc6HiddenBytes]?.getD ramAbsentReadValue
  | .status _ status => status
  | _ => f.flash[offset % mbc6FlashBytes]?.getD ramAbsentReadValue

end Mbc6Flash

/-! ## The cartridge -/

inductive Mbc6WindowSelect where
  | rom
  | flash
  deriving Repr, DecidableEq

structure Mbc6Cartridge where
  rom : List U8
  ram : Vector U8 mbc6SupportedRamBytes
  header : CartridgeHeader
  classification : CartridgeClassification
  hasBattery : Bool
  ramEnabled : Bool
  flashEnabled : Bool
  ramBankA : U8
  ramBankB : U8
  romFlashBankA : U8
  romFlashBankB : U8
  windowSelectA : Mbc6WindowSelect
  windowSelectB : Mbc6WindowSelect
  chip : Mbc6Flash
  deriving Repr, DecidableEq

namespace Mbc6Cartridge

def powerOn (rom : List U8) (header : CartridgeHeader)
    (classification : CartridgeClassification) : Mbc6Cartridge :=
  { rom, ram := Vector.replicate mbc6SupportedRamBytes 0, header, classification
    hasBattery := true, ramEnabled := false, flashEnabled := false
    ramBankA := 0, ramBankB := 1, romFlashBankA := 2, romFlashBankB := 3
    windowSelectA := .rom, windowSelectB := .rom
    chip :=
      { flash := Vector.replicate mbc6FlashBytes 0xFF
        hiddenRegion := Vector.replicate mbc6HiddenBytes 0xFF
        flashWriteEnabled := false, sector0Protected := false, flashMode := .readArray } }

def windowSelect (c : Mbc6Cartridge) : Mbc6Window → Mbc6WindowSelect
  | .a => c.windowSelectA
  | .b => c.windowSelectB

def romFlashBankCount (c : Mbc6Cartridge) : Nat := max (c.rom.length / mbc6RomFlashBankBytes) 1

def effectiveRomFlashBank (c : Mbc6Cartridge) (window : Mbc6Window) (bankCount : Nat) : Nat :=
  if bankCount = 0 then 0
  else
    match window with
    | .a => c.romFlashBankA.toNat % bankCount
    | .b => c.romFlashBankB.toNat % bankCount

def flashOffset (c : Mbc6Cartridge) (window : Mbc6Window) (windowOffset : Nat) : Nat :=
  c.effectiveRomFlashBank window mbc6FlashBankCount * mbc6RomFlashBankBytes + windowOffset

def effectiveRamBank (c : Mbc6Cartridge) : Mbc6Window → U8
  | .a => c.ramBankA % BitVec.ofNat 8 mbc6RamBankCount
  | .b => c.ramBankB % BitVec.ofNat 8 mbc6RamBankCount

def effectiveRamOffset (c : Mbc6Cartridge) (address : U16) : Nat :=
  if address < 0xB000 then
    (c.effectiveRamBank .a).toNat * mbc6RamBankBytes + (address.toNat - 0xA000)
  else (c.effectiveRamBank .b).toNat * mbc6RamBankBytes + (address.toNat - 0xB000)

def describeExternalAccess (c : Mbc6Cartridge) (address : U16) : CartridgeExternalAccessInfo :=
  let window : Mbc6Window := if address < 0xB000 then .a else .b
  { address, target := .mbc6Ram window (c.effectiveRamBank window)
    availability := if c.ramEnabled then .accessible else .disabled
    readBehavior := if c.ramEnabled then .storage else .fallbackValue ramAbsentReadValue
    writeBehavior := if c.ramEnabled then .storage else .ignored }

def readHighWindow (c : Mbc6Cartridge) (window : Mbc6Window) (windowOffset : Nat) : U8 :=
  match c.windowSelect window with
  | .rom =>
      readOr c.rom
        (c.effectiveRomFlashBank window c.romFlashBankCount * mbc6RomFlashBankBytes +
          windowOffset)
  | .flash =>
      if c.flashEnabled then c.chip.readFlash (c.flashOffset window windowOffset)
      else ramAbsentReadValue

def readRom (c : Mbc6Cartridge) (address : U16) : U8 :=
  if address ≤ 0x3FFF then readOr c.rom address.toNat
  else if address ≤ 0x5FFF then c.readHighWindow .a (address.toNat - 0x4000)
  else if address ≤ 0x7FFF then c.readHighWindow .b (address.toNat - 0x6000)
  else ramAbsentReadValue

def mappedHighWindow (c : Mbc6Cartridge) (window : Mbc6Window) (windowOffset : Nat) :
    CartridgeMappedRomWindow :=
  match c.windowSelect window with
  | .rom =>
      .rom (c.effectiveRomFlashBank window c.romFlashBankCount) mbc6RomFlashBankBytes windowOffset
  | .flash =>
      .flash (c.effectiveRomFlashBank window mbc6FlashBankCount) mbc6RomFlashBankBytes
        windowOffset

def mappedRomWindow (c : Mbc6Cartridge) (address : U16) : Option CartridgeMappedRomWindow :=
  if address ≤ 0x3FFF then some (.rom 0 0x4000 address.toNat)
  else if address ≤ 0x5FFF then some (c.mappedHighWindow .a (address.toNat - 0x4000))
  else if address ≤ 0x7FFF then some (c.mappedHighWindow .b (address.toNat - 0x6000))
  else none

def writeFlashWindow (c : Mbc6Cartridge) (window : Mbc6Window) (windowOffset : Nat) (value : U8) :
    Mbc6Cartridge :=
  if !c.flashEnabled || c.windowSelect window ≠ .flash then c
  else { c with chip := c.chip.writeFlash (c.flashOffset window windowOffset) value }

def writeRom (c : Mbc6Cartridge) (address : U16) (value : U8) : Mbc6Cartridge :=
  if address ≤ 0x03FF then { c with ramEnabled := value &&& 0x0F = 0x0A }
  else if address ≤ 0x07FF then { c with ramBankA := value &&& 0x07 }
  else if address ≤ 0x0BFF then { c with ramBankB := value &&& 0x07 }
  else if address ≤ 0x0FFF then
    if value &&& 0x01 ≠ 0 then { c with flashEnabled := true }
    else { c with flashEnabled := false, chip := { c.chip with flashMode := .readArray } }
  else if address = 0x1000 then
    { c with chip := { c.chip with flashWriteEnabled := value &&& 0x01 ≠ 0 } }
  else if address ≤ 0x1FFF then c
  else if address ≤ 0x27FF then { c with romFlashBankA := value &&& 0x7F }
  else if address ≤ 0x2FFF then
    { c with windowSelectA := if value &&& 0x08 ≠ 0 then .flash else .rom }
  else if address ≤ 0x37FF then { c with romFlashBankB := value &&& 0x7F }
  else if address ≤ 0x3FFF then
    { c with windowSelectB := if value &&& 0x08 ≠ 0 then .flash else .rom }
  else if address ≤ 0x5FFF then c.writeFlashWindow .a (address.toNat - 0x4000) value
  else if address ≤ 0x7FFF then c.writeFlashWindow .b (address.toNat - 0x6000) value
  else c

def readRam (c : Mbc6Cartridge) (address : U16) : U8 :=
  if !c.ramEnabled then ramAbsentReadValue
  else c.ram[c.effectiveRamOffset address]?.getD ramAbsentReadValue

def writeRam (c : Mbc6Cartridge) (address : U16) (value : U8) : Mbc6Cartridge :=
  if !c.ramEnabled then c
  else { c with ram := c.ram.setIfInBounds (c.effectiveRamOffset address) value }

def persistenceMetadata (c : Mbc6Cartridge) : CartridgePersistenceMetadata :=
  { hasBattery := c.hasBattery, hasRtc := false
    profile :=
      .persistentRamAndFlash (.linear c.ram.size) c.chip.flash.size c.chip.hiddenRegion.size }

def persistentState (c : Mbc6Cartridge) : PersistentCartState :=
  if c.hasBattery then
    .mbc6 c.ram.toList c.chip.flash.toList c.chip.hiddenRegion.toList c.chip.sector0Protected
  else .none

def restorePersistentState (c : Mbc6Cartridge) (state : PersistentCartState) :
    Except CartridgePersistentStateError Unit × Mbc6Cartridge :=
  match c.hasBattery, state with
  | true, .mbc6 ram flash hiddenRegion sector0Protected =>
      if hram : ram.length = mbc6SupportedRamBytes then
        if hflash : flash.length = mbc6FlashBytes then
          if hhidden : hiddenRegion.length = mbc6HiddenBytes then
            (.ok (),
              { c with
                ram := ⟨ram.toArray, hram⟩
                chip :=
                  { c.chip with
                    flash := ⟨flash.toArray, hflash⟩
                    hiddenRegion := ⟨hiddenRegion.toArray, hhidden⟩
                    sector0Protected := sector0Protected } })
          else (.error (.ramLengthMismatch mbc6HiddenBytes hiddenRegion.length), c)
        else (.error (.ramLengthMismatch mbc6FlashBytes flash.length), c)
      else (.error (.ramLengthMismatch mbc6SupportedRamBytes ram.length), c)
  | true, other => (.error (.kindMismatch "Mbc6" other.kindName), c)
  | false, .none => (.ok (), c)
  | false, other => (.error (.kindMismatch "None" other.kindName), c)

/-! ## The loaded cartridge -/

def fresh (c : Mbc6Cartridge) : Mbc6Cartridge :=
  { powerOn c.rom c.header c.classification with hasBattery := c.hasBattery }

/-- What a program cannot change decides the cartridge that was loaded. -/
theorem fresh_congr {c c' : Mbc6Cartridge} (hrom : c.rom = c'.rom) (hheader : c.header = c'.header)
    (hclassification : c.classification = c'.classification)
    (hbattery : c.hasBattery = c'.hasBattery) : c.fresh = c'.fresh := by
  unfold fresh
  rw [hrom, hheader, hclassification, hbattery]

theorem fresh_inj {c c' : Mbc6Cartridge} (h : c.fresh = c'.fresh) :
    c.rom = c'.rom ∧ c.hasBattery = c'.hasBattery := by
  simp only [fresh, powerOn, mk.injEq] at h
  exact ⟨h.1, h.2.2.2.2.1⟩

theorem fresh_ite {p : Prop} [Decidable p] {a b c : Mbc6Cartridge} (ha : a.fresh = c.fresh)
    (hb : b.fresh = c.fresh) : (if p then a else b).fresh = c.fresh := by
  split
  · exact ha
  · exact hb

@[simp] theorem fresh_writeRom (c : Mbc6Cartridge) (address : U16) (value : U8) :
    (c.writeRom address value).fresh = c.fresh := by
  unfold writeRom
  repeat' apply fresh_ite
  all_goals exact fresh_congr rfl rfl rfl rfl

@[simp] theorem fresh_writeRam (c : Mbc6Cartridge) (address : U16) (value : U8) :
    (c.writeRam address value).fresh = c.fresh := by
  unfold writeRam
  split <;> exact fresh_congr rfl rfl rfl rfl

/-! ## Agreements -/

/-- The modes in which the chip answers with its array. -/
def ReadsArray (mode : Mbc6FlashMode) : Prop :=
  mode ≠ .idMode ∧ mode ≠ .hiddenReadMode ∧ ∀ source status, mode ≠ .status source status

theorem readFlash_array {f : Mbc6Flash} (h : ReadsArray f.flashMode) (offset : Nat) :
    f.readFlash offset = readOr f.flash.toList (offset % mbc6FlashBytes) := by
  obtain ⟨hid, hhidden, hstatus⟩ := h
  unfold Mbc6Flash.readFlash readOr
  rw [Vector.getElem?_toList]
  split
  · rename_i hmode
    exact absurd hmode hid
  · rename_i hmode
    exact absurd hmode hhidden
  · rename_i source status hmode
    exact absurd hmode (hstatus source status)
  · rfl

theorem flashOffset_lt (c : Mbc6Cartridge) (window : Mbc6Window) {windowOffset : Nat}
    (h : windowOffset < mbc6RomFlashBankBytes) :
    c.flashOffset window windowOffset < mbc6FlashBytes := by
  have hbank : c.effectiveRomFlashBank window mbc6FlashBankCount < 128 := by
    unfold effectiveRomFlashBank
    rw [if_neg (by decide)]
    split
    · exact Nat.mod_lt _ (by decide)
    · exact Nat.mod_lt _ (by decide)
  unfold flashOffset mbc6FlashBytes
  unfold mbc6RomFlashBankBytes at h ⊢
  omega

/-- What a window reports is what a read gives, while the chip that it may show is enabled and
answers with its array. -/
theorem readHighWindow_eq_byteOf (c : Mbc6Cartridge) (window : Mbc6Window) {windowOffset : Nat}
    (h : windowOffset < mbc6RomFlashBankBytes) :
    ((c.mappedHighWindow window windowOffset).source = .rom ∧
      c.readHighWindow window windowOffset =
        (c.mappedHighWindow window windowOffset).byteOf c.rom) ∨
    ((c.mappedHighWindow window windowOffset).source = .flash ∧
      (c.flashEnabled = false → c.readHighWindow window windowOffset = ramAbsentReadValue) ∧
      (c.flashEnabled = true → ReadsArray c.chip.flashMode →
        c.readHighWindow window windowOffset =
          (c.mappedHighWindow window windowOffset).byteOf c.chip.flash.toList)) := by
  unfold readHighWindow mappedHighWindow
  cases c.windowSelect window with
  | rom => exact .inl ⟨rfl, rfl⟩
  | flash =>
      refine .inr ⟨rfl, fun hdisabled => ?_, fun henabled harray => ?_⟩
      · dsimp only
        rw [hdisabled]
        rfl
      · dsimp only
        rw [henabled, if_pos rfl, readFlash_array harray,
          Nat.mod_eq_of_lt (c.flashOffset_lt window h)]
        rfl

theorem readRom_eq_byteOf {c : Mbc6Cartridge} {address : U16} {window : CartridgeMappedRomWindow}
    (h : c.mappedRomWindow address = some window) :
    (window.source = .rom ∧ c.readRom address = window.byteOf c.rom) ∨
    (window.source = .flash ∧ (c.flashEnabled = false → c.readRom address = ramAbsentReadValue) ∧
      (c.flashEnabled = true → ReadsArray c.chip.flashMode →
        c.readRom address = window.byteOf c.chip.flash.toList)) := by
  unfold mappedRomWindow at h
  unfold readRom
  split at h
  · rename_i hlow
    rw [if_pos hlow]
    cases h
    refine .inl ⟨rfl, ?_⟩
    show readOr c.rom address.toNat = readOr c.rom (0 * 0x4000 + address.toNat)
    rw [Nat.zero_mul, Nat.zero_add]
  · rename_i hlow
    rw [if_neg hlow]
    split at h
    · rename_i hmid
      rw [if_pos hmid]
      cases h
      refine c.readHighWindow_eq_byteOf .a ?_
      unfold mbc6RomFlashBankBytes
      bv_omega
    · rename_i hmid
      rw [if_neg hmid]
      split at h
      · rename_i hhigh
        rw [if_pos hhigh]
        cases h
        refine c.readHighWindow_eq_byteOf .b ?_
        unfold mbc6RomFlashBankBytes
        bv_omega
      · cases h

theorem effectiveRamBank_lt (c : Mbc6Cartridge) (window : Mbc6Window) :
    (c.effectiveRamBank window).toNat < mbc6RamBankCount := by
  unfold effectiveRamBank
  cases window with
  | a => exact Nat.mod_lt _ (by decide)
  | b => exact Nat.mod_lt _ (by decide)

theorem effectiveRamOffset_lt (c : Mbc6Cartridge) (address : ExternalAddress) :
    c.effectiveRamOffset address.address < mbc6SupportedRamBytes := by
  obtain ⟨hlow, hhigh⟩ := address.inWindow
  have hbank := c.effectiveRamBank_lt
  have ha : (c.effectiveRamBank .a).toNat < 8 := hbank .a
  have hb : (c.effectiveRamBank .b).toNat < 8 := hbank .b
  unfold effectiveRamOffset mbc6RamBankBytes mbc6SupportedRamBytes
  split
  · bv_omega
  · bv_omega

theorem describeExternalAccess_keeps (c : Mbc6Cartridge) (address : ExternalAddress) :
    (c.describeExternalAccess address.address).Keeps c (·.readRam address.address)
      (c.writeRam address.address) := by
  cases henabled : c.ramEnabled with
  | false =>
      refine CartridgeExternalAccessInfo.keeps_of_noStorage ?_ ?_ ?_
      · simp [describeExternalAccess, henabled]
      · intro value hvalue
        simp only [describeExternalAccess, henabled, Bool.false_eq_true, if_false,
          CartridgeExternalReadBehavior.fallbackValue.injEq] at hvalue
        simpa only [readRam, henabled, Bool.not_false, if_true] using hvalue
      · intro _ value
        simp only [writeRam, henabled, Bool.not_false, if_true]
  | true =>
      constructor
      · intro value hvalue
        simp [describeExternalAccess, henabled] at hvalue
      · intro hignored
        simp [describeExternalAccess, henabled] at hignored
      · intro _ _ value
        have hwrite : c.writeRam address.address value =
            { c with
              ram := c.ram.setIfInBounds (c.effectiveRamOffset address.address) value } := by
          rw [writeRam, henabled]
          rfl
        have hoffset : (c.writeRam address.address value).effectiveRamOffset address.address =
            c.effectiveRamOffset address.address := by
          rw [hwrite]
          rfl
        have hread : (c.writeRam address.address value).readRam address.address =
            (c.writeRam address.address value).ram[c.effectiveRamOffset address.address]?.getD
              ramAbsentReadValue := by
          rw [readRam, hoffset, show (c.writeRam address.address value).ramEnabled = true by
            rw [hwrite]; exact henabled]
          rfl
        rw [hread, hwrite]
        dsimp only
        rw [Vector.getElem?_setIfInBounds_self_of_lt (c.effectiveRamOffset_lt address)]
        rfl

/-- What a restore does: nothing, or the memories of the state come back. -/
theorem restorePersistentState_cases (c : Mbc6Cartridge) (state : PersistentCartState) :
    (c.restorePersistentState state).2 = c ∨
      ((c.restorePersistentState state).1 = .ok () ∧
        ∃ ram chip, (c.restorePersistentState state).2 = { c with ram, chip }) := by
  unfold restorePersistentState
  split
  · split
    · split
      · split
        · exact .inr ⟨rfl, _, _, rfl⟩
        · exact .inl rfl
      · exact .inl rfl
    · exact .inl rfl
  · exact .inl rfl
  · exact .inl rfl
  · exact .inl rfl

@[simp] theorem fresh_restorePersistentState (c : Mbc6Cartridge) (state : PersistentCartState) :
    (c.restorePersistentState state).2.fresh = c.fresh := by
  rcases restorePersistentState_cases c state with hsame | ⟨-, ram, chip, hstate⟩
  · rw [hsame]
  · rw [hstate]
    exact fresh_congr rfl rfl rfl rfl

theorem restorePersistentState_error {c : Mbc6Cartridge} {state : PersistentCartState}
    {error : CartridgePersistentStateError} (h : (c.restorePersistentState state).1 = .error error) :
    (c.restorePersistentState state).2 = c := by
  rcases restorePersistentState_cases c state with hsame | ⟨hok, -⟩
  · exact hsame
  · rw [hok] at h
    cases h

theorem restorePersistentState_persistentState {c loaded : Mbc6Cartridge}
    (hfresh : c.fresh = loaded.fresh) :
    (loaded.restorePersistentState c.persistentState).1 = .ok () ∧
      (loaded.restorePersistentState c.persistentState).2.persistentState = c.persistentState := by
  obtain ⟨-, hbattery⟩ := fresh_inj hfresh
  unfold persistentState
  rw [hbattery]
  cases hb : loaded.hasBattery with
  | false =>
      simp only [Bool.false_eq_true, if_false, restorePersistentState, hb, and_self]
  | true =>
      simp only [if_true, restorePersistentState, hb, Vector.length_toList, dif_pos]
      exact ⟨trivial, rfl⟩


end Mbc6Cartridge

end GbCycle
