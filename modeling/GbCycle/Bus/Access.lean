import GbCycle.Bus.Io
import GbCycle.Cartridge.Device

/-!
# Accesses through the bus

An access is resolved and then performed.  The runtime reads and writes with the T-cycle at hand,
which the clocks of some cartridges want to know; the other path is for harnesses and for the
second half of a DMA copy.  For the regions a CPU uses most there is a shortcut that skips the
resolution.  A result in `some` says that no array index was out of range and no arm that the
source declares unreachable was reached.
-/

namespace GbCycle

/-- What the bus uses of a cartridge slot. -/
class CartridgePort (κ : Type) where
  readRom : κ → U16 → U8
  readRam : κ → U16 → U8
  readRamTimed : κ → U16 → Nat → U8 × κ
  writeRom : κ → U16 → U8 → κ
  writeRam : κ → U16 → U8 → κ
  writeRamTimed : κ → U16 → U8 → Nat → κ
  describeExternalAccess : κ → U16 → CartridgeExternalAccessInfo

instance : CartridgePort CartridgeSlot where
  readRom := CartridgeSlot.readRom
  readRam := CartridgeSlot.readRam
  readRamTimed := CartridgeSlot.readRamTimed
  writeRom := CartridgeSlot.writeRom
  writeRam := CartridgeSlot.writeRam
  writeRamTimed := CartridgeSlot.writeRamTimed
  describeExternalAccess := CartridgeSlot.describeExternalAccess

structure Bus where
  consoleModel : ConsoleModel
  revision : HardwareRevision
  operatingMode : OperatingMode
  vram : VramDomain
  wram : WramDomain
  oam : OamDomain
  iohram : IoHramDomain

/-- The registers that the bus answers itself. -/
inductive CgbBusOwnedIo where
  | key0
  | vbk
  | svbk
  | misc
  deriving Repr, DecidableEq

def IoRegisterKind.cgbBusOwned : IoRegisterKind → Option CgbBusOwnedIo
  | .key0 => some .key0
  | .vbk => some .vbk
  | .svbk => some .svbk
  | .cgbUndocumented72 | .cgbUndocumented73 | .cgbUndocumented74 | .cgbUndocumented75 => some .misc
  | _ => none

namespace Bus

def newWithRevisionAndOperatingMode (consoleModel : ConsoleModel) (revision : HardwareRevision)
    (operatingMode : OperatingMode) : Bus :=
  { consoleModel, revision, operatingMode
    vram := .newForModel consoleModel
    wram := .newForModel consoleModel
    oam := .new
    iohram := .new }

def ioRegisterIsLive (b : Bus) (info : IoRegisterInfo) : Bool :=
  ioRegisterKindIsAvailable info.kind info.availability b.consoleModel b.operatingMode &&
    info.implementation == .implemented

/-! ## Resolution -/

section Resolution

variable {κ : Type} [CartridgePort κ]

def describeCartridgeExternalAccess (target : BusAddressInfo) (cartridge : Option κ) :
    Option CartridgeExternalAccessInfo :=
  if target.region ≠ .cartridgeExternal then none
  else
    some (cartridge.elim (.noDevice target.address) fun cartridge =>
      CartridgePort.describeExternalAccess cartridge target.address)

def unusableAreaAt (b : Bus) (target : BusAddressInfo) : Option UnusableAreaInfo :=
  describeUnusableArea b.consoleModel b.revision target.address

def resolveRequesterAccess (b : Bus) (requester : BusRequester) (kind : BusAccessKind)
    (address : U16) (state : BusArbitrationState) (cartridge : Option κ) : BusAccessResolution :=
  let nominalTarget := resolveNominalTarget kind address state
  let nominalDisposition :=
    evaluateAccessPolicy (b.unusableAreaAt nominalTarget) requester kind nominalTarget state
  let nominalCartridgeExternal := describeCartridgeExternalAccess nominalTarget cartridge
  match cpuDmaConflictSourceAddress requester address nominalTarget state with
  | some conflictSourceAddress =>
      let target := resolveNominalTarget kind conflictSourceAddress state
      { requester, kind, requestedAddress := address, nominalTarget, target
        nominalCartridgeExternal
        cartridgeExternal := describeCartridgeExternalAccess target cartridge
        nominalDisposition
        disposition := .allowed }
  | none =>
      { requester, kind, requestedAddress := address, nominalTarget, target := nominalTarget
        nominalCartridgeExternal
        cartridgeExternal := nominalCartridgeExternal
        nominalDisposition
        disposition := nominalDisposition }

end Resolution

/-! ## Targets -/

section Targets

variable {κ : Type} [CartridgePort κ] {π : Type} [PpuRegisters π]

def readCgbBusOwnedIo (b : Bus) (address : U16) : Option U8 := do
  let info ← describeIoRegister address
  let owned ← info.kind.cgbBusOwned
  if !b.ioRegisterIsLive info then some blockedReadValue
  else
    some <| match owned with
    | .key0 => b.iohram.key0.readRuntime
    | .vbk => b.vram.readVbk
    | .svbk => b.wram.readSvbk
    | .misc => b.iohram.cgbMisc.read address

/-- Nothing where the register is not one of the bus's. -/
def writeCgbBusOwnedIo (b : Bus) (address : U16) (value : U8) : Option Bus := do
  let info ← describeIoRegister address
  let owned ← info.kind.cgbBusOwned
  if !b.ioRegisterIsLive info then some b
  else
    some <| match owned with
    | .key0 => { b with iohram := { b.iohram with key0 := b.iohram.key0.writeRuntime value } }
    | .vbk => { b with vram := b.vram.writeVbk value }
    | .svbk => { b with wram := b.wram.writeSvbk value }
    | .misc =>
        { b with iohram := { b.iohram with cgbMisc := b.iohram.cgbMisc.write address value } }

def readIohramTarget (b : Bus) (target : BusAddressInfo) (io : BusIoView π) : Option U8 :=
  match (if target.region = .mmio then b.readCgbBusOwnedIo target.address else none) with
  | some value => some value
  | none => b.iohram.read b.consoleModel b.operatingMode target io

def writeIohramTarget (b : Bus) (target : BusAddressInfo) (value : U8) (io : BusIoView π) :
    Option (Bus × BusIoView π) :=
  match (if target.region = .mmio then b.writeCgbBusOwnedIo target.address value else none) with
  | some b => some (b, io)
  | none => do
      let (iohram, io) ← b.iohram.write b.consoleModel b.operatingMode target value io
      some ({ b with iohram }, io)

def readBootRomPlaceholder (address : U16) (io : BusIoView π) : U8 :=
  io.boot.elim blockedReadValue fun boot => boot.readBootRom address

def readUnusablePlaceholder (b : Bus) (address : U16) : U8 :=
  ((describeUnusableArea b.consoleModel b.revision address).map
    (·.runtimeFallbackReadValue)).getD blockedReadValue

def readCartridgeTarget (address : U16) (region : BusRegion) (cartridge : Option κ) :
    Option U8 :=
  match cartridge with
  | none => some blockedReadValue
  | some cartridge =>
      match region with
      | .cartridgeRomBank0 | .cartridgeRomBankN => some (CartridgePort.readRom cartridge address)
      | .cartridgeExternal => some (CartridgePort.readRam cartridge address)
      | _ => none

def readCartridgeTargetTimed (address : U16) (region : BusRegion) (tCycle : Nat)
    (cartridge : Option κ) : Option (U8 × Option κ) :=
  match cartridge with
  | none => some (blockedReadValue, none)
  | some cartridge =>
      match region with
      | .cartridgeRomBank0 | .cartridgeRomBankN =>
          some (CartridgePort.readRom cartridge address, some cartridge)
      | .cartridgeExternal =>
          let (value, cartridge) := CartridgePort.readRamTimed cartridge address tCycle
          some (value, some cartridge)
      | _ => none

def writeCartridgeTarget (address : U16) (region : BusRegion) (value : U8)
    (cartridge : Option κ) : Option (Option κ) :=
  match cartridge with
  | none => some none
  | some cartridge =>
      match region with
      | .cartridgeRomBank0 | .cartridgeRomBankN =>
          some (some (CartridgePort.writeRom cartridge address value))
      | .cartridgeExternal => some (some (CartridgePort.writeRam cartridge address value))
      | _ => none

def writeCartridgeTargetTimed (address : U16) (region : BusRegion) (value : U8) (tCycle : Nat)
    (cartridge : Option κ) : Option (Option κ) :=
  match cartridge with
  | none => some none
  | some cartridge =>
      match region with
      | .cartridgeRomBank0 | .cartridgeRomBankN =>
          some (some (CartridgePort.writeRom cartridge address value))
      | .cartridgeExternal =>
          some (some (CartridgePort.writeRamTimed cartridge address value tCycle))
      | _ => none

def performAllowedRead (b : Bus) (target : BusAddressInfo) (cartridge : Option κ)
    (io : BusIoView π) : Option U8 :=
  match target.region with
  | .bootRom => some (readBootRomPlaceholder target.address io)
  | .cartridgeRomBank0 | .cartridgeRomBankN | .cartridgeExternal =>
      readCartridgeTarget target.address target.region cartridge
  | .vram => b.vram.read target.regionOffset.toNat
  | .wramBank0 | .wramBankN | .echoRam => b.wram.read target.address
  | .oam => b.oam.read target.regionOffset.toNat
  | .unusable => some (b.readUnusablePlaceholder target.address)
  | .mmio | .interruptEnable | .hram => b.readIohramTarget target io

def performAllowedReadTimed (b : Bus) (target : BusAddressInfo) (tCycle : Nat)
    (cartridge : Option κ) (io : BusIoView π) : Option (U8 × Option κ) :=
  match target.region with
  | .bootRom => some (readBootRomPlaceholder target.address io, cartridge)
  | .cartridgeRomBank0 | .cartridgeRomBankN | .cartridgeExternal =>
      readCartridgeTargetTimed target.address target.region tCycle cartridge
  | .vram => (b.vram.read target.regionOffset.toNat).map (·, cartridge)
  | .wramBank0 | .wramBankN | .echoRam => (b.wram.read target.address).map (·, cartridge)
  | .oam => (b.oam.read target.regionOffset.toNat).map (·, cartridge)
  | .unusable => some (b.readUnusablePlaceholder target.address, cartridge)
  | .mmio | .interruptEnable | .hram => (b.readIohramTarget target io).map (·, cartridge)

/-- The overlay of the boot ROM must not own writes. -/
def performAllowedWrite (b : Bus) (target : BusAddressInfo) (value : U8) (cartridge : Option κ)
    (io : BusIoView π) : Option (Bus × Option κ × BusIoView π) :=
  match target.region with
  | .bootRom => none
  | .cartridgeRomBank0 | .cartridgeRomBankN | .cartridgeExternal =>
      (writeCartridgeTarget target.address target.region value cartridge).map (b, ·, io)
  | .vram =>
      (b.vram.write target.regionOffset.toNat value).map ({ b with vram := · }, cartridge, io)
  | .wramBank0 | .wramBankN | .echoRam =>
      (b.wram.write target.address value).map ({ b with wram := · }, cartridge, io)
  | .oam => (b.oam.write target.regionOffset.toNat value).map ({ b with oam := · }, cartridge, io)
  | .unusable => some (b, cartridge, io)
  | .mmio | .interruptEnable | .hram =>
      (b.writeIohramTarget target value io).map fun r => (r.1, cartridge, r.2)

def performAllowedWriteTimed (b : Bus) (target : BusAddressInfo) (value : U8) (tCycle : Nat)
    (cartridge : Option κ) (io : BusIoView π) : Option (Bus × Option κ × BusIoView π) :=
  match target.region with
  | .bootRom => none
  | .cartridgeRomBank0 | .cartridgeRomBankN | .cartridgeExternal =>
      (writeCartridgeTargetTimed target.address target.region value tCycle cartridge).map (b, ·, io)
  | .vram =>
      (b.vram.write target.regionOffset.toNat value).map ({ b with vram := · }, cartridge, io)
  | .wramBank0 | .wramBankN | .echoRam =>
      (b.wram.write target.address value).map ({ b with wram := · }, cartridge, io)
  | .oam => (b.oam.write target.regionOffset.toNat value).map ({ b with oam := · }, cartridge, io)
  | .unusable => some (b, cartridge, io)
  | .mmio | .interruptEnable | .hram =>
      (b.writeIohramTarget target value io).map fun r => (r.1, cartridge, r.2)

end Targets

/-! ## Reads and writes -/

section Accesses

variable {κ : Type} [CartridgePort κ] {π : Type} [PpuRegisters π]

def readWithContext (b : Bus) (address : U16) (requester : BusRequester)
    (state : BusArbitrationState) (cartridge : Option κ) (io : BusIoView π) : Option U8 :=
  let resolution := b.resolveRequesterAccess requester .read address state cartridge
  match resolution.disposition with
  | .allowed => b.performAllowedRead resolution.target cartridge io
  | .blockedRead value _ => some value
  | .ignoredWrite _ => none

def writeWithContext (b : Bus) (address : U16) (value : U8) (requester : BusRequester)
    (state : BusArbitrationState) (cartridge : Option κ) (io : BusIoView π) :
    Option (Bus × Option κ × BusIoView π) :=
  let resolution := b.resolveRequesterAccess requester .write address state cartridge
  match resolution.disposition with
  | .allowed => b.performAllowedWrite resolution.target value cartridge io
  | .ignoredWrite _ => some (b, cartridge, io)
  | .blockedRead _ _ => none

/-- The shortcut: nothing where it does not apply, and then what the read gives. -/
def tryReadTimedFastPath (b : Bus) (address : U16) (requester : BusRequester)
    (state : BusArbitrationState) (tCycle : Nat) (cartridge : Option κ) :
    Option (Option (U8 × Option κ)) :=
  if requester ≠ .cpu ∨ state.dma.cpuAccessPolicy ≠ .unrestricted ∨
      state.bootRom.overlaysRead address = true then none
  else if address ≤ 0x7FFF then
    some <| some <| match cartridge with
    | some cartridge => (CartridgePort.readRom cartridge address, some cartridge)
    | none => (blockedReadValue, none)
  else if 0xA000 ≤ address ∧ address ≤ 0xBFFF then
    some <| some <| match cartridge with
    | some cartridge =>
        let (value, cartridge) := CartridgePort.readRamTimed cartridge address tCycle
        (value, some cartridge)
    | none => (blockedReadValue, none)
  else if 0xC000 ≤ address ∧ address ≤ 0xFDFF then
    some ((b.wram.read address).map (·, cartridge))
  else none

def tryWriteTimedFastPath (b : Bus) (address : U16) (value : U8) (requester : BusRequester)
    (state : BusArbitrationState) (tCycle : Nat) (cartridge : Option κ) (io : BusIoView π) :
    Option (Option (Bus × Option κ × BusIoView π)) :=
  if requester ≠ .cpu ∨ state.dma.cpuAccessPolicy ≠ .unrestricted then none
  else if address ≤ 0x3FFF ∨ (0x4000 ≤ address ∧ address ≤ 0x7FFF) ∨
      (0xA000 ≤ address ∧ address ≤ 0xBFFF) then
    let target := decodeAddress address
    some ((writeCartridgeTargetTimed target.address target.region value tCycle cartridge).map
      (b, ·, io))
  else if 0xC000 ≤ address ∧ address ≤ 0xFDFF then
    some ((b.wram.write address value).map ({ b with wram := · }, cartridge, io))
  else none

/-- `read_with_t_cycle_context` after the shortcut. -/
def resolvedReadTimed (b : Bus) (address : U16) (requester : BusRequester)
    (state : BusArbitrationState) (tCycle : Nat) (cartridge : Option κ) (io : BusIoView π) :
    Option (U8 × Option κ) :=
  let resolution := b.resolveRequesterAccess requester .read address state cartridge
  match resolution.disposition with
  | .allowed => b.performAllowedReadTimed resolution.target tCycle cartridge io
  | .blockedRead value _ => some (value, cartridge)
  | .ignoredWrite _ => none

/-- `write_with_t_cycle_context` after the shortcut. -/
def resolvedWriteTimed (b : Bus) (address : U16) (value : U8) (requester : BusRequester)
    (state : BusArbitrationState) (tCycle : Nat) (cartridge : Option κ) (io : BusIoView π) :
    Option (Bus × Option κ × BusIoView π) :=
  let resolution := b.resolveRequesterAccess requester .write address state cartridge
  match resolution.disposition with
  | .allowed => b.performAllowedWriteTimed resolution.target value tCycle cartridge io
  | .ignoredWrite _ => some (b, cartridge, io)
  | .blockedRead _ _ => none

def readWithTCycleContext (b : Bus) (address : U16) (requester : BusRequester)
    (state : BusArbitrationState) (tCycle : Nat) (cartridge : Option κ) (io : BusIoView π) :
    Option (U8 × Option κ) :=
  match b.tryReadTimedFastPath address requester state tCycle cartridge with
  | some result => result
  | none => b.resolvedReadTimed address requester state tCycle cartridge io

def writeWithTCycleContext (b : Bus) (address : U16) (value : U8) (requester : BusRequester)
    (state : BusArbitrationState) (tCycle : Nat) (cartridge : Option κ) (io : BusIoView π) :
    Option (Bus × Option κ × BusIoView π) :=
  match b.tryWriteTimedFastPath address value requester state tCycle cartridge io with
  | some result => result
  | none => b.resolvedWriteTimed address value requester state tCycle cartridge io

end Accesses

end Bus

end GbCycle
