import GbCycle.Apu.Control
import GbCycle.Bus.Arbitration
import GbCycle.Bus.Memory
import GbCycle.Infrared
import GbCycle.Interrupts
import GbCycle.Joypad
import GbCycle.Serial
import GbCycle.Timer

/-!
# The I/O page

A read or a write of an I/O register goes to the device that owns it.  The bus does not own the
devices: it is lent those of the machine for one access, and an access without one of them reads
as blocked and writes nothing.  The dispatch is by kind first and by owner for the kinds that
are left, and the source declares the other owners unreachable there; they are `none` here.

The registers of the PPU stay a parameter.
-/

namespace GbCycle

/-! ## The boot ROM -/

inductive BootRomAssetKind where
  | dmg0
  | dmg
  | mgb
  | sgb
  | sgb2
  | cgb0
  | cgb
  | cgbE
  | cgbAgb0
  | cgbAgb
  deriving Repr, DecidableEq

namespace BootRomAssetKind

def fromRevision : HardwareRevision → BootRomAssetKind
  | .dmgCpu0 => .dmg0
  | .dmgCpuA | .dmgCpuB | .dmgCpuC => .dmg
  | .cpuMgb => .mgb
  | .cpuCgb0 => .cgb0
  | .cpuCgbA | .cpuCgbB | .cpuCgbC | .cpuCgbD => .cgb
  | .cpuCgbE => .cgbE
  | .cpuAgb0 => .cgbAgb0
  | .cpuAgbA => .cgbAgb

def fromSgbProfile : SgbHostProfile → BootRomAssetKind
  | .sgbNtsc | .sgbPal => .sgb
  | .sgb2Ntsc => .sgb2

def fromMachineProfile (revision : HardwareRevision) (sgbProfile : Option SgbHostProfile) :
    BootRomAssetKind :=
  match sgbProfile with
  | some profile => fromSgbProfile profile
  | none => fromRevision revision

def usesCgbMapping (asset : BootRomAssetKind) : Bool :=
  asset ∈ [.cgb0, .cgb, .cgbE, .cgbAgb0, .cgbAgb]

end BootRomAssetKind

/-- The images at hand, one slot for each kind. -/
abbrev BootRomAssets := BootRomAssetKind → Option (List U8)

/-- An image of the colour consoles may leave out the page that the cartridge header shows
through. -/
def readCgbBootRomByte (bytes : List U8) (address : U16) : Option U8 :=
  if address ≤ 0x00FF then bytes[address.toNat]?
  else if 0x0200 ≤ address ∧ address ≤ 0x08FF then
    let sourceAddress :=
      if 0x0900 ≤ bytes.length then address.toNat else address.toNat - (0x0200 - 0x0100)
    bytes[sourceAddress]?
  else none

def BootRomAssets.readAssetByte (assets : BootRomAssets) (asset : BootRomAssetKind)
    (address : U16) : Option U8 := do
  let bytes ← assets asset
  if asset.usesCgbMapping then readCgbBootRomByte bytes address else bytes[address.toNat]?

structure BootController where
  consoleModel : ConsoleModel
  revision : HardwareRevision
  sgbProfile : Option SgbHostProfile
  bootRomMapped : Bool
  bootRomAssets : BootRomAssets

namespace BootController

def bootRomAsset (b : BootController) : BootRomAssetKind :=
  .fromMachineProfile b.revision b.sgbProfile

def busState (b : BootController) : BootRomBusState :=
  if !b.bootRomMapped then .unmapped
  else
    match b.consoleModel with
    | .gameBoyColor | .gameBoyAdvance => .mapCgbWindows
    | .gameBoy | .gameBoyPocket | .gameBoyLight => .mapDmgLowBytes

def readFf50 (_ : BootController) : U8 := 0xFF

def readBootRom (b : BootController) (address : U16) : U8 :=
  (b.bootRomAssets.readAssetByte b.bootRomAsset address).getD 0xFF

/-- The overlay is unmapped once and for all; the result says whether it was just now. -/
def writeFf50 (b : BootController) (value : U8) : Bool × BootController :=
  if value ≠ 0 && b.bootRomMapped then (true, { b with bootRomMapped := false }) else (false, b)

end BootController

/-! ## The devices on loan -/

inductive PpuRegisterReadSource where
  | immediate
  | cpuBusOperation
  deriving Repr, DecidableEq

/-- What the bus uses of the PPU. -/
class PpuRegisters (π : Type) where
  readRegister : π → U16 → U8
  readRegisterWithSource : π → U16 → PpuRegisterReadSource → U8
  writeRegister : π → U16 → U8 → π

/-- A PPU of which the bus sees the plain registers only. -/
structure PpuRegisterFile where
  registers : U16 → U8

instance : PpuRegisters PpuRegisterFile where
  readRegister ppu := ppu.registers
  readRegisterWithSource ppu address _ := ppu.registers address
  writeRegister ppu address value := { registers := Function.update ppu.registers address value }

/-- The views of the source, for reading and for writing, in one. -/
structure BusIoView (π : Type) where
  apu : Option Apu
  timer : Option Timer
  serial : Option Serial
  dma : Option DmaController
  boot : Option BootController
  interrupts : Option InterruptController
  interruptFlagPendingMask : U8
  joypad : Option Joypad
  ppu : Option π
  speed : Option SpeedController
  ppuCpuVisibleRead : Bool
  bootFf50NewlyUnmapped : Bool

def BusIoView.default {π : Type} : BusIoView π :=
  ⟨none, none, none, none, none, none, 0, none, none, none, false, false⟩

structure IoHramDomain where
  hram : Vector U8 hramLen
  key0 : CgbKey0State
  cgbMisc : CgbMiscIoState
  infrared : CgbInfraredState

namespace IoHramDomain

def new : IoHramDomain := ⟨.replicate hramLen 0, .new, .new, .new⟩

variable {π : Type} [PpuRegisters π]

/-- The read of a register that is there and implemented. -/
def readIoRegister (d : IoHramDomain) (info : IoRegisterInfo) (address : U16)
    (io : BusIoView π) : Option U8 :=
  match info.kind with
  | .joyp => some (io.joypad.elim blockedReadValue Joypad.readP1)
  | .serialData => some (io.serial.elim blockedReadValue Serial.readSb)
  | .serialControl => some (io.serial.elim blockedReadValue Serial.readSc)
  | .div => some (io.timer.elim blockedReadValue Timer.readDiv)
  | .tima => some (io.timer.elim blockedReadValue Timer.tima)
  | .tma => some (io.timer.elim blockedReadValue Timer.tma)
  | .tac => some (io.timer.elim blockedReadValue Timer.readTac)
  | .key1 => some (io.speed.elim blockedReadValue SpeedController.readKey1)
  | .interruptFlag =>
      some (io.interrupts.elim blockedReadValue fun interrupts =>
        interrupts.readIfWithPendingRequests io.interruptFlagPendingMask)
  | .stat | .ly =>
      some (io.ppu.elim blockedReadValue fun ppu =>
        PpuRegisters.readRegisterWithSource ppu address
          (if io.ppuCpuVisibleRead then .cpuBusOperation else .immediate))
  | .oamDma => some (io.dma.elim blockedReadValue DmaController.sourcePageLatch)
  | .hdma1 | .hdma2 | .hdma3 | .hdma4 => some blockedReadValue
  | .hdma5 => some (io.dma.elim blockedReadValue fun dma => dma.vramDmaState.readHdma5)
  | .rp => some d.infrared.readRp
  | .bootRomDisable => some (io.boot.elim blockedReadValue BootController.readFf50)
  | .pcm12 => some (io.apu.elim blockedReadValue Apu.readPcm12)
  | .pcm34 => some (io.apu.elim blockedReadValue Apu.readPcm34)
  | .interruptEnable => some (io.interrupts.elim blockedReadValue InterruptController.readIe)
  | _ =>
    match info.owner with
    | .ppu => some (io.ppu.elim blockedReadValue fun ppu => PpuRegisters.readRegister ppu address)
    | .apu => some (io.apu.elim blockedReadValue fun apu => apu.readRegister address)
    | .memoryController | .infrared | .cgbSystem | .reserved => some blockedReadValue
    | _ => none

/-- The speed that the devices see: the normal one without a speed controller. -/
def currentSpeed (io : BusIoView π) : CgbSpeedMode :=
  io.speed.elim .normal SpeedController.currentSpeed

def writeDiv (io : BusIoView π) : BusIoView π :=
  match io.timer with
  | none => io
  | some timer =>
      let (timer, apuFrameSequencerEdge) :=
        timer.resetDividerWithEffectsForSpeed (currentSpeed io) .cpuDivWrite
      { io with
        timer := some timer
        apu := if apuFrameSequencerEdge then io.apu.map Apu.advanceFrameSequencer else io.apu }

def writeBootRomDisable (io : BusIoView π) (value : U8) : BusIoView π :=
  match io.boot with
  | none => io
  | some boot =>
      let (newlyUnmapped, boot) := boot.writeFf50 value
      { io with boot := some boot, bootFf50NewlyUnmapped := newlyUnmapped }

def writeApuRegister (io : BusIoView π) (address : U16) (value : U8) : BusIoView π :=
  let divApuSignalHigh :=
    io.timer.any fun timer => timer.currentDivApuSignalForSpeed (currentSpeed io)
  { io with
    apu := io.apu.map fun apu =>
      apu.writeRegister address value (currentSpeed io) divApuSignalHigh }

/-- The write of a register that is there and implemented. -/
def writeIoRegister (d : IoHramDomain) (info : IoRegisterInfo) (address : U16) (value : U8)
    (io : BusIoView π) : Option (IoHramDomain × BusIoView π) :=
  match info.kind with
  | .joyp => some (d, { io with joypad := io.joypad.map (·.writeP1 value) })
  | .serialData => some (d, { io with serial := io.serial.map (·.writeSb value) })
  | .serialControl => some (d, { io with serial := io.serial.map (·.writeSc value) })
  | .div => some (d, writeDiv io)
  | .tima => some (d, { io with timer := io.timer.map (·.writeTima value) })
  | .tma => some (d, { io with timer := io.timer.map (·.writeTma value) })
  | .tac => some (d, { io with timer := io.timer.map (·.writeTac value) })
  | .key1 => some (d, { io with speed := io.speed.map (·.writeKey1 value) })
  | .interruptFlag => some (d, { io with interrupts := io.interrupts.map (·.writeIf value) })
  | .oamDma => some (d, { io with dma := io.dma.map (·.writeFf46 value) })
  | .hdma1 => some (d, { io with dma := io.dma.map (·.writeHdma1 value) })
  | .hdma2 => some (d, { io with dma := io.dma.map (·.writeHdma2 value) })
  | .hdma3 => some (d, { io with dma := io.dma.map (·.writeHdma3 value) })
  | .hdma4 => some (d, { io with dma := io.dma.map (·.writeHdma4 value) })
  | .hdma5 =>
      some (d, { io with dma := io.dma.map (·.writeHdma5ForSpeed value (currentSpeed io)) })
  | .rp => some ({ d with infrared := d.infrared.writeRp value }, io)
  | .bootRomDisable => some (d, writeBootRomDisable io value)
  | .interruptEnable => some (d, { io with interrupts := io.interrupts.map (·.writeIe value) })
  | .pcm12 | .pcm34 => some (d, io)
  | _ =>
    match info.owner with
    | .ppu =>
        some (d, { io with
          ppu := io.ppu.map fun ppu => PpuRegisters.writeRegister ppu address value })
    | .apu => some (d, writeApuRegister io address value)
    | .memoryController | .infrared | .cgbSystem | .reserved => some (d, io)
    | _ => none

/-- The register at an address, where it is there on this machine and implemented. -/
def liveIoRegister (consoleModel : ConsoleModel) (operatingMode : OperatingMode)
    (address : U16) : Option IoRegisterInfo :=
  (describeIoRegister address).filter fun info =>
    ioRegisterKindIsAvailable info.kind info.availability consoleModel operatingMode &&
      info.implementation == .implemented

def readIoTarget (d : IoHramDomain) (consoleModel : ConsoleModel)
    (operatingMode : OperatingMode) (address : U16) (io : BusIoView π) : Option U8 :=
  match liveIoRegister consoleModel operatingMode address with
  | none => some blockedReadValue
  | some info => d.readIoRegister info address io

def writeIoTarget (d : IoHramDomain) (consoleModel : ConsoleModel)
    (operatingMode : OperatingMode) (address : U16) (value : U8) (io : BusIoView π) :
    Option (IoHramDomain × BusIoView π) :=
  match liveIoRegister consoleModel operatingMode address with
  | none => some (d, io)
  | some info => d.writeIoRegister info address value io

def read (d : IoHramDomain) (consoleModel : ConsoleModel) (operatingMode : OperatingMode)
    (target : BusAddressInfo) (io : BusIoView π) : Option U8 :=
  match target.region with
  | .hram => d.hram[target.regionOffset.toNat]?
  | .mmio | .interruptEnable => d.readIoTarget consoleModel operatingMode target.address io
  | _ => none

def write (d : IoHramDomain) (consoleModel : ConsoleModel) (operatingMode : OperatingMode)
    (target : BusAddressInfo) (value : U8) (io : BusIoView π) :
    Option (IoHramDomain × BusIoView π) :=
  match target.region with
  | .hram => do
      let hram ← storeByte d.hram target.regionOffset.toNat value
      some ({ d with hram }, io)
  | .mmio | .interruptEnable => d.writeIoTarget consoleModel operatingMode target.address value io
  | _ => none

end IoHramDomain

/-! ## The dispatch never runs out of owners -/

/-- A kind that the devices do not handle by name has an owner that the dispatch falls back on. -/
def IoRegisterInfo.dispatched (info : IoRegisterInfo) : Bool :=
  info.owner ∈ [.ppu, .apu, .memoryController, .infrared, .cgbSystem, .reserved] ||
    info.kind ∈ [.joyp, .serialData, .serialControl, .div, .tima, .tma, .tac, .key1,
      .interruptFlag, .oamDma, .hdma1, .hdma2, .hdma3, .hdma4, .hdma5, .bootRomDisable,
      .interruptEnable]

theorem describeIoRegister_dispatched {address : U16} {info : IoRegisterInfo}
    (h : describeIoRegister address = some info) : info.dispatched = true :=
  describeIoRegister_forall (P := fun info => info.dispatched = true) (by decide) h

namespace IoHramDomain

variable {π : Type} [PpuRegisters π] {consoleModel : ConsoleModel} {operatingMode : OperatingMode}
  {address : U16} {info : IoRegisterInfo}

theorem liveIoRegister_dispatched
    (h : liveIoRegister consoleModel operatingMode address = some info) :
    info.dispatched = true :=
  describeIoRegister_dispatched (Option.filter_eq_some_iff.mp h).1

theorem readIoRegister_isSome (d : IoHramDomain) (h : info.dispatched = true)
    (io : BusIoView π) : ∃ value, d.readIoRegister info address io = some value := by
  obtain ⟨owner, availability, implementation, kind⟩ := info
  unfold readIoRegister
  cases kind
  all_goals first
    | exact ⟨_, rfl⟩
    | (cases owner <;> first
        | exact ⟨_, rfl⟩
        | exact absurd h Bool.false_ne_true)

/-- A register write returns, and leaves high RAM alone. -/
theorem writeIoRegister_hram (d : IoHramDomain) (h : info.dispatched = true) (value : U8)
    (io : BusIoView π) :
    ∃ d' io', d.writeIoRegister info address value io = some (d', io') ∧ d'.hram = d.hram := by
  obtain ⟨owner, availability, implementation, kind⟩ := info
  unfold writeIoRegister
  cases kind
  all_goals first
    | exact ⟨_, _, rfl, rfl⟩
    | (cases owner <;> first
        | exact ⟨_, _, rfl, rfl⟩
        | exact absurd h Bool.false_ne_true)

theorem readIoTarget_isSome (d : IoHramDomain) (io : BusIoView π) :
    ∃ value, d.readIoTarget consoleModel operatingMode address io = some value := by
  unfold readIoTarget
  split
  · exact ⟨_, rfl⟩
  · rename_i hlive
    exact d.readIoRegister_isSome (liveIoRegister_dispatched hlive) io

theorem writeIoTarget_hram (d : IoHramDomain) (value : U8) (io : BusIoView π) :
    ∃ d' io', d.writeIoTarget consoleModel operatingMode address value io = some (d', io') ∧
      d'.hram = d.hram := by
  unfold writeIoTarget
  split
  · exact ⟨_, _, rfl, rfl⟩
  · rename_i hlive
    exact d.writeIoRegister_hram (liveIoRegister_dispatched hlive) value io

end IoHramDomain

end GbCycle
