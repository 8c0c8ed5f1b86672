import GbCycle.Model
import GbCycle.Word

/-!
# The memory map

The router splits the sixteen-bit address space in thirteen regions and describes each byte of
the I/O page: who owns it, on which consoles it is there, and what it is.  Nothing here looks at
the state of a machine but the choice of console and operating mode.
-/

namespace GbCycle

inductive BusRegion where
  | bootRom
  | cartridgeRomBank0
  | cartridgeRomBankN
  | vram
  | cartridgeExternal
  | wramBank0
  | wramBankN
  | echoRam
  | oam
  | unusable
  | mmio
  | hram
  | interruptEnable
  deriving Repr, DecidableEq

structure BusAddressInfo where
  address : U16
  region : BusRegion
  regionOffset : U16
  deriving Repr, DecidableEq

def blockedReadValue : U8 := 0xFF
def dmgUnusableReadValue : U8 := 0x00

/-! ## The regions -/

/-- The static classification of an address, without the overlay of the boot ROM. -/
def decodeAddress (address : U16) : BusAddressInfo :=
  if address ≤ 0x3FFF then ⟨address, .cartridgeRomBank0, address⟩
  else if address ≤ 0x7FFF then ⟨address, .cartridgeRomBankN, address - 0x4000⟩
  else if address ≤ 0x9FFF then ⟨address, .vram, address - 0x8000⟩
  else if address ≤ 0xBFFF then ⟨address, .cartridgeExternal, address - 0xA000⟩
  else if address ≤ 0xCFFF then ⟨address, .wramBank0, address - 0xC000⟩
  else if address ≤ 0xDFFF then ⟨address, .wramBankN, address - 0xD000⟩
  else if address ≤ 0xFDFF then ⟨address, .echoRam, address - 0xE000⟩
  else if address ≤ 0xFE9F then ⟨address, .oam, address - 0xFE00⟩
  else if address ≤ 0xFEFF then ⟨address, .unusable, address - 0xFEA0⟩
  else if address ≤ 0xFF7F then ⟨address, .mmio, address - 0xFF00⟩
  else if address ≤ 0xFFFE then ⟨address, .hram, address - 0xFF80⟩
  else ⟨address, .interruptEnable, 0⟩

/-! ## The I/O page -/

inductive IoRegisterOwner where
  | joypad
  | serial
  | timer
  | interruptController
  | apu
  | ppu
  | dma
  | boot
  | memoryController
  | infrared
  | cgbSystem
  | reserved
  deriving Repr, DecidableEq

inductive IoRegisterAvailability where
  | shared
  | dmgCompatible
  | cgbOnly
  deriving Repr, DecidableEq

inductive IoRegisterImplementation where
  | implemented
  | stubbed
  | unavailable
  deriving Repr, DecidableEq

inductive IoRegisterKind where
  | joyp | serialData | serialControl | div | tima | tma | tac | interruptFlag | nr10 | nr11
  | nr12 | nr13 | nr14 | nr21 | nr22 | nr23 | nr24 | nr30 | nr31 | nr32 | nr33 | nr34 | nr41
  | nr42 | nr43 | nr44 | nr50 | nr51 | nr52 | waveRam | lcdc | stat | scy | scx | ly | lyc
  | bgp | obp0 | obp1 | wy | wx | oamDma | bootRomDisable | key0 | key1 | vbk | hdma1 | hdma2
  | hdma3 | hdma4 | hdma5 | rp | bcps | bcpd | ocps | ocpd | opri | svbk | cgbUndocumented72
  | cgbUndocumented73 | cgbUndocumented74 | cgbUndocumented75 | pcm12 | pcm34 | cgbUndocumented
  | reserved | interruptEnable
  deriving Repr, DecidableEq

structure IoRegisterInfo where
  owner : IoRegisterOwner
  availability : IoRegisterAvailability
  implementation : IoRegisterImplementation
  kind : IoRegisterKind
  deriving Repr, DecidableEq

/-- One arm of the description of the I/O page: the addresses it covers and what they are. -/
structure IoRegisterRange where
  first : U16
  last : U16
  info : IoRegisterInfo
  deriving Repr, DecidableEq

def IoRegisterRange.covers (r : IoRegisterRange) (address : U16) : Bool :=
  r.first ≤ address && address ≤ r.last

def ioRegisterRanges : List IoRegisterRange :=
  [ ⟨0xFF00, 0xFF00, ⟨.joypad, .shared, .implemented, .joyp⟩⟩,
    ⟨0xFF01, 0xFF01, ⟨.serial, .shared, .implemented, .serialData⟩⟩,
    ⟨0xFF02, 0xFF02, ⟨.serial, .shared, .implemented, .serialControl⟩⟩,
    ⟨0xFF03, 0xFF03, ⟨.reserved, .shared, .unavailable, .reserved⟩⟩,
    ⟨0xFF04, 0xFF04, ⟨.timer, .shared, .implemented, .div⟩⟩,
    ⟨0xFF05, 0xFF05, ⟨.timer, .shared, .implemented, .tima⟩⟩,
    ⟨0xFF06, 0xFF06, ⟨.timer, .shared, .implemented, .tma⟩⟩,
    ⟨0xFF07, 0xFF07, ⟨.timer, .shared, .implemented, .tac⟩⟩,
    ⟨0xFF08, 0xFF0E, ⟨.reserved, .shared, .unavailable, .reserved⟩⟩,
    ⟨0xFF0F, 0xFF0F, ⟨.interruptController, .shared, .implemented, .interruptFlag⟩⟩,
    ⟨0xFF10, 0xFF10, ⟨.apu, .shared, .implemented, .nr10⟩⟩,
    ⟨0xFF11, 0xFF11, ⟨.apu, .shared, .implemented, .nr11⟩⟩,
    ⟨0xFF12, 0xFF12, ⟨.apu, .shared, .implemented, .nr12⟩⟩,
    ⟨0xFF13, 0xFF13, ⟨.apu, .shared, .implemented, .nr13⟩⟩,
    ⟨0xFF14, 0xFF14, ⟨.apu, .shared, .implemented, .nr14⟩⟩,
    ⟨0xFF15, 0xFF15, ⟨.reserved, .shared, .unavailable, .reserved⟩⟩,
    ⟨0xFF16, 0xFF16, ⟨.apu, .shared, .implemented, .nr21⟩⟩,
    ⟨0xFF17, 0xFF17, ⟨.apu, .shared, .implemented, .nr22⟩⟩,
    ⟨0xFF18, 0xFF18, ⟨.apu, .shared, .implemented, .nr23⟩⟩,
    ⟨0xFF19, 0xFF19, ⟨.apu, .shared, .implemented, .nr24⟩⟩,
    ⟨0xFF1A, 0xFF1A, ⟨.apu, .shared, .implemented, .nr30⟩⟩,
    ⟨0xFF1B, 0xFF1B, ⟨.apu, .shared, .implemented, .nr31⟩⟩,
    ⟨0xFF1C, 0xFF1C, ⟨.apu, .shared, .implemented, .nr32⟩⟩,
    ⟨0xFF1D, 0xFF1D, ⟨.apu, .shared, .implemented, .nr33⟩⟩,
    ⟨0xFF1E, 0xFF1E, ⟨.apu, .shared, .implemented, .nr34⟩⟩,
    ⟨0xFF1F, 0xFF1F, ⟨.reserved, .shared, .unavailable, .reserved⟩⟩,
    ⟨0xFF20, 0xFF20, ⟨.apu, .shared, .implemented, .nr41⟩⟩,
    ⟨0xFF21, 0xFF21, ⟨.apu, .shared, .implemented, .nr42⟩⟩,
    ⟨0xFF22, 0xFF22, ⟨.apu, .shared, .implemented, .nr43⟩⟩,
    ⟨0xFF23, 0xFF23, ⟨.apu, .shared, .implemented, .nr44⟩⟩,
    ⟨0xFF24, 0xFF24, ⟨.apu, .shared, .implemented, .nr50⟩⟩,
    ⟨0xFF25, 0xFF25, ⟨.apu, .shared, .implemented, .nr51⟩⟩,
    ⟨0xFF26, 0xFF26, ⟨.apu, .shared, .implemented, .nr52⟩⟩,
    ⟨0xFF27, 0xFF2F, ⟨.reserved, .shared, .unavailable, .reserved⟩⟩,
    ⟨0xFF30, 0xFF3F, ⟨.apu, .shared, .implemented, .waveRam⟩⟩,
    ⟨0xFF40, 0xFF40, ⟨.ppu, .shared, .implemented, .lcdc⟩⟩,
    ⟨0xFF41, 0xFF41, ⟨.ppu, .shared, .implemented, .stat⟩⟩,
    ⟨0xFF42, 0xFF42, ⟨.ppu, .shared, .implemented, .scy⟩⟩,
    ⟨0xFF43, 0xFF43, ⟨.ppu, .shared, .implemented, .scx⟩⟩,
    ⟨0xFF44, 0xFF44, ⟨.ppu, .shared, .implemented, .ly⟩⟩,
    ⟨0xFF45, 0xFF45, ⟨.ppu, .shared, .implemented, .lyc⟩⟩,
    ⟨0xFF46, 0xFF46, ⟨.dma, .shared, .implemented, .oamDma⟩⟩,
    ⟨0xFF47, 0xFF47, ⟨.ppu, .dmgCompatible, .implemented, .bgp⟩⟩,
    ⟨0xFF48, 0xFF48, ⟨.ppu, .dmgCompatible, .implemented, .obp0⟩⟩,
    ⟨0xFF49, 0xFF49, ⟨.ppu, .dmgCompatible, .implemented, .obp1⟩⟩,
    ⟨0xFF4A, 0xFF4A, ⟨.ppu, .shared, .implemented, .wy⟩⟩,
    ⟨0xFF4B, 0xFF4B, ⟨.ppu, .shared, .implemented, .wx⟩⟩,
    ⟨0xFF4C, 0xFF4C, ⟨.cgbSystem, .cgbOnly, .implemented, .key0⟩⟩,
    ⟨0xFF4D, 0xFF4D, ⟨.cgbSystem, .cgbOnly, .implemented, .key1⟩⟩,
    ⟨0xFF4F, 0xFF4F, ⟨.ppu, .cgbOnly, .implemented, .vbk⟩⟩,
    ⟨0xFF51, 0xFF51, ⟨.dma, .cgbOnly, .implemented, .hdma1⟩⟩,
    ⟨0xFF52, 0xFF52, ⟨.dma, .cgbOnly, .implemented, .hdma2⟩⟩,
    ⟨0xFF53, 0xFF53, ⟨.dma, .cgbOnly, .implemented, .hdma3⟩⟩,
    ⟨0xFF54, 0xFF54, ⟨.dma, .cgbOnly, .implemented, .hdma4⟩⟩,
    ⟨0xFF55, 0xFF55, ⟨.dma, .cgbOnly, .implemented, .hdma5⟩⟩,
    ⟨0xFF56, 0xFF56, ⟨.infrared, .cgbOnly, .implemented, .rp⟩⟩,
    ⟨0xFF68, 0xFF68, ⟨.ppu, .cgbOnly, .implemented, .bcps⟩⟩,
    ⟨0xFF69, 0xFF69, ⟨.ppu, .cgbOnly, .implemented, .bcpd⟩⟩,
    ⟨0xFF6A, 0xFF6A, ⟨.ppu, .cgbOnly, .implemented, .ocps⟩⟩,
    ⟨0xFF6B, 0xFF6B, ⟨.ppu, .cgbOnly, .implemented, .ocpd⟩⟩,
    ⟨0xFF6C, 0xFF6C, ⟨.ppu, .cgbOnly, .implemented, .opri⟩⟩,
    ⟨0xFF70, 0xFF70, ⟨.memoryController, .cgbOnly, .implemented, .svbk⟩⟩,
    ⟨0xFF72, 0xFF72, ⟨.cgbSystem, .cgbOnly, .implemented, .cgbUndocumented72⟩⟩,
    ⟨0xFF73, 0xFF73, ⟨.cgbSystem, .cgbOnly, .implemented, .cgbUndocumented73⟩⟩,
    ⟨0xFF74, 0xFF74, ⟨.cgbSystem, .cgbOnly, .implemented, .cgbUndocumented74⟩⟩,
    ⟨0xFF75, 0xFF75, ⟨.cgbSystem, .cgbOnly, .implemented, .cgbUndocumented75⟩⟩,
    ⟨0xFF76, 0xFF76, ⟨.apu, .cgbOnly, .implemented, .pcm12⟩⟩,
    ⟨0xFF77, 0xFF77, ⟨.apu, .cgbOnly, .implemented, .pcm34⟩⟩,
    ⟨0xFF6D, 0xFF6F, ⟨.cgbSystem, .cgbOnly, .stubbed, .cgbUndocumented⟩⟩,
    ⟨0xFF4E, 0xFF4E, ⟨.reserved, .shared, .unavailable, .reserved⟩⟩,
    ⟨0xFF57, 0xFF67, ⟨.reserved, .shared, .unavailable, .reserved⟩⟩,
    ⟨0xFF71, 0xFF71, ⟨.reserved, .shared, .unavailable, .reserved⟩⟩,
    ⟨0xFF78, 0xFF7F, ⟨.reserved, .shared, .unavailable, .reserved⟩⟩,
    ⟨0xFF50, 0xFF50, ⟨.boot, .shared, .implemented, .bootRomDisable⟩⟩,
    ⟨0xFFFF, 0xFFFF, ⟨.interruptController, .shared, .implemented, .interruptEnable⟩⟩ ]

def describeIoRegister (address : U16) : Option IoRegisterInfo :=
  (ioRegisterRanges.find? fun r => r.covers address).map IoRegisterRange.info

def cgbIoRegisterIsAvailable (kind : IoRegisterKind) (consoleModel : ConsoleModel)
    (operatingMode : OperatingMode) : Bool :=
  if !consoleModel.isCgbFamily then false
  else if kind = .rp && !consoleModel.hasCgbInfraredPort then false
  else if operatingMode.enablesCgbExtensions then true
  else if operatingMode = .cgbDmgExt then
    kind ∈ [.key1, .vbk, .rp, .bcps, .ocps, .opri, .svbk, .cgbUndocumented72, .cgbUndocumented73,
      .cgbUndocumented74, .cgbUndocumented75, .pcm12, .pcm34]
  -- compatibility mode keeps the few registers that the boot program leaves visible
  else
    kind ∈ [.vbk, .bcps, .ocps, .cgbUndocumented72, .cgbUndocumented73, .cgbUndocumented75,
      .pcm12, .pcm34]

def ioRegisterKindIsAvailable (kind : IoRegisterKind) (availability : IoRegisterAvailability)
    (consoleModel : ConsoleModel) (operatingMode : OperatingMode) : Bool :=
  match availability with
  | .shared | .dmgCompatible => true
  | .cgbOnly => cgbIoRegisterIsAvailable kind consoleModel operatingMode

/-! ## The unusable area -/

inductive UnusableAreaReadProfile where
  | dmgFamilyFixedZero
  | cgbRevisionDependent
  deriving Repr, DecidableEq

inductive UnusableAreaWriteProfile where
  | ignored
  | cgbRevisionDependentRam
  deriving Repr, DecidableEq

structure UnusableAreaInfo where
  address : U16
  readProfile : UnusableAreaReadProfile
  writeProfile : UnusableAreaWriteProfile
  runtimeFallbackReadValue : U8
  runtimeFallbackWritesIgnored : Bool
  deriving Repr, DecidableEq

def cgbEExtraOamReadValue (address : U16) : U8 :=
  let lowAddress := address.low
  (lowAddress &&& 0xF0) ||| (lowAddress >>> 4)

def describeUnusableArea (consoleModel : ConsoleModel) (revision : HardwareRevision)
    (address : U16) : Option UnusableAreaInfo :=
  if !(0xFEA0 ≤ address && address ≤ 0xFEFF) then none
  else
    some <| match consoleModel with
    | .gameBoy | .gameBoyPocket | .gameBoyLight =>
        ⟨address, .dmgFamilyFixedZero, .ignored, dmgUnusableReadValue, true⟩
    | .gameBoyColor | .gameBoyAdvance =>
        let fallbackReadValue := match revision with
          | .cpuCgbE | .cpuAgb0 | .cpuAgbA => cgbEExtraOamReadValue address
          | _ => blockedReadValue
        ⟨address, .cgbRevisionDependent, .cgbRevisionDependentRam, fallbackReadValue, true⟩

/-! ## Facts about the map -/

theorem decodeAddress_address (address : U16) : (decodeAddress address).address = address := by
  unfold decodeAddress
  repeat' split
  all_goals rfl

theorem describeIoRegister_mem {address : U16} {info : IoRegisterInfo}
    (h : describeIoRegister address = some info) :
    ∃ r ∈ ioRegisterRanges, r.covers address = true ∧ r.info = info := by
  obtain ⟨r, hfind, hinfo⟩ := Option.map_eq_some_iff.mp h
  have hcovers := List.find?_some (p := fun r : IoRegisterRange => r.covers address) hfind
  exact ⟨r, List.mem_of_find?_eq_some hfind, hcovers, hinfo⟩

/-- What holds of every range holds of every register described. -/
theorem describeIoRegister_forall {P : IoRegisterInfo → Prop}
    (hall : ∀ r ∈ ioRegisterRanges, P r.info) {address : U16} {info : IoRegisterInfo}
    (h : describeIoRegister address = some info) : P info := by
  obtain ⟨r, hmem, -, hinfo⟩ := describeIoRegister_mem h
  rw [← hinfo]
  exact hall r hmem

end GbCycle
