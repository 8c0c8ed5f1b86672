import GbCycle.Bus.Map
import GbCycle.Cartridge.Access
import GbCycle.Dma.Controller

/-!
# Bus arbitration

An access names who makes it, what it is and where it goes.  The state of the boot ROM, the PPU
and the DMA controller then says whether it is performed, answered with a fixed value or dropped,
and, for a CPU access on a bus that the DMA controller is driving, which address it really
reaches.  Only the CPU is ever held back.
-/

namespace GbCycle

inductive BusRequester where
  | cpu
  | dma
  | ppu
  | apu
  | serial
  | boot
  | cartridge
  deriving Repr, DecidableEq

inductive BusAccessKind where
  | read
  | write
  deriving Repr, DecidableEq

inductive BusBlockReason where
  | dmaExternalBusConflict
  | dmaVideoBusConflict
  | dmaWramBusConflict
  | ppuVramBlockedDuringMode3
  | ppuOamBlockedDuringMode2
  | ppuOamBlockedDuringMode3
  | unusableRegion
  | unusableRegionDuringOamBlock
  | unusableRegionDuringDmaVideoBusConflict
  deriving Repr, DecidableEq

inductive BusAccessDisposition where
  | allowed
  | blockedRead (value : U8) (reason : BusBlockReason)
  | ignoredWrite (reason : BusBlockReason)
  deriving Repr, DecidableEq

def BusAccessDisposition.blockedReason : BusAccessDisposition → Option BusBlockReason
  | .allowed => none
  | .blockedRead _ reason | .ignoredWrite reason => some reason

inductive DmaCpuAccessPolicy where
  | unrestricted
  | externalBusBlocked
  | externalBusOnlyBlocked
  | videoBusBlocked
  | wramBusBlocked
  deriving Repr, DecidableEq

inductive DmaMemoryRegionImpact where
  | oam
  | vram
  deriving Repr, DecidableEq

structure DmaBusState where
  cpuAccessPolicy : DmaCpuAccessPolicy
  activeRegion : Option DmaMemoryRegionImpact
  cpuConflictSourceAddress : Option U16
  deriving Repr, DecidableEq

def DmaBusState.unrestricted : DmaBusState := ⟨.unrestricted, none, none⟩

structure BootRomBusState where
  lowWindowMapped : Bool
  cgbUpperWindowMapped : Bool
  deriving Repr, DecidableEq

namespace BootRomBusState

def unmapped : BootRomBusState := ⟨false, false⟩
def mapDmgLowBytes : BootRomBusState := ⟨true, false⟩
def mapCgbWindows : BootRomBusState := ⟨true, true⟩

def overlaysRead (b : BootRomBusState) (address : U16) : Bool :=
  (b.lowWindowMapped && address ≤ 0x00FF) ||
    (b.cgbUpperWindowMapped && 0x0200 ≤ address && address ≤ 0x08FF)

end BootRomBusState

structure PpuBusState where
  lcdEnabled : Bool
  mode : PpuAccessMode
  deriving Repr, DecidableEq

def PpuBusState.lcdDisabled : PpuBusState := ⟨false, .hBlank⟩

structure BusArbitrationState where
  bootRom : BootRomBusState
  ppu : PpuBusState
  dma : DmaBusState
  deriving Repr, DecidableEq

def BusArbitrationState.default : BusArbitrationState := ⟨.unmapped, .lcdDisabled, .unrestricted⟩

/-! ## What the DMA controller holds -/

inductive DmaSourceBus where
  | external
  | videoRam
  | workRam
  deriving Repr, DecidableEq

namespace DmaTransfer

def sourceBus (t : DmaTransfer) : DmaSourceBus :=
  let address := t.sourceAddressForByte 0
  if 0x8000 ≤ address ∧ address ≤ 0x9FFF then .videoRam
  else if 0xC000 ≤ address ∧ address ≤ 0xFDFF then .workRam
  else .external

def memoryRegionImpact (t : DmaTransfer) : DmaMemoryRegionImpact :=
  match t.kind with
  | .oam => .oam
  | .gdma | .hdma => .vram

end DmaTransfer

namespace DmaController

/-- The policy of a transfer that restricts the CPU. -/
def restrictedBusState (d : DmaController) (progress : DmaTransferProgress) : DmaBusState :=
  let impact := some progress.transfer.memoryRegionImpact
  if progress.transfer.kind.isVram then ⟨.videoBusBlocked, impact, none⟩
  else
    let cpuConflictSourceAddress :=
      if 0 < progress.completedBytes then
        some (progress.transfer.sourceAddressForByte (progress.completedBytes - 1))
      else none
    match progress.transfer.sourceBus with
    | .external =>
        if d.consoleModel.isCgbFamily then
          ⟨.externalBusOnlyBlocked, impact, cpuConflictSourceAddress⟩
        else ⟨.externalBusBlocked, impact, cpuConflictSourceAddress⟩
    | .videoRam => ⟨.videoBusBlocked, impact, cpuConflictSourceAddress⟩
    | .workRam =>
        if d.consoleModel.isCgbFamily then ⟨.wramBusBlocked, impact, cpuConflictSourceAddress⟩
        else ⟨.externalBusBlocked, impact, cpuConflictSourceAddress⟩

def busState (d : DmaController) : DmaBusState :=
  match d.transferState with
  | .idle | .completed _ => .unrestricted
  | .starting progress | .active progress =>
      if !progress.isCpuBusRestrictionActive then .unrestricted else d.restrictedBusState progress

end DmaController

/-! ## The policies -/

def blockAccess (kind : BusAccessKind) (reason : BusBlockReason) : BusAccessDisposition :=
  match kind with
  | .read => .blockedRead blockedReadValue reason
  | .write => .ignoredWrite reason

def evaluateGlobalDmaPolicy (requester : BusRequester) (kind : BusAccessKind)
    (target : BusAddressInfo) (state : BusArbitrationState) : Option BusAccessDisposition :=
  if requester ≠ .cpu then none
  else
    match state.dma.cpuAccessPolicy with
    | .unrestricted => none
    | .externalBusBlocked =>
        if target.region = .hram ∨ target.address = 0xFF46 then none
        else some (blockAccess kind .dmaExternalBusConflict)
    | .externalBusOnlyBlocked =>
        if target.region ∈ [.cartridgeRomBank0, .cartridgeRomBankN, .cartridgeExternal, .oam] then
          some (blockAccess kind .dmaExternalBusConflict)
        else none
    | .videoBusBlocked =>
        if target.region ∈ [.vram, .oam] then some (blockAccess kind .dmaVideoBusConflict)
        else none
    | .wramBusBlocked =>
        if target.region ∈ [.wramBank0, .wramBankN, .echoRam, .oam] then
          some (blockAccess kind .dmaWramBusConflict)
        else none

namespace OamDomain

def evaluateAccess (requester : BusRequester) (kind : BusAccessKind) (ppu : PpuBusState)
    (dma : DmaBusState) : Option BusAccessDisposition :=
  if requester ≠ .cpu then none
  else if dma.cpuAccessPolicy = .videoBusBlocked then some (blockAccess kind .dmaVideoBusConflict)
  else if !ppu.lcdEnabled then none
  else
    match ppu.mode with
    | .oamScan => some (blockAccess kind .ppuOamBlockedDuringMode2)
    | .drawing => some (blockAccess kind .ppuOamBlockedDuringMode3)
    | .hBlank | .vBlank => none

end OamDomain

namespace VramDomain

def evaluateAccess (requester : BusRequester) (kind : BusAccessKind) (ppu : PpuBusState)
    (dma : DmaBusState) : Option BusAccessDisposition :=
  if requester ≠ .cpu then none
  else if dma.cpuAccessPolicy = .videoBusBlocked then some (blockAccess kind .dmaVideoBusConflict)
  else if ppu.lcdEnabled && ppu.mode = .drawing then
    some (blockAccess kind .ppuVramBlockedDuringMode3)
  else none

end VramDomain

def evaluateDomainPolicy (requester : BusRequester) (kind : BusAccessKind)
    (target : BusAddressInfo) (state : BusArbitrationState) : Option BusAccessDisposition :=
  match target.region with
  | .vram => VramDomain.evaluateAccess requester kind state.ppu state.dma
  | .oam => OamDomain.evaluateAccess requester kind state.ppu state.dma
  | _ => none

/-- `unusable` is the description of the unusable byte at the target, where there is one. -/
def evaluateUnusablePolicy (unusable : Option UnusableAreaInfo) (requester : BusRequester)
    (kind : BusAccessKind) (target : BusAddressInfo) (state : BusArbitrationState) :
    Option BusAccessDisposition :=
  if target.region ≠ .unusable then none
  else if kind = .write && (unusable.map (·.runtimeFallbackWritesIgnored)).getD true then
    some (.ignoredWrite .unusableRegion)
  else if requester = .cpu && state.dma.cpuAccessPolicy = .videoBusBlocked then
    some (.blockedRead blockedReadValue .unusableRegionDuringDmaVideoBusConflict)
  else if requester = .cpu && state.ppu.lcdEnabled &&
      (state.ppu.mode = .oamScan || state.ppu.mode = .drawing) then
    some (.blockedRead blockedReadValue .unusableRegionDuringOamBlock)
  else none

def evaluateAccessPolicy (unusable : Option UnusableAreaInfo) (requester : BusRequester)
    (kind : BusAccessKind) (target : BusAddressInfo) (state : BusArbitrationState) :
    BusAccessDisposition :=
  match evaluateGlobalDmaPolicy requester kind target state with
  | some disposition => disposition
  | none =>
    match evaluateDomainPolicy requester kind target state with
    | some disposition => disposition
    | none =>
      match evaluateUnusablePolicy unusable requester kind target state with
      | some disposition => disposition
      | none => .allowed

/-! ## Where an access goes -/

def resolveNominalTarget (kind : BusAccessKind) (address : U16) (state : BusArbitrationState) :
    BusAddressInfo :=
  if kind = .read && state.bootRom.overlaysRead address then ⟨address, .bootRom, address⟩
  else decodeAddress address

def addressUsesHotCpuTimedFastPath (address : U16) : Bool :=
  address ≤ 0x7FFF || (0xA000 ≤ address && address ≤ 0xBFFF) ||
    (0xC000 ≤ address && address ≤ 0xFDFF)

def addressUsesHotCpuExternalBus (address : U16) : Bool :=
  address ≤ 0x7FFF || (0xA000 ≤ address && address ≤ 0xBFFF)

def addressUsesHotCpuWramBus (address : U16) : Bool := 0xC000 ≤ address && address ≤ 0xFDFF

/-- The address that the DMA controller is driving on the bus that a CPU access uses. -/
def cpuDmaConflictSourceAddress (requester : BusRequester) (address : U16)
    (nominalTarget : BusAddressInfo) (state : BusArbitrationState) : Option U16 :=
  if requester ≠ .cpu then none
  else
    match state.dma.cpuAccessPolicy with
    | .externalBusBlocked =>
        if !addressUsesHotCpuTimedFastPath address then none
        else state.dma.cpuConflictSourceAddress
    | .externalBusOnlyBlocked =>
        if !addressUsesHotCpuExternalBus address ||
            nominalTarget.region ∉ [.cartridgeRomBank0, .cartridgeRomBankN, .cartridgeExternal] then
          none
        else state.dma.cpuConflictSourceAddress
    | .wramBusBlocked =>
        if !addressUsesHotCpuWramBus address ||
            nominalTarget.region ∉ [.wramBank0, .wramBankN, .echoRam] then
          none
        else state.dma.cpuConflictSourceAddress
    | .unrestricted | .videoBusBlocked => none

structure BusAccessResolution where
  requester : BusRequester
  kind : BusAccessKind
  requestedAddress : U16
  nominalTarget : BusAddressInfo
  target : BusAddressInfo
  nominalCartridgeExternal : Option CartridgeExternalAccessInfo
  cartridgeExternal : Option CartridgeExternalAccessInfo
  nominalDisposition : BusAccessDisposition
  disposition : BusAccessDisposition
  deriving Repr, DecidableEq

end GbCycle
