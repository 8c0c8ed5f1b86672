import GbCycle.Bus.Corruption
import GbCycle.Bus.MemoryRefinement
import GbCycle.Dma.OamCopies

/-!
# OAM DMA on the bus

The controller's copies go through the bus like anyone's accesses, and while a transfer holds the
bus the CPU's are turned away from it: they are blocked, or they land on the byte copied last.
We put the bus, a cartridge, the DMA controller and the other devices together and let the
controller's ticks come in between the CPU's accesses, the addresses it puts on its internal bus and
whatever the rest of the machine does.  A transfer out of work RAM or video RAM then copies its page
as it was when it took the bus, and the only bytes of OAM that can differ from the copy are those
that OAM corruption reaches, which no transfer holds back.
-/

namespace GbCycle

/-! ## The system -/

def VramDmaState.isActive : VramDmaState → Bool
  | .generalPurposeActive _ | .hBlankActive _ => true
  | .inactive _ | .generalPurposeComplete _ => false

def DmaController.requiresTCycleTick (d : DmaController) : Bool :=
  d.transferState.isInFlight || d.pendingRestart.isSome || d.vramDmaState.isActive

def vramDmaInvalidSourceReadValue : U8 := 0xFF

def vramDmaSourceAddressIsSupported (address : U16) : Bool :=
  address ≤ 0x7FFF || (0xA000 ≤ address && address ≤ 0xDFFF)

def DmaTransferWork.sourceReadValueOverride (w : DmaTransferWork) : Option U8 :=
  if w.transfer.kind.isVram && !vramDmaSourceAddressIsSupported w.sourceAddress then
    some vramDmaInvalidSourceReadValue
  else none

/-- The bus, and what it is lent: a cartridge, the DMA controller and the other devices. -/
structure MemorySystem (κ π : Type) where
  bus : Bus
  cartridge : κ
  dma : DmaController
  devices : BusIoView π

namespace MemorySystem

variable {κ : Type} [CartridgePort κ] {π : Type} [PpuRegisters π]

def view (s : MemorySystem κ π) : BusIoView π := { s.devices with dma := some s.dma }

def arbitration (s : MemorySystem κ π) (ppu : PpuBusState) (dma : DmaController) :
    BusArbitrationState :=
  { bootRom := s.devices.boot.elim .unmapped BootController.busState, ppu, dma := dma.busState }

/-- The byte that the controller moves in a T-cycle: read through the bus, at its end written
through the bus. -/
def copyByte (s : MemorySystem κ π) (work : DmaTransferWork) (state : BusArbitrationState)
    (tCycle : Nat) : Option (MemorySystem κ π) := do
  let (value, cartridge) ←
    match work.sourceReadValueOverride with
    | some value => some (value, some s.cartridge)
    | none =>
        s.bus.readWithTCycleContext work.sourceAddress .dma state tCycle (some s.cartridge) s.view
  let (bus, _) ← s.bus.writeWithContext work.destinationAddress value .dma state
    (none : Option κ) (BusIoView.default : BusIoView π)
  some { s with bus, cartridge := cartridge.getD s.cartridge }

/-- The part of a T-cycle that is the controller's. -/
def dmaTick (s : MemorySystem κ π) (context : VramDmaRuntimeContext) (tCycle : Nat) :
    Option (MemorySystem κ π) :=
  if !s.dma.requiresTCycleTick then some s
  else
    let (work, dma) := s.dma.tickTCycle context
    match work with
    | none => some { s with dma }
    | some work =>
        { s with dma }.copyByte work (s.arbitration ⟨context.lcdEnabled, context.ppuMode⟩ dma) tCycle

def cpuRead (s : MemorySystem κ π) (address : U16) (ppu : PpuBusState) (tCycle : Nat) :
    Option (U8 × MemorySystem κ π) := do
  let (value, cartridge) ← s.bus.readWithTCycleContext address .cpu (s.arbitration ppu s.dma) tCycle
    (some s.cartridge) s.view
  some (value, { s with cartridge := cartridge.getD s.cartridge })

/-- The address event of a micro-operation, which the bus is told of after its accesses. -/
def cpuAddressEvent (s : MemorySystem κ π) (event : CpuAddressEvent) (state : PpuBusState)
    (ppu : Ppu) : MemorySystem κ π :=
  { s with bus := s.bus.routeCpuAddressEvent event (s.arbitration state s.dma) ppu }

def cpuWrite (s : MemorySystem κ π) (address : U16) (value : U8) (ppu : PpuBusState)
    (tCycle : Nat) : Option (MemorySystem κ π) := do
  let (bus, cartridge, io) ← s.bus.writeWithTCycleContext address value .cpu
    (s.arbitration ppu s.dma) tCycle (some s.cartridge) s.view
  some { bus, cartridge := cartridge.getD s.cartridge, dma := io.dma.getD s.dma, devices := io }

end MemorySystem

/-- An address event that the policies of a transfer do not keep from OAM. -/
def CpuAddressEvent.reachesOam (event : CpuAddressEvent) : Bool :=
  event.accessAddress.any (fun address => 0xFEA0 ≤ address && address ≤ 0xFEFF) ||
    (iduGlitchedAddress event).any addressMayHitOamCorruption

/-- What happens to the system: a tick of the controller, an access of the CPU, an address event of
the CPU with the PPU as it is then, or anything else in the rest of the machine. -/
inductive MemoryEvent (κ π : Type) where
  | dmaTick (context : VramDmaRuntimeContext) (tCycle : Nat)
  | cpuRead (address : U16) (ppu : PpuBusState) (tCycle : Nat)
  | cpuWrite (address : U16) (value : U8) (ppu : PpuBusState) (tCycle : Nat)
  | cpuAddressEvent (event : CpuAddressEvent) (state : PpuBusState) (ppu : Ppu)
  | environment (cartridge : κ) (devices : BusIoView π)

namespace MemoryEvent

variable {κ π : Type}

def isTick : MemoryEvent κ π → Bool
  | .dmaTick .. => true
  | _ => false

/-- The ticks of a run. -/
def ticks (es : List (MemoryEvent κ π)) : Nat := es.countP isTick

/-- The event is not a CPU write that starts a transfer or selects a bank. -/
def leavesDma : MemoryEvent κ π → Bool
  | .cpuWrite address .. => address ∉ ([0xFF46, 0xFF55, 0xFF70, 0xFF4F] : List U16)
  | _ => true

/-- The event corrupts no byte `k` of OAM while a transfer holds the bus: only a monochrome PPU that
scans OAM corrupts it, for an access to the unusable bytes or a register counted over page `FE`, in
the row it scans and the two before. -/
def Spares (k : Nat) : MemoryEvent κ π → Prop
  | .cpuAddressEvent event _ ppu =>
      ppu.consoleModel.isDmgFamily = true → event.reachesOam = true →
        ∀ row, ppu.currentMode2OamRow = some row → OutsideCorruption row k
  | _ => True

end MemoryEvent

namespace MemorySystem

variable {κ : Type} [CartridgePort κ] {π : Type} [PpuRegisters π]

def event (s : MemorySystem κ π) : MemoryEvent κ π → Option (MemorySystem κ π)
  | .dmaTick context tCycle => s.dmaTick context tCycle
  | .cpuRead address ppu tCycle => (s.cpuRead address ppu tCycle).map Prod.snd
  | .cpuWrite address value ppu tCycle => s.cpuWrite address value ppu tCycle
  | .cpuAddressEvent event state ppu => some (s.cpuAddressEvent event state ppu)
  | .environment cartridge devices => some { s with cartridge, devices }

def run (s : MemorySystem κ π) (es : List (MemoryEvent κ π)) : Option (MemorySystem κ π) :=
  es.foldlM event s

end MemorySystem

/-! ## What a CPU write leaves of the controller -/

/-- The transfer in the slot and the one that waits. -/
def BusIoView.dmaSlot {π : Type} (io : BusIoView π) :
    Option (DmaTransferState × Option DmaTransferProgress) :=
  io.dma.map fun d => (d.transferState, d.pendingRestart)

theorem dmaRegister_address {a : U16} {info : IoRegisterInfo}
    (h : describeIoRegister a = some info) (hff46 : a ≠ 0xFF46) (hff55 : a ≠ 0xFF55) :
    info.kind ≠ .oamDma ∧ info.kind ≠ .hdma5 := by
  obtain ⟨r, hmem, hcovers, rfl⟩ := describeIoRegister_mem h
  have htable : ∀ r ∈ ioRegisterRanges,
      (r.first = 0xFF46 ∧ r.last = 0xFF46) ∨ (r.first = 0xFF55 ∧ r.last = 0xFF55) ∨
      (r.info.kind ≠ .oamDma ∧ r.info.kind ≠ .hdma5) := by decide
  rcases htable r hmem with ⟨hfirst, hlast⟩ | ⟨hfirst, hlast⟩ | hkind
  · rw [IoRegisterRange.covers, hfirst, hlast, Bool.and_eq_true, decide_eq_true_eq,
      decide_eq_true_eq] at hcovers
    exact absurd (by bv_omega) hff46
  · rw [IoRegisterRange.covers, hfirst, hlast, Bool.and_eq_true, decide_eq_true_eq,
      decide_eq_true_eq] at hcovers
    exact absurd (by bv_omega) hff55
  · exact hkind

section DmaSlot

variable {κ : Type} [CartridgePort κ] {π : Type} [PpuRegisters π]

theorem writeIoRegister_dmaSlot {d d' : IoHramDomain} {info : IoRegisterInfo} {a : U16}
    {value : U8} {io io' : BusIoView π} (hkind : info.kind ≠ .oamDma ∧ info.kind ≠ .hdma5)
    (h : d.writeIoRegister info a value io = some (d', io')) : io'.dmaSlot = io.dmaSlot := by
  obtain ⟨owner, availability, implementation, kind⟩ := info
  have hhdma {f : DmaController → U8 → DmaController}
      (hf : ∀ d, (f d value).transferState = d.transferState ∧
        (f d value).pendingRestart = d.pendingRestart) :
      (io.dma.map (f · value)).map (fun d => (d.transferState, d.pendingRestart)) =
        io.dmaSlot := by
    unfold BusIoView.dmaSlot
    cases io.dma with
    | none => rfl
    | some d => rw [Option.map_some, Option.map_some, Option.map_some, (hf d).1, (hf d).2]
  unfold IoHramDomain.writeIoRegister at h
  cases kind
  case oamDma => exact absurd rfl hkind.1
  case hdma5 => exact absurd rfl hkind.2
  case hdma1 | hdma2 | hdma3 | hdma4 =>
    obtain ⟨-, rfl⟩ := Prod.mk.inj (Option.some.inj h)
    exact hhdma fun _ => ⟨rfl, rfl⟩
  case div =>
    obtain ⟨-, rfl⟩ := Prod.mk.inj (Option.some.inj h)
    unfold IoHramDomain.writeDiv
    split <;> rfl
  case bootRomDisable =>
    obtain ⟨-, rfl⟩ := Prod.mk.inj (Option.some.inj h)
    unfold IoHramDomain.writeBootRomDisable
    split <;> rfl
  all_goals first
    | (obtain ⟨-, rfl⟩ := Prod.mk.inj (Option.some.inj h); rfl)
    | (cases owner <;> first
        | (obtain ⟨-, rfl⟩ := Prod.mk.inj (Option.some.inj h); rfl)
        | cases h)

theorem writeIohramTarget_dmaSlot {b b' : Bus} {target : BusAddressInfo} {value : U8}
    {io io' : BusIoView π} (hff46 : target.address ≠ 0xFF46) (hff55 : target.address ≠ 0xFF55)
    (h : b.writeIohramTarget target value io = some (b', io')) : io'.dmaSlot = io.dmaSlot := by
  have hdevices {iohram : IoHramDomain}
      (hwrite : b.iohram.writeIoTarget b.consoleModel b.operatingMode target.address value io =
        some (iohram, io')) : io'.dmaSlot = io.dmaSlot := by
    unfold IoHramDomain.writeIoTarget at hwrite
    split at hwrite
    · obtain ⟨-, rfl⟩ := Prod.mk.inj (Option.some.inj hwrite)
      rfl
    · rename_i hlive
      exact writeIoRegister_dmaSlot
        (dmaRegister_address (Option.filter_eq_some_iff.mp hlive).1 hff46 hff55) hwrite
  unfold Bus.writeIohramTarget IoHramDomain.write at h
  split at h
  · obtain ⟨-, rfl⟩ := Prod.mk.inj (Option.some.inj h)
    rfl
  · simp only [Option.bind_eq_bind, Option.bind_eq_some_iff] at h
    obtain ⟨⟨iohram, io''⟩, hwrite, hresult⟩ := h
    obtain ⟨-, rfl⟩ := Prod.mk.inj (Option.some.inj hresult)
    split at hwrite
    · simp only [Option.bind_eq_some_iff] at hwrite
      obtain ⟨hram, -, hwrite⟩ := hwrite
      obtain ⟨-, rfl⟩ := Prod.mk.inj (Option.some.inj hwrite)
      rfl
    · exact hdevices hwrite
    · exact hdevices hwrite
    · cases hwrite

/-- A performed write elsewhere leaves the transfers alone. -/
theorem performAllowedWriteTimed_dmaSlot {b b' : Bus} {target : BusAddressInfo} {value : U8}
    {tCycle : Nat} {cartridge cartridge' : Option κ} {io io' : BusIoView π}
    (hff46 : target.address ≠ 0xFF46) (hff55 : target.address ≠ 0xFF55)
    (h : b.performAllowedWriteTimed target value tCycle cartridge io =
      some (b', cartridge', io')) : io'.dmaSlot = io.dmaSlot := by
  unfold Bus.performAllowedWriteTimed at h
  split at h
  case h_1 => cases h
  case h_10 =>
    obtain ⟨-, -, rfl⟩ : b = b' ∧ cartridge = cartridge' ∧ io = io' := by simpa using h
    rfl
  all_goals
    rw [Option.map_eq_some_iff] at h
    obtain ⟨r, hwrite, hresult⟩ := h
  case h_11 | h_12 | h_13 =>
    obtain ⟨-, -, rfl⟩ : r.1 = b' ∧ cartridge = cartridge' ∧ r.2 = io' := by simpa using hresult
    exact writeIohramTarget_dmaSlot hff46 hff55 hwrite
  all_goals
    obtain rfl := congrArg (fun r => r.2.2) hresult
    rfl

end DmaSlot

/-! ## The source of a transfer -/

/-- The address that byte `k` of a page is copied from. -/
def oamSource (page : U8) (k : Nat) : U16 := (DmaTransfer.oam page).sourceAddressForByte k

/-- A page of video RAM. -/
def IsVideoPage (page : U8) : Prop := 0x80 ≤ page.toNat ∧ page.toNat ≤ 0x9F

/-- A page that the controller reads from work RAM: the last ones are its echo. -/
def IsWorkPage (page : U8) : Prop := 0xC0 ≤ page.toNat

section Source

variable {page : U8} {k j : Nat} {m : BankedMemory}

theorem oamSource_toNat (hk : k < 160) : (oamSource page k).toNat =
    256 * (if 0xE0 ≤ page.toNat then page.toNat - 0x20 else page.toNat) + k := by
  have hpage := page.isLt
  have hsum : ((DmaTransfer.oam page).sourceStart + BitVec.ofNat 16 k).toNat =
      256 * page.toNat + k := by
    rw [DmaTransferState.oam_sourceStart, BitVec.toNat_add, BitVec.toNat_ofNat, BitVec.toNat_ofNat]
    omega
  show (normalizeOamSourceAddress _).toNat = _
  unfold normalizeOamSourceAddress dmgOamDmaEchoAliasOffset
  by_cases hecho : 0xE0 ≤ page.toNat
  · rw [if_pos (by bv_omega), if_pos hecho]
    bv_omega
  · rw [if_neg (by bv_omega), if_neg hecho, hsum]

theorem oamSource_video (hpage : IsVideoPage page) (hk : k < 160) :
    0x8000 ≤ oamSource page k ∧ oamSource page k ≤ 0x9FFF := by
  have hnat := @oamSource_toNat page k hk
  obtain ⟨hlow, hhigh⟩ := hpage
  rw [if_neg (by omega)] at hnat
  constructor <;> bv_omega

theorem oamSource_work (hpage : IsWorkPage page) (hk : k < 160) :
    0xC000 ≤ oamSource page k ∧ oamSource page k ≤ 0xDFFF := by
  have hnat := @oamSource_toNat page k hk
  have hlt := page.isLt
  unfold IsWorkPage at hpage
  split at hnat
  · constructor <;> bv_omega
  · constructor <;> bv_omega

theorem sourceBus_video (hpage : IsVideoPage page) :
    (DmaTransfer.oam page).sourceBus = .videoRam :=
  if_pos (oamSource_video hpage (by omega))

theorem sourceBus_work (hpage : IsWorkPage page) : (DmaTransfer.oam page).sourceBus = .workRam := by
  obtain ⟨hlow, hhigh⟩ := @oamSource_work page 0 hpage (by omega)
  have hlow' : 0xC000 ≤ (DmaTransfer.oam page).sourceAddressForByte 0 := hlow
  have hhigh' : (DmaTransfer.oam page).sourceAddressForByte 0 ≤ 0xDFFF := hhigh
  unfold DmaTransfer.sourceBus
  dsimp only
  rw [if_neg (by rintro ⟨-, h⟩; bv_omega), if_pos (by constructor <;> bv_omega)]

theorem locate_video (hpage : IsVideoPage page) (hk : k < 160) :
    m.locate (oamSource page k) =
      some (.vram m.vramBank (Fin.ofNat 0x2000 (oamSource page k).toNat)) :=
  if_pos (oamSource_video hpage hk)

theorem locate_work (hpage : IsWorkPage page) (hk : k < 160) :
    m.locate (oamSource page k) =
      some (.wram (if (oamSource page k).getLsbD 12 then m.wramBank else 0)
        (Fin.ofNat 0x1000 (oamSource page k).toNat)) := by
  obtain ⟨hlow, hhigh⟩ := @oamSource_work page k hpage hk
  exact BankedMemory.locate_of_wram hlow (by bv_omega)

/-- The bytes of a page lie in cells of their own. -/
theorem oamSource_cell_injective (hpage : IsVideoPage page ∨ IsWorkPage page) (hk : k < 160)
    (hj : j < 160) (h : m.locate (oamSource page k) = m.locate (oamSource page j)) : k = j := by
  have hnatk := @oamSource_toNat page k hk
  have hnatj := @oamSource_toNat page j hj
  rcases hpage with hpage | hpage
  · rw [locate_video hpage hk, locate_video hpage hj] at h
    have hoffset : (oamSource page k).toNat % 0x2000 = (oamSource page j).toNat % 0x2000 := by
      injection h with h
      injection h with _ h
      exact Fin.val_eq_of_eq h
    omega
  · rw [locate_work hpage hk, locate_work hpage hj] at h
    have hoffset : (oamSource page k).toNat % 0x1000 = (oamSource page j).toNat % 0x1000 := by
      injection h with h
      injection h with _ h
      exact Fin.val_eq_of_eq h
    omega

end Source

/-! ## What a transfer that holds the bus leaves to the CPU -/

section Held

variable {d : DmaController} {page : U8} {n k : Nat}

theorem busState_of_runsOam (h : d.transferState.RunsOam page n) (hn : 5 ≤ n) :
    d.busState = d.restrictedBusState ⟨.oam page, n⟩ := by
  unfold DmaController.busState
  generalize d.transferState = t at h ⊢
  cases h with
  | starting early => omega
  | active late running =>
      dsimp only
      rw [DmaTransferState.isCpuBusRestrictionActive_oam.mpr hn]
      rfl

/-- The policy is that of the bus that holds the page, and the conflict is with the byte copied
last. -/
theorem restrictedBusState_oam (hpage : IsVideoPage page ∨ IsWorkPage page) :
    let state := d.restrictedBusState ⟨.oam page, n⟩
    (state.cpuConflictSourceAddress =
      if 0 < oamDue n then some (oamSource page (oamDue n - 1)) else none) ∧
    ((IsVideoPage page ∧ state.cpuAccessPolicy = .videoBusBlocked) ∨
      (IsWorkPage page ∧ (state.cpuAccessPolicy = .externalBusBlocked ∨
        state.cpuAccessPolicy = .wramBusBlocked))) := by
  intro state
  have hstate : state = d.restrictedBusState ⟨.oam page, n⟩ := rfl
  unfold DmaController.restrictedBusState at hstate
  dsimp only at hstate
  rw [show (DmaTransfer.oam page).kind.isVram = false from rfl, if_neg Bool.false_ne_true] at hstate
  rw [DmaTransferState.completedBytes_oam] at hstate
  rcases hpage with hpage | hpage
  · rw [sourceBus_video hpage] at hstate
    rw [hstate]
    exact ⟨rfl, .inl ⟨hpage, rfl⟩⟩
  · rw [sourceBus_work hpage] at hstate
    dsimp only at hstate
    cases hcgb : d.consoleModel.isCgbFamily with
    | true =>
        rw [hcgb, if_pos rfl] at hstate
        rw [hstate]
        exact ⟨rfl, .inr ⟨hpage, .inr rfl⟩⟩
    | false =>
        rw [hcgb, if_neg (by decide)] at hstate
        rw [hstate]
        exact ⟨rfl, .inr ⟨hpage, .inl rfl⟩⟩

/-- A conflict is with the address that the controller names, on a bus that it holds. -/
theorem cpuDmaConflictSourceAddress_some {requester : BusRequester} {a source : U16}
    {target : BusAddressInfo} {state : BusArbitrationState}
    (h : cpuDmaConflictSourceAddress requester a target state = some source) :
    state.dma.cpuConflictSourceAddress = some source := by
  unfold cpuDmaConflictSourceAddress at h
  split at h
  · cases h
  · split at h
    all_goals first
      | cases h
      | (split at h
         · cases h
         · exact h)

/-- What the global policy of the bus that holds the page lets through. -/
theorem region_of_held {state : BusArbitrationState} {target : BusAddressInfo}
    (hpolicy : (IsVideoPage page ∧ state.dma.cpuAccessPolicy = .videoBusBlocked) ∨
      (IsWorkPage page ∧ (state.dma.cpuAccessPolicy = .externalBusBlocked ∨
        state.dma.cpuAccessPolicy = .wramBusBlocked)))
    (hff46 : target.address ≠ 0xFF46)
    (hglobal : evaluateGlobalDmaPolicy .cpu .write target state = none) :
    target.region ≠ .oam ∧ (IsVideoPage page → target.region ≠ .vram) ∧
      (IsWorkPage page → target.region ∉ [.wramBank0, .wramBankN, .echoRam]) := by
  have hexclusive : IsVideoPage page → ¬ IsWorkPage page := by
    intro hvideo hwork
    have hhigh := hvideo.2
    unfold IsWorkPage at hwork
    omega
  unfold evaluateGlobalDmaPolicy at hglobal
  rw [if_neg (by decide)] at hglobal
  rcases hpolicy with ⟨hpage, hpolicy⟩ | ⟨hpage, hpolicy | hpolicy⟩
  · rw [hpolicy] at hglobal
    dsimp only at hglobal
    split at hglobal
    · cases hglobal
    · rename_i hregion
      refine ⟨fun h => hregion ?_, fun _ h => hregion ?_, fun hwork => absurd hwork (hexclusive hpage)⟩
      · rw [h]; decide
      · rw [h]; decide
  · rw [hpolicy] at hglobal
    dsimp only at hglobal
    split at hglobal
    · rename_i hregion
      have hhram := hregion.resolve_right hff46
      rw [hhram]
      exact ⟨by decide, fun _ => by decide, fun _ => by decide⟩
    · cases hglobal
  · rw [hpolicy] at hglobal
    dsimp only at hglobal
    split at hglobal
    · cases hglobal
    · rename_i hregion
      refine ⟨fun h => hregion ?_, fun hvideo => absurd hpage (hexclusive hvideo), fun _ h => hregion ?_⟩
      · rw [h]; decide
      · exact List.mem_append_left [.oam] h

/-- The cell at an address of another region than the page's. -/
theorem cell_of_held {a : U16} {m : BankedMemory} {cell : BusCell}
    (hpage : IsVideoPage page ∨ IsWorkPage page) (hoam : (decodeAddress a).region ≠ .oam)
    (hvideo : IsVideoPage page → (decodeAddress a).region ≠ .vram)
    (hwork : IsWorkPage page → (decodeAddress a).region ∉ [.wramBank0, .wramBankN, .echoRam])
    (hcell : m.locate a = some cell) :
    (∀ offset, cell ≠ .oam offset) ∧ ∀ k < 160, m.locate (oamSource page k) ≠ some cell := by
  constructor
  · rintro offset rfl
    obtain ⟨hlow, hhigh, -⟩ := BankedMemory.locate_oam hcell
    refine hoam (decodeAddress_region_iff.mpr ?_)
    simp only [BusRegion.range]
    constructor <;> bv_omega
  · intro k hk hsource
    rcases hpage with hpage | hpage
    · rw [locate_video hpage hk] at hsource
      obtain rfl := Option.some.inj hsource
      obtain ⟨hlow, hhigh, -⟩ := BankedMemory.locate_vram hcell
      refine hvideo hpage (decodeAddress_region_iff.mpr ?_)
      simp only [BusRegion.range]
      constructor <;> bv_omega
    · rw [locate_work hpage hk] at hsource
      obtain rfl := Option.some.inj hsource
      obtain ⟨hlow, hhigh, -⟩ := BankedMemory.locate_wram hcell
      refine hwork hpage ?_
      rcases Bus.region_of_wram hlow hhigh with hregion | hregion | hregion
      all_goals
        rw [hregion]
        decide

/-- While a transfer holds the bus, a CPU write lands on the byte copied last, or away from the
page and from OAM. -/
theorem cpuWrite_target {b : Bus} {state : BusArbitrationState} {a : U16}
    {target : BusAddressInfo} (hpage : IsVideoPage page ∨ IsWorkPage page)
    (hdma : state.dma = d.restrictedBusState ⟨.oam page, n⟩) (hff46 : a ≠ 0xFF46)
    (h : b.performedTarget .cpu .write a state = some target) :
    (0 < oamDue n ∧ target.address = oamSource page (oamDue n - 1)) ∨
    (target.address = a ∧ ∀ (m : BankedMemory) cell, m.locate a = some cell →
      (∀ offset, cell ≠ .oam offset) ∧ ∀ k < 160, m.locate (oamSource page k) ≠ some cell) := by
  obtain ⟨hconflict, hpolicy⟩ := @restrictedBusState_oam d page n hpage
  rw [← hdma] at hconflict hpolicy
  have hnominal : resolveNominalTarget .write a state = decodeAddress a :=
    Bus.resolveNominalTarget_of_not_overlaid fun h => by cases h
  unfold Bus.performedTarget at h
  dsimp only at h
  rw [hnominal] at h
  split at h
  · rename_i source hsource
    rw [cpuDmaConflictSourceAddress_some hsource] at hconflict
    rw [Bus.resolveNominalTarget_of_not_overlaid fun h => by cases h] at h
    obtain rfl := Option.some.inj h
    rw [decodeAddress_address]
    split at hconflict
    · rename_i hdue
      exact .inl ⟨hdue, Option.some.inj hconflict⟩
    · cases hconflict
  · split at h
    · rename_i hallowed
      obtain rfl := Option.some.inj h
      rw [decodeAddress_address]
      refine .inr ⟨rfl, fun m cell hcell => ?_⟩
      have hglobal : evaluateGlobalDmaPolicy .cpu .write (decodeAddress a) state = none := by
        unfold evaluateAccessPolicy at hallowed
        split at hallowed
        · rename_i hback
          obtain ⟨-, reason, rfl⟩ := evaluateGlobalDmaPolicy_some hback
          cases hallowed
        · assumption
      obtain ⟨hoam, hvideo, hwork⟩ := region_of_held hpolicy
        (by rw [decodeAddress_address]; exact hff46) hglobal
      exact cell_of_held hpage hoam hvideo hwork hcell
    · cases h

/-- OAM itself is held back from the CPU, for another reason than the PPU's. -/
theorem resolution_of_held {b : Bus} {state : BusArbitrationState} {a : U16}
    {kind : BusAccessKind} (hpage : IsVideoPage page ∨ IsWorkPage page)
    (hdma : state.dma = d.restrictedBusState ⟨.oam page, n⟩) (hlow : 0xFE00 ≤ a)
    (hhigh : a ≤ 0xFE9F) :
    let r := b.resolveRequesterAccess .cpu kind a state (none : Option CartridgeSlot)
    r.target.region = .oam ∧ r.disposition.blockedReason ≠ some .ppuOamBlockedDuringMode2 := by
  obtain ⟨-, hpolicy⟩ := @restrictedBusState_oam d page n hpage
  rw [← hdma] at hpolicy
  have hregion : (decodeAddress a).region = .oam := by
    rw [decodeAddress_region_iff]
    simp only [BusRegion.range]
    constructor <;> bv_omega
  have hnominal : resolveNominalTarget kind a state = decodeAddress a := by
    refine Bus.resolveNominalTarget_of_not_overlaid fun _ => ?_
    rw [← Bool.not_eq_true]
    intro hoverlay
    have hboot := Bus.overlaysRead_le hoverlay
    bv_omega
  have hcold : addressUsesHotCpuTimedFastPath a = false ∧ addressUsesHotCpuWramBus a = false := by
    simp only [addressUsesHotCpuTimedFastPath, addressUsesHotCpuWramBus, Bool.or_eq_false_iff,
      Bool.and_eq_false_iff, decide_eq_false_iff_not]
    refine ⟨⟨⟨?_, ?_⟩, ?_⟩, ?_⟩
    · bv_omega
    · right
      bv_omega
    · right
      bv_omega
    · right
      bv_omega
  have hff46 : (decodeAddress a).address ≠ 0xFF46 := by
    rw [decodeAddress_address]
    bv_omega
  have hconflict : cpuDmaConflictSourceAddress .cpu a (decodeAddress a) state = none := by
    unfold cpuDmaConflictSourceAddress
    rcases hpolicy with ⟨-, hpolicy⟩ | ⟨-, hpolicy | hpolicy⟩
    · simp [hpolicy]
    · simp [hpolicy, hcold.1]
    · simp [hpolicy, hcold.2]
  have hglobal : ∃ reason, reason ≠ .ppuOamBlockedDuringMode2 ∧
      evaluateGlobalDmaPolicy .cpu kind (decodeAddress a) state =
        some (blockAccess kind reason) := by
    unfold evaluateGlobalDmaPolicy
    rw [if_neg (by decide), hregion]
    rcases hpolicy with ⟨-, hpolicy⟩ | ⟨-, hpolicy | hpolicy⟩
    · exact ⟨.dmaVideoBusConflict, by decide, by rw [hpolicy]; rfl⟩
    · refine ⟨.dmaExternalBusConflict, by decide, ?_⟩
      rw [hpolicy]
      dsimp only
      rw [if_neg]
      rintro (hhram | haddress)
      · cases hhram
      · exact hff46 haddress
    · exact ⟨.dmaWramBusConflict, by decide, by rw [hpolicy]; rfl⟩
  obtain ⟨reason, hne, hglobal⟩ := hglobal
  unfold Bus.resolveRequesterAccess
  dsimp only
  rw [hnominal, hconflict]
  dsimp only
  rw [evaluateAccessPolicy, hglobal]
  refine ⟨hregion, fun hreason => hne ?_⟩
  cases kind with
  | read => exact Option.some.inj hreason
  | write => exact Option.some.inj hreason

/-- An address event that does not reach past the policies corrupts nothing. -/
theorem classifyOamCorruptionEvent_of_held {b : Bus} {event : CpuAddressEvent}
    {state : BusArbitrationState} (hpage : IsVideoPage page ∨ IsWorkPage page)
    (hdma : state.dma = d.restrictedBusState ⟨.oam page, n⟩) (hreaches : event.reachesOam = false) :
    b.classifyOamCorruptionEvent event state = none := by
  rw [CpuAddressEvent.reachesOam, Bool.or_eq_false_iff] at hreaches
  obtain ⟨haccess, hidu⟩ := hreaches
  have hnoIdu : (iduGlitchedAddress event).any b.iduEventReachesOam = false := by
    cases hglitched : iduGlitchedAddress event with
    | none => rfl
    | some glitched =>
        rw [hglitched, Option.any_some] at hidu
        rw [Option.any_some, Bus.iduEventReachesOam, hidu, Bool.and_false]
  have hnone (accessKind : BusAccessKind) (withIdu : Bool) (kind : OamCorruptionEventKind) :
      b.classifyOamAccess event state accessKind withIdu kind = none := by
    unfold Bus.classifyOamAccess
    cases haddress : event.accessAddress with
    | none => rfl
    | some a =>
        rw [haddress, Option.any_some, Bool.and_eq_false_iff, decide_eq_false_iff_not,
          decide_eq_false_iff_not] at haccess
        simp only [Option.bind_eq_bind, Option.bind_some, hidu, hnoIdu, Bool.and_false,
          Bool.not_false, Bool.and_true, Bool.or_false]
        by_cases hhit : addressMayHitOamCorruption a = true
        · obtain ⟨hlow, hhigh⟩ := page_of_mayHit hhit
          have hoam : a ≤ 0xFE9F := by
            rcases haccess with haccess | haccess
            · bv_omega
            · exact absurd hhigh haccess
          obtain ⟨hregion, hreason⟩ :=
            @resolution_of_held d page n b state a accessKind hpage hdma hlow hoam
          rw [hregion]
          simp [hhit, hreason]
        · rw [Bool.not_eq_true] at hhit
          simp [hhit]
  unfold Bus.classifyOamCorruptionEvent
  cases event.kind with
  | incDec =>
      cases hglitched : iduGlitchedAddress event with
      | none => rfl
      | some glitched =>
          rw [hglitched, Option.any_some] at hnoIdu
          simp [hnoIdu]
  | read => exact hnone .read false .read
  | write => exact hnone .write false .write
  | readWithIncDec => exact hnone .read true .readWithIncDec
  | writeWithIncDec => exact hnone .write true .writeWithIncDec

end Held

/-! ## A tick of a transfer -/

section Tick

variable {d : DmaController} {page : U8} {n : Nat}

/-- A tick goes on with the transfer, and copies the byte whose time has come. -/
theorem tickTCycle_oam (hslot : d.transferState.RunsOam page n) (hrestart : d.pendingRestart = none)
    (hlt : n + 1 < 648) (context : VramDmaRuntimeContext) :
    (d.tickTCycle context).2.transferState.RunsOam page (n + 1) ∧
    (d.tickTCycle context).2.pendingRestart = none ∧
    (d.tickTCycle context).1 =
      if oamDue (n + 1) ≤ oamDue n then none
      else some { transfer := .oam page, byteIndex := oamDue (n + 1) - 1 } := by
  obtain ⟨hpending, hsame, -⟩ := d.startHdmaBlockIfEligible_oam context
  have hslot' := hsame hslot.isInFlight
  unfold DmaController.tickTCycle
  dsimp only
  rw [hpending, hrestart]
  dsimp only
  obtain ⟨hnext, hkeep⟩ := (d.startHdmaBlockIfEligible context).tickTransfer_frame
  rw [hslot'] at hnext
  refine ⟨?_, (hkeep.trans hpending).trans hrestart, ?_⟩
  · rw [hnext]
    rcases hslot.advance with ⟨-, hrun⟩ | ⟨hend, -⟩
    · exact hrun
    · omega
  · show DmaController.transferWorkForCurrentTCycle _ _ = _
    unfold DmaController.transferWorkForCurrentTCycle
    rw [hslot', hslot.progress_eq, hslot.advance_progress]
    simp only [DmaTransferState.completedBytes_oam]

end Tick

/-! ## The copy -/

namespace MemorySystem

variable {κ : Type} [CartridgePort κ] {π : Type} [PpuRegisters π]

/-- A transfer of a page has run from `n₀` to `n` cycles on the bus, and OAM holds the bytes it
copied, out of the memory `m₀` that it found, where it is spared by corruption. -/
structure OamCopying (page : U8) (m₀ : BankedMemory) (spared : Fin 0xA0 → Prop) (n₀ n : Nat)
    (s : MemorySystem κ π) : Prop where
  wellFormed : s.bus.WellFormed
  held : 5 ≤ n₀
  le : n₀ ≤ n
  slot : s.dma.transferState.RunsOam page n
  restart : s.dma.pendingRestart = none
  wramBank : s.bus.memory.wramBank = m₀.wramBank
  vramBank : s.bus.memory.vramBank = m₀.vramBank
  source : ∀ k < 160, oamDue n ≤ k →
    s.bus.memory.load (oamSource page k) = m₀.load (oamSource page k)
  oam : ∀ k : Fin 0xA0, spared k → some (s.bus.memory.cells (.oam k)) =
    if oamDue n₀ ≤ k.val ∧ k.val < oamDue n then m₀.load (oamSource page k)
    else some (m₀.cells (.oam k))

variable {page : U8} {m₀ : BankedMemory} {spared : Fin 0xA0 → Prop} {n₀ n : Nat}
  {s : MemorySystem κ π}

/-- The destination of byte `k` is its place in OAM. -/
theorem oamDestination (k : Nat) (hk : k < 160) (m : BankedMemory) :
    let a := (DmaTransfer.oam page).destinationAddressForByte k
    (decodeAddress a).region = .oam ∧ m.locate a = some (.oam ⟨k, hk⟩) := by
  intro a
  have ha : a.toNat = 0xFE00 + k := by
    show (oamDmaDestinationStart + BitVec.ofNat 16 k).toNat = _
    rw [BitVec.toNat_add, BitVec.toNat_ofNat]
    show (0xFE00 + k % 2 ^ 16) % 2 ^ 16 = _
    omega
  refine ⟨?_, ?_⟩
  · rw [decodeAddress_region_iff]
    simp only [BusRegion.range]
    constructor <;> omega
  · obtain ⟨offset, hlocate, hval⟩ :=
      Bus.oam_locate (a := a) (by bv_omega) (by bv_omega) (n := k) (by omega) m
    rw [hlocate]
    congr 2
    exact Fin.ext hval.symm

/-- Nothing but memory is at the source of a page. -/
theorem load_oamSource (hpage : IsVideoPage page ∨ IsWorkPage page) {k : Nat} (hk : k < 160)
    (m : BankedMemory) : ∃ byte, m.load (oamSource page k) = some byte := by
  unfold BankedMemory.load
  rcases hpage with hpage | hpage
  · rw [locate_video hpage hk]
    exact ⟨_, rfl⟩
  · rw [locate_work hpage hk]
    exact ⟨_, rfl⟩

/-- A byte of the page goes from its place in memory to its place in OAM. -/
theorem copyByte_oam (h : s.bus.WellFormed) (hpage : IsVideoPage page ∨ IsWorkPage page)
    {k : Nat} (hk : k < 160) (state : BusArbitrationState) (tCycle : Nat) :
    ∃ byte s', s.copyByte { transfer := .oam page, byteIndex := k } state tCycle = some s' ∧
      s.bus.memory.load (oamSource page k) = some byte ∧
      s.bus.Follows s'.bus (s.bus.memory.store s.bus.hasSvbk s.bus.hasVbk
        ((DmaTransfer.oam page).destinationAddressForByte k) byte) ∧
      s'.dma = s.dma := by
  obtain ⟨byte, hbyte⟩ := load_oamSource hpage hk s.bus.memory
  have hsourceLow : 0x8000 ≤ oamSource page k := by
    rcases hpage with hpage | hpage
    · exact (oamSource_video hpage hk).1
    · have hlow := (oamSource_work hpage hk).1
      bv_omega
  have hread : ∃ cartridge', s.bus.readWithTCycleContext (oamSource page k) .dma state tCycle
      (some s.cartridge) s.view = some (byte, cartridge') := by
    have hnominal : resolveNominalTarget .read (oamSource page k) state =
        decodeAddress (oamSource page k) := by
      refine Bus.resolveNominalTarget_of_not_overlaid fun _ => ?_
      rw [← Bool.not_eq_true]
      intro hoverlay
      have hhigh := Bus.overlaysRead_le hoverlay
      bv_omega
    have hstatic : decodeAddress (oamSource page k) =
        decodeAddress (decodeAddress (oamSource page k)).address := by rw [decodeAddress_address]
    rw [Bus.readWithTCycleContext_eq, Bus.resolvedReadTimed_eq,
      Bus.performedTarget_of_ne_cpu (by decide) fun h => (by cases h), hnominal]
    have hloads : s.bus.Loads (decodeAddress (oamSource page k)).address
        ((s.bus.performAllowedReadTimed (decodeAddress (oamSource page k)) tCycle
          (some s.cartridge) s.view).map Prod.fst) :=
      Bus.performAllowedReadTimed_loads h (.inl hstatic) tCycle
    obtain ⟨value, hvalue, hagrees⟩ := hloads
    rw [decodeAddress_address] at hagrees
    obtain ⟨r, hr, rfl⟩ := Option.map_eq_some_iff.mp hvalue
    exact ⟨r.2, by rw [← hagrees byte hbyte]; exact hr⟩
  obtain ⟨cartridge', hread⟩ := hread
  obtain ⟨hregion, -⟩ := @oamDestination page k hk s.bus.memory
  have hwrite : ∃ bus' io', s.bus.writeWithContext
      ((DmaTransfer.oam page).destinationAddressForByte k) byte .dma state (none : Option κ)
        (BusIoView.default : BusIoView π) = some (bus', io') ∧
      s.bus.Follows bus' (s.bus.memory.store s.bus.hasSvbk s.bus.hasVbk
        ((DmaTransfer.oam page).destinationAddressForByte k) byte) := by
    have hnominal : resolveNominalTarget .write
        ((DmaTransfer.oam page).destinationAddressForByte k) state =
        decodeAddress ((DmaTransfer.oam page).destinationAddressForByte k) :=
      Bus.resolveNominalTarget_of_not_overlaid fun h => by cases h
    have husable : BusAccessKind.write = .write →
        (decodeAddress ((DmaTransfer.oam page).destinationAddressForByte k)).region ≠
          .unusable := by
      rw [hregion]
      decide
    have hstatic : decodeAddress ((DmaTransfer.oam page).destinationAddressForByte k) =
        decodeAddress (decodeAddress
          ((DmaTransfer.oam page).destinationAddressForByte k)).address := by
      rw [decodeAddress_address]
    rw [Bus.writeWithContext_eq, Bus.performedTarget_of_ne_cpu (by decide) husable, hnominal]
    have hstores : s.bus.Stores _ byte (s.bus.performAllowedWrite _ byte (none : Option κ)
        (BusIoView.default : BusIoView π)) := Bus.performAllowedWrite_stores h hstatic byte
    obtain ⟨bus', cartridge', io', hdone, hfollows⟩ := hstores
    rw [decodeAddress_address] at hfollows
    exact ⟨bus', _, hdone, hfollows⟩
  obtain ⟨bus', io', hwrite, hfollows⟩ := hwrite
  refine ⟨byte, { s with bus := bus', cartridge := cartridge'.getD s.cartridge }, ?_, hbyte,
    hfollows, rfl⟩
  unfold copyByte
  rw [show DmaTransferWork.sourceReadValueOverride { transfer := .oam page, byteIndex := k } = none
    from rfl]
  dsimp only
  rw [show DmaTransferWork.sourceAddress { transfer := .oam page, byteIndex := k } =
    oamSource page k from rfl, hread]
  simp only [Option.bind_eq_bind, Option.bind_some]
  rw [show DmaTransferWork.destinationAddress { transfer := .oam page, byteIndex := k } =
    (DmaTransfer.oam page).destinationAddressForByte k from rfl, hwrite]
  rfl

theorem oamDue_mono {n n' : Nat} (h : n ≤ n') : oamDue n ≤ oamDue n' := by
  unfold oamDue
  split <;> split <;> omega

/-- A store at the destination of byte `k`. -/
theorem store_oamDestination {b : Bus} {k : Nat} (hk : k < 160) (byte : U8) (m : BankedMemory) :
    let m' := m.store b.hasSvbk b.hasVbk ((DmaTransfer.oam page).destinationAddressForByte k) byte
    m'.wramBank = m.wramBank ∧ m'.vramBank = m.vramBank ∧
      (m'.cells (.oam ⟨k, hk⟩) = byte) ∧
      (∀ cell, cell ≠ .oam ⟨k, hk⟩ → m'.cells cell = m.cells cell) := by
  intro m'
  obtain ⟨hregion, hlocate⟩ := @oamDestination page k hk m
  obtain ⟨hfirst, hlast⟩ := decodeAddress_region_iff.mp hregion
  simp only [BusRegion.range] at hfirst hlast
  have hsvbk (_ : b.hasSvbk = true) :
      (DmaTransfer.oam page).destinationAddressForByte k ≠ 0xFF70 := by bv_omega
  have hvbk (_ : b.hasVbk = true) :
      (DmaTransfer.oam page).destinationAddressForByte k ≠ 0xFF4F := by bv_omega
  obtain ⟨hwram, hvram⟩ := @BankedMemory.store_banks m _ byte b.hasSvbk b.hasVbk hsvbk hvbk
  refine ⟨hwram, hvram, BankedMemory.store_cells_self hsvbk hvbk hlocate, fun cell hne => ?_⟩
  refine BankedMemory.store_cells_of_ne hsvbk hvbk ?_
  rw [hlocate]
  exact fun h => hne (Option.some.inj h).symm

/-- What is loaded from the page is in no cell of OAM. -/
theorem load_congr_page (hpage : IsVideoPage page ∨ IsWorkPage page) {k : Nat} (hk : k < 160)
    {m m' : BankedMemory} (hwram : m'.wramBank = m.wramBank) (hvram : m'.vramBank = m.vramBank)
    (hcells : ∀ cell, (∀ offset, cell ≠ .oam offset) → m'.cells cell = m.cells cell) :
    m'.load (oamSource page k) = m.load (oamSource page k) := by
  unfold BankedMemory.load
  rw [BankedMemory.locate_congr hwram hvram]
  rcases hpage with hpage | hpage
  · rw [locate_video hpage hk]
    exact congrArg some (hcells _ fun offset h => by cases h)
  · rw [locate_work hpage hk]
    exact congrArg some (hcells _ fun offset h => by cases h)

/-- The controller's part of a T-cycle takes the copy one cycle on. -/
theorem OamCopying.tick (h : OamCopying page m₀ spared n₀ n s)
    (hpage : IsVideoPage page ∨ IsWorkPage page) (hlt : n + 1 < 648)
    (context : VramDmaRuntimeContext) (tCycle : Nat) :
    ∃ s', s.dmaTick context tCycle = some s' ∧ OamCopying page m₀ spared n₀ (n + 1) s' := by
  obtain ⟨hslot, hrestart, hwork⟩ := tickTCycle_oam h.slot h.restart hlt context
  have hrequires : s.dma.requiresTCycleTick = true := by
    unfold DmaController.requiresTCycleTick
    rw [h.slot.isInFlight]
    rfl
  unfold dmaTick
  rw [hrequires]
  simp only [Bool.not_true, Bool.false_eq_true, if_false]
  rcases oamDue_succ n with hsame | ⟨hnext, -⟩
  · rw [if_pos (by omega)] at hwork
    rw [hwork]
    refine ⟨_, rfl, h.wellFormed, h.held, Nat.le_succ_of_le h.le, hslot, hrestart, h.wramBank,
      h.vramBank, ?_, ?_⟩
    · rw [hsame]
      exact h.source
    · rw [hsame]
      exact h.oam
  · have hk : oamDue n < 160 := by
      have hle := oamDue_le (n + 1)
      omega
    rw [if_neg (by omega), hnext, Nat.add_sub_cancel] at hwork
    rw [hwork]
    obtain ⟨byte, s', hcopy, hbyte, hfollows, hdma⟩ := copyByte_oam
      (s := { s with dma := (s.dma.tickTCycle context).2 }) h.wellFormed hpage hk
      (s.arbitration ⟨context.lcdEnabled, context.ppuMode⟩ (s.dma.tickTCycle context).2) tCycle
    obtain ⟨hwram, hvram, hself, hother⟩ :=
      @store_oamDestination page s.bus (oamDue n) hk byte s.bus.memory
    rw [← hfollows.memory] at hwram hvram hself hother
    refine ⟨s', hcopy, hfollows.wellFormed, h.held, Nat.le_succ_of_le h.le, hdma ▸ hslot,
      hdma ▸ hrestart, hwram.trans h.wramBank, hvram.trans h.vramBank, ?_, ?_⟩
    · intro k hk' hdue
      rw [load_congr_page hpage hk' hwram hvram fun cell hcell => hother cell (hcell _)]
      exact h.source k hk' (by omega)
    · intro k hspared
      by_cases hkn : k.val = oamDue n
      · obtain rfl : k = ⟨oamDue n, hk⟩ := Fin.ext hkn
        have hmono := oamDue_mono h.le
        rw [hself, if_pos ⟨hmono, by omega⟩, ← h.source _ hk (Nat.le_refl _)]
        exact hbyte.symm
      · rw [hother _ fun heq => hkn ?_, h.oam k hspared]
        · by_cases hcopied : oamDue n₀ ≤ k.val ∧ k.val < oamDue n
          · rw [if_pos hcopied, if_pos (by omega)]
          · rw [if_neg hcopied, if_neg (by omega)]
        · injection heq with heq
          exact congrArg Fin.val heq

/-- A CPU read moves nothing but the cartridge. -/
theorem OamCopying.cpuRead (h : OamCopying page m₀ spared n₀ n s) (address : U16)
    (ppu : PpuBusState) (tCycle : Nat) :
    ∃ r, s.cpuRead address ppu tCycle = some r ∧ OamCopying page m₀ spared n₀ n r.2 := by
  have hread : ∃ r, s.bus.readWithTCycleContext address .cpu (s.arbitration ppu s.dma) tCycle
      (some s.cartridge) s.view = some r := by
    rw [Bus.readWithTCycleContext_eq, Bus.resolvedReadTimed_eq]
    cases htarget : s.bus.performedTarget .cpu .read address (s.arbitration ppu s.dma) with
    | none => exact ⟨_, rfl⟩
    | some target =>
        have hloads : s.bus.Loads target.address
            ((s.bus.performAllowedReadTimed target tCycle (some s.cartridge) s.view).map
              Prod.fst) :=
          Bus.performAllowedReadTimed_loads h.wellFormed (Bus.readTarget_valid htarget) tCycle
        obtain ⟨value, hvalue, -⟩ := hloads
        obtain ⟨r, hr, -⟩ := Option.map_eq_some_iff.mp hvalue
        exact ⟨r, hr⟩
  obtain ⟨r, hread⟩ := hread
  refine ⟨(r.1, { s with cartridge := r.2.getD s.cartridge }), ?_, { h with }⟩
  unfold MemorySystem.cpuRead
  rw [hread]
  rfl

/-- A CPU write lands on a byte that is copied already, or away from the page and from OAM. -/
theorem OamCopying.cpuWrite (h : OamCopying page m₀ spared n₀ n s)
    (hpage : IsVideoPage page ∨ IsWorkPage page) {address : U16}
    (haddress : address ∉ ([0xFF46, 0xFF55, 0xFF70, 0xFF4F] : List U16)) (value : U8)
    (ppu : PpuBusState) (tCycle : Nat) :
    ∃ s', s.cpuWrite address value ppu tCycle = some s' ∧ OamCopying page m₀ spared n₀ n s' := by
  obtain ⟨hff46, hff55, hsvbk, hvbk⟩ :
      address ≠ 0xFF46 ∧ address ≠ 0xFF55 ∧ address ≠ 0xFF70 ∧ address ≠ 0xFF4F := by
    simpa using haddress
  unfold MemorySystem.cpuWrite
  rw [Bus.writeWithTCycleContext_eq, Bus.resolvedWriteTimed_eq]
  cases htarget : s.bus.performedTarget .cpu .write address (s.arbitration ppu s.dma) with
  | none => exact ⟨_, rfl, { h with }⟩
  | some target =>
      have hdma : (s.arbitration ppu s.dma).dma = s.dma.restrictedBusState ⟨.oam page, n⟩ :=
        busState_of_runsOam h.slot (h.held.trans h.le)
      have hplace := cpuWrite_target hpage hdma hff46 htarget
      have hall := oamDue_le n
      -- the address that the write reaches is no register of the controller and no bank
      have hne (r : U16) (hr : 0xFF00 ≤ r) (haddress : address ≠ r) : target.address ≠ r := by
        rcases hplace with ⟨hdue, hlast⟩ | ⟨hsame, -⟩
        · rw [hlast]
          have hk : oamDue n - 1 < 160 := by omega
          rcases hpage with hpage | hpage
          · have hhigh := (oamSource_video hpage hk).2
            bv_omega
          · have hhigh := (oamSource_work hpage hk).2
            bv_omega
        · rw [hsame]
          exact haddress
      have hstores : s.bus.Stores target.address value
          (s.bus.performAllowedWriteTimed target value tCycle (some s.cartridge) s.view) :=
        Bus.performAllowedWriteTimed_stores h.wellFormed (Bus.writeTarget_valid htarget) value
          tCycle
      obtain ⟨bus', cartridge', io', hwrite, hfollows⟩ := hstores
      have hsvbk' (_ : s.bus.hasSvbk = true) := hne 0xFF70 (by decide) hsvbk
      have hvbk' (_ : s.bus.hasVbk = true) := hne 0xFF4F (by decide) hvbk
      have hslot := performAllowedWriteTimed_dmaSlot (hne 0xFF46 (by decide) hff46)
        (hne 0xFF55 (by decide) hff55) hwrite
      have hdma' : ∃ d, io'.dma = some d ∧ d.transferState = s.dma.transferState ∧
          d.pendingRestart = s.dma.pendingRestart := by
        obtain ⟨d, hd, hpair⟩ := Option.map_eq_some_iff.mp hslot
        obtain ⟨hstate, hpending⟩ := Prod.mk.inj hpair
        exact ⟨d, hd, hstate, hpending⟩
      obtain ⟨d, hd, hstate, hpending⟩ := hdma'
      obtain ⟨hwram, hvram⟩ := @BankedMemory.store_banks s.bus.memory target.address value
        s.bus.hasSvbk s.bus.hasVbk hsvbk' hvbk'
      have hcells {cell : BusCell} (hcell : s.bus.memory.locate target.address ≠ some cell) :=
        @BankedMemory.store_cells_of_ne s.bus.memory target.address value s.bus.hasSvbk
          s.bus.hasVbk hsvbk' hvbk' cell hcell
      rw [← hfollows.memory] at hwram hvram hcells
      refine ⟨{ bus := bus', cartridge := cartridge'.getD s.cartridge, dma := io'.dma.getD s.dma
                devices := io' }, ?_, hfollows.wellFormed, h.held, h.le, ?_, ?_,
        hwram.trans h.wramBank, hvram.trans h.vramBank, ?_, ?_⟩
      · dsimp only
        rw [hwrite]
        rfl
      · rw [hd]
        exact hstate.symm ▸ h.slot
      · rw [hd]
        exact hpending.trans h.restart
      · intro k hk hdue
        rw [← h.source k hk hdue]
        unfold BankedMemory.load
        rw [BankedMemory.locate_congr hwram hvram]
        cases hlocate : s.bus.memory.locate (oamSource page k) with
        | none => rfl
        | some cell =>
            refine congrArg some (hcells fun hcell => ?_)
            rcases hplace with ⟨hpos, hlast⟩ | ⟨hsame, haway⟩
            · rw [hlast, ← hlocate] at hcell
              have heq := oamSource_cell_injective hpage (by omega) hk hcell
              omega
            · rw [hsame] at hcell
              exact (haway _ cell hcell).2 k hk hlocate
      · intro k hspared
        rw [← h.oam k hspared]
        refine congrArg some (hcells fun hcell => ?_)
        rcases hplace with ⟨hpos, hlast⟩ | ⟨hsame, haway⟩
        · rw [hlast] at hcell
          rcases hpage with hpage | hpage
          · rw [locate_video hpage (by omega)] at hcell
            cases hcell
          · rw [locate_work hpage (by omega)] at hcell
            cases hcell
        · rw [hsame] at hcell
          exact (haway _ _ hcell).1 k rfl

omit [CartridgePort κ] [PpuRegisters π] in
/-- An address event corrupts only bytes that are not spared. -/
theorem OamCopying.cpuAddressEvent (h : OamCopying page m₀ spared n₀ n s)
    (hpage : IsVideoPage page ∨ IsWorkPage page) {event : CpuAddressEvent} {state : PpuBusState}
    {ppu : Ppu} (hspares : ∀ k : Fin 0xA0, spared k →
      (MemoryEvent.cpuAddressEvent event state ppu : MemoryEvent κ π).Spares k.val) :
    OamCopying page m₀ spared n₀ n (s.cpuAddressEvent event state ppu) := by
  have hdma : (s.arbitration state s.dma).dma = s.dma.restrictedBusState ⟨.oam page, n⟩ :=
    busState_of_runsOam h.slot (h.held.trans h.le)
  have hbus := s.bus.routeCpuAddressEvent_eq event (s.arbitration state s.dma) ppu
  have hkept (k : Fin 0xA0) (hspared : spared k) :
      (s.bus.routeCpuAddressEvent event (s.arbitration state s.dma) ppu).oam.bytes.get k =
        s.bus.oam.bytes.get k := by
    unfold Bus.routeCpuAddressEvent
    split
    · rfl
    · split
      · rfl
      · rename_i kind hkind
        refine Ppu.applyOamCorruptionEvent_get fun hfamily row hrow => ?_
        refine hspares k hspared hfamily ?_ row hrow
        rw [← Bool.not_eq_false]
        intro hreaches
        rw [classifyOamCorruptionEvent_of_held hpage hdma hreaches] at hkind
        cases hkind
  unfold MemorySystem.cpuAddressEvent
  generalize s.bus.routeCpuAddressEvent event (s.arbitration state s.dma) ppu = bus' at hbus hkept ⊢
  rw [hbus]
  have hcells (cell : BusCell) (hne : ∀ offset, cell ≠ .oam offset) :
      ({ s.bus with oam := bus'.oam } : Bus).memory.cells cell = s.bus.memory.cells cell := by
    cases cell with
    | wram | vram | hram => rfl
    | oam offset => exact absurd rfl (hne offset)
  have hoam (k : Fin 0xA0) (hspared : spared k) :
      ({ s.bus with oam := bus'.oam } : Bus).memory.cells (.oam k) =
        s.bus.memory.cells (.oam k) := by
    have hlt : k.val < oamLen := k.isLt
    show bus'.oam.bytes[k.val]?.getD 0 = s.bus.oam.bytes[k.val]?.getD 0
    rw [Vector.getElem?_eq_getElem hlt, Vector.getElem?_eq_getElem hlt]
    exact hkept k hspared
  refine ⟨⟨h.wellFormed.wram, h.wellFormed.vram, h.wellFormed.svbk, h.wellFormed.vbk⟩, h.held, h.le,
    h.slot, h.restart, h.wramBank, h.vramBank, ?_, ?_⟩
  · intro k hk hdue
    rw [← h.source k hk hdue]
    exact load_congr_page hpage hk rfl rfl hcells
  · intro k hspared
    rw [← h.oam k hspared, hoam k hspared]

/-- One event of a run: a tick takes the copy on, and nothing else disturbs it. -/
theorem OamCopying.event (h : OamCopying page m₀ spared n₀ n s)
    (hpage : IsVideoPage page ∨ IsWorkPage page) {e : MemoryEvent κ π}
    (he : e.leavesDma = true) (hspares : ∀ k, spared k → e.Spares k.val)
    (hlt : n + MemoryEvent.ticks [e] < 648) :
    ∃ s', s.event e = some s' ∧ OamCopying page m₀ spared n₀ (n + MemoryEvent.ticks [e]) s' := by
  cases e with
  | dmaTick context tCycle => exact h.tick hpage hlt context tCycle
  | cpuRead address ppu tCycle =>
      obtain ⟨r, hread, hcopying⟩ := h.cpuRead address ppu tCycle
      refine ⟨r.2, ?_, hcopying⟩
      show (s.cpuRead address ppu tCycle).map Prod.snd = _
      rw [hread]
      rfl
  | cpuWrite address value ppu tCycle =>
      exact h.cpuWrite hpage (of_decide_eq_true he) value ppu tCycle
  | cpuAddressEvent event state ppu => exact ⟨_, rfl, h.cpuAddressEvent hpage hspares⟩
  | environment cartridge devices => exact ⟨_, rfl, { h with }⟩

/-- The copy over a run of any events that neither start another transfer nor select a bank. -/
theorem OamCopying.run (h : OamCopying page m₀ spared n₀ n s)
    (hpage : IsVideoPage page ∨ IsWorkPage page) {es : List (MemoryEvent κ π)}
    (hes : ∀ e ∈ es, e.leavesDma = true)
    (hspares : ∀ k, spared k → ∀ e ∈ es, e.Spares k.val)
    (hlt : n + MemoryEvent.ticks es < 648) :
    ∃ s', s.run es = some s' ∧
      OamCopying page m₀ spared n₀ (n + MemoryEvent.ticks es) s' := by
  induction es generalizing n s with
  | nil => exact ⟨s, rfl, h⟩
  | cons e es ih =>
      have hsplit : MemoryEvent.ticks (e :: es) =
          MemoryEvent.ticks [e] + MemoryEvent.ticks es := by
        unfold MemoryEvent.ticks
        rw [← List.singleton_append, List.countP_append]
      rw [hsplit, ← Nat.add_assoc] at hlt ⊢
      obtain ⟨s₁, hevent, h₁⟩ := h.event hpage (hes e List.mem_cons_self)
        (fun k hspared => hspares k hspared e List.mem_cons_self) (by omega)
      obtain ⟨s₂, hrun, h₂⟩ := ih h₁ (fun e he => hes e (List.mem_cons_of_mem _ he))
        (fun k hspared e he => hspares k hspared e (List.mem_cons_of_mem _ he)) hlt
      refine ⟨s₂, ?_, h₂⟩
      unfold MemorySystem.run at hrun ⊢
      rw [List.foldlM_cons, hevent]
      exact hrun

/-- While a transfer out of work RAM or video RAM holds the bus, whatever the CPU and the rest of
the machine do, OAM is what it was with the bytes of the page copied one after the other, and the
bytes are those that the page held when the transfer took the bus: so it is for every byte of OAM
that no corruption of the run reaches. -/
theorem oamDma_copies_page (hwell : s.bus.WellFormed) (hn : 5 ≤ n)
    (hslot : s.dma.transferState.RunsOam page n) (hrestart : s.dma.pendingRestart = none)
    (hpage : IsVideoPage page ∨ IsWorkPage page) {es : List (MemoryEvent κ π)}
    (hes : ∀ e ∈ es, e.leavesDma = true) (hlt : n + MemoryEvent.ticks es < 648) :
    ∃ s', s.run es = some s' ∧ ∀ k : Fin 0xA0, (∀ e ∈ es, e.Spares k.val) →
      some (s'.bus.memory.cells (.oam k)) =
        if oamDue n ≤ k.val ∧ k.val < oamDue (n + MemoryEvent.ticks es) then
          s.bus.memory.load (oamSource page k)
        else some (s.bus.memory.cells (.oam k)) := by
  have hstart : OamCopying page s.bus.memory (fun k => ∀ e ∈ es, e.Spares k.val) n n s :=
    { wellFormed := hwell, held := hn, le := Nat.le_refl n, slot := hslot, restart := hrestart
      wramBank := rfl, vramBank := rfl
      source := fun _ _ _ => rfl
      oam := fun k _ => (if_neg (by omega)).symm }
  obtain ⟨s', hrun, hcopying⟩ := hstart.run hpage hes (fun _ => id) hlt
  exact ⟨s', hrun, hcopying.oam⟩

/-- A Game Boy without a cartridge, with a transfer out of work RAM that has just taken the bus. -/
def copyingMonochrome : MemorySystem CartridgeSlot PpuRegisterFile where
  bus := .newMonochrome
  cartridge := .empty
  dma := { DmaController.new .gameBoy with transferState := .active ⟨.oam 0xC0, 5⟩ }
  devices := .default

def lcdOffContext : VramDmaRuntimeContext where
  lcdEnabled := false
  ppuMode := .hBlank
  ppuLy := 0
  ppuLineDot := 0
  ppuMode0StartDot := 0
  cpuHalted := false
  speedMode := .normal

/-- A PPU that scans row 2 of OAM. -/
def scanningRow2 : Ppu := { Ppu.new .gameBoy with lcdEnabled := true, ly := 1, lineDot := 8 }

/-- Between two ticks the CPU writes to work RAM and counts a register over page `FE`. -/
def interleavedEvents : List (MemoryEvent CartridgeSlot PpuRegisterFile) :=
  [.dmaTick lcdOffContext 0, .cpuWrite 0xC123 0x42 .lcdDisabled 1,
    .cpuAddressEvent (.ofIncDec 0xFE01 .increment) ⟨true, .oamScan⟩ scanningRow2,
    .dmaTick lcdOffContext 2]

theorem interleavedEvents_spare {k : Nat} (hk : 24 ≤ k) :
    ∀ e ∈ interleavedEvents, e.Spares k := by
  have hrow : scanningRow2.currentMode2OamRow = some 2 := by decide
  simp only [interleavedEvents, List.forall_mem_cons, List.not_mem_nil, false_imp_iff, implies_true,
    and_true]
  refine ⟨trivial, trivial, fun _ _ row hscanned => .inr ?_, trivial⟩
  rw [hrow] at hscanned
  cases hscanned
  show 2 < k / 8
  omega

theorem oamDma_copies_page_interleaved :
    ∃ s', copyingMonochrome.run interleavedEvents = some s' ∧
      ∀ k : Fin 0xA0, 24 ≤ k.val → some (s'.bus.memory.cells (.oam k)) =
        if oamDue 5 ≤ k.val ∧ k.val < oamDue (5 + MemoryEvent.ticks interleavedEvents) then
          copyingMonochrome.bus.memory.load (oamSource 0xC0 k)
        else some (copyingMonochrome.bus.memory.cells (.oam k)) := by
  have hwell : copyingMonochrome.bus.WellFormed := Bus.wellFormed_new _ _ _
  have hslot : copyingMonochrome.dma.transferState.RunsOam 0xC0 5 :=
    .active (Nat.le_refl 5) (by decide)
  have hpage : IsWorkPage 0xC0 := show 0xC0 ≤ (0xC0 : U8).toNat by decide
  have hes : ∀ e ∈ interleavedEvents, e.leavesDma = true := by decide
  obtain ⟨s', hrun, hoam⟩ :=
    oamDma_copies_page hwell (Nat.le_refl 5) hslot rfl (.inr hpage) hes (by decide)
  exact ⟨s', hrun, fun k hk => hoam k (interleavedEvents_spare hk)⟩

end MemorySystem

end GbCycle
