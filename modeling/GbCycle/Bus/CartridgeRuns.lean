import GbCycle.Bus.OamDma
import GbCycle.Cartridge.BankingLaws

/-!
# The cartridge on the bus

The laws of the cartridges are about runs of operations, with the RAM reached through its window
only.  This is how the bus uses a cartridge: whatever the CPU and the DMA controller access, the
slot goes through operations, so the laws hold in every state that the bus reaches.
-/

namespace GbCycle

theorem CartridgeDevice.run_concat (device : CartridgeDevice) (ops : List CartridgeOp)
    (op : CartridgeOp) : device.run (ops ++ [op]) = (device.run ops).step op := by
  unfold run
  rw [List.foldl_append]
  rfl

namespace CartridgeSlot

def captureDue (slot : CartridgeSlot) (tCycle : Nat) : Bool :=
  slot.device.any (·.captureDue tCycle)

/-- The slot holds the loaded device after some operations. -/
def Reached (loaded : CartridgeDevice) (slot : CartridgeSlot) : Prop :=
  ∃ ops, slot.device = some (loaded.run ops)

variable {loaded : CartridgeDevice} {slot : CartridgeSlot} {address : U16}

theorem Reached.step (h : slot.Reached loaded) (op : CartridgeOp) :
    ({ device := slot.device.map (·.step op) } : CartridgeSlot).Reached loaded := by
  obtain ⟨ops, hops⟩ := h
  refine ⟨ops ++ [op], ?_⟩
  rw [hops, Option.map_some, loaded.run_concat ops op]

theorem Reached.writeRom (h : slot.Reached loaded) (address : U16) (value : U8) :
    (slot.writeRom address value).Reached loaded := h.step (.writeRom address value)

theorem Reached.writeRamTimed (h : slot.Reached loaded)
    (hwindow : 0xA000 ≤ address ∧ address ≤ 0xBFFF) (value : U8) (tCycle : Nat) :
    (slot.writeRamTimed address value tCycle).Reached loaded :=
  h.step (.writeRamTimed ⟨address, hwindow⟩ value tCycle)

theorem Reached.readRamTimed (h : slot.Reached loaded)
    (hwindow : 0xA000 ≤ address ∧ address ≤ 0xBFFF) (tCycle : Nat) :
    (slot.readRamTimed address tCycle).2.Reached loaded := by
  obtain ⟨ops, hops⟩ := h
  refine ⟨ops ++ [.readRamTimed ⟨address, hwindow⟩ tCycle], ?_⟩
  rw [loaded.run_concat]
  unfold CartridgeSlot.readRamTimed
  rw [hops]
  rfl

end CartridgeSlot

/-! ## One access -/

namespace Bus

variable {π : Type} [PpuRegisters π] {b b' : Bus} {loaded : CartridgeDevice}
  {slot : CartridgeSlot} {target : BusAddressInfo} {io io' : BusIoView π}
  {cartridge' : Option CartridgeSlot} {value byte : U8} {tCycle : Nat}

theorem target_window (htarget : target = decodeAddress target.address)
    (hregion : target.region = .cartridgeExternal) :
    0xA000 ≤ target.address ∧ target.address ≤ 0xBFFF := by
  have hrange := target_range htarget hregion
  simp only [BusRegion.range] at hrange
  constructor <;> bv_omega

/-- A performed read leaves the slot, or reads the RAM through its window. -/
theorem performAllowedReadTimed_reached (h : slot.Reached loaded)
    (htarget : target = decodeAddress target.address ∨
      (target.region = .bootRom ∧ target.address ≤ 0x08FF))
    (hread : b.performAllowedReadTimed target tCycle (some slot) io = some (byte, cartridge')) :
    (cartridge'.getD slot).Reached loaded := by
  have hwindow (hregion : target.region = .cartridgeExternal) :
      0xA000 ≤ target.address ∧ target.address ≤ 0xBFFF := by
    rcases htarget with hdecoded | ⟨hboot, -⟩
    · exact target_window hdecoded hregion
    · rw [hboot] at hregion
      cases hregion
  unfold performAllowedReadTimed readCartridgeTargetTimed at hread
  cases hregion : target.region <;> rw [hregion] at hread
  case cartridgeExternal =>
    cases hread
    exact h.readRamTimed (hwindow hregion) tCycle
  case cartridgeRomBank0 | cartridgeRomBankN | bootRom | unusable =>
    cases hread
    exact h
  all_goals
    obtain ⟨_, -, hsame⟩ := Option.map_eq_some_iff.mp hread
    cases hsame
    exact h

/-- A performed write leaves the slot, or writes its registers or the RAM through its window. -/
theorem performAllowedWriteTimed_reached (h : slot.Reached loaded)
    (htarget : target = decodeAddress target.address)
    (hwrite : b.performAllowedWriteTimed target value tCycle (some slot) io =
      some (b', cartridge', io')) :
    (cartridge'.getD slot).Reached loaded := by
  unfold performAllowedWriteTimed writeCartridgeTargetTimed at hwrite
  cases hregion : target.region <;> rw [hregion] at hwrite
  case cartridgeExternal =>
    cases hwrite
    exact h.writeRamTimed (target_window htarget hregion) value tCycle
  case cartridgeRomBank0 | cartridgeRomBankN =>
    cases hwrite
    exact h.writeRom target.address value
  case bootRom => cases hwrite
  case unusable =>
    cases hwrite
    exact h
  all_goals
    obtain ⟨_, -, hsame⟩ := Option.map_eq_some_iff.mp hwrite
    cases hsame
    exact h

variable {address : U16} {requester : BusRequester} {state : BusArbitrationState}

theorem readWithTCycleContext_reached (h : slot.Reached loaded)
    (hread : b.readWithTCycleContext address requester state tCycle (some slot) io =
      some (byte, cartridge')) : (cartridge'.getD slot).Reached loaded := by
  rw [readWithTCycleContext_eq, resolvedReadTimed_eq] at hread
  split at hread
  · rename_i hperformed
    exact performAllowedReadTimed_reached h (readTarget_valid hperformed) hread
  · cases hread
    exact h

theorem writeWithTCycleContext_reached (h : slot.Reached loaded)
    (hwrite : b.writeWithTCycleContext address value requester state tCycle (some slot) io =
      some (b', cartridge', io')) : (cartridge'.getD slot).Reached loaded := by
  rw [writeWithTCycleContext_eq, resolvedWriteTimed_eq] at hwrite
  split at hwrite
  · rename_i hperformed
    exact performAllowedWriteTimed_reached h (writeTarget_valid hperformed) hwrite
  · cases hwrite
    exact h

end Bus

/-! ## Runs of the memory system -/

/-- What the rest of the machine does to the cartridge is an operation too. -/
def MemoryEvent.Operates {π : Type} (loaded : CartridgeDevice) :
    MemoryEvent CartridgeSlot π → Prop
  | .environment cartridge _ => cartridge.Reached loaded
  | _ => True

namespace MemorySystem

variable {π : Type} [PpuRegisters π] {s s' : MemorySystem CartridgeSlot π}
  {loaded : CartridgeDevice}

theorem copyByte_reached (h : s.cartridge.Reached loaded) {work : DmaTransferWork}
    {state : BusArbitrationState} {tCycle : Nat} (hcopy : s.copyByte work state tCycle = some s') :
    s'.cartridge.Reached loaded := by
  unfold copyByte at hcopy
  dsimp only at hcopy
  split at hcopy
  · obtain ⟨⟨value, cartridge⟩, hread, hcopy⟩ := Option.bind_eq_some_iff.mp hcopy
    obtain ⟨⟨bus, rest⟩, -, hresult⟩ := Option.bind_eq_some_iff.mp hcopy
    cases hresult
    cases hread
    exact h
  · obtain ⟨⟨value, cartridge⟩, hread, hcopy⟩ := Option.bind_eq_some_iff.mp hcopy
    obtain ⟨⟨bus, rest⟩, -, hresult⟩ := Option.bind_eq_some_iff.mp hcopy
    cases hresult
    exact Bus.readWithTCycleContext_reached h hread

theorem event_reached (h : s.cartridge.Reached loaded) {e : MemoryEvent CartridgeSlot π}
    (he : e.Operates loaded) (hevent : s.event e = some s') : s'.cartridge.Reached loaded := by
  cases e with
  | dmaTick context tCycle =>
      unfold event dmaTick at hevent
      dsimp only at hevent
      split at hevent
      · cases hevent
        exact h
      · split at hevent
        · cases hevent
          exact h
        · exact copyByte_reached (s := { s with dma := (s.dma.tickTCycle context).2 }) h hevent
  | cpuRead address ppu tCycle =>
      obtain ⟨⟨value, after⟩, hafter, hsame⟩ := Option.map_eq_some_iff.mp hevent
      obtain ⟨⟨byte, cartridge⟩, hread, hresult⟩ := Option.bind_eq_some_iff.mp hafter
      cases hresult
      cases hsame
      exact Bus.readWithTCycleContext_reached h hread
  | cpuWrite address value ppu tCycle =>
      obtain ⟨⟨bus, cartridge, io⟩, hwrite, hresult⟩ := Option.bind_eq_some_iff.mp hevent
      cases hresult
      exact Bus.writeWithTCycleContext_reached h hwrite
  | cpuAddressEvent event state ppu =>
      cases hevent
      exact h
  | environment cartridge devices =>
      cases hevent
      exact he

theorem run_reached (h : s.cartridge.Reached loaded) {es : List (MemoryEvent CartridgeSlot π)}
    (hes : ∀ e ∈ es, e.Operates loaded) (hrun : s.run es = some s') :
    s'.cartridge.Reached loaded := by
  induction es generalizing s with
  | nil =>
      cases hrun
      exact h
  | cons e es ih =>
      obtain ⟨between, hevent, hrun⟩ := Option.bind_eq_some_iff.mp hrun
      rw [List.forall_mem_cons] at hes
      exact ih (event_reached h hes.1 hevent) hes.2 hrun

variable {romBytes : List U8} {compatibility : CompatibilityPolicy} {report : CartridgeLoadReport}
  {es : List (MemoryEvent CartridgeSlot π)}

/-- The cartridge put in before a run is in every state of it the loaded one after operations. -/
theorem cartridge_of_run (hdevice : report.cartridge.device = some loaded)
    (hinserted : s.cartridge = report.cartridge) (hes : ∀ e ∈ es, e.Operates loaded)
    (hrun : s.run es = some s') : ∃ ops, s'.cartridge = { device := some (loaded.run ops) } := by
  have hstart : s.cartridge.Reached loaded := by
    refine ⟨[], ?_⟩
    rw [hinserted]
    exact hdevice
  obtain ⟨ops, hops⟩ := run_reached hstart hes hrun
  exact ⟨ops, congrArg CartridgeSlot.mk hops⟩

/-- Whatever the CPU, the DMA controller and the rest of the machine have done to a loaded
cartridge, what it says of an address in its RAM window is what an access of the bus does there,
unless the access completes a capture of the camera, and its saved state is one that the image
takes when it is loaded again. -/
theorem cartridge_onBus (hload : CartridgeSlot.load romBytes compatibility = .ok report)
    (hdevice : report.cartridge.device = some loaded) (hinserted : s.cartridge = report.cartridge)
    (hes : ∀ e ∈ es, e.Operates loaded) (hrun : s.run es = some s') :
    (∀ (address : ExternalAddress) (tRead tWrite : Nat),
      (s'.cartridge.describeExternalAccess address.address).target ≠ .pocketCameraRegister 0 →
      s'.cartridge.captureDue tRead = false → s'.cartridge.captureDue tWrite = false →
        (s'.cartridge.describeExternalAccess address.address).Keeps s'.cartridge
          (fun slot => (slot.readRamTimed address.address tRead).1)
          fun value => s'.cartridge.writeRamTimed address.address value tWrite) ∧
      ∀ device, s'.cartridge.device = some device →
        (loaded.restorePersistentState device.persistentState).1 = .ok () := by
  obtain ⟨ops, hslot⟩ := cartridge_of_run hdevice hinserted hes hrun
  rw [hslot]
  constructor
  · intro address tRead tWrite hcapture hread hwrite
    have hkeeps := CartridgeDevice.describeExternalAccess_keepsTimed
      (CartridgeSlot.fits_run hload hdevice ops) address hcapture hread hwrite
    refine hkeeps.map (fun device => CartridgeSlot.mk (some device)) ?_
    intro device
    rfl
  · rintro device hsame
    cases hsame
    have hholds := CartridgeSlot.holds_run hload hdevice ops
    have hfits : loaded.Fits := CartridgeSlot.fits_run hload hdevice []
    exact (CartridgeDevice.restorePersistentState_persistentState (loaded.fresh_run ops) hholds
      hfits).1

/-- A Game Boy Color with a cartridge just put in. -/
def insertedColor (cartridge : CartridgeSlot) : MemorySystem CartridgeSlot PpuRegisterFile where
  bus := .newColor
  cartridge := cartridge
  dma := .new .gameBoyColor
  devices := .default

/-- The RAM is enabled, a bank of it is selected and a byte is written there. -/
def bankedAccesses : List (MemoryEvent CartridgeSlot PpuRegisterFile) :=
  [.cpuWrite 0x0000 0x0A .lcdDisabled 0, .cpuWrite 0x6000 1 .lcdDisabled 4,
    .cpuWrite 0x4000 2 .lcdDisabled 8, .cpuWrite 0x2000 3 .lcdDisabled 12,
    .cpuWrite 0xA123 0x42 .lcdDisabled 16]

theorem cartridge_onBus_banked :
    ∃ s', (insertedColor { device := some CartridgeSlot.bankedDevice }).run bankedAccesses =
        some s' ∧
      (s'.cartridge.readRamTimed 0xA123 20).1 = 0x42 ∧
      (∀ (address : ExternalAddress) (tRead tWrite : Nat),
        (s'.cartridge.describeExternalAccess address.address).target ≠ .pocketCameraRegister 0 →
        s'.cartridge.captureDue tRead = false → s'.cartridge.captureDue tWrite = false →
          (s'.cartridge.describeExternalAccess address.address).Keeps s'.cartridge
            (fun slot => (slot.readRamTimed address.address tRead).1)
            fun value => s'.cartridge.writeRamTimed address.address value tWrite) ∧
      ∀ device, s'.cartridge.device = some device →
        (CartridgeSlot.bankedDevice.restorePersistentState device.persistentState).1 = .ok () := by
  have hes : ∀ e ∈ bankedAccesses, e.Operates CartridgeSlot.bankedDevice := by
    intro e he
    simp only [bankedAccesses, List.mem_cons, List.not_mem_nil, or_false] at he
    rcases he with rfl | rfl | rfl | rfl | rfl <;> trivial
  have hafter : ((insertedColor { device := some CartridgeSlot.bankedDevice }).run
      bankedAccesses).map (·.cartridge) = some { device := some CartridgeSlot.bankedRun } := rfl
  obtain ⟨s', hrun, hcartridge⟩ := Option.map_eq_some_iff.mp hafter
  have hbyte : (s'.cartridge.readRamTimed 0xA123 20).1 = 0x42 := by
    rw [hcartridge]
    show (CartridgeSlot.bankedRun.readRamTimed 0xA123 20).1 = 0x42
    rw [CartridgeDevice.readRamTimed_of_not_due rfl]
    exact CartridgeSlot.readRam_bankedRun
  exact ⟨s', hrun, hbyte, cartridge_onBus
    (CartridgeSlot.load_bankedRom CartridgeSlot.warning rfl) rfl rfl hes hrun⟩

end MemorySystem

end GbCycle
