import GbCycle.Bus.BankedMemory

/-!
# The bus refines its memory

A performed write is a store in the memory of the bus, a performed read of a cell gives its byte,
and an access that is held back does nothing.  Region by region this is the faithful code against
the memory; over a run it is a simulation, with an access at a time.
-/

namespace GbCycle

namespace Bus

/-! ## Performed accesses, region by region -/

section Performed

variable {κ π : Type} {b : Bus} {target : BusAddressInfo}

/-- The addresses of a target of the static map. -/
theorem target_range (htarget : target = decodeAddress target.address) {r : BusRegion}
    (hregion : target.region = r) :
    r.range.1 ≤ target.address.toNat ∧ target.address.toNat ≤ r.range.2 ∧
      target.regionOffset.toNat = target.address.toNat - r.range.1 := by
  have hmem := decodeAddress_mem target.address
  rw [← htarget, hregion] at hmem
  exact hmem

/-- Only four kinds of regions hold cells. -/
theorem locate_eq_none {a : U16} (m : BankedMemory)
    (h : a ≤ 0x7FFF ∨ (0xA000 ≤ a ∧ a ≤ 0xBFFF) ∨ (0xFEA0 ≤ a ∧ a ≤ 0xFF7F) ∨ a = 0xFFFF) :
    m.locate a = none := by
  unfold BankedMemory.locate
  rw [if_neg (by rintro ⟨h1, h2⟩; rcases h with h | ⟨h, h'⟩ | ⟨h, h'⟩ | rfl <;> bv_omega),
    if_neg (by rintro ⟨h1, h2⟩; rcases h with h | ⟨h, h'⟩ | ⟨h, h'⟩ | rfl <;> bv_omega),
    if_neg (by rintro ⟨h1, h2⟩; rcases h with h | ⟨h, h'⟩ | ⟨h, h'⟩ | rfl <;> bv_omega),
    if_neg (by rintro ⟨h1, h2⟩; rcases h with h | ⟨h, h'⟩ | ⟨h, h'⟩ | rfl <;> bv_omega)]

/-- A write of a region without cells and registers is no store. -/
theorem store_of_plain {a : U16} {value : U8} (m : BankedMemory) (svbk vbk : Bool)
    (h : a ≤ 0x7FFF ∨ (0xA000 ≤ a ∧ a ≤ 0xBFFF) ∨ (0xFEA0 ≤ a ∧ a ≤ 0xFEFF) ∨ a = 0xFFFF) :
    m.store svbk vbk a value = m := by
  refine store_elsewhere (locate_eq_none m ?_) ?_ ?_
  · rcases h with h | h | ⟨h, h'⟩ | h
    · exact .inl h
    · exact .inr (.inl h)
    · exact .inr (.inr (.inl ⟨h, by bv_omega⟩))
    · exact .inr (.inr (.inr h))
  all_goals
    rintro - rfl
    rcases h with h | ⟨h, h'⟩ | ⟨h, h'⟩ | h
    · exact absurd h (by decide)
    · exact absurd h' (by decide)
    · exact absurd h' (by decide)
    · exact absurd h (by decide)

/-- A write of a cell stores in it. -/
theorem store_of_locate {a : U16} {value : U8} {m : BankedMemory} {cell : BusCell}
    (svbk vbk : Bool) (h : m.locate a = some cell) :
    m.store svbk vbk a value = { m with cells := Function.update m.cells cell value } := by
  have hne (r : U16) (hr : m.locate r = none) : a ≠ r := by
    rintro rfl
    rw [hr] at h
    cases h
  rw [BankedMemory.store_of_ne (fun _ => hne 0xFF70 (locate_eq_none m (by decide)))
    (fun _ => hne 0xFF4F (locate_eq_none m (by decide))), h]

theorem follows_writeWram (h : b.WellFormed) {a : U16} (hlow : 0xC000 ≤ a) (hhigh : a ≤ 0xFDFF)
    (value : U8) :
    ∃ wram, b.wram.write a value = some wram ∧
      b.Follows { b with wram } (b.memory.store b.hasSvbk b.hasVbk a value) := by
  obtain ⟨bank, offset, hlocate, hindex⟩ := wram_index h hlow hhigh
  obtain ⟨bytes, hbytes⟩ := storeByte_isSome b.wram.bytes value
    (show bank.val * 0x1000 + offset.val < cgbWramLen by unfold cgbWramLen; omega)
  refine ⟨{ b.wram with bytes }, ?_, ?_⟩
  · unfold WramDomain.write
    rw [hindex]
    simp only [Option.bind_eq_bind, Option.bind_some, hbytes]
  · rw [store_of_locate _ _ hlocate]
    exact ⟨⟨h.wram, h.vram, h.svbk, h.vbk⟩, memory_store_wram hbytes, rfl, rfl, rfl⟩

theorem follows_writeVram (h : b.WellFormed) {a : U16} (hlow : 0x8000 ≤ a) (hhigh : a ≤ 0x9FFF)
    {n : Nat} (hn : n = a.toNat - 0x8000) (value : U8) :
    ∃ vram, b.vram.write n value = some vram ∧
      b.Follows { b with vram } (b.memory.store b.hasSvbk b.hasVbk a value) := by
  obtain ⟨bank, offset, hlocate, hindex⟩ := vram_index h hlow hhigh hn
  obtain ⟨bytes, hbytes⟩ := storeByte_isSome b.vram.bytes value
    (show bank.val * 0x2000 + offset.val < cgbVramLen by unfold cgbVramLen; omega)
  refine ⟨{ b.vram with bytes }, ?_, ?_⟩
  · unfold VramDomain.write
    rw [hindex]
    simp only [Option.bind_eq_bind, Option.bind_some, hbytes]
  · rw [store_of_locate _ _ hlocate]
    exact ⟨⟨h.wram, h.vram, h.svbk, h.vbk⟩, memory_store_vram hbytes, rfl, rfl, rfl⟩

theorem follows_writeOam (h : b.WellFormed) {a : U16} (hlow : 0xFE00 ≤ a) (hhigh : a ≤ 0xFE9F)
    {n : Nat} (hn : n = a.toNat - 0xFE00) (value : U8) :
    ∃ oam, b.oam.write n value = some oam ∧
      b.Follows { b with oam } (b.memory.store b.hasSvbk b.hasVbk a value) := by
  obtain ⟨offset, hlocate, rfl⟩ := oam_locate hlow hhigh hn b.memory
  obtain ⟨bytes, hbytes⟩ := storeByte_isSome b.oam.bytes value
    (show offset.val < oamLen from offset.isLt)
  refine ⟨{ b.oam with bytes }, ?_, ?_⟩
  · unfold OamDomain.write
    simp only [Option.bind_eq_bind, Option.bind_some, hbytes]
  · rw [store_of_locate _ _ hlocate]
    exact ⟨⟨h.wram, h.vram, h.svbk, h.vbk⟩, memory_store_oam hbytes, rfl, rfl, rfl⟩

/-- A write of the I/O page or of high RAM. -/
theorem follows_writeIohramTarget [PpuRegisters π] (h : b.WellFormed)
    (htarget : target = decodeAddress target.address)
    (hregion : target.region = .mmio ∨ target.region = .interruptEnable ∨ target.region = .hram)
    (value : U8) (io : BusIoView π) :
    ∃ b' io', b.writeIohramTarget target value io = some (b', io') ∧
      b.Follows b' (b.memory.store b.hasSvbk b.hasVbk target.address value) := by
  have hdevices (hdone : b.memory.store b.hasSvbk b.hasVbk target.address value = b.memory) :
      ∃ b' io', ((b.iohram.writeIoTarget b.consoleModel b.operatingMode target.address value
          io).bind fun r => some ({ b with iohram := r.1 }, r.2)) = some (b', io') ∧
        b.Follows b' (b.memory.store b.hasSvbk b.hasVbk target.address value) := by
    obtain ⟨iohram, io', hwrite, hhram⟩ := b.iohram.writeIoTarget_hram value io
    refine ⟨{ b with iohram }, io', ?_, ?_⟩
    · rw [hwrite]
      rfl
    · rw [hdone]
      refine ⟨⟨h.wram, h.vram, h.svbk, h.vbk⟩, ?_, rfl, rfl, rfl⟩
      refine congrArg (BankedMemory.mk _ _) (funext fun cell => ?_)
      cases cell with
      | hram offset =>
          show iohram.hram[_]?.getD 0 = _
          rw [hhram]
          rfl
      | _ => rfl
  unfold writeIohramTarget IoHramDomain.write
  rcases hregion with hregion | hregion | hregion
  all_goals obtain ⟨hfirst, hlast, hoffset⟩ := target_range htarget hregion
  · rw [if_pos hregion]
    simp only [BusRegion.range] at hfirst hlast
    have hlocate := @locate_eq_none target.address b.memory
      (.inr (.inr (.inl (by constructor <;> bv_omega))))
    cases howned : b.writeCgbBusOwnedIo target.address value with
    | some b' => exact ⟨b', io, rfl, follows_writeCgbBusOwnedIo h hlocate howned⟩
    | none =>
        obtain ⟨hsvbk, hvbk⟩ := writeCgbBusOwnedIo_eq_none howned
        dsimp only
        rw [hregion]
        exact hdevices (store_elsewhere hlocate (fun _ => hsvbk) fun _ => hvbk)
  · rw [if_neg (by rw [hregion]; decide)]
    dsimp only
    rw [hregion]
    simp only [BusRegion.range] at hfirst hlast
    exact hdevices (store_of_plain _ _ _ (.inr (.inr (.inr (by bv_omega)))))
  · rw [if_neg (by rw [hregion]; decide)]
    dsimp only
    rw [hregion]
    simp only [BusRegion.range] at hfirst hlast hoffset
    obtain ⟨offset, hlocate, hval⟩ := hram_locate (by bv_omega) (by bv_omega) hoffset b.memory
    obtain ⟨hram, hbytes⟩ := storeByte_isSome b.iohram.hram value
      (show offset.val < hramLen from offset.isLt)
    refine ⟨{ b with iohram := { b.iohram with hram } }, io, ?_, ?_⟩
    · rw [hval]
      simp only [Option.bind_eq_bind, Option.bind_some, hbytes]
    · rw [store_of_locate _ _ hlocate]
      exact ⟨⟨h.wram, h.vram, h.svbk, h.vbk⟩, memory_store_hram hbytes, rfl, rfl, rfl⟩

variable {cartridge : Option κ} {io : BusIoView π}

/-- What a performed write is to the memory, apart from what it does to a cartridge. -/
def Stores (b : Bus) (address : U16) (value : U8)
    (result : Option (Bus × Option κ × BusIoView π)) : Prop :=
  ∃ b' cartridge' io', result = some (b', cartridge', io') ∧
    b.Follows b' (b.memory.store b.hasSvbk b.hasVbk address value)

theorem stores_cartridge (h : b.WellFormed) (htarget : target = decodeAddress target.address)
    (hregion : target.region = .cartridgeRomBank0 ∨ target.region = .cartridgeRomBankN ∨
      target.region = .cartridgeExternal) (value : U8) {written : Option (Option κ)}
    (hwritten : ∃ cartridge', written = some cartridge') :
    b.Stores target.address value (written.map (b, ·, io)) := by
  obtain ⟨cartridge', rfl⟩ := hwritten
  refine ⟨b, cartridge', io, rfl, ?_⟩
  rw [store_of_plain]
  · exact follows_refl h
  · rcases hregion with hregion | hregion | hregion
    all_goals
      obtain ⟨hfirst, hlast, -⟩ := target_range htarget hregion
      simp only [BusRegion.range] at hfirst hlast
    · exact .inl (by bv_omega)
    · exact .inl (by bv_omega)
    · exact .inr (.inl (by constructor <;> bv_omega))

variable [CartridgePort κ] [PpuRegisters π]

theorem performAllowedWrite_stores (h : b.WellFormed)
    (htarget : target = decodeAddress target.address) (value : U8) :
    b.Stores target.address value (b.performAllowedWrite target value cartridge io) := by
  unfold performAllowedWrite
  cases hregion : target.region with
  | bootRom =>
      obtain ⟨hfirst, hlast, -⟩ := target_range htarget hregion
      simp only [BusRegion.range] at hfirst hlast
      omega
  | cartridgeRomBank0 =>
      refine stores_cartridge h htarget (.inl hregion) value ?_
      unfold writeCartridgeTarget
      cases cartridge <;> exact ⟨_, rfl⟩
  | cartridgeRomBankN =>
      refine stores_cartridge h htarget (.inr (.inl hregion)) value ?_
      unfold writeCartridgeTarget
      cases cartridge <;> exact ⟨_, rfl⟩
  | cartridgeExternal =>
      refine stores_cartridge h htarget (.inr (.inr hregion)) value ?_
      unfold writeCartridgeTarget
      cases cartridge <;> exact ⟨_, rfl⟩
  | vram =>
      obtain ⟨hfirst, hlast, hoffset⟩ := target_range htarget hregion
      simp only [BusRegion.range] at hfirst hlast hoffset
      obtain ⟨vram, hwrite, hfollows⟩ :=
        follows_writeVram h (by bv_omega) (by bv_omega) hoffset value
      exact ⟨_, cartridge, io, by rw [hwrite]; rfl, hfollows⟩
  | wramBank0 | wramBankN | echoRam =>
      obtain ⟨hfirst, hlast, -⟩ := target_range htarget hregion
      simp only [BusRegion.range] at hfirst hlast
      obtain ⟨wram, hwrite, hfollows⟩ := follows_writeWram h (a := target.address) (by bv_omega)
        (by bv_omega) value
      exact ⟨_, cartridge, io, by rw [hwrite]; rfl, hfollows⟩
  | oam =>
      obtain ⟨hfirst, hlast, hoffset⟩ := target_range htarget hregion
      simp only [BusRegion.range] at hfirst hlast hoffset
      obtain ⟨oam, hwrite, hfollows⟩ := follows_writeOam h (by bv_omega) (by bv_omega) hoffset value
      exact ⟨_, cartridge, io, by rw [hwrite]; rfl, hfollows⟩
  | unusable =>
      obtain ⟨hfirst, hlast, -⟩ := target_range htarget hregion
      simp only [BusRegion.range] at hfirst hlast
      refine ⟨b, cartridge, io, rfl, ?_⟩
      rw [store_of_plain _ _ _ (.inr (.inr (.inl (by constructor <;> bv_omega))))]
      exact follows_refl h
  | mmio =>
      obtain ⟨b', io', hwrite, hfollows⟩ :=
        follows_writeIohramTarget h htarget (.inl hregion) value io
      exact ⟨b', cartridge, io', by rw [hwrite]; rfl, hfollows⟩
  | interruptEnable =>
      obtain ⟨b', io', hwrite, hfollows⟩ :=
        follows_writeIohramTarget h htarget (.inr (.inl hregion)) value io
      exact ⟨b', cartridge, io', by rw [hwrite]; rfl, hfollows⟩
  | hram =>
      obtain ⟨b', io', hwrite, hfollows⟩ :=
        follows_writeIohramTarget h htarget (.inr (.inr hregion)) value io
      exact ⟨b', cartridge, io', by rw [hwrite]; rfl, hfollows⟩

/-- With the T-cycle at hand a write differs in a cartridge's RAM window only. -/
theorem performAllowedWriteTimed_eq (tCycle : Nat) (value : U8)
    (hregion : target.region ≠ .cartridgeExternal) :
    b.performAllowedWriteTimed target value tCycle cartridge io =
      b.performAllowedWrite target value cartridge io := by
  unfold performAllowedWriteTimed performAllowedWrite writeCartridgeTargetTimed writeCartridgeTarget
  cases hr : target.region with
  | cartridgeExternal => exact absurd hr hregion
  | _ => rfl

theorem performAllowedWriteTimed_stores (h : b.WellFormed)
    (htarget : target = decodeAddress target.address) (value : U8) (tCycle : Nat) :
    b.Stores target.address value (b.performAllowedWriteTimed target value tCycle cartridge io) := by
  by_cases hregion : target.region = .cartridgeExternal
  · unfold performAllowedWriteTimed
    rw [hregion]
    refine stores_cartridge h htarget (.inr (.inr hregion)) value ?_
    unfold writeCartridgeTargetTimed
    cases cartridge <;> exact ⟨_, rfl⟩
  · rw [performAllowedWriteTimed_eq tCycle value hregion]
    exact performAllowedWrite_stores h htarget value

/-- What a performed read gives: the byte of the cell at its address, where there is one. -/
def Loads (b : Bus) (address : U16) (result : Option U8) : Prop :=
  ∃ value, result = some value ∧ ∀ byte, b.memory.load address = some byte → value = byte

omit [CartridgePort κ] [PpuRegisters π] in
theorem loads_of_locate_eq_none {a : U16} (value : U8) (h : b.memory.locate a = none) :
    b.Loads a (some value) := by
  refine ⟨value, rfl, fun byte hbyte => ?_⟩
  rw [BankedMemory.load, h] at hbyte
  cases hbyte

omit [CartridgePort κ] [PpuRegisters π] in
theorem loads_of_locate {a : U16} {cell : BusCell} {result : Option U8}
    (h : b.memory.locate a = some cell) (hresult : result = some (b.cellByte cell)) :
    b.Loads a result := by
  refine ⟨_, hresult, fun byte hbyte => ?_⟩
  rw [BankedMemory.load, h] at hbyte
  exact Option.some.inj hbyte

omit [CartridgePort κ] in
theorem readIohramTarget_loads (htarget : target = decodeAddress target.address)
    (hregion : target.region = .mmio ∨ target.region = .interruptEnable ∨ target.region = .hram) :
    b.Loads target.address (b.readIohramTarget target io) := by
  have hdevices (hlocate : b.memory.locate target.address = none) : b.Loads target.address
      (b.iohram.readIoTarget b.consoleModel b.operatingMode target.address io) := by
    obtain ⟨value, hread⟩ := b.iohram.readIoTarget_isSome io
    rw [hread]
    exact loads_of_locate_eq_none value hlocate
  unfold readIohramTarget IoHramDomain.read
  rcases hregion with hregion | hregion | hregion
  all_goals
    obtain ⟨hfirst, hlast, hoffset⟩ := target_range htarget hregion
    simp only [BusRegion.range] at hfirst hlast hoffset
  · have hlocate := @locate_eq_none target.address b.memory
      (.inr (.inr (.inl (by constructor <;> bv_omega))))
    rw [if_pos hregion]
    cases b.readCgbBusOwnedIo target.address with
    | some value => exact loads_of_locate_eq_none value hlocate
    | none =>
        dsimp only
        rw [hregion]
        exact hdevices hlocate
  · rw [if_neg (by rw [hregion]; decide)]
    dsimp only
    rw [hregion]
    exact hdevices (locate_eq_none _ (.inr (.inr (.inr (by bv_omega)))))
  · rw [if_neg (by rw [hregion]; decide)]
    dsimp only
    rw [hregion]
    obtain ⟨offset, hlocate, hval⟩ := hram_locate (by bv_omega) (by bv_omega) hoffset b.memory
    refine loads_of_locate hlocate ?_
    dsimp only
    rw [hval]
    exact getElem?_eq_some_getD offset.isLt

theorem performAllowedRead_loads (h : b.WellFormed)
    (htarget : target = decodeAddress target.address ∨
      (target.region = .bootRom ∧ target.address ≤ 0x08FF)) :
    b.Loads target.address (b.performAllowedRead target cartridge io) := by
  rcases htarget with htarget | ⟨hboot, haddress⟩
  · unfold performAllowedRead
    cases hregion : target.region
    all_goals
      obtain ⟨hfirst, hlast, hoffset⟩ := target_range htarget hregion
      simp only [BusRegion.range] at hfirst hlast hoffset
    case bootRom => omega
    case cartridgeRomBank0 | cartridgeRomBankN =>
      unfold readCartridgeTarget
      cases cartridge <;>
        exact loads_of_locate_eq_none _ (locate_eq_none _ (.inl (by bv_omega)))
    case cartridgeExternal =>
      unfold readCartridgeTarget
      cases cartridge <;> exact loads_of_locate_eq_none _
        (locate_eq_none _ (.inr (.inl (by constructor <;> bv_omega))))
    case vram =>
      obtain ⟨bank, offset, hlocate, hindex⟩ :=
        @vram_index b target.address h (by bv_omega) (by bv_omega) _ hoffset
      refine loads_of_locate hlocate ?_
      show b.vram.bytes[b.vram.storageIndex _]? = _
      rw [hindex]
      exact getElem?_eq_some_getD (by unfold cgbVramLen; omega)
    case wramBank0 | wramBankN | echoRam =>
      obtain ⟨bank, offset, hlocate, hindex⟩ :=
        @wram_index b target.address h (by bv_omega) (by bv_omega)
      refine loads_of_locate hlocate ?_
      show (b.wram.index target.address).bind (b.wram.bytes[·]?) = _
      rw [hindex]
      exact getElem?_eq_some_getD (by unfold cgbWramLen; omega)
    case oam =>
      obtain ⟨offset, hlocate, hval⟩ := oam_locate (by bv_omega) (by bv_omega) hoffset b.memory
      refine loads_of_locate hlocate ?_
      show b.oam.bytes[target.regionOffset.toNat]? = _
      rw [hval]
      exact getElem?_eq_some_getD offset.isLt
    case unusable =>
      exact loads_of_locate_eq_none _
        (locate_eq_none _ (.inr (.inr (.inl (by constructor <;> bv_omega)))))
    case mmio => exact readIohramTarget_loads htarget (.inl hregion)
    case interruptEnable => exact readIohramTarget_loads htarget (.inr (.inl hregion))
    case hram => exact readIohramTarget_loads htarget (.inr (.inr hregion))
  · unfold performAllowedRead
    rw [hboot]
    exact loads_of_locate_eq_none _ (locate_eq_none _ (.inl (by bv_omega)))

/-- With the T-cycle at hand a read differs in a cartridge's RAM window only. -/
theorem performAllowedReadTimed_eq (tCycle : Nat) (hregion : target.region ≠ .cartridgeExternal) :
    b.performAllowedReadTimed target tCycle cartridge io =
      (b.performAllowedRead target cartridge io).map (·, cartridge) := by
  unfold performAllowedReadTimed performAllowedRead readCartridgeTargetTimed readCartridgeTarget
  cases hr : target.region with
  | cartridgeExternal => exact absurd hr hregion
  | cartridgeRomBank0 | cartridgeRomBankN => cases cartridge <;> rfl
  | _ => rfl

theorem performAllowedReadTimed_loads (h : b.WellFormed)
    (htarget : target = decodeAddress target.address ∨
      (target.region = .bootRom ∧ target.address ≤ 0x08FF)) (tCycle : Nat) :
    b.Loads target.address
      ((b.performAllowedReadTimed target tCycle cartridge io).map Prod.fst) := by
  by_cases hregion : target.region = .cartridgeExternal
  · have hstatic : target = decodeAddress target.address := by
      rcases htarget with hstatic | ⟨hboot, -⟩
      · exact hstatic
      · rw [hregion] at hboot
        cases hboot
    obtain ⟨hfirst, hlast, -⟩ := target_range hstatic hregion
    simp only [BusRegion.range] at hfirst hlast
    have hlocate := @locate_eq_none target.address b.memory
      (.inr (.inl (by constructor <;> bv_omega)))
    unfold performAllowedReadTimed readCartridgeTargetTimed
    rw [hregion]
    cases cartridge <;> exact loads_of_locate_eq_none _ hlocate
  · have hfst : (Prod.fst ∘ fun value : U8 => (value, cartridge)) = id := rfl
    rw [performAllowedReadTimed_eq tCycle hregion, Option.map_map, hfst, Option.map_id]
    exact performAllowedRead_loads h htarget

end Performed

end Bus

/-! ## Runs -/

/-- An access of a run: a write of a value or a read, with the T-cycle at hand or without, and
the devices and the cartridge as they are by then. -/
structure BusAccess (κ π : Type) where
  value : Option U8
  address : U16
  requester : BusRequester
  state : BusArbitrationState
  tCycle : Option Nat
  cartridge : Option κ
  io : BusIoView π

namespace Bus

section Runs

variable {κ : Type} [CartridgePort κ] {π : Type} [PpuRegisters π]

/-- The byte that an access reads, if it is a read, and the bus after it. -/
def access (b : Bus) (a : BusAccess κ π) : Option (Option U8 × Bus) :=
  match a.value, a.tCycle with
  | none, none =>
      (b.readWithContext a.address a.requester a.state a.cartridge a.io).map fun byte =>
        (some byte, b)
  | none, some tCycle =>
      (b.readWithTCycleContext a.address a.requester a.state tCycle a.cartridge a.io).map fun r =>
        (some r.1, b)
  | some value, none =>
      (b.writeWithContext a.address value a.requester a.state a.cartridge a.io).map fun r =>
        (none, r.1)
  | some value, some tCycle =>
      (b.writeWithTCycleContext a.address value a.requester a.state tCycle a.cartridge a.io).map
        fun r => (none, r.1)

def run (b : Bus) : List (BusAccess κ π) → Option (List (Option U8) × Bus)
  | [] => some ([], b)
  | a :: as => do
      let (byte, b) ← b.access a
      let (bytes, b) ← b.run as
      some (byte :: bytes, b)

end Runs

end Bus

namespace BankedMemory

variable {κ π : Type}

/-- What an access is to the memory of a bus.  A read that is held back sees `FF`; of a read
that reaches no cell the memory says nothing. -/
def access (b : Bus) (m : BankedMemory) (a : BusAccess κ π) : Option U8 × BankedMemory :=
  match a.value with
  | none =>
      match b.performedTarget a.requester .read a.address a.state with
      | none => (some 0xFF, m)
      | some target => (m.load target.address, m)
  | some value =>
      match b.performedTarget a.requester .write a.address a.state with
      | none => (none, m)
      | some target => (none, m.store b.hasSvbk b.hasVbk target.address value)

def run (b : Bus) (m : BankedMemory) : List (BusAccess κ π) → List (Option U8) × BankedMemory
  | [] => ([], m)
  | a :: as =>
      let (byte, m) := m.access b a
      let (bytes, m) := m.run b as
      (byte :: bytes, m)

end BankedMemory

namespace Bus

section Refinement

variable {κ π : Type} {b b' : Bus}

/-- What the memory says about a read is what is read. -/
def Agrees (said read : Option U8) : Prop := ∀ byte, said = some byte → read = some byte

theorem performedTarget_congr (hconsole : b'.consoleModel = b.consoleModel)
    (hrevision : b'.revision = b.revision) (requester : BusRequester) (kind : BusAccessKind)
    (address : U16) (state : BusArbitrationState) :
    b'.performedTarget requester kind address state =
      b.performedTarget requester kind address state := by
  unfold performedTarget unusableAreaAt
  rw [hconsole, hrevision]

/-- The other buses of a machine access its memory as it does. -/
theorem Follows.access_congr {m : BankedMemory} (h : b.Follows b' m) (m' : BankedMemory)
    (a : BusAccess κ π) : m'.access b' a = m'.access b a := by
  have hsvbk : b'.hasSvbk = b.hasSvbk := by
    unfold hasSvbk
    rw [h.consoleModel, h.operatingMode]
  have hvbk : b'.hasVbk = b.hasVbk := by
    unfold hasVbk
    rw [h.consoleModel, h.operatingMode]
  unfold BankedMemory.access
  simp only [performedTarget_congr h.consoleModel h.revision, hsvbk, hvbk]

theorem Follows.run_congr {m : BankedMemory} (h : b.Follows b' m) (m' : BankedMemory)
    (as : List (BusAccess κ π)) : m'.run b' as = m'.run b as := by
  induction as generalizing m' with
  | nil => rfl
  | cons a as ih =>
      unfold BankedMemory.run
      simp only [h.access_congr, ih]

theorem Follows.trans {b'' : Bus} {m m' : BankedMemory} (h : b.Follows b' m)
    (h' : b'.Follows b'' m') : b.Follows b'' m' :=
  ⟨h'.wellFormed, h'.memory, h'.consoleModel.trans h.consoleModel, h'.revision.trans h.revision,
    h'.operatingMode.trans h.operatingMode⟩

/-- The target of a performed read. -/
theorem readTarget_valid {requester : BusRequester} {address : U16} {state : BusArbitrationState}
    {target : BusAddressInfo}
    (h : b.performedTarget requester .read address state = some target) :
    target = decodeAddress target.address ∨
      (target.region = .bootRom ∧ target.address ≤ 0x08FF) :=
  (performedTarget_valid h).imp_right And.right

theorem writeTarget_valid {requester : BusRequester} {address : U16} {state : BusArbitrationState}
    {target : BusAddressInfo}
    (h : b.performedTarget requester .write address state = some target) :
    target = decodeAddress target.address :=
  (performedTarget_valid h).resolve_right fun h => by cases h.1

variable [CartridgePort κ] [PpuRegisters π]

/-- One access: the bus does what its memory does. -/
theorem access_refines (h : b.WellFormed) (a : BusAccess κ π) :
    ∃ byte b', b.access a = some (byte, b') ∧ b.Follows b' (b.memory.access b a).2 ∧
      Agrees (b.memory.access b a).1 byte := by
  have hread {result : Option U8} {target : BusAddressInfo}
      (hloads : b.Loads target.address result) :
      ∃ byte b', result.map (fun byte => (some byte, b)) = some (byte, b') ∧
        b.Follows b' b.memory ∧ Agrees (b.memory.load target.address) byte := by
    obtain ⟨value, rfl, hagrees⟩ := hloads
    refine ⟨some value, b, rfl, follows_refl h, fun byte hbyte => ?_⟩
    rw [hagrees byte hbyte]
  have hwrite {result : Option (Bus × Option κ × BusIoView π)} {target : BusAddressInfo}
      {value : U8} (hstores : b.Stores target.address value result) :
      ∃ byte b', result.map (fun r => ((none : Option U8), r.1)) = some (byte, b') ∧
        b.Follows b' (b.memory.store b.hasSvbk b.hasVbk target.address value) ∧
        Agrees none byte := by
    obtain ⟨b', cartridge', io', rfl, hfollows⟩ := hstores
    exact ⟨none, b', rfl, hfollows, fun _ hbyte => by cases hbyte⟩
  unfold access BankedMemory.access
  obtain ⟨value, address, requester, state, tCycle, cartridge, io⟩ := a
  cases value with
  | none =>
      dsimp only
      cases tCycle with
      | none =>
          dsimp only
          rw [readWithContext_eq]
          cases htarget : b.performedTarget requester .read address state with
          | none => exact ⟨_, b, rfl, follows_refl h, fun _ hbyte => hbyte⟩
          | some target => exact hread (performAllowedRead_loads h (readTarget_valid htarget))
      | some tCycle =>
          dsimp only
          rw [readWithTCycleContext_eq, resolvedReadTimed_eq]
          cases htarget : b.performedTarget requester .read address state with
          | none => exact ⟨_, b, rfl, follows_refl h, fun _ hbyte => hbyte⟩
          | some target =>
              have hloads : b.Loads target.address
                  ((b.performAllowedReadTimed target tCycle cartridge io).map Prod.fst) :=
                performAllowedReadTimed_loads h (readTarget_valid htarget) tCycle
              have hdone := hread hloads
              rwa [Option.map_map] at hdone
  | some value =>
      dsimp only
      cases tCycle with
      | none =>
          dsimp only
          rw [writeWithContext_eq]
          cases htarget : b.performedTarget requester .write address state with
          | none => exact ⟨_, b, rfl, follows_refl h, fun _ hbyte => by cases hbyte⟩
          | some target =>
              exact hwrite (performAllowedWrite_stores h (writeTarget_valid htarget) value)
      | some tCycle =>
          dsimp only
          rw [writeWithTCycleContext_eq, resolvedWriteTimed_eq]
          cases htarget : b.performedTarget requester .write address state with
          | none => exact ⟨_, b, rfl, follows_refl h, fun _ hbyte => by cases hbyte⟩
          | some target =>
              exact hwrite (performAllowedWriteTimed_stores h (writeTarget_valid htarget) value
                tCycle)

/-- Over any accesses the bus returns, reads what its memory holds and ends as its memory
does.  The rows of OAM that a monochrome PPU corrupts at addresses of the CPU are not part of an
access: the machine reports those addresses on their own. -/
theorem run_refines (h : b.WellFormed) (as : List (BusAccess κ π)) :
    ∃ bytes b', b.run as = some (bytes, b') ∧ b.Follows b' (b.memory.run b as).2 ∧
      List.Forall₂ Agrees (b.memory.run b as).1 bytes := by
  induction as generalizing b with
  | nil => exact ⟨[], b, rfl, follows_refl h, .nil⟩
  | cons a as ih =>
      obtain ⟨byte, b₁, haccess, hfollows, hagrees⟩ := access_refines h a
      obtain ⟨bytes, b₂, hrun, hfollows', hagrees'⟩ := ih hfollows.wellFormed
      rw [hfollows.memory, hfollows.run_congr] at hfollows' hagrees'
      refine ⟨byte :: bytes, b₂, ?_, hfollows.trans hfollows', .cons hagrees hagrees'⟩
      unfold run
      simp only [haccess, hrun, Option.bind_eq_bind, Option.bind_some]

/-- A CPU access with nothing in the way. -/
def plainAccess (value : Option U8) (address : U16) : BusAccess CartridgeSlot PpuRegisterFile :=
  { value, address, requester := .cpu, state := .default, tCycle := some 0
    cartridge := some .empty, io := .default }

/-- A Game Boy Color just switched on. -/
def newColor : Bus := newWithRevisionAndOperatingMode .gameBoyColor .cpuCgbE .cgb

/-- A Game Boy just switched on. -/
def newMonochrome : Bus := newWithRevisionAndOperatingMode .gameBoy .dmgCpuC .dmg

theorem wellFormed_newColor : newColor.WellFormed := wellFormed_new _ _ _

theorem run_refines_newColor :
    ∃ bytes b', newColor.run [plainAccess (some 0x42) 0xC123, plainAccess none 0xE123] =
        some (bytes, b') ∧
      newColor.Follows b'
        (newColor.memory.run newColor [plainAccess (some 0x42) 0xC123, plainAccess none 0xE123]).2 ∧
      List.Forall₂ Agrees
        (newColor.memory.run newColor [plainAccess (some 0x42) 0xC123, plainAccess none 0xE123]).1
        bytes :=
  run_refines wellFormed_newColor _

/-- The timed accesses through the shortcut are those of the resolution. -/
theorem timedShortcut_agrees (b : Bus) (address : U16) (requester : BusRequester)
    (state : BusArbitrationState) (tCycle : Nat) (cartridge : Option κ) (io : BusIoView π) :
    b.readWithTCycleContext address requester state tCycle cartridge io =
      b.resolvedReadTimed address requester state tCycle cartridge io ∧
    ∀ value, b.writeWithTCycleContext address value requester state tCycle cartridge io =
      b.resolvedWriteTimed address value requester state tCycle cartridge io :=
  ⟨b.readWithTCycleContext_eq requester address state cartridge tCycle io, fun value =>
    b.writeWithTCycleContext_eq requester address state cartridge value tCycle io⟩

/-- No access fails, whoever makes it and whatever the arbitration says. -/
theorem access_isSome (h : b.WellFormed) (a : BusAccess κ π) : (b.access a).isSome := by
  obtain ⟨byte, b', haccess, -⟩ := access_refines h a
  rw [haccess]
  rfl

/-- Where the shortcut of a timed access answers, it answers as the resolution does, and every
access is resolved to what the code that performs it handles. -/
theorem fastPath_resolved (b : Bus) (address : U16) (requester : BusRequester)
    (state : BusArbitrationState) (tCycle : Nat) (cartridge : Option κ) (io : BusIoView π) :
    (∀ result, b.tryReadTimedFastPath address requester state tCycle cartridge = some result →
      result = b.resolvedReadTimed address requester state tCycle cartridge io) ∧
    (∀ value result,
      b.tryWriteTimedFastPath address value requester state tCycle cartridge io = some result →
      result = b.resolvedWriteTimed address value requester state tCycle cartridge io) ∧
    (∀ reason, (b.resolveRequesterAccess requester .read address state cartridge).disposition ≠
      .ignoredWrite reason) ∧
    (∀ value reason,
      (b.resolveRequesterAccess requester .write address state cartridge).disposition ≠
        .blockedRead value reason) ∧
    (b.WellFormed →
      (b.resolvedReadTimed address requester state tCycle cartridge io).isSome ∧
      (∀ value, (b.resolvedWriteTimed address value requester state tCycle cartridge io).isSome) ∧
      (b.readWithContext address requester state cartridge io).isSome ∧
      ∀ value, (b.writeWithContext address value requester state cartridge io).isSome) := by
  have hread := b.readWithTCycleContext_eq requester address state cartridge tCycle io
  have hwrite (value : U8) :=
    b.writeWithTCycleContext_eq requester address state cartridge value tCycle io
  refine ⟨?_, ?_, ?_, ?_, fun h => ?_⟩
  · intro result hfast
    rw [readWithTCycleContext, hfast] at hread
    exact hread
  · intro value result hfast
    have heq := hwrite value
    rw [writeWithTCycleContext, hfast] at heq
    exact heq
  · intro reason hreason
    rcases b.resolveRequesterAccess_disposition requester address state cartridge .read with
      hallowed | ⟨value, why, hblocked⟩
    · cases hreason.symm.trans hallowed
    · cases hreason.symm.trans hblocked
  · intro value reason hreason
    rcases b.resolveRequesterAccess_disposition requester address state cartridge .write with
      hallowed | ⟨why, hignored⟩
    · cases hreason.symm.trans hallowed
    · cases hreason.symm.trans hignored
  · have hdone (value : Option U8) (t : Option Nat) :=
      access_isSome h { value, address, requester, state, tCycle := t, cartridge, io }
    refine ⟨?_, fun value => ?_, ?_, fun value => ?_⟩
    · rw [← hread]
      simpa only [access, Option.isSome_map] using hdone none (some tCycle)
    · rw [← hwrite]
      simpa only [access, Option.isSome_map] using hdone (some value) (some tCycle)
    · simpa only [access, Option.isSome_map] using hdone none none
    · simpa only [access, Option.isSome_map] using hdone (some value) none

theorem fastPath_resolved_workRam :
    newColor.tryReadTimedFastPath 0xC123 .cpu .default 0 (some CartridgeSlot.empty) =
        some (newColor.resolvedReadTimed 0xC123 .cpu .default 0 (some CartridgeSlot.empty)
          (.default : BusIoView PpuRegisterFile)) ∧
      newColor.tryWriteTimedFastPath 0xC123 0x42 .cpu .default 0 (some CartridgeSlot.empty)
          (.default : BusIoView PpuRegisterFile) =
        some (newColor.resolvedWriteTimed 0xC123 0x42 .cpu .default 0 (some CartridgeSlot.empty)
          .default) ∧
      (newColor.resolvedWriteTimed 0xC123 0x42 .cpu .default 0 (some CartridgeSlot.empty)
        (.default : BusIoView PpuRegisterFile)).isSome :=
  have h := fastPath_resolved newColor 0xC123 .cpu .default 0 (some CartridgeSlot.empty)
    (.default : BusIoView PpuRegisterFile)
  ⟨congrArg some (h.1 _ rfl), congrArg some (h.2.1 0x42 _ rfl),
    (h.2.2.2.2 wellFormed_newColor).2.1 0x42⟩

/-- A read leaves the bus as it is. -/
theorem access_read {b' : Bus} {a : BusAccess κ π} {byte : Option U8} (hvalue : a.value = none)
    (h : b.access a = some (byte, b')) : b' = b := by
  unfold access at h
  rw [hvalue] at h
  split at h
  · obtain ⟨r, -, hr⟩ := Option.map_eq_some_iff.mp h
    exact (congrArg Prod.snd hr).symm
  · obtain ⟨r, -, hr⟩ := Option.map_eq_some_iff.mp h
    exact (congrArg Prod.snd hr).symm
  · rename_i heq _
    cases heq
  · rename_i heq _
    cases heq

/-- A performed read of a cell. -/
theorem access_read_cell (h : b.WellFormed) {a : BusAccess κ π} {target : BusAddressInfo}
    (hvalue : a.value = none)
    (htarget : b.performedTarget a.requester .read a.address a.state = some target) {byte : U8}
    (hbyte : b.memory.load target.address = some byte) : b.access a = some (some byte, b) := by
  obtain ⟨seen, b', haccess, -, hagrees⟩ := access_refines h a
  obtain rfl := access_read hvalue haccess
  unfold BankedMemory.access at hagrees
  rw [hvalue] at hagrees
  dsimp only at hagrees
  rw [htarget] at hagrees
  rw [haccess, hagrees byte hbyte]

/-- A read after a performed write sees the value at the byte written, and at its mirrors, and
sees every other byte as it was, unless the write selects a bank. -/
theorem read_after_write (h : b.WellFormed) {w r : BusAccess κ π} {value : U8}
    {written read : BusAddressInfo} (hw : w.value = some value) (hr : r.value = none)
    (hwritten : b.performedTarget w.requester .write w.address w.state = some written)
    (hread : b.performedTarget r.requester .read r.address r.state = some read)
    (hcell : (b.memory.load read.address).isSome)
    (hsvbk : b.hasSvbk = true → written.address ≠ 0xFF70)
    (hvbk : b.hasVbk = true → written.address ≠ 0xFF4F) :
    ∃ seen b' before, b.access w = some (seen, b') ∧ b.access r = some (some before, b) ∧
      b'.access r =
        some (some (if BankedMemory.Mirrors written.address read.address then value else before),
          b') := by
  obtain ⟨seen, b', haccess, hfollows, -⟩ := access_refines h w
  obtain ⟨before, hbefore⟩ := Option.isSome_iff_exists.mp hcell
  have hstore : b'.memory = b.memory.store b.hasSvbk b.hasVbk written.address value := by
    rw [hfollows.memory]
    unfold BankedMemory.access
    rw [hw]
    dsimp only
    rw [hwritten]
  have hafter : b'.memory.load read.address = some
      (if BankedMemory.Mirrors written.address read.address then value else before) := by
    rw [hstore, BankedMemory.load_store b.memory_wramBank_ne_zero hsvbk hvbk]
    rw [hbefore]
    split <;> rfl
  refine ⟨seen, b', before, haccess, access_read_cell h hr hread hbefore, ?_⟩
  refine access_read_cell hfollows.wellFormed hr ?_ hafter
  rw [performedTarget_congr hfollows.consoleModel hfollows.revision]
  exact hread

theorem read_after_write_mirror :
    ∃ seen b' before, newColor.access (plainAccess (some 0x42) 0xC123) = some (seen, b') ∧
      newColor.access (plainAccess none 0xE123) = some (some before, newColor) ∧
      b'.access (plainAccess none 0xE123) =
        some (some (if BankedMemory.Mirrors (decodeAddress 0xC123).address
          (decodeAddress 0xE123).address then 0x42 else before), b') :=
  have hwritten : newColor.performedTarget .cpu .write 0xC123 .default =
      some (decodeAddress 0xC123) := rfl
  have hread : newColor.performedTarget .cpu .read 0xE123 .default =
      some (decodeAddress 0xE123) := rfl
  have hsvbk (_ : newColor.hasSvbk = true) : (decodeAddress 0xC123).address ≠ 0xFF70 := by decide
  have hvbk (_ : newColor.hasVbk = true) : (decodeAddress 0xC123).address ≠ 0xFF4F := by decide
  read_after_write wellFormed_newColor rfl rfl hwritten hread rfl hsvbk hvbk

end Refinement

end Bus

end GbCycle
