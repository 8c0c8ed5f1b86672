import GbCycle.Bus.AccessLaws
import Mathlib.Logic.Function.Basic

/-!
# The bus as a banked memory

To a program the bus is a memory of four kinds of cells behind a banked address map: work RAM
seen twice, with one switchable bank, video RAM with one bank of two, OAM and high RAM.  A write
that is performed stores in the cell at its address, or selects a bank, or does neither.  The
faithful bus refines this memory, over any accesses by anyone, with any devices and cartridge and
in any state of the arbitration.
-/

namespace GbCycle

/-! ## The memory -/

inductive BusCell where
  | wram (bank : Fin 8) (offset : Fin 0x1000)
  | vram (bank : Fin 2) (offset : Fin 0x2000)
  | oam (offset : Fin 0xA0)
  | hram (offset : Fin 0x7F)
  deriving Repr, DecidableEq

structure BankedMemory where
  wramBank : Fin 8
  vramBank : Fin 2
  cells : BusCell → U8

namespace BankedMemory

/-- The cell at an address, under the banks selected. -/
def locate (m : BankedMemory) (address : U16) : Option BusCell :=
  if 0x8000 ≤ address ∧ address ≤ 0x9FFF then
    some (.vram m.vramBank (Fin.ofNat 0x2000 address.toNat))
  else if 0xC000 ≤ address ∧ address ≤ 0xFDFF then
    some (.wram (if address.getLsbD 12 then m.wramBank else 0) (Fin.ofNat 0x1000 address.toNat))
  else if 0xFE00 ≤ address ∧ address ≤ 0xFE9F then
    some (.oam (Fin.ofNat 0xA0 (address.toNat - 0xFE00)))
  else if 0xFF80 ≤ address ∧ address ≤ 0xFFFE then
    some (.hram (Fin.ofNat 0x7F (address.toNat - 0xFF80)))
  else none

def load (m : BankedMemory) (address : U16) : Option U8 := (m.locate address).map m.cells

/-- The bank of work RAM that a value selects: never the fixed one. -/
def wramBankOf (value : U8) : Fin 8 :=
  if value &&& 0x07 = 0 then 1 else Fin.ofNat 8 value.toNat

/-- A performed write, on a machine with the bank registers or without. -/
def store (svbk vbk : Bool) (m : BankedMemory) (address : U16) (value : U8) : BankedMemory :=
  if svbk && address = 0xFF70 then { m with wramBank := wramBankOf value }
  else if vbk && address = 0xFF4F then { m with vramBank := Fin.ofNat 2 value.toNat }
  else
    match m.locate address with
    | some cell => { m with cells := Function.update m.cells cell value }
    | none => m

/-! ## Loads and stores -/

section Laws

variable {m : BankedMemory} {a a' : U16} {value : U8} {svbk vbk : Bool}

/-- Where an address goes depends on the banks alone. -/
theorem locate_congr {m' : BankedMemory} (hwram : m'.wramBank = m.wramBank)
    (hvram : m'.vramBank = m.vramBank) (a : U16) : m'.locate a = m.locate a := by
  unfold locate
  rw [hwram, hvram]

theorem locate_of_wram (hlow : 0xC000 ≤ a) (hhigh : a ≤ 0xFDFF) :
    m.locate a =
      some (.wram (if a.getLsbD 12 then m.wramBank else 0) (Fin.ofNat 0x1000 a.toNat)) := by
  unfold locate
  rw [if_neg (by rintro ⟨-, h⟩; bv_omega), if_pos ⟨hlow, hhigh⟩]

theorem locate_vram {bank : Fin 2} {offset : Fin 0x2000} (h : m.locate a = some (.vram bank offset)) :
    0x8000 ≤ a ∧ a ≤ 0x9FFF ∧ offset.val = a.toNat % 0x2000 := by
  unfold locate at h
  split at h
  · rename_i hrange
    injection h with h
    injection h with _ h
    exact ⟨hrange.1, hrange.2, (Fin.val_eq_of_eq h).symm⟩
  · repeat' split at h
    all_goals cases h

theorem locate_wram {bank : Fin 8} {offset : Fin 0x1000} (h : m.locate a = some (.wram bank offset)) :
    0xC000 ≤ a ∧ a ≤ 0xFDFF ∧ bank = (if a.getLsbD 12 then m.wramBank else 0) ∧
      offset.val = a.toNat % 0x1000 := by
  unfold locate at h
  split at h
  · cases h
  · split at h
    · rename_i hrange
      injection h with h
      injection h with hbank h
      exact ⟨hrange.1, hrange.2, hbank.symm, (Fin.val_eq_of_eq h).symm⟩
    · repeat' split at h
      all_goals cases h

theorem locate_oam {offset : Fin 0xA0} (h : m.locate a = some (.oam offset)) :
    0xFE00 ≤ a ∧ a ≤ 0xFE9F ∧ offset.val = (a.toNat - 0xFE00) % 0xA0 := by
  unfold locate at h
  split at h
  · cases h
  · split at h
    · cases h
    · split at h
      · rename_i hrange
        injection h with h
        injection h with h
        exact ⟨hrange.1, hrange.2, (Fin.val_eq_of_eq h).symm⟩
      · repeat' split at h
        all_goals cases h

theorem locate_hram {offset : Fin 0x7F} (h : m.locate a = some (.hram offset)) :
    0xFF80 ≤ a ∧ a ≤ 0xFFFE ∧ offset.val = (a.toNat - 0xFF80) % 0x7F := by
  unfold locate at h
  split at h
  · cases h
  · split at h
    · cases h
    · split at h
      · cases h
      · split at h
        · rename_i hrange
          injection h with h
          injection h with h
          exact ⟨hrange.1, hrange.2, (Fin.val_eq_of_eq h).symm⟩
        · cases h

/-- Two addresses of one byte: work RAM is seen again, for the most part, in its echo. -/
def Mirrors (a a' : U16) : Prop :=
  a = a' ∨ (0xC000 ≤ a ∧ a ≤ 0xFDFF ∧ 0xC000 ≤ a' ∧ a' ≤ 0xFDFF ∧
    (a' = a + 0x2000 ∨ a = a' + 0x2000))

instance : Decidable (Mirrors a a') := inferInstanceAs (Decidable (_ ∨ _))

theorem bit12_eq (a : U16) : a.getLsbD 12 = decide (a.toNat / 0x1000 % 2 = 1) := by
  rw [BitVec.getLsbD, Nat.testBit_eq_decide_div_mod_eq]

/-- Work RAM goes to the same byte for an address and its mirror. -/
theorem locate_mirror (h : Mirrors a a') : m.locate a' = m.locate a := by
  rcases h with rfl | ⟨hlow, hhigh, hlow', hhigh', hshift⟩
  · rfl
  · have hbit : a'.getLsbD 12 = a.getLsbD 12 := by
      rw [bit12_eq, bit12_eq, decide_eq_decide]
      rcases hshift with rfl | rfl <;> bv_omega
    have hoffset : Fin.ofNat 0x1000 a'.toNat = Fin.ofNat 0x1000 a.toNat := by
      refine Fin.ext ?_
      show a'.toNat % 0x1000 = a.toNat % 0x1000
      rcases hshift with rfl | rfl <;> bv_omega
    rw [locate_of_wram hlow hhigh, locate_of_wram hlow' hhigh', hbit, hoffset]

/-- With a switchable bank other than the fixed one, only mirrors share a cell. -/
theorem locate_eq_iff (hbank : m.wramBank ≠ 0) {cell : BusCell} (h : m.locate a = some cell) :
    m.locate a' = some cell ↔ Mirrors a a' := by
  constructor
  · intro h'
    cases cell with
    | wram bank offset =>
        obtain ⟨hlow, hhigh, hb, ho⟩ := locate_wram h
        obtain ⟨hlow', hhigh', hb', ho'⟩ := locate_wram h'
        have hbit : a.getLsbD 12 = a'.getLsbD 12 := by
          rw [hb] at hb'
          cases hbit : a.getLsbD 12 <;> cases hbit' : a'.getLsbD 12 <;>
            rw [hbit, hbit'] at hb' <;> first
            | rfl
            | exact absurd hb'.symm hbank
            | exact absurd hb' hbank
        rw [bit12_eq, bit12_eq, decide_eq_decide] at hbit
        by_cases heq : a = a'
        · exact .inl heq
        · have hne : a.toNat ≠ a'.toNat := fun h => heq (BitVec.eq_of_toNat_eq h)
          refine .inr ⟨hlow, hhigh, hlow', hhigh', ?_⟩
          by_cases hlt : a.toNat < a'.toNat
          · left
            bv_omega
          · right
            bv_omega
    | vram bank offset =>
        obtain ⟨hlow, hhigh, ho⟩ := locate_vram h
        obtain ⟨hlow', hhigh', ho'⟩ := locate_vram h'
        exact .inl (BitVec.eq_of_toNat_eq (by bv_omega))
    | oam offset =>
        obtain ⟨hlow, hhigh, ho⟩ := locate_oam h
        obtain ⟨hlow', hhigh', ho'⟩ := locate_oam h'
        exact .inl (BitVec.eq_of_toNat_eq (by bv_omega))
    | hram offset =>
        obtain ⟨hlow, hhigh, ho⟩ := locate_hram h
        obtain ⟨hlow', hhigh', ho'⟩ := locate_hram h'
        exact .inl (BitVec.eq_of_toNat_eq (by bv_omega))
  · intro hmirror
    rw [locate_mirror hmirror, h]

/-- A store away from the bank registers that there are is one of a cell, or none. -/
theorem store_of_ne (hsvbk : svbk = true → a ≠ 0xFF70) (hvbk : vbk = true → a ≠ 0xFF4F) :
    m.store svbk vbk a value =
      match m.locate a with
      | some cell => { m with cells := Function.update m.cells cell value }
      | none => m := by
  unfold store
  rw [if_neg, if_neg]
  · rw [Bool.and_eq_true, decide_eq_true_eq]
    exact fun h => hvbk h.1 h.2
  · rw [Bool.and_eq_true, decide_eq_true_eq]
    exact fun h => hsvbk h.1 h.2

theorem store_banks (hsvbk : svbk = true → a ≠ 0xFF70) (hvbk : vbk = true → a ≠ 0xFF4F) :
    (m.store svbk vbk a value).wramBank = m.wramBank ∧
      (m.store svbk vbk a value).vramBank = m.vramBank := by
  rw [store_of_ne hsvbk hvbk]
  split <;> exact ⟨rfl, rfl⟩

theorem store_cells_of_ne (hsvbk : svbk = true → a ≠ 0xFF70) (hvbk : vbk = true → a ≠ 0xFF4F)
    {cell : BusCell} (hcell : m.locate a ≠ some cell) :
    (m.store svbk vbk a value).cells cell = m.cells cell := by
  rw [store_of_ne hsvbk hvbk]
  split
  · rename_i written hlocate
    refine Function.update_of_ne ?_ _ _
    rintro rfl
    exact hcell hlocate
  · rfl

theorem store_cells_self (hsvbk : svbk = true → a ≠ 0xFF70) (hvbk : vbk = true → a ≠ 0xFF4F)
    {cell : BusCell} (hcell : m.locate a = some cell) :
    (m.store svbk vbk a value).cells cell = value := by
  rw [store_of_ne hsvbk hvbk, hcell]
  exact Function.update_self _ _ _

/-- A store leaves alone what is loaded elsewhere. -/
theorem load_store_of_ne (hsvbk : svbk = true → a ≠ 0xFF70) (hvbk : vbk = true → a ≠ 0xFF4F)
    (hne : ∀ cell, m.locate a' = some cell → m.locate a ≠ some cell) :
    (m.store svbk vbk a value).load a' = m.load a' := by
  obtain ⟨hwram, hvram⟩ := @store_banks m a value svbk vbk hsvbk hvbk
  unfold load
  rw [locate_congr hwram hvram]
  cases hlocate : m.locate a' with
  | none => rfl
  | some cell =>
      show some _ = some _
      rw [store_cells_of_ne hsvbk hvbk (hne cell hlocate)]

/-- A store is loaded back at its address and the mirrors of it, and nowhere else. -/
theorem load_store (hbank : m.wramBank ≠ 0) (hsvbk : svbk = true → a ≠ 0xFF70)
    (hvbk : vbk = true → a ≠ 0xFF4F) :
    (m.store svbk vbk a value).load a' =
      if Mirrors a a' then (m.load a').map fun _ => value else m.load a' := by
  obtain ⟨hwram, hvram⟩ := @store_banks m a value svbk vbk hsvbk hvbk
  by_cases hmirror : Mirrors a a'
  · rw [if_pos hmirror]
    unfold load
    rw [locate_congr hwram hvram, locate_mirror hmirror]
    cases hlocate : m.locate a with
    | none => rfl
    | some cell => exact congrArg some (store_cells_self hsvbk hvbk hlocate)
  · rw [if_neg hmirror]
    refine load_store_of_ne hsvbk hvbk fun cell hcell hcell' => hmirror ?_
    exact (locate_eq_iff hbank hcell').mp hcell

end Laws

end BankedMemory

/-! ## The memory of a bus -/

namespace Bus

/-- The memories of the bus are built for its own console, and its bank registers hold the bits
they have. -/
structure WellFormed (b : Bus) : Prop where
  wram : b.wram.consoleModel = b.consoleModel
  vram : b.vram.consoleModel = b.consoleModel
  svbk : b.wram.selectedBankRegister &&& 0x07 = b.wram.selectedBankRegister
  vbk : b.vram.selectedBank &&& 0x01 = b.vram.selectedBank

theorem wellFormed_new (consoleModel : ConsoleModel) (revision : HardwareRevision)
    (operatingMode : OperatingMode) :
    (newWithRevisionAndOperatingMode consoleModel revision operatingMode).WellFormed :=
  ⟨rfl, rfl, BitVec.zero_and, BitVec.zero_and⟩

def cellByte (b : Bus) : BusCell → U8
  | .wram bank offset => b.wram.bytes[bank.val * 0x1000 + offset.val]?.getD 0
  | .vram bank offset => b.vram.bytes[bank.val * 0x2000 + offset.val]?.getD 0
  | .oam offset => b.oam.bytes[offset.val]?.getD 0
  | .hram offset => b.iohram.hram[offset.val]?.getD 0

theorem cellByte_wram (b : Bus) (bank : Fin 8) (offset : Fin 0x1000) :
    b.cellByte (.wram bank offset) = b.wram.bytes[bank.val * 0x1000 + offset.val]?.getD 0 := rfl

theorem cellByte_vram (b : Bus) (bank : Fin 2) (offset : Fin 0x2000) :
    b.cellByte (.vram bank offset) = b.vram.bytes[bank.val * 0x2000 + offset.val]?.getD 0 := rfl

/-- The memory that a bus implements. -/
def memory (b : Bus) : BankedMemory where
  wramBank := if b.consoleModel.isCgbFamily then ⟨_, selectedWramBank_lt b.wram⟩ else 1
  vramBank := if b.consoleModel.isCgbFamily then Fin.ofNat 2 b.vram.selectedBank.toNat else 0
  cells := b.cellByte

theorem memory_wramBank_ne_zero (b : Bus) : b.memory.wramBank ≠ 0 := by
  intro h
  have hval := congrArg Fin.val h
  unfold memory at hval
  dsimp only at hval
  split at hval
  · have hpos := selectedWramBank_pos b.wram
    exact absurd hval (by simp only [Fin.val_zero]; omega)
  · cases hval

def hasSvbk (b : Bus) : Bool :=
  ioRegisterKindIsAvailable .svbk .cgbOnly b.consoleModel b.operatingMode

def hasVbk (b : Bus) : Bool :=
  ioRegisterKindIsAvailable .vbk .cgbOnly b.consoleModel b.operatingMode

/-! ## The arrays and the cells -/

section Arrays

variable {b : Bus} {a : U16}

theorem wram_index (h : b.WellFormed) (hlow : 0xC000 ≤ a) (hhigh : a ≤ 0xFDFF) :
    ∃ bank offset, b.memory.locate a = some (.wram bank offset) ∧
      b.wram.index a = some (bank.val * 0x1000 + offset.val) := by
  refine ⟨if a.getLsbD 12 then b.memory.wramBank else 0, Fin.ofNat 0x1000 a.toNat, ?_, ?_⟩
  · exact BankedMemory.locate_of_wram hlow hhigh
  · have hswitch (offset : U16) : b.wram.switchableBankIndex offset =
        b.memory.wramBank.val * 0x1000 + offset.toNat := by
      unfold WramDomain.switchableBankIndex memory
      rw [h.wram]
      dsimp only
      cases b.consoleModel.isCgbFamily
      · simp
      · rfl
    have hval : (Fin.ofNat 0x1000 a.toNat).val = a.toNat % 0x1000 := rfl
    unfold WramDomain.index
    rw [BankedMemory.bit12_eq, hval]
    split
    · rw [if_neg (by rw [decide_eq_true_eq]; bv_omega)]
      congr 1
      show _ = 0 * 0x1000 + a.toNat % 0x1000
      bv_omega
    · split
      · rw [if_pos (by rw [decide_eq_true_eq]; bv_omega), hswitch]
        congr 2
        bv_omega
      · split
        · rw [if_neg (by rw [decide_eq_true_eq]; bv_omega)]
          congr 1
          show _ = 0 * 0x1000 + a.toNat % 0x1000
          bv_omega
        · rw [if_pos (by constructor <;> bv_omega), if_pos (by rw [decide_eq_true_eq]; bv_omega),
            hswitch]
          congr 2
          bv_omega

theorem vram_index (h : b.WellFormed) (hlow : 0x8000 ≤ a) (hhigh : a ≤ 0x9FFF) {n : Nat}
    (hn : n = a.toNat - 0x8000) :
    ∃ bank offset, b.memory.locate a = some (.vram bank offset) ∧
      b.vram.storageIndex n = bank.val * 0x2000 + offset.val := by
  refine ⟨b.memory.vramBank, Fin.ofNat 0x2000 a.toNat, if_pos ⟨hlow, hhigh⟩, ?_⟩
  have hbank : (if b.vram.consoleModel.isCgbFamily then (b.vram.selectedBank &&& 0x01).toNat
      else 0) = b.memory.vramBank.val := by
    unfold memory
    rw [h.vram]
    dsimp only
    cases b.consoleModel.isCgbFamily
    · rfl
    · show (b.vram.selectedBank &&& 0x01).toNat = b.vram.selectedBank.toNat % 2
      rw [BitVec.toNat_and]
      exact Nat.and_one_is_mod _
  unfold VramDomain.storageIndex VramDomain.storageIndexForBank
  rw [hbank]
  show b.memory.vramBank.val * dmgVramLen + n = _ * 0x2000 + a.toNat % 0x2000
  have hlen : dmgVramLen = 0x2000 := rfl
  rw [hlen]
  bv_omega

theorem oam_locate (hlow : 0xFE00 ≤ a) (hhigh : a ≤ 0xFE9F) {n : Nat}
    (hn : n = a.toNat - 0xFE00) (m : BankedMemory) :
    ∃ offset : Fin 0xA0, m.locate a = some (.oam offset) ∧ n = offset.val := by
  refine ⟨Fin.ofNat 0xA0 (a.toNat - 0xFE00), ?_, ?_⟩
  · unfold BankedMemory.locate
    rw [if_neg (by rintro ⟨-, h⟩; bv_omega), if_neg (by rintro ⟨-, h⟩; bv_omega),
      if_pos ⟨hlow, hhigh⟩]
  · show n = (a.toNat - 0xFE00) % 0xA0
    bv_omega

theorem hram_locate (hlow : 0xFF80 ≤ a) (hhigh : a ≤ 0xFFFE) {n : Nat}
    (hn : n = a.toNat - 0xFF80) (m : BankedMemory) :
    ∃ offset : Fin 0x7F, m.locate a = some (.hram offset) ∧ n = offset.val := by
  refine ⟨Fin.ofNat 0x7F (a.toNat - 0xFF80), ?_, ?_⟩
  · unfold BankedMemory.locate
    rw [if_neg (by rintro ⟨-, h⟩; bv_omega), if_neg (by rintro ⟨-, h⟩; bv_omega),
      if_neg (by rintro ⟨-, h⟩; bv_omega), if_pos ⟨hlow, hhigh⟩]
  · show n = (a.toNat - 0xFF80) % 0x7F
    bv_omega

end Arrays

/-- An array seen through `getD` is read where the index is in range. -/
theorem getElem?_eq_some_getD {n : Nat} {bytes : Vector U8 n} {i : Nat} (h : i < n) :
    bytes[i]? = some (bytes[i]?.getD 0) := by
  rw [Vector.getElem?_eq_getElem h]
  rfl

/-- A store in an array changes one byte, and for the others nothing. -/
theorem getD_storeByte {n : Nat} {bytes stored : Vector U8 n} {i : Nat} {value : U8}
    (h : storeByte bytes i value = some stored) (j : Nat) :
    stored[j]?.getD 0 = if j = i then value else bytes[j]?.getD 0 := by
  rw [getElem?_storeByte h]
  split <;> rfl

section Cells

variable {b : Bus} {value : U8}

theorem memory_store_wram {bank : Fin 8} {offset : Fin 0x1000} {bytes : Vector U8 cgbWramLen}
    (h : storeByte b.wram.bytes (bank.val * 0x1000 + offset.val) value = some bytes) :
    ({ b with wram := { b.wram with bytes } } : Bus).memory =
      { b.memory with cells := Function.update b.memory.cells (.wram bank offset) value } := by
  refine congrArg (BankedMemory.mk _ _) (Function.eq_update_iff.mpr ⟨?_, ?_⟩)
  · exact (getD_storeByte h _).trans (if_pos rfl)
  · intro cell hne
    cases cell with
    | wram bank' offset' =>
        refine (getD_storeByte h _).trans (if_neg fun hindex => hne ?_)
        rw [BusCell.wram.injEq]
        omega
    | _ => rfl

theorem memory_store_vram {bank : Fin 2} {offset : Fin 0x2000} {bytes : Vector U8 cgbVramLen}
    (h : storeByte b.vram.bytes (bank.val * 0x2000 + offset.val) value = some bytes) :
    ({ b with vram := { b.vram with bytes } } : Bus).memory =
      { b.memory with cells := Function.update b.memory.cells (.vram bank offset) value } := by
  refine congrArg (BankedMemory.mk _ _) (Function.eq_update_iff.mpr ⟨?_, ?_⟩)
  · exact (getD_storeByte h _).trans (if_pos rfl)
  · intro cell hne
    cases cell with
    | vram bank' offset' =>
        refine (getD_storeByte h _).trans (if_neg fun hindex => hne ?_)
        rw [BusCell.vram.injEq]
        omega
    | _ => rfl

theorem memory_store_oam {offset : Fin 0xA0} {bytes : Vector U8 oamLen}
    (h : storeByte b.oam.bytes offset.val value = some bytes) :
    ({ b with oam := { b.oam with bytes } } : Bus).memory =
      { b.memory with cells := Function.update b.memory.cells (.oam offset) value } := by
  refine congrArg (BankedMemory.mk _ _) (Function.eq_update_iff.mpr ⟨?_, ?_⟩)
  · exact (getD_storeByte h _).trans (if_pos rfl)
  · intro cell hne
    cases cell with
    | oam offset' =>
        refine (getD_storeByte h _).trans (if_neg fun hindex => hne ?_)
        rw [BusCell.oam.injEq]
        omega
    | _ => rfl

theorem memory_store_hram {offset : Fin 0x7F} {hram : Vector U8 hramLen}
    (h : storeByte b.iohram.hram offset.val value = some hram) :
    ({ b with iohram := { b.iohram with hram } } : Bus).memory =
      { b.memory with cells := Function.update b.memory.cells (.hram offset) value } := by
  refine congrArg (BankedMemory.mk _ _) (Function.eq_update_iff.mpr ⟨?_, ?_⟩)
  · exact (getD_storeByte h _).trans (if_pos rfl)
  · intro cell hne
    cases cell with
    | hram offset' =>
        refine (getD_storeByte h _).trans (if_neg fun hindex => hne ?_)
        rw [BusCell.hram.injEq]
        omega
    | _ => rfl

end Cells

/-! ## What a performed write does -/

/-- The bus afterwards is the same machine's and implements the memory. -/
structure Follows (b b' : Bus) (m : BankedMemory) : Prop where
  wellFormed : b'.WellFormed
  memory : b'.memory = m
  consoleModel : b'.consoleModel = b.consoleModel
  revision : b'.revision = b.revision
  operatingMode : b'.operatingMode = b.operatingMode

theorem follows_refl {b : Bus} (h : b.WellFormed) : b.Follows b b.memory := ⟨h, rfl, rfl, rfl, rfl⟩

/-- The bank registers, where they are in the table of the I/O page. -/
theorem cgbBusOwned_address {a : U16} {info : IoRegisterInfo}
    (h : describeIoRegister a = some info) :
    (info.kind.cgbBusOwned = some .svbk ↔ a = 0xFF70) ∧
      (info.kind.cgbBusOwned = some .vbk ↔ a = 0xFF4F) := by
  obtain ⟨r, hmem, hcovers, rfl⟩ := describeIoRegister_mem h
  have htable : ∀ r ∈ ioRegisterRanges,
      (r.info.kind.cgbBusOwned = some .svbk ∧ r.first = 0xFF70 ∧ r.last = 0xFF70) ∨
      (r.info.kind.cgbBusOwned = some .vbk ∧ r.first = 0xFF4F ∧ r.last = 0xFF4F) ∨
      (r.info.kind.cgbBusOwned ≠ some .svbk ∧ r.info.kind.cgbBusOwned ≠ some .vbk ∧
        r.covers 0xFF70 = false ∧ r.covers 0xFF4F = false) := by decide
  rcases htable r hmem with ⟨hkind, hfirst, hlast⟩ | ⟨hkind, hfirst, hlast⟩ | ⟨hsvbk, hvbk, h70, h4F⟩
  · obtain rfl : a = 0xFF70 := by
      rw [IoRegisterRange.covers, hfirst, hlast, Bool.and_eq_true, decide_eq_true_eq,
        decide_eq_true_eq] at hcovers
      bv_omega
    rw [hkind]
    exact ⟨by decide, by decide⟩
  · obtain rfl : a = 0xFF4F := by
      rw [IoRegisterRange.covers, hfirst, hlast, Bool.and_eq_true, decide_eq_true_eq,
        decide_eq_true_eq] at hcovers
      bv_omega
    rw [hkind]
    exact ⟨by decide, by decide⟩
  · constructor
    · refine ⟨fun h => absurd h hsvbk, ?_⟩
      rintro rfl
      rw [h70] at hcovers
      cases hcovers
    · refine ⟨fun h => absurd h hvbk, ?_⟩
      rintro rfl
      rw [h4F] at hcovers
      cases hcovers

theorem describeIoRegister_svbk : describeIoRegister 0xFF70 =
    some ⟨.memoryController, .cgbOnly, .implemented, .svbk⟩ := by decide

theorem describeIoRegister_vbk : describeIoRegister 0xFF4F =
    some ⟨.ppu, .cgbOnly, .implemented, .vbk⟩ := by decide

section Registers

variable {b : Bus} {a : U16} {value : U8}

/-- The bank registers are there on colour consoles only. -/
theorem isCgbFamily_of_available {kind : IoRegisterKind} {consoleModel : ConsoleModel}
    {operatingMode : OperatingMode}
    (h : ioRegisterKindIsAvailable kind .cgbOnly consoleModel operatingMode = true) :
    consoleModel.isCgbFamily = true := by
  unfold ioRegisterKindIsAvailable cgbIoRegisterIsAvailable at h
  cases hcgb : consoleModel.isCgbFamily with
  | true => rfl
  | false =>
      rw [hcgb] at h
      cases h

theorem follows_writeSvbk (h : b.WellFormed) (hsvbk : b.hasSvbk = true) :
    b.Follows { b with wram := b.wram.writeSvbk value }
      { b.memory with wramBank := BankedMemory.wramBankOf value } := by
  have hcgb : b.consoleModel.isCgbFamily = true := isCgbFamily_of_available hsvbk
  have hwrite : b.wram.writeSvbk value = { b.wram with selectedBankRegister := value &&& 0x07 } :=
    if_pos (by rw [h.wram, hcgb])
  rw [hwrite]
  have hmask : (value &&& 0x07) &&& 0x07 = value &&& 0x07 := by
    rw [BitVec.and_assoc, BitVec.and_self]
  refine ⟨⟨h.wram, h.vram, hmask, h.vbk⟩, ?_, rfl, rfl, rfl⟩
  refine congrArg (BankedMemory.mk · _ _) ?_
  dsimp only
  rw [if_pos hcgb]
  refine Fin.ext ?_
  show (WramDomain.selectedWramBank _).toNat = _
  unfold WramDomain.selectedWramBank BankedMemory.wramBankOf
  dsimp only
  rw [hmask]
  split
  · rfl
  · show (value &&& 0x07).toNat = value.toNat % 8
    rw [BitVec.toNat_and]
    exact Nat.and_two_pow_sub_one_eq_mod _ 3

theorem follows_writeVbk (h : b.WellFormed) (hvbk : b.hasVbk = true) :
    b.Follows { b with vram := b.vram.writeVbk value }
      { b.memory with vramBank := Fin.ofNat 2 value.toNat } := by
  have hcgb : b.consoleModel.isCgbFamily = true := isCgbFamily_of_available hvbk
  have hwrite : b.vram.writeVbk value = { b.vram with selectedBank := value &&& 0x01 } :=
    if_pos (by rw [h.vram, hcgb])
  rw [hwrite]
  have hmask : (value &&& 0x01) &&& 0x01 = value &&& 0x01 := by
    rw [BitVec.and_assoc, BitVec.and_self]
  refine ⟨⟨h.wram, h.vram, h.svbk, hmask⟩, ?_, rfl, rfl, rfl⟩
  refine congrArg (BankedMemory.mk _ · _) ?_
  dsimp only
  rw [if_pos hcgb]
  refine Fin.ext ?_
  show (value &&& 0x01).toNat % 2 = value.toNat % 2
  rw [BitVec.toNat_and]
  show (value.toNat &&& 1) % 2 = _
  rw [Nat.and_one_is_mod, Nat.mod_mod]

/-- A write that is neither of a cell nor of a bank register. -/
theorem store_elsewhere {m : BankedMemory} {svbk vbk : Bool} (hlocate : m.locate a = none)
    (hsvbk : svbk = true → a ≠ 0xFF70) (hvbk : vbk = true → a ≠ 0xFF4F) :
    m.store svbk vbk a value = m := by
  unfold BankedMemory.store
  rw [if_neg, if_neg, hlocate]
  · rw [Bool.and_eq_true, decide_eq_true_eq]
    exact fun h => hvbk h.1 h.2
  · rw [Bool.and_eq_true, decide_eq_true_eq]
    exact fun h => hsvbk h.1 h.2

theorem store_svbk (m : BankedMemory) (vbk : Bool) :
    m.store true vbk 0xFF70 value = { m with wramBank := BankedMemory.wramBankOf value } :=
  if_pos rfl

theorem store_vbk (m : BankedMemory) (svbk : Bool) :
    m.store svbk true 0xFF4F value = { m with vramBank := Fin.ofNat 2 value.toNat } := by
  unfold BankedMemory.store
  rw [if_neg (by rw [Bool.and_eq_true, decide_eq_true_eq]; rintro ⟨-, h⟩; cases h)]
  exact if_pos rfl

/-- A register of the I/O page that the bus owns. -/
theorem follows_writeCgbBusOwnedIo (h : b.WellFormed) (hlocate : b.memory.locate a = none)
    {b' : Bus} (hwrite : b.writeCgbBusOwnedIo a value = some b') :
    b.Follows b' (b.memory.store b.hasSvbk b.hasVbk a value) := by
  simp only [writeCgbBusOwnedIo, Option.bind_eq_bind, Option.bind_eq_some_iff] at hwrite
  obtain ⟨info, hinfo, owned, howned, hwrite⟩ := hwrite
  obtain ⟨hsvbk, hvbk⟩ := cgbBusOwned_address hinfo
  have hother (hs : owned ≠ .svbk) (hv : owned ≠ .vbk) :
      b.memory.store b.hasSvbk b.hasVbk a value = b.memory := by
    refine store_elsewhere hlocate (fun _ ha => hs ?_) fun _ ha => hv ?_
    · exact Option.some.inj (howned.symm.trans (hsvbk.mpr ha))
    · exact Option.some.inj (howned.symm.trans (hvbk.mpr ha))
  cases owned with
  | svbk =>
      obtain rfl := hsvbk.mp howned
      obtain rfl := Option.some.inj (describeIoRegister_svbk.symm.trans hinfo)
      cases hlive : b.hasSvbk with
      | true =>
          rw [if_neg (by
            rw [ioRegisterIsLive, show ioRegisterKindIsAvailable _ _ _ _ = true from hlive]
            decide)] at hwrite
          rw [← Option.some.inj hwrite, store_svbk]
          exact follows_writeSvbk h hlive
      | false =>
          rw [if_pos (by
            rw [ioRegisterIsLive, show ioRegisterKindIsAvailable _ _ _ _ = false from hlive]
            rfl)] at hwrite
          rw [← Option.some.inj hwrite, store_elsewhere hlocate (fun h => by cases h)
            fun _ h => by cases h]
          exact follows_refl h
  | vbk =>
      obtain rfl := hvbk.mp howned
      obtain rfl := Option.some.inj (describeIoRegister_vbk.symm.trans hinfo)
      cases hlive : b.hasVbk with
      | true =>
          rw [if_neg (by
            rw [ioRegisterIsLive, show ioRegisterKindIsAvailable _ _ _ _ = true from hlive]
            decide)] at hwrite
          rw [← Option.some.inj hwrite, store_vbk]
          exact follows_writeVbk h hlive
      | false =>
          rw [if_pos (by
            rw [ioRegisterIsLive, show ioRegisterKindIsAvailable _ _ _ _ = false from hlive]
            rfl)] at hwrite
          rw [← Option.some.inj hwrite, store_elsewhere hlocate (fun _ h => by cases h)
            fun h => by cases h]
          exact follows_refl h
  | key0 =>
      rw [hother (by decide) (by decide)]
      split at hwrite
      all_goals
        rw [← Option.some.inj hwrite]
        exact ⟨⟨h.wram, h.vram, h.svbk, h.vbk⟩, rfl, rfl, rfl, rfl⟩
  | misc =>
      rw [hother (by decide) (by decide)]
      split at hwrite
      all_goals
        rw [← Option.some.inj hwrite]
        exact ⟨⟨h.wram, h.vram, h.svbk, h.vbk⟩, rfl, rfl, rfl, rfl⟩

/-- A register that the bus does not own is no bank register. -/
theorem writeCgbBusOwnedIo_eq_none (hwrite : b.writeCgbBusOwnedIo a value = none) :
    a ≠ 0xFF70 ∧ a ≠ 0xFF4F := by
  have hnone (info : IoRegisterInfo) (hinfo : describeIoRegister a = some info) :
      info.kind.cgbBusOwned = none := by
    cases howned : info.kind.cgbBusOwned with
    | none => rfl
    | some owned =>
        unfold writeCgbBusOwnedIo at hwrite
        rw [hinfo] at hwrite
        simp only [Option.bind_eq_bind, Option.bind_some, howned] at hwrite
        split at hwrite <;> cases hwrite
  constructor
  · rintro rfl
    have := hnone _ describeIoRegister_svbk
    cases this
  · rintro rfl
    have := hnone _ describeIoRegister_vbk
    cases this

end Registers

end Bus

end GbCycle
