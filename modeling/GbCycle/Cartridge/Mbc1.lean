import GbCycle.Cartridge.Access
import GbCycle.Cartridge.Classify
import GbCycle.Cartridge.LinearRam

/-!
# MBC1

A bank register of five bits, where zero stands for one, and a second register of two bits.  The
board decides what the second one does: it selects the RAM bank, or it is on top of the ROM
bank, and on a multicart it sits one bit lower.
-/

namespace GbCycle

inductive Mbc1Wiring where
  | standard
  | largeRom
  deriving Repr, DecidableEq

inductive Mbc1Variant where
  | standard
  | mbc1M
  deriving Repr, DecidableEq

structure Mbc1Cartridge where
  rom : List U8
  ram : Option (List U8)
  hasBattery : Bool
  header : CartridgeHeader
  classification : CartridgeClassification
  variant : Mbc1Variant
  wiring : Mbc1Wiring
  ramEnabled : Bool
  romBankLow5 : U8
  secondaryBank : U8
  bankingMode : U8
  deriving Repr, DecidableEq

namespace Mbc1Cartridge

def powerOn (rom : List U8) (header : CartridgeHeader) (classification : CartridgeClassification)
    (variant : Mbc1Variant) (wiring : Mbc1Wiring) (ramLen : Nat) : Mbc1Cartridge :=
  { rom
    ram := if ramLen ≠ 0 then some (List.replicate ramLen 0) else none
    hasBattery := classification.rawType = 0x03
    header, classification, variant, wiring
    ramEnabled := false, romBankLow5 := 0, secondaryBank := 0, bankingMode := 0 }

/-! ## Banks -/

def translatedLow5 (c : Mbc1Cartridge) : Nat :=
  let rawLow5 := c.romBankLow5 &&& 0x1F
  if rawLow5 = 0 then 1 else rawLow5.toNat

def effectiveHighRomBank (c : Mbc1Cartridge) (bankCount : Nat) : Nat :=
  if bankCount = 0 then 0
  else if c.variant = .mbc1M then
    ((c.secondaryBank.toNat <<< 4) ||| (c.translatedLow5 &&& 0x0F)) % bankCount
  else
    match c.wiring with
    | .standard => c.translatedLow5 % bankCount
    | .largeRom => ((c.secondaryBank.toNat <<< 5) ||| c.translatedLow5) % bankCount

def effectiveLowRomBank (c : Mbc1Cartridge) (bankCount : Nat) : Nat :=
  if bankCount = 0 then 0
  else if c.variant = .mbc1M then
    if c.bankingMode = 0 then 0 else (c.secondaryBank.toNat <<< 4) % bankCount
  else
    match c.wiring with
    | .standard => 0
    | .largeRom => if c.bankingMode = 0 then 0 else (c.secondaryBank.toNat <<< 5) % bankCount

def effectiveRamBank (c : Mbc1Cartridge) : U8 :=
  if c.variant = .mbc1M then 0
  else
    match c.wiring with
    | .standard => if c.bankingMode = 0 then 0 else c.secondaryBank &&& 0x03
    | .largeRom => 0

def effectiveRamOffset (c : Mbc1Cartridge) (address : U16) : Nat :=
  if c.variant = .mbc1M then ramWindowOffset address
  else
    match c.wiring with
    | .standard =>
        c.effectiveRamBank.toNat % ramBankCount c.ram * 0x2000 + ramWindowOffset address
    | .largeRom => ramWindowOffset address

/-! ## Accesses -/

def describeExternalAccess (c : Mbc1Cartridge) (address : U16) : CartridgeExternalAccessInfo :=
  .ramAccess address (.bankedRam c.effectiveRamBank) c.ramEnabled c.ram.isSome

def bankCount (c : Mbc1Cartridge) : Nat := c.header.romSize.bankCount.getD 0

def readRom (c : Mbc1Cartridge) (address : U16) : U8 :=
  readOr c.rom
    (bankedRomIndex (c.effectiveLowRomBank c.bankCount) (c.effectiveHighRomBank c.bankCount)
      address)

def mappedRomWindow (c : Mbc1Cartridge) (address : U16) : Option CartridgeMappedRomWindow :=
  bankedRomWindow (c.effectiveLowRomBank c.bankCount) (c.effectiveHighRomBank c.bankCount) address

def writeRom (c : Mbc1Cartridge) (address : U16) (value : U8) : Mbc1Cartridge :=
  if address ≤ 0x1FFF then { c with ramEnabled := value &&& 0x0F = 0x0A }
  else if address ≤ 0x3FFF then { c with romBankLow5 := value &&& 0x1F }
  else if address ≤ 0x5FFF then { c with secondaryBank := value &&& 0x03 }
  else if address ≤ 0x7FFF then { c with bankingMode := value &&& 0x01 }
  else c

def readRam (c : Mbc1Cartridge) (address : U16) : U8 :=
  readEnabledRam c.ramEnabled c.ram (c.effectiveRamOffset address)

def writeRam (c : Mbc1Cartridge) (address : U16) (value : U8) : Mbc1Cartridge :=
  { c with ram := writeEnabledRam c.ramEnabled c.ram (c.effectiveRamOffset address) value }

def persistenceMetadata (c : Mbc1Cartridge) : CartridgePersistenceMetadata :=
  linearRamMetadata c.hasBattery c.ram

def persistentState (c : Mbc1Cartridge) : PersistentCartState :=
  linearRamState .mbc1Ram c.hasBattery c.ram

def restorePersistentState (c : Mbc1Cartridge) (state : PersistentCartState) :
    Except CartridgePersistentStateError Unit × Mbc1Cartridge :=
  let (result, ram) := restoreLinearRam .mbc1Ram c.hasBattery c.ram state
  (result, { c with ram })

/-! ## The loaded cartridge -/

def fresh (c : Mbc1Cartridge) : Mbc1Cartridge :=
  { c with
    ram := clearedRam c.ram, ramEnabled := false, romBankLow5 := 0, secondaryBank := 0
    bankingMode := 0 }

@[simp] theorem fresh_writeRom (c : Mbc1Cartridge) (address : U16) (value : U8) :
    (c.writeRom address value).fresh = c.fresh := by
  unfold writeRom
  repeat' split
  all_goals rfl

@[simp] theorem fresh_writeRam (c : Mbc1Cartridge) (address : U16) (value : U8) :
    (c.writeRam address value).fresh = c.fresh := by
  simp only [fresh, writeRam, clearedRam_write]

/-- The RAM is made of whole banks. -/
def RamFits (c : Mbc1Cartridge) : Prop :=
  ∀ ram, c.ram = some ram → 0 < ram.length ∧ ram.length % 0x2000 = 0

theorem RamFits.of_fresh {c loaded : Mbc1Cartridge} (hfresh : c.fresh = loaded.fresh)
    (h : loaded.RamFits) : c.RamFits := by
  simp only [fresh, mk.injEq] at hfresh
  exact ramLength_of_clearedRam (P := fun n => 0 < n ∧ n % 0x2000 = 0) hfresh.2.1 h

/-! ## Agreements -/

theorem effectiveLowRomBank_lt (c : Mbc1Cartridge) {bankCount : Nat} (hpos : 0 < bankCount) :
    c.effectiveLowRomBank bankCount < bankCount := by
  unfold effectiveLowRomBank
  repeat' split
  all_goals first
    | exact hpos
    | exact Nat.mod_lt _ hpos

theorem effectiveHighRomBank_lt (c : Mbc1Cartridge) {bankCount : Nat} (hpos : 0 < bankCount) :
    c.effectiveHighRomBank bankCount < bankCount := by
  unfold effectiveHighRomBank
  repeat' split
  all_goals first
    | exact hpos
    | exact Nat.mod_lt _ hpos

theorem readRom_eq_byteOf {c : Mbc1Cartridge} {address : U16} {window : CartridgeMappedRomWindow}
    (h : c.mappedRomWindow address = some window) :
    window.source = .rom ∧ c.readRom address = window.byteOf c.rom := by
  obtain ⟨hsource, hbyte⟩ := byteOf_bankedRomWindow h c.rom
  exact ⟨hsource, hbyte.symm⟩

theorem effectiveRamOffset_lt {c : Mbc1Cartridge} (hfits : c.RamFits) (address : ExternalAddress)
    {ram : List U8} (hram : c.ram = some ram) :
    c.effectiveRamOffset address.address < ram.length := by
  obtain ⟨hpos, hwhole⟩ := hfits ram hram
  have hoffset := address.offset_lt
  have hcount : ramBankCount c.ram = ram.length / 0x2000 := by
    rw [hram, ramBankCount]
    omega
  unfold effectiveRamOffset
  split
  · omega
  · split
    · rw [hcount]
      exact banked_offset_lt (Nat.mod_lt _ (by omega)) hoffset (Nat.div_mul_le_self _ _)
    · omega

theorem describeExternalAccess_keeps {c : Mbc1Cartridge} (hfits : c.RamFits)
    (address : ExternalAddress) :
    (c.describeExternalAccess address.address).Keeps c (·.readRam address.address)
      (c.writeRam address.address) := by
  refine CartridgeExternalAccessInfo.keeps_enabledRam _ (fun ram => { c with ram })
    (fun _ => rfl) rfl ?_ (fun _ => rfl) fun ram hram => effectiveRamOffset_lt hfits address hram
  intro ram hram
  simp only [readRam, effectiveRamOffset, ramBankCount_of_clearedRam hram]
  rfl

theorem restorePersistentState_error {c : Mbc1Cartridge} {state : PersistentCartState}
    {error : CartridgePersistentStateError} (h : (c.restorePersistentState state).1 = .error error) :
    (c.restorePersistentState state).2 = c := by
  have hram := restoreLinearRam_error h
  simp only [restorePersistentState, hram]

theorem restorePersistentState_persistentState {c loaded : Mbc1Cartridge}
    (hfresh : c.fresh = loaded.fresh) :
    (loaded.restorePersistentState c.persistentState).1 = .ok () ∧
      (loaded.restorePersistentState c.persistentState).2.persistentState = c.persistentState := by
  simp only [fresh, mk.injEq] at hfresh
  obtain ⟨-, hram, hbattery, -⟩ := hfresh
  simp only [persistentState, hbattery]
  exact restoreLinearRam_linearRamState .mbc1Ram loaded.hasBattery hram

end Mbc1Cartridge

end GbCycle
