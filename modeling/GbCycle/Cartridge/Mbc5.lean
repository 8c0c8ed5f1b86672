import GbCycle.Cartridge.Access
import GbCycle.Cartridge.Classify
import GbCycle.Cartridge.LinearRam

/-!
# MBC5

A bank register of nine bits, where zero is a bank like any other, and a register for the RAM
bank, one bit of which drives the motor of a cartridge with rumble.  The image may have another
size than its header declares: its layout says how many banks there are then.
-/

namespace GbCycle

/-! ## ROM layouts -/

inductive CartridgeRomLayoutSource where
  | declaredExact
  | permissiveRoundedActual
  deriving Repr, DecidableEq

structure CartridgeRomLayout where
  declaredBytes : Option Nat
  actualBytes : Nat
  effectiveBytes : Nat
  effectiveBankCount : Nat
  source : CartridgeRomLayoutSource
  deriving Repr, DecidableEq

namespace CartridgeRomLayout

def declaredExact (declaredBytes actualBytes : Nat) : CartridgeRomLayout :=
  { declaredBytes := some declaredBytes, actualBytes, effectiveBytes := declaredBytes
    effectiveBankCount := declaredBytes / romBankBytes, source := .declaredExact }

/-- The whole banks of an image, at least two. -/
def wholeBanks (actualBytes : Nat) : Nat :=
  max ((actualBytes + romBankBytes - 1) / romBankBytes) (noMbcSupportedRomBytes / romBankBytes)

end CartridgeRomLayout

/-! ## The cartridge -/

inductive Mbc5Variant where
  | noRam
  | ram
  | ramBattery
  | rumble
  | rumbleRam
  | rumbleRamBattery
  deriving Repr, DecidableEq

namespace Mbc5Variant

def hasRam : Mbc5Variant → Bool
  | .ram | .ramBattery | .rumbleRam | .rumbleRamBattery => true
  | _ => false

def hasBattery : Mbc5Variant → Bool
  | .ramBattery | .rumbleRamBattery => true
  | _ => false

def hasRumble : Mbc5Variant → Bool
  | .rumble | .rumbleRam | .rumbleRamBattery => true
  | _ => false

end Mbc5Variant

structure Mbc5Cartridge where
  rom : List U8
  ram : Option (List U8)
  hasBattery : Bool
  hasRumble : Bool
  header : CartridgeHeader
  classification : CartridgeClassification
  variant : Mbc5Variant
  romLayout : CartridgeRomLayout
  ramEnabled : Bool
  romBankLow8 : U8
  romBankHigh1 : U8
  ramBankRaw : U8
  rumbleOn : Bool
  deriving Repr, DecidableEq

namespace Mbc5Cartridge

/-- An image shorter than its layout is padded with the value of an undriven bus. -/
def powerOn (rom : List U8) (header : CartridgeHeader) (classification : CartridgeClassification)
    (variant : Mbc5Variant) (romLayout : CartridgeRomLayout) (ramLen : Nat) : Mbc5Cartridge :=
  { rom := rom ++ List.replicate (romLayout.effectiveBytes - rom.length) ramAbsentReadValue
    ram := if ramLen ≠ 0 then some (List.replicate ramLen 0) else none
    hasBattery := variant.hasBattery, hasRumble := variant.hasRumble
    header, classification, variant, romLayout
    ramEnabled := false, romBankLow8 := 1, romBankHigh1 := 0, ramBankRaw := 0, rumbleOn := false }

def effectiveRomBank (c : Mbc5Cartridge) (bankCount : Nat) : Nat :=
  if bankCount = 0 then 0
  else ((c.romBankHigh1.toNat <<< 8) ||| c.romBankLow8.toNat) % bankCount

def effectiveRamBank (c : Mbc5Cartridge) : U8 :=
  BitVec.ofNat 8 (c.ramBankRaw.toNat % max (c.header.ramSize.bankCount.getD 0) 1)

def effectiveRamOffset (c : Mbc5Cartridge) (address : U16) : Nat :=
  c.effectiveRamBank.toNat * 0x2000 + ramWindowOffset address

def describeExternalAccess (c : Mbc5Cartridge) (address : U16) : CartridgeExternalAccessInfo :=
  .ramAccess address (.bankedRam c.effectiveRamBank) c.ramEnabled c.ram.isSome

def readRom (c : Mbc5Cartridge) (address : U16) : U8 :=
  readOr c.rom
    (bankedRomIndex 0 (c.effectiveRomBank c.romLayout.effectiveBankCount) address)

/-- The banks counted here are those of the header. -/
def mappedRomWindow (c : Mbc5Cartridge) (address : U16) : Option CartridgeMappedRomWindow :=
  bankedRomWindow 0 (c.effectiveRomBank (c.header.romSize.bankCount.getD 0)) address

def writeRom (c : Mbc5Cartridge) (address : U16) (value : U8) : Mbc5Cartridge :=
  if address ≤ 0x1FFF then { c with ramEnabled := value &&& 0x0F = 0x0A }
  else if address ≤ 0x2FFF then { c with romBankLow8 := value }
  else if address ≤ 0x3FFF then { c with romBankHigh1 := value &&& 0x01 }
  else if address ≤ 0x5FFF then
    if c.hasRumble then { c with rumbleOn := value &&& 0x08 ≠ 0, ramBankRaw := value &&& 0x07 }
    else { c with ramBankRaw := value &&& 0x0F }
  else c

def readRam (c : Mbc5Cartridge) (address : U16) : U8 :=
  readEnabledRam c.ramEnabled c.ram (c.effectiveRamOffset address)

def writeRam (c : Mbc5Cartridge) (address : U16) (value : U8) : Mbc5Cartridge :=
  { c with ram := writeEnabledRam c.ramEnabled c.ram (c.effectiveRamOffset address) value }

def persistenceMetadata (c : Mbc5Cartridge) : CartridgePersistenceMetadata :=
  linearRamMetadata c.hasBattery c.ram

def persistentState (c : Mbc5Cartridge) : PersistentCartState :=
  linearRamState .mbc5Ram c.hasBattery c.ram

def restorePersistentState (c : Mbc5Cartridge) (state : PersistentCartState) :
    Except CartridgePersistentStateError Unit × Mbc5Cartridge :=
  let (result, ram) := restoreLinearRam .mbc5Ram c.hasBattery c.ram state
  (result, { c with ram })

/-! ## The loaded cartridge -/

def fresh (c : Mbc5Cartridge) : Mbc5Cartridge :=
  { c with
    ram := clearedRam c.ram, ramEnabled := false, romBankLow8 := 1, romBankHigh1 := 0
    ramBankRaw := 0, rumbleOn := false }

@[simp] theorem fresh_writeRom (c : Mbc5Cartridge) (address : U16) (value : U8) :
    (c.writeRom address value).fresh = c.fresh := by
  unfold writeRom
  repeat' split
  all_goals rfl

@[simp] theorem fresh_writeRam (c : Mbc5Cartridge) (address : U16) (value : U8) :
    (c.writeRam address value).fresh = c.fresh := by
  simp only [fresh, writeRam, clearedRam_write]

/-- The RAM has the banks that the header declares. -/
def RamFits (c : Mbc5Cartridge) : Prop :=
  ∀ ram, c.ram = some ram → ram.length = max (c.header.ramSize.bankCount.getD 0) 1 * 0x2000

theorem RamFits.of_fresh {c loaded : Mbc5Cartridge} (hfresh : c.fresh = loaded.fresh)
    (h : loaded.RamFits) : c.RamFits := by
  simp only [fresh, mk.injEq] at hfresh
  obtain ⟨-, hram, -, -, hheader, -⟩ := hfresh
  unfold RamFits
  rw [hheader]
  exact ramLength_of_clearedRam
    (P := (· = max (loaded.header.ramSize.bankCount.getD 0) 1 * 0x2000)) hram h

/-! ## Agreements -/

theorem effectiveRomBank_lt (c : Mbc5Cartridge) {bankCount : Nat} (hpos : 0 < bankCount) :
    c.effectiveRomBank bankCount < bankCount := by
  unfold effectiveRomBank
  split
  · exact hpos
  · exact Nat.mod_lt _ hpos

/-- The window agrees with the read where both counts select the same bank. -/
theorem readRom_eq_byteOf_of_select {c : Mbc5Cartridge} {address : U16}
    (hselect : address < 0x4000 ∨ c.effectiveRomBank c.romLayout.effectiveBankCount =
      c.effectiveRomBank (c.header.romSize.bankCount.getD 0))
    {window : CartridgeMappedRomWindow} (h : c.mappedRomWindow address = some window) :
    window.source = .rom ∧ c.readRom address = window.byteOf c.rom := by
  obtain ⟨hsource, hbyte⟩ := byteOf_bankedRomWindow h c.rom
  refine ⟨hsource, ?_⟩
  rw [hbyte, readRom]
  rcases hselect with hlow | hsame
  · unfold bankedRomIndex
    rw [if_pos hlow, if_pos hlow]
  · rw [hsame]

/-- So it does where both count the same banks. -/
theorem readRom_eq_byteOf {c : Mbc5Cartridge}
    (hbanks : c.romLayout.effectiveBankCount = c.header.romSize.bankCount.getD 0) {address : U16}
    {window : CartridgeMappedRomWindow} (h : c.mappedRomWindow address = some window) :
    window.source = .rom ∧ c.readRom address = window.byteOf c.rom :=
  readRom_eq_byteOf_of_select (.inr (by rw [hbanks])) h

/-- With a number in the bank register, of nine bits. -/
def selectRomBank (c : Mbc5Cartridge) (low8 high1 : U8) : Mbc5Cartridge :=
  { c with romBankLow8 := low8, romBankHigh1 := high1 }

theorem writeRom_bankRegister (c : Mbc5Cartridge) (low8 : U8) {high1 : U8} (h : high1 ≤ 1) :
    (c.writeRom 0x2000 low8).writeRom 0x3000 high1 = c.selectRomBank low8 high1 := by
  have hmask : high1 &&& 0x01 = high1 := by
    revert high1
    decide
  show { c with romBankLow8 := low8, romBankHigh1 := high1 &&& 0x01 } = _
  rw [hmask]
  rfl

theorem romBankHigh1_writeRom {c : Mbc5Cartridge} (h : c.romBankHigh1 ≤ 1) (address : U16)
    (value : U8) : (c.writeRom address value).romBankHigh1 ≤ 1 := by
  have hmask : value &&& 0x01 ≤ 1 := by
    revert value
    decide
  unfold writeRom
  repeat' split
  all_goals first
    | exact h
    | exact hmask

/-- Every number selects the same bytes by the banks of the layout as by those of the header. -/
def CountsAlike (c : Mbc5Cartridge) : Prop :=
  ∀ low8 high1 : U8, high1 ≤ 1 → ∀ offset < 0x4000,
    readOr c.rom
        ((c.selectRomBank low8 high1).effectiveRomBank c.romLayout.effectiveBankCount * 0x4000 +
          offset) =
      readOr c.rom
        ((c.selectRomBank low8 high1).effectiveRomBank (c.header.romSize.bankCount.getD 0) *
            0x4000 +
          offset)

/-- Then the windows agree with the reads, with any number in the register. -/
theorem readRom_eq_byteOf_of_countsAlike {c : Mbc5Cartridge} (h : c.CountsAlike)
    (hhigh : c.romBankHigh1 ≤ 1) {address : U16} {window : CartridgeMappedRomWindow}
    (hwindow : c.mappedRomWindow address = some window) :
    window.source = .rom ∧ c.readRom address = window.byteOf c.rom := by
  obtain ⟨hsource, hbyte⟩ := byteOf_bankedRomWindow hwindow c.rom
  refine ⟨hsource, ?_⟩
  rw [hbyte, readRom]
  unfold mappedRomWindow bankedRomWindow at hwindow
  unfold bankedRomIndex
  by_cases hlow : address < 0x4000
  · rw [if_pos hlow, if_pos hlow]
  · rw [if_neg hlow, if_neg hlow]
    have hbelow : ¬ 0x8000 ≤ address := by
      intro habove
      rw [if_pos habove] at hwindow
      cases hwindow
    exact h c.romBankLow8 c.romBankHigh1 hhigh (address.toNat - 0x4000) (by bv_omega)

/-- And only then. -/
theorem countsAlike_of_readRom {c : Mbc5Cartridge}
    (h : ∀ (low8 high1 : U8) (address : U16) (window : CartridgeMappedRomWindow), high1 ≤ 1 →
      (c.selectRomBank low8 high1).mappedRomWindow address = some window →
      (c.selectRomBank low8 high1).readRom address = window.byteOf c.rom) : c.CountsAlike := by
  intro low8 high1 hhigh offset hoffset
  have haddress : (BitVec.ofNat 16 (0x4000 + offset)).toNat = 0x4000 + offset := by
    rw [BitVec.toNat_ofNat]
    omega
  have hlow : ¬ BitVec.ofNat 16 (0x4000 + offset) < (0x4000 : U16) := by bv_omega
  have hbelow : ¬ (0x8000 : U16) ≤ BitVec.ofNat 16 (0x4000 + offset) := by bv_omega
  have hsame := h low8 high1 (BitVec.ofNat 16 (0x4000 + offset)) _ hhigh (by
    unfold mappedRomWindow bankedRomWindow
    rw [if_neg hbelow, if_neg hlow])
  unfold readRom bankedRomIndex CartridgeMappedRomWindow.byteOf CartridgeMappedRomWindow.rom at hsame
  rw [if_neg hlow, haddress, Nat.add_sub_cancel_left] at hsame
  exact hsame

theorem effectiveRamOffset_lt {c : Mbc5Cartridge} (hfits : c.RamFits) (address : ExternalAddress)
    {ram : List U8} (hram : c.ram = some ram) :
    c.effectiveRamOffset address.address < ram.length := by
  rw [hfits ram hram]
  refine banked_offset_lt ?_ address.offset_lt (Nat.le_refl _)
  have hbank : c.ramBankRaw.toNat % max (c.header.ramSize.bankCount.getD 0) 1 <
      max (c.header.ramSize.bankCount.getD 0) 1 := Nat.mod_lt _ (by omega)
  unfold effectiveRamBank
  rw [BitVec.toNat_ofNat]
  exact Nat.lt_of_le_of_lt (Nat.mod_le _ _) hbank

theorem describeExternalAccess_keeps {c : Mbc5Cartridge} (hfits : c.RamFits)
    (address : ExternalAddress) :
    (c.describeExternalAccess address.address).Keeps c (·.readRam address.address)
      (c.writeRam address.address) := by
  refine CartridgeExternalAccessInfo.keeps_enabledRam (c.effectiveRamOffset address.address)
    (fun ram => { c with ram }) (fun _ => rfl) rfl (fun _ _ => rfl) (fun _ => rfl) ?_
  intro ram hram
  exact effectiveRamOffset_lt hfits address hram

theorem restorePersistentState_error {c : Mbc5Cartridge} {state : PersistentCartState}
    {error : CartridgePersistentStateError} (h : (c.restorePersistentState state).1 = .error error) :
    (c.restorePersistentState state).2 = c := by
  have hram := restoreLinearRam_error h
  simp only [restorePersistentState, hram]

theorem restorePersistentState_persistentState {c loaded : Mbc5Cartridge}
    (hfresh : c.fresh = loaded.fresh) :
    (loaded.restorePersistentState c.persistentState).1 = .ok () ∧
      (loaded.restorePersistentState c.persistentState).2.persistentState = c.persistentState := by
  simp only [fresh, mk.injEq] at hfresh
  obtain ⟨-, hram, hbattery, -⟩ := hfresh
  simp only [persistentState, hbattery]
  exact restoreLinearRam_linearRamState .mbc5Ram loaded.hasBattery hram

end Mbc5Cartridge

end GbCycle
