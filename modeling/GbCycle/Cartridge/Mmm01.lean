import GbCycle.Cartridge.Access
import GbCycle.Cartridge.Classify
import GbCycle.Cartridge.LinearRam

/-!
# MMM01

A multicart mapper.  It starts with the menu in the last two banks; the menu writes the bits
that choose a game, then sets `mapped`, and from then on only the unmasked bits of the bank
registers can be written.
-/

namespace GbCycle

structure Mmm01Cartridge where
  rom : List U8
  ram : Option (List U8)
  hasBattery : Bool
  header : CartridgeHeader
  classification : CartridgeClassification
  mapped : Bool
  ramEnabled : Bool
  ramBankMask : U8
  romBankLow : U8
  romBankMid : U8
  ramBankLow : U8
  ramBankHigh : U8
  romBankHigh : U8
  modeWriteDisable : Bool
  bankingMode : U8
  romBankMask : U8
  multiplexEnabled : Bool
  deriving Repr, DecidableEq

namespace Mmm01Cartridge

def powerOn (rom : List U8) (header : CartridgeHeader) (classification : CartridgeClassification)
    (ramLen : Nat) : Mmm01Cartridge :=
  { rom
    ram := if ramLen ≠ 0 then some (List.replicate ramLen 0) else none
    hasBattery := classification.rawType = 0x0D
    header, classification
    mapped := false, ramEnabled := false, ramBankMask := 0, romBankLow := 0, romBankMid := 0
    ramBankLow := 0, ramBankHigh := 0, romBankHigh := 0, modeWriteDisable := false
    bankingMode := 0, romBankMask := 0, multiplexEnabled := false }

/-! ## Banks -/

def romBankCount (c : Mmm01Cartridge) : Nat :=
  max (c.header.romSize.bankCount.getD (c.rom.length / 0x4000)) 1

def unmappedRomBank (c : Mmm01Cartridge) (address : U16) : Nat :=
  if c.romBankCount ≤ 1 then 0
  else if address < 0x4000 then c.romBankCount - 2
  else c.romBankCount - 1

def maskedRomBankLow (c : Mmm01Cartridge) : U8 := c.romBankLow &&& c.romBankMask

def translatedRomBankLow (c : Mmm01Cartridge) : U8 :=
  if c.romBankLow &&& ~~~c.romBankMask = 0 then c.romBankLow ||| 1 else c.romBankLow

/-- The low RAM bank bits that a mode of banking lets through. -/
def modeRamBankLow (c : Mmm01Cartridge) : U8 :=
  if c.bankingMode = 0 then c.ramBankLow &&& c.ramBankMask else c.ramBankLow &&& 0x03

def effectiveLowRomBank (c : Mmm01Cartridge) : Nat :=
  if c.romBankCount = 0 then 0
  else
    let midBits := if c.multiplexEnabled then c.modeRamBankLow else c.romBankMid
    ((c.romBankHigh.toNat <<< 7) ||| (midBits.toNat <<< 5) ||| c.maskedRomBankLow.toNat) %
      c.romBankCount

def effectiveHighRomBank (c : Mmm01Cartridge) : Nat :=
  if c.romBankCount = 0 then 0
  else
    let midBits := if c.multiplexEnabled then c.ramBankLow &&& 0x03 else c.romBankMid &&& 0x03
    ((c.romBankHigh.toNat <<< 7) ||| (midBits.toNat <<< 5) ||| c.translatedRomBankLow.toNat) %
      c.romBankCount

def effectiveRamBank (c : Mmm01Cartridge) : U8 :=
  if c.multiplexEnabled then ((c.ramBankHigh &&& 0x03) <<< 2) ||| (c.romBankMid &&& 0x03)
  else ((c.ramBankHigh &&& 0x03) <<< 2) ||| c.modeRamBankLow

def effectiveRamOffset (c : Mmm01Cartridge) (address : U16) : Nat :=
  c.effectiveRamBank.toNat % ramBankCount c.ram * 0x2000 + ramWindowOffset address

/-! ## Accesses -/

def describeExternalAccess (c : Mmm01Cartridge) (address : U16) : CartridgeExternalAccessInfo :=
  .ramAccess address (.bankedRam c.effectiveRamBank) (c.mapped && c.ramEnabled) c.ram.isSome

/-- The bank an address shows. -/
def romBank (c : Mmm01Cartridge) (address : U16) : Nat :=
  if !c.mapped then c.unmappedRomBank address
  else if address < 0x4000 then c.effectiveLowRomBank
  else c.effectiveHighRomBank

def readRom (c : Mmm01Cartridge) (address : U16) : U8 :=
  let romIndex :=
    if address < 0x4000 then c.romBank address * 0x4000 + address.toNat
    else c.romBank address * 0x4000 + (address.toNat - 0x4000)
  readOr c.rom (if c.romBankCount = 0 then 0 else romIndex % c.rom.length)

def mappedRomWindow (c : Mmm01Cartridge) (address : U16) : Option CartridgeMappedRomWindow :=
  if 0x8000 ≤ address then none
  else if address < 0x4000 then some (.rom (c.romBank address) 0x4000 address.toNat)
  else some (.rom (c.romBank address) 0x4000 (address.toNat - 0x4000))

def writeRomBankLow (c : Mmm01Cartridge) (value : U8) : Mmm01Cartridge :=
  let lockMask := c.romBankMask &&& 0x1E
  { c with romBankLow := (c.romBankLow &&& lockMask) ||| (value &&& ~~~lockMask) }

def writeRamBankLow (c : Mmm01Cartridge) (value : U8) : Mmm01Cartridge :=
  let lockMask := c.ramBankMask &&& 0x03
  { c with ramBankLow := (c.ramBankLow &&& lockMask) ||| (value &&& ~~~lockMask) }

/-- `if !self.mapped { .. }`. -/
def whileUnmapped (c : Mmm01Cartridge) (update : Mmm01Cartridge → Mmm01Cartridge) :
    Mmm01Cartridge :=
  if !c.mapped then update c else c

def writeRom (c : Mmm01Cartridge) (address : U16) (value : U8) : Mmm01Cartridge :=
  if address ≤ 0x1FFF then
    { c with ramEnabled := value &&& 0x0F = 0x0A }.whileUnmapped fun c =>
      { c with
        ramBankMask := (value >>> 4) &&& 0x03
        mapped := if value &&& 0x40 ≠ 0 then true else c.mapped }
  else if address ≤ 0x3FFF then
    (c.writeRomBankLow (value &&& 0x1F)).whileUnmapped fun c =>
      { c with romBankMid := (value >>> 5) &&& 0x03 }
  else if address ≤ 0x5FFF then
    (c.writeRamBankLow (value &&& 0x03)).whileUnmapped fun c =>
      { c with
        ramBankHigh := (value >>> 2) &&& 0x03
        romBankHigh := (value >>> 4) &&& 0x03
        modeWriteDisable := value &&& 0x40 ≠ 0 }
  else if address ≤ 0x7FFF then
    (if !c.modeWriteDisable then { c with bankingMode := value &&& 0x01 } else c).whileUnmapped
      fun c =>
        { c with
          romBankMask := ((value >>> 1) &&& 0x1F) &&& 0x1E
          multiplexEnabled := value &&& 0x40 ≠ 0 }
  else c

def readRam (c : Mmm01Cartridge) (address : U16) : U8 :=
  readEnabledRam (c.mapped && c.ramEnabled) c.ram (c.effectiveRamOffset address)

def writeRam (c : Mmm01Cartridge) (address : U16) (value : U8) : Mmm01Cartridge :=
  { c with
    ram := writeEnabledRam (c.mapped && c.ramEnabled) c.ram (c.effectiveRamOffset address) value }

def persistenceMetadata (c : Mmm01Cartridge) : CartridgePersistenceMetadata :=
  linearRamMetadata c.hasBattery c.ram

def persistentState (c : Mmm01Cartridge) : PersistentCartState :=
  linearRamState .mmm01Ram c.hasBattery c.ram

def restorePersistentState (c : Mmm01Cartridge) (state : PersistentCartState) :
    Except CartridgePersistentStateError Unit × Mmm01Cartridge :=
  let (result, ram) := restoreLinearRam .mmm01Ram c.hasBattery c.ram state
  (result, { c with ram })

/-! ## The loaded cartridge -/

def fresh (c : Mmm01Cartridge) : Mmm01Cartridge :=
  { c with
    ram := clearedRam c.ram
    mapped := false, ramEnabled := false, ramBankMask := 0, romBankLow := 0, romBankMid := 0
    ramBankLow := 0, ramBankHigh := 0, romBankHigh := 0, modeWriteDisable := false
    bankingMode := 0, romBankMask := 0, multiplexEnabled := false }

theorem fresh_whileUnmapped {c : Mmm01Cartridge} {update : Mmm01Cartridge → Mmm01Cartridge}
    (h : (update c).fresh = c.fresh) : (c.whileUnmapped update).fresh = c.fresh := by
  unfold whileUnmapped
  split
  · exact h
  · rfl

@[simp] theorem fresh_writeRom (c : Mmm01Cartridge) (address : U16) (value : U8) :
    (c.writeRom address value).fresh = c.fresh := by
  unfold writeRom
  split
  · exact fresh_whileUnmapped rfl
  · split
    · exact fresh_whileUnmapped rfl
    · split
      · exact fresh_whileUnmapped rfl
      · split
        · rw [fresh_whileUnmapped rfl]
          split
          · rfl
          · rfl
        · rfl

@[simp] theorem fresh_writeRam (c : Mmm01Cartridge) (address : U16) (value : U8) :
    (c.writeRam address value).fresh = c.fresh := by
  simp only [fresh, writeRam, clearedRam_write]

/-- The image has the declared number of banks, and the RAM is made of whole banks. -/
structure Fits (c : Mmm01Cartridge) : Prop where
  rom : ∃ count, c.header.romSize.bankCount = some count ∧ c.rom.length = count * 0x4000 ∧ 2 ≤ count
  ram : ∀ ram, c.ram = some ram → 0 < ram.length ∧ ram.length % 0x2000 = 0

theorem Fits.of_fresh {c loaded : Mmm01Cartridge} (hfresh : c.fresh = loaded.fresh)
    (h : loaded.Fits) : c.Fits := by
  simp only [fresh, mk.injEq] at hfresh
  obtain ⟨hrom, hram, -, hheader, -⟩ := hfresh
  constructor
  · rw [hrom, hheader]
    exact h.rom
  · exact ramLength_of_clearedRam (P := fun n => 0 < n ∧ n % 0x2000 = 0) hram h.ram

/-! ## Agreements -/

theorem romBank_lt {c : Mmm01Cartridge} {count : Nat}
    (hcount : c.header.romSize.bankCount = some count) (htwo : 2 ≤ count) (address : U16) :
    c.romBank address < count := by
  have hbanks : c.romBankCount = count := by
    rw [romBankCount, hcount, Option.getD_some]
    omega
  have hpos : 0 < count := by omega
  unfold romBank unmappedRomBank effectiveLowRomBank effectiveHighRomBank
  rw [hbanks]
  repeat' split
  all_goals first
    | exact Nat.mod_lt _ hpos
    | omega

theorem readRom_eq_byteOf {c : Mmm01Cartridge} (hfits : c.Fits) {address : U16}
    {window : CartridgeMappedRomWindow} (h : c.mappedRomWindow address = some window) :
    window.source = .rom ∧ c.readRom address = window.byteOf c.rom := by
  obtain ⟨count, hcount, hlength, htwo⟩ := hfits.rom
  have hbank := romBank_lt hcount htwo address
  have hbanks : c.romBankCount ≠ 0 := by
    rw [romBankCount]
    omega
  have hin (offset : Nat) (hoffset : offset < 0x4000) :
      (c.romBank address * 0x4000 + offset) % c.rom.length = c.romBank address * 0x4000 + offset := by
    apply Nat.mod_eq_of_lt
    have hnext : (c.romBank address + 1) * 0x4000 ≤ count * 0x4000 := Nat.mul_le_mul_right _ hbank
    omega
  unfold mappedRomWindow at h
  unfold readRom
  split at h
  · cases h
  · rename_i hwindow
    have hbelow : address.toNat < 0x8000 := by bv_omega
    split at h
    · rename_i hlow
      cases h
      have hoffset : address.toNat < 0x4000 := by bv_omega
      refine ⟨rfl, ?_⟩
      simp only [if_pos hlow, if_neg hbanks, hin _ hoffset]
      rfl
    · rename_i hlow
      cases h
      have hoffset : address.toNat - 0x4000 < 0x4000 := by omega
      refine ⟨rfl, ?_⟩
      simp only [if_neg hlow, if_neg hbanks, hin _ hoffset]
      rfl

theorem describeExternalAccess_keeps {c : Mmm01Cartridge} (hfits : c.Fits)
    (address : ExternalAddress) :
    (c.describeExternalAccess address.address).Keeps c (·.readRam address.address)
      (c.writeRam address.address) := by
  refine CartridgeExternalAccessInfo.keeps_enabledRam _ (fun ram => { c with ram })
    (fun _ => rfl) rfl ?_ (fun _ => rfl) ?_
  · intro ram hram
    simp only [readRam, effectiveRamOffset, ramBankCount_of_clearedRam hram]
    rfl
  · intro ram hram
    obtain ⟨hpos, hwhole⟩ := hfits.ram ram hram
    have hcount : ramBankCount c.ram = ram.length / 0x2000 := by
      rw [hram, ramBankCount]
      omega
    rw [effectiveRamOffset, hcount]
    exact banked_offset_lt (Nat.mod_lt _ (by omega)) address.offset_lt (Nat.div_mul_le_self _ _)

theorem restorePersistentState_error {c : Mmm01Cartridge} {state : PersistentCartState}
    {error : CartridgePersistentStateError} (h : (c.restorePersistentState state).1 = .error error) :
    (c.restorePersistentState state).2 = c := by
  have hram := restoreLinearRam_error h
  simp only [restorePersistentState, hram]

theorem restorePersistentState_persistentState {c loaded : Mmm01Cartridge}
    (hfresh : c.fresh = loaded.fresh) :
    (loaded.restorePersistentState c.persistentState).1 = .ok () ∧
      (loaded.restorePersistentState c.persistentState).2.persistentState = c.persistentState := by
  simp only [fresh, mk.injEq] at hfresh
  obtain ⟨-, hram, hbattery, -⟩ := hfresh
  simp only [persistentState, hbattery]
  exact restoreLinearRam_linearRamState .mmm01Ram loaded.hasBattery hram

end Mmm01Cartridge

end GbCycle
