import GbCycle.Cartridge.Access
import GbCycle.Cartridge.Classify
import GbCycle.Cartridge.LinearRam

/-!
# HuC-1

Like MBC1 without its quirks, and with an infrared port that takes the place of the RAM.
-/

namespace GbCycle

inductive Huc1IoMode where
  | ram
  | ir
  deriving Repr, DecidableEq

structure Huc1Cartridge where
  rom : List U8
  ram : Option (List U8)
  hasBattery : Bool
  header : CartridgeHeader
  classification : CartridgeClassification
  ioMode : Huc1IoMode
  romBank : U8
  ramBank : U8
  irEmitterOn : Bool
  irLightDetected : Bool
  deriving Repr, DecidableEq

namespace Huc1Cartridge

def powerOn (rom : List U8) (header : CartridgeHeader) (classification : CartridgeClassification)
    (ramLen : Nat) : Huc1Cartridge :=
  { rom, ram := some (List.replicate ramLen 0), hasBattery := true, header, classification
    ioMode := .ram, romBank := 0, ramBank := 0, irEmitterOn := false, irLightDetected := false }

def effectiveRomBank (c : Huc1Cartridge) (bankCount : Nat) : Nat :=
  if bankCount = 0 then 0 else c.romBank.toNat % bankCount

def effectiveRamBank (c : Huc1Cartridge) : U8 :=
  BitVec.ofNat 8 (c.ramBank.toNat % ramBankCount c.ram)

def effectiveRamOffset (c : Huc1Cartridge) (address : U16) : Nat :=
  let offset := c.effectiveRamBank.toNat * 0x2000 + ramWindowOffset address
  match c.ram with
  | none => offset
  | some ram => if ram.length = 0 then offset else offset % ram.length

def describeExternalAccess (c : Huc1Cartridge) (address : U16) : CartridgeExternalAccessInfo :=
  match c.ioMode with
  | .ram => .ramAccess address (.bankedRam c.effectiveRamBank) true c.ram.isSome
  | .ir =>
      { address, target := .irRegister, availability := .accessible
        readBehavior := .infraredSensor, writeBehavior := .infraredTransmitter }

def readIrRegister (c : Huc1Cartridge) : U8 := if c.irLightDetected then 0xC1 else 0xC0

def readRom (c : Huc1Cartridge) (address : U16) : U8 :=
  readOr c.rom
    (bankedRomIndex 0 (c.effectiveRomBank (c.header.romSize.bankCount.getD 0)) address)

def mappedRomWindow (c : Huc1Cartridge) (address : U16) : Option CartridgeMappedRomWindow :=
  bankedRomWindow 0 (c.effectiveRomBank (c.header.romSize.bankCount.getD 0)) address

def writeRom (c : Huc1Cartridge) (address : U16) (value : U8) : Huc1Cartridge :=
  if address ≤ 0x1FFF then { c with ioMode := if value = 0x0E then .ir else .ram }
  else if address ≤ 0x3FFF then { c with romBank := value &&& 0x3F }
  else if address ≤ 0x5FFF then { c with ramBank := value &&& 0x03 }
  else c

def readRam (c : Huc1Cartridge) (address : U16) : U8 :=
  match c.ioMode with
  | .ram => readEnabledRam true c.ram (c.effectiveRamOffset address)
  | .ir => c.readIrRegister

def writeRam (c : Huc1Cartridge) (address : U16) (value : U8) : Huc1Cartridge :=
  match c.ioMode with
  | .ram => { c with ram := writeEnabledRam true c.ram (c.effectiveRamOffset address) value }
  | .ir => { c with irEmitterOn := value &&& 0x01 ≠ 0 }

def persistenceMetadata (c : Huc1Cartridge) : CartridgePersistenceMetadata :=
  linearRamMetadata c.hasBattery c.ram

def persistentState (c : Huc1Cartridge) : PersistentCartState :=
  linearRamState .huc1Ram c.hasBattery c.ram

def restorePersistentState (c : Huc1Cartridge) (state : PersistentCartState) :
    Except CartridgePersistentStateError Unit × Huc1Cartridge :=
  let (result, ram) := restoreLinearRam .huc1Ram c.hasBattery c.ram state
  (result, { c with ram })

/-! ## The loaded cartridge -/

def fresh (c : Huc1Cartridge) : Huc1Cartridge :=
  { c with
    ram := clearedRam c.ram, ioMode := .ram, romBank := 0, ramBank := 0, irEmitterOn := false
    irLightDetected := false }

@[simp] theorem fresh_writeRom (c : Huc1Cartridge) (address : U16) (value : U8) :
    (c.writeRom address value).fresh = c.fresh := by
  unfold writeRom
  repeat' split
  all_goals rfl

@[simp] theorem fresh_writeRam (c : Huc1Cartridge) (address : U16) (value : U8) :
    (c.writeRam address value).fresh = c.fresh := by
  unfold writeRam
  split
  · simp only [fresh, clearedRam_write]
  · rfl

def RamFits (c : Huc1Cartridge) : Prop := ∀ ram, c.ram = some ram → 0 < ram.length

theorem RamFits.of_fresh {c loaded : Huc1Cartridge} (hfresh : c.fresh = loaded.fresh)
    (h : loaded.RamFits) : c.RamFits := by
  simp only [fresh, mk.injEq] at hfresh
  exact ramLength_of_clearedRam (P := (0 < ·)) hfresh.2.1 h

/-! ## Agreements -/

theorem readRom_eq_byteOf {c : Huc1Cartridge} {address : U16} {window : CartridgeMappedRomWindow}
    (h : c.mappedRomWindow address = some window) :
    window.source = .rom ∧ c.readRom address = window.byteOf c.rom := by
  obtain ⟨hsource, hbyte⟩ := byteOf_bankedRomWindow h c.rom
  exact ⟨hsource, hbyte.symm⟩

theorem effectiveRamOffset_of_clearedRam (c : Huc1Cartridge) {ram : Option (List U8)}
    (h : clearedRam ram = clearedRam c.ram) (address : U16) :
    ({ c with ram }).effectiveRamOffset address = c.effectiveRamOffset address := by
  unfold effectiveRamOffset effectiveRamBank
  rw [ramBankCount_of_clearedRam h]
  cases ram with
  | none =>
      cases hram : c.ram with
      | none => rfl
      | some bytes => rw [hram] at h; cases h
  | some bytes =>
      obtain ⟨bytes', hram, hlength⟩ := length_of_clearedRam h
      simp only [hram, hlength]

theorem describeExternalAccess_keeps {c : Huc1Cartridge} (hfits : c.RamFits)
    (address : ExternalAddress) :
    (c.describeExternalAccess address.address).Keeps c (·.readRam address.address)
      (c.writeRam address.address) := by
  cases hmode : c.ioMode with
  | ram =>
      have hdescribe : c.describeExternalAccess address.address =
          .ramAccess address.address (.bankedRam c.effectiveRamBank) true c.ram.isSome := by
        rw [describeExternalAccess, hmode]
      rw [hdescribe]
      refine CartridgeExternalAccessInfo.keeps_enabledRam
        (c.effectiveRamOffset address.address) (fun ram => { c with ram }) (fun _ => rfl) rfl ?_ ?_ ?_
      · intro ram hram
        rw [← effectiveRamOffset_of_clearedRam c hram]
        simp only [readRam, hmode]
      · intro value
        simp only [writeRam, hmode]
      · intro ram hram
        have hpos := hfits ram hram
        simp only [effectiveRamOffset, hram, if_neg (Nat.ne_of_gt hpos)]
        exact Nat.mod_lt _ hpos
  | ir =>
      constructor
      · intro value hvalue
        simp [describeExternalAccess, hmode] at hvalue
      · intro hignored
        simp [describeExternalAccess, hmode] at hignored
      · intro hstorage
        simp [describeExternalAccess, hmode] at hstorage

theorem restorePersistentState_error {c : Huc1Cartridge} {state : PersistentCartState}
    {error : CartridgePersistentStateError} (h : (c.restorePersistentState state).1 = .error error) :
    (c.restorePersistentState state).2 = c := by
  have hram := restoreLinearRam_error h
  simp only [restorePersistentState, hram]

theorem restorePersistentState_persistentState {c loaded : Huc1Cartridge}
    (hfresh : c.fresh = loaded.fresh) :
    (loaded.restorePersistentState c.persistentState).1 = .ok () ∧
      (loaded.restorePersistentState c.persistentState).2.persistentState = c.persistentState := by
  simp only [fresh, mk.injEq] at hfresh
  obtain ⟨-, hram, hbattery, -⟩ := hfresh
  simp only [persistentState, hbattery]
  exact restoreLinearRam_linearRamState .huc1Ram loaded.hasBattery hram

end Huc1Cartridge

end GbCycle
