import GbCycle.Cartridge.Access
import GbCycle.Cartridge.Classify
import GbCycle.Cartridge.LinearRam

/-!
# Cartridges without a mapper

A ROM of 32 KiB that both windows show, and at most one bank of RAM.

This and the modules of the other mappers go the same way.  The functions of the cartridge come
first; `fresh` undoes whatever a program did, which gives the cartridge that was loaded, and no
operation changes it; then come the agreements of the window with the read, of the description
with the access, and of the saved state with the restored one.
-/

namespace GbCycle

def noMbcSupportedRamBytes : Nat := 8 * 1024

structure NoMbcCartridge where
  rom : List U8
  ram : Option (List U8)
  hasBattery : Bool
  header : CartridgeHeader
  classification : CartridgeClassification
  deriving Repr, DecidableEq

namespace NoMbcCartridge

def powerOn (rom : List U8) (header : CartridgeHeader)
    (classification : CartridgeClassification) : NoMbcCartridge :=
  { rom
    ram :=
      if classification.rawType = 0x08 ∨ classification.rawType = 0x09 then
        some (List.replicate noMbcSupportedRamBytes 0)
      else none
    hasBattery := classification.rawType = 0x09
    header, classification }

def describeExternalAccess (c : NoMbcCartridge) (address : U16) : CartridgeExternalAccessInfo :=
  .ramAccess address .linearRam true c.ram.isSome

def readRom (c : NoMbcCartridge) (address : U16) : U8 := readOr c.rom address.toNat

def mappedRomWindow (_ : NoMbcCartridge) (address : U16) : Option CartridgeMappedRomWindow :=
  if 0x8000 ≤ address then none
  else some (.rom (address.toNat / 0x4000) 0x4000 (address.toNat % 0x4000))

def writeRom (c : NoMbcCartridge) (_ : U16) (_ : U8) : NoMbcCartridge := c

def readRam (c : NoMbcCartridge) (address : U16) : U8 :=
  readEnabledRam true c.ram (ramWindowOffset address)

def writeRam (c : NoMbcCartridge) (address : U16) (value : U8) : NoMbcCartridge :=
  { c with ram := writeEnabledRam true c.ram (ramWindowOffset address) value }

def persistenceMetadata (c : NoMbcCartridge) : CartridgePersistenceMetadata :=
  linearRamMetadata c.hasBattery c.ram

def persistentState (c : NoMbcCartridge) : PersistentCartState :=
  linearRamState .noMbcRam c.hasBattery c.ram

def restorePersistentState (c : NoMbcCartridge) (state : PersistentCartState) :
    Except CartridgePersistentStateError Unit × NoMbcCartridge :=
  let (result, ram) := restoreLinearRam .noMbcRam c.hasBattery c.ram state
  (result, { c with ram })

/-! ## The loaded cartridge -/

def fresh (c : NoMbcCartridge) : NoMbcCartridge := { c with ram := clearedRam c.ram }

@[simp] theorem fresh_writeRam (c : NoMbcCartridge) (address : U16) (value : U8) :
    (c.writeRam address value).fresh = c.fresh := by
  simp only [fresh, writeRam, clearedRam_write]

/-- The RAM fills the window. -/
def RamFits (c : NoMbcCartridge) : Prop := ∀ ram, c.ram = some ram → ram.length = 0x2000

theorem ramFits_powerOn (rom : List U8) (header : CartridgeHeader)
    (classification : CartridgeClassification) :
    (powerOn rom header classification).RamFits := by
  intro ram hram
  unfold powerOn at hram
  split at hram
  · cases hram
    exact List.length_replicate
  · cases hram

theorem RamFits.of_fresh {c loaded : NoMbcCartridge} (hfresh : c.fresh = loaded.fresh)
    (h : loaded.RamFits) : c.RamFits :=
  ramLength_of_clearedRam (P := (· = 0x2000)) (congrArg ram hfresh) h

/-! ## Agreements -/

theorem readRom_eq_byteOf {c : NoMbcCartridge} {address : U16} {window : CartridgeMappedRomWindow}
    (h : c.mappedRomWindow address = some window) :
    window.source = .rom ∧ c.readRom address = window.byteOf c.rom := by
  unfold mappedRomWindow at h
  split at h
  · cases h
  · cases h
    refine ⟨rfl, ?_⟩
    show readOr c.rom address.toNat =
      readOr c.rom (address.toNat / 0x4000 * 0x4000 + address.toNat % 0x4000)
    rw [Nat.div_add_mod' address.toNat 0x4000]

theorem describeExternalAccess_keeps {c : NoMbcCartridge} (hfits : c.RamFits)
    (address : ExternalAddress) :
    (c.describeExternalAccess address.address).Keeps c (·.readRam address.address)
      (c.writeRam address.address) := by
  refine CartridgeExternalAccessInfo.keeps_enabledRam _ (fun ram => { c with ram })
    (fun _ => rfl) rfl (fun _ _ => rfl) (fun _ => rfl) ?_
  intro ram hram
  exact (hfits ram hram) ▸ address.offset_lt

theorem restorePersistentState_error {c : NoMbcCartridge} {state : PersistentCartState}
    {error : CartridgePersistentStateError} (h : (c.restorePersistentState state).1 = .error error) :
    (c.restorePersistentState state).2 = c := by
  have hram := restoreLinearRam_error h
  simp only [restorePersistentState, hram]

theorem restorePersistentState_persistentState {c loaded : NoMbcCartridge}
    (hfresh : c.fresh = loaded.fresh) :
    (loaded.restorePersistentState c.persistentState).1 = .ok () ∧
      (loaded.restorePersistentState c.persistentState).2.persistentState = c.persistentState := by
  simp only [fresh, mk.injEq] at hfresh
  obtain ⟨-, hram, hbattery, -⟩ := hfresh
  simp only [persistentState, hbattery]
  exact restoreLinearRam_linearRamState .noMbcRam loaded.hasBattery hram

end NoMbcCartridge

end GbCycle
