import GbCycle.Cartridge.Access
import GbCycle.Cartridge.Classify
import GbCycle.Cartridge.LinearRam

/-!
# M161

A multicart whose whole 32 KiB are switched at once, by the first write after power-on.
-/

namespace GbCycle

structure M161Cartridge where
  rom : List U8
  header : CartridgeHeader
  classification : CartridgeClassification
  selectedBank : U8
  bankSwitchLocked : Bool
  lastBankWrite : Option U8
  deriving Repr, DecidableEq

namespace M161Cartridge

def powerOn (rom : List U8) (header : CartridgeHeader)
    (classification : CartridgeClassification) : M161Cartridge :=
  { rom, header, classification, selectedBank := 0, bankSwitchLocked := false
    lastBankWrite := none }

def describeExternalAccess (_ : M161Cartridge) (address : U16) : CartridgeExternalAccessInfo :=
  { address, target := .linearRam, availability := .absent
    readBehavior := .fallbackValue ramAbsentReadValue, writeBehavior := .ignored }

def readRom (c : M161Cartridge) (address : U16) : U8 :=
  readOr c.rom (c.selectedBank.toNat * m161BankBytes + address.toNat)

def mappedRomWindow (c : M161Cartridge) (address : U16) : Option CartridgeMappedRomWindow :=
  if 0x8000 ≤ address then none
  else some (.rom c.selectedBank.toNat m161BankBytes address.toNat)

def writeRom (c : M161Cartridge) (_ : U16) (value : U8) : M161Cartridge :=
  if c.bankSwitchLocked then c
  else
    { c with
      selectedBank := value &&& 0x07
      bankSwitchLocked := true
      lastBankWrite := some (value &&& 0x07) }

def readRam (_ : M161Cartridge) (_ : U16) : U8 := ramAbsentReadValue

def writeRam (c : M161Cartridge) (_ : U16) (_ : U8) : M161Cartridge := c

def persistenceMetadata (_ : M161Cartridge) : CartridgePersistenceMetadata :=
  { hasBattery := false, hasRtc := false, profile := .none }

def persistentState (_ : M161Cartridge) : PersistentCartState := .none

def restorePersistentState (c : M161Cartridge) (state : PersistentCartState) :
    Except CartridgePersistentStateError Unit × M161Cartridge :=
  (expectNoState state, c)

/-! ## The loaded cartridge -/

def fresh (c : M161Cartridge) : M161Cartridge :=
  { c with selectedBank := 0, bankSwitchLocked := false, lastBankWrite := none }

@[simp] theorem fresh_writeRom (c : M161Cartridge) (address : U16) (value : U8) :
    (c.writeRom address value).fresh = c.fresh := by
  unfold writeRom
  split
  · rfl
  · rfl

/-! ## Agreements -/

theorem readRom_eq_byteOf {c : M161Cartridge} {address : U16} {window : CartridgeMappedRomWindow}
    (h : c.mappedRomWindow address = some window) :
    window.source = .rom ∧ c.readRom address = window.byteOf c.rom := by
  unfold mappedRomWindow at h
  split at h
  · cases h
  · cases h
    exact ⟨rfl, rfl⟩

theorem describeExternalAccess_keeps (c : M161Cartridge) (address : U16) :
    (c.describeExternalAccess address).Keeps c (·.readRam address) (c.writeRam address) := by
  refine CartridgeExternalAccessInfo.keeps_of_noStorage nofun ?_ fun _ _ => rfl
  intro value hvalue
  exact CartridgeExternalReadBehavior.fallbackValue.inj hvalue

end M161Cartridge

end GbCycle
