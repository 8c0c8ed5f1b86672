import GbCycle.Cartridge.Access
import GbCycle.Cartridge.Classify
import GbCycle.Cartridge.LinearRam

/-!
# MBC2

A bank register of four bits, and a RAM of 512 nibbles in the mapper itself, which repeats
through the whole window.  Which register a write reaches is one bit of the address.
-/

namespace GbCycle

def mbc2RamAddressMask : Nat := mbc2RamCellCount - 1
def mbc2RamReadHighNibble : U8 := 0xF0

structure Mbc2Cartridge where
  rom : List U8
  ramNibbles : Vector U8 mbc2RamCellCount
  hasBattery : Bool
  header : CartridgeHeader
  classification : CartridgeClassification
  ramEnabled : Bool
  romBankLow4 : U8
  deriving Repr, DecidableEq

namespace Mbc2Cartridge

def powerOn (rom : List U8) (header : CartridgeHeader)
    (classification : CartridgeClassification) : Mbc2Cartridge :=
  { rom, ramNibbles := Vector.replicate mbc2RamCellCount 0
    hasBattery := classification.rawType = 0x06
    header, classification, ramEnabled := false, romBankLow4 := 0 }

def effectiveHighRomBank (c : Mbc2Cartridge) (bankCount : Nat) : Nat :=
  let rawLow4 := c.romBankLow4 &&& 0x0F
  let translatedLow4 := if rawLow4 = 0 then 1 else rawLow4.toNat
  if bankCount = 0 then 0 else translatedLow4 % bankCount

/-- Always a cell of the RAM. -/
def ramIndex (address : U16) : Nat := ramWindowOffset address &&& mbc2RamAddressMask

def describeExternalAccess (c : Mbc2Cartridge) (address : U16) : CartridgeExternalAccessInfo :=
  .ramAccess address .mbc2InternalRam c.ramEnabled true

def readRom (c : Mbc2Cartridge) (address : U16) : U8 :=
  readOr c.rom
    (bankedRomIndex 0 (c.effectiveHighRomBank (c.header.romSize.bankCount.getD 0)) address)

def mappedRomWindow (c : Mbc2Cartridge) (address : U16) : Option CartridgeMappedRomWindow :=
  bankedRomWindow 0 (c.effectiveHighRomBank (c.header.romSize.bankCount.getD 0)) address

def writeRom (c : Mbc2Cartridge) (address : U16) (value : U8) : Mbc2Cartridge :=
  if 0x3FFF < address then c
  else if address &&& 0x0100 = 0 then { c with ramEnabled := value &&& 0x0F = 0x0A }
  else { c with romBankLow4 := value &&& 0x0F }

def readRam (c : Mbc2Cartridge) (address : U16) : U8 :=
  if !c.ramEnabled then ramAbsentReadValue
  else mbc2RamReadHighNibble ||| c.ramNibbles[ramIndex address]?.getD 0

def writeRam (c : Mbc2Cartridge) (address : U16) (value : U8) : Mbc2Cartridge :=
  if !c.ramEnabled then c
  else { c with ramNibbles := c.ramNibbles.setIfInBounds (ramIndex address) (value &&& 0x0F) }

def persistenceMetadata (c : Mbc2Cartridge) : CartridgePersistenceMetadata :=
  { hasBattery := c.hasBattery, hasRtc := false
    profile :=
      if c.hasBattery then .persistentRam (.mbc2Nibbles mbc2RamCellCount)
      else .nonPersistentRam (.mbc2Nibbles mbc2RamCellCount) }

def persistentState (c : Mbc2Cartridge) : PersistentCartState :=
  if c.hasBattery then .mbc2Ram c.ramNibbles else .none

def restorePersistentState (c : Mbc2Cartridge) (state : PersistentCartState) :
    Except CartridgePersistentStateError Unit × Mbc2Cartridge :=
  if !c.hasBattery then (expectNoState state, c)
  else
    match state with
    | .mbc2Ram ramNibbles =>
        match firstRefused (fun value => value &&& 0xF0 ≠ 0) ramNibbles.toList with
        | some (index, value) => (.error (.invalidMbc2NibbleValue index value), c)
        | none => (.ok (), { c with ramNibbles })
    | other => (.error (.kindMismatch "Mbc2Ram" other.kindName), c)

/-! ## The loaded cartridge -/

def fresh (c : Mbc2Cartridge) : Mbc2Cartridge :=
  { c with
    ramNibbles := Vector.replicate mbc2RamCellCount 0, ramEnabled := false, romBankLow4 := 0 }

@[simp] theorem fresh_writeRom (c : Mbc2Cartridge) (address : U16) (value : U8) :
    (c.writeRom address value).fresh = c.fresh := by
  unfold writeRom
  repeat' split
  all_goals rfl

@[simp] theorem fresh_writeRam (c : Mbc2Cartridge) (address : U16) (value : U8) :
    (c.writeRam address value).fresh = c.fresh := by
  unfold writeRam
  split
  · rfl
  · simp only [fresh]

/-- The cells hold nibbles. -/
def Nibbles (c : Mbc2Cartridge) : Prop :=
  ∀ index : Nat, c.ramNibbles[index]?.getD 0 &&& 0xF0 = 0

theorem and_low_high (value : U8) : (value &&& 0x0F) &&& 0xF0 = 0 := by
  rw [BitVec.and_assoc, show (0x0F : U8) &&& 0xF0 = 0 from rfl]
  exact BitVec.and_zero

theorem nibbles_powerOn (rom : List U8) (header : CartridgeHeader)
    (classification : CartridgeClassification) : (powerOn rom header classification).Nibbles := by
  intro index
  unfold powerOn
  rw [Vector.getElem?_replicate]
  split <;> rfl

theorem Nibbles.writeRam {c : Mbc2Cartridge} (h : c.Nibbles) (address : U16) (value : U8) :
    (c.writeRam address value).Nibbles := by
  intro index
  unfold Mbc2Cartridge.writeRam
  split
  · exact h index
  · dsimp only
    rw [Vector.getElem?_setIfInBounds]
    split
    · split
      · exact and_low_high value
      · rfl
    · exact h index

theorem Nibbles.writeRom {c : Mbc2Cartridge} (h : c.Nibbles) (address : U16) (value : U8) :
    (c.writeRom address value).Nibbles := by
  unfold Mbc2Cartridge.writeRom
  split
  · exact h
  · split
    · exact h
    · exact h

theorem refused_iff (ramNibbles : Vector U8 mbc2RamCellCount) :
    firstRefused (fun value => value &&& 0xF0 ≠ 0) ramNibbles.toList = none ↔
      ∀ index : Nat, ramNibbles[index]?.getD 0 &&& 0xF0 = 0 := by
  rw [firstRefused_eq_none]
  constructor
  · intro h index
    cases hcell : ramNibbles[index]? with
    | none => rfl
    | some value =>
        have hmem := Vector.mem_toList_iff.mpr (Vector.mem_iff_getElem?.mpr ⟨index, hcell⟩)
        exact not_not.mp (of_decide_eq_false (h value hmem))
  · intro h value hmem
    obtain ⟨index, hindex⟩ := Vector.mem_iff_getElem?.mp (Vector.mem_toList_iff.mp hmem)
    have hcell := h index
    rw [hindex, Option.getD_some] at hcell
    exact decide_eq_false (not_not.mpr hcell)

theorem Nibbles.restorePersistentState {c : Mbc2Cartridge} (h : c.Nibbles)
    (state : PersistentCartState) : (c.restorePersistentState state).2.Nibbles := by
  unfold Mbc2Cartridge.restorePersistentState
  split
  · exact h
  · split
    · rename_i ramNibbles
      split
      · exact h
      · rename_i hnone
        exact (refused_iff ramNibbles).mp hnone
    · exact h

@[simp] theorem fresh_restorePersistentState (c : Mbc2Cartridge) (state : PersistentCartState) :
    (c.restorePersistentState state).2.fresh = c.fresh := by
  unfold restorePersistentState
  split
  · rfl
  · split
    · split
      · rfl
      · simp only [fresh]
    · rfl

/-! ## Agreements -/

theorem readRom_eq_byteOf {c : Mbc2Cartridge} {address : U16} {window : CartridgeMappedRomWindow}
    (h : c.mappedRomWindow address = some window) :
    window.source = .rom ∧ c.readRom address = window.byteOf c.rom := by
  obtain ⟨hsource, hbyte⟩ := byteOf_bankedRomWindow h c.rom
  exact ⟨hsource, hbyte.symm⟩

theorem ramIndex_lt (address : U16) : ramIndex address < mbc2RamCellCount := by
  have hle : ramIndex address ≤ mbc2RamAddressMask := Nat.and_le_right
  unfold mbc2RamAddressMask mbc2RamCellCount at hle
  unfold mbc2RamCellCount
  omega

theorem describeExternalAccess_keeps (c : Mbc2Cartridge) (address : U16) :
    (c.describeExternalAccess address).Keeps c (·.readRam address) (c.writeRam address) := by
  refine CartridgeExternalAccessInfo.keeps_ramAccess ?_ ?_
  · intro habsent
    rw [Bool.and_true] at habsent
    refine ⟨?_, fun value => ?_⟩
    · rw [readRam, habsent]
      rfl
    · rw [writeRam, habsent]
      rfl
  · intro hpresent value
    rw [Bool.and_true] at hpresent
    have hwrite : c.writeRam address value =
        { c with ramNibbles := c.ramNibbles.setIfInBounds (ramIndex address) (value &&& 0x0F) } := by
      rw [writeRam, hpresent]
      rfl
    rw [hwrite, readRam]
    dsimp only
    rw [hpresent, Vector.getElem?_setIfInBounds_self_of_lt (ramIndex_lt address)]
    rfl

theorem restorePersistentState_error {c : Mbc2Cartridge} {state : PersistentCartState}
    {error : CartridgePersistentStateError} (h : (c.restorePersistentState state).1 = .error error) :
    (c.restorePersistentState state).2 = c := by
  unfold restorePersistentState at h ⊢
  split at h
  · rename_i hbattery
    rw [if_pos hbattery]
  · rename_i hbattery
    rw [if_neg hbattery]
    cases state with
    | mbc2Ram ramNibbles =>
        dsimp only at h ⊢
        cases hrefused : firstRefused (fun value => value &&& 0xF0 ≠ 0) ramNibbles.toList with
        | some cell => rfl
        | none =>
            rw [hrefused] at h
            cases h
    | _ => rfl

theorem restorePersistentState_persistentState {c loaded : Mbc2Cartridge}
    (hfresh : c.fresh = loaded.fresh) (hnibbles : c.Nibbles) :
    (loaded.restorePersistentState c.persistentState).1 = .ok () ∧
      (loaded.restorePersistentState c.persistentState).2.persistentState = c.persistentState := by
  simp only [fresh, mk.injEq] at hfresh
  obtain ⟨-, -, hbattery, -⟩ := hfresh
  unfold persistentState restorePersistentState
  cases hloaded : loaded.hasBattery with
  | false =>
      rw [hbattery, hloaded]
      simp only [Bool.not_false, if_true, Bool.false_eq_true, if_false, expectNoState, hloaded,
        and_self]
  | true =>
      rw [hbattery, hloaded]
      simp only [Bool.not_true, Bool.false_eq_true, if_false, if_true,
        (refused_iff c.ramNibbles).mpr hnibbles, and_self]

end Mbc2Cartridge

end GbCycle
