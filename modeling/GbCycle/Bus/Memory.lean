import GbCycle.Bus.Map

/-!
# The memories of the bus

Work RAM, video RAM, OAM and high RAM are arrays behind an index computation.  An index the
array does not have, or an address that the domain does not serve, panics in the source and is
`none` here, so that a result in `some` says that it did not happen.
-/

namespace GbCycle

def dmgVramLen : Nat := 0x2000
def cgbVramLen : Nat := 0x4000
def dmgWramLen : Nat := 0x2000
def cgbWramLen : Nat := 0x8000
def oamLen : Nat := 0x00A0
def hramLen : Nat := 0x007F

/-- `bytes[index] = value`, where the index is in range. -/
def storeByte {n : Nat} (bytes : Vector U8 n) (index : Nat) (value : U8) :
    Option (Vector U8 n) :=
  if h : index < n then some (bytes.set index value h) else none

/-! ## Work RAM -/

structure WramDomain where
  consoleModel : ConsoleModel
  selectedBankRegister : U8
  bytes : Vector U8 cgbWramLen
  deriving DecidableEq

namespace WramDomain

def newForModel (consoleModel : ConsoleModel) : WramDomain :=
  { consoleModel, selectedBankRegister := 0, bytes := .replicate cgbWramLen 0 }

def selectedWramBank (w : WramDomain) : U8 :=
  if w.selectedBankRegister &&& 0x07 = 0 then 1 else w.selectedBankRegister &&& 0x07

def readSvbk (w : WramDomain) : U8 := 0xF8 ||| (w.selectedBankRegister &&& 0x07)

def writeSvbk (w : WramDomain) (value : U8) : WramDomain :=
  if w.consoleModel.isCgbFamily then { w with selectedBankRegister := value &&& 0x07 } else w

def switchableBankIndex (w : WramDomain) (offset : U16) : Nat :=
  if w.consoleModel.isCgbFamily then w.selectedWramBank.toNat * 0x1000 + offset.toNat
  else 0x1000 + offset.toNat

def index (w : WramDomain) (address : U16) : Option Nat :=
  if 0xC000 ≤ address ∧ address ≤ 0xCFFF then some (address - 0xC000).toNat
  else if 0xD000 ≤ address ∧ address ≤ 0xDFFF then some (w.switchableBankIndex (address - 0xD000))
  else if 0xE000 ≤ address ∧ address ≤ 0xEFFF then some (address - 0xE000).toNat
  else if 0xF000 ≤ address ∧ address ≤ 0xFDFF then some (w.switchableBankIndex (address - 0xF000))
  else none

def read (w : WramDomain) (address : U16) : Option U8 := do
  let index ← w.index address
  w.bytes[index]?

def write (w : WramDomain) (address : U16) (value : U8) : Option WramDomain := do
  let index ← w.index address
  let bytes ← storeByte w.bytes index value
  some { w with bytes }

end WramDomain

/-! ## Video RAM -/

structure VramDomain where
  consoleModel : ConsoleModel
  selectedBank : U8
  bytes : Vector U8 cgbVramLen
  deriving DecidableEq

namespace VramDomain

def newForModel (consoleModel : ConsoleModel) : VramDomain :=
  { consoleModel, selectedBank := 0, bytes := .replicate cgbVramLen 0 }

def readVbk (v : VramDomain) : U8 := 0xFE ||| v.selectedBank

def writeVbk (v : VramDomain) (value : U8) : VramDomain :=
  if v.consoleModel.isCgbFamily then { v with selectedBank := value &&& 0x01 } else v

def storageIndexForBank (v : VramDomain) (bank : U8) (offset : Nat) : Nat :=
  let bank := if v.consoleModel.isCgbFamily then (bank &&& 0x01).toNat else 0
  bank * dmgVramLen + offset

def storageIndex (v : VramDomain) (offset : Nat) : Nat :=
  v.storageIndexForBank v.selectedBank offset

def read (v : VramDomain) (offset : Nat) : Option U8 := v.bytes[v.storageIndex offset]?

def write (v : VramDomain) (offset : Nat) (value : U8) : Option VramDomain := do
  let bytes ← storeByte v.bytes (v.storageIndex offset) value
  some { v with bytes }

end VramDomain

/-! ## OAM -/

structure OamDomain where
  bytes : Vector U8 oamLen
  deriving DecidableEq

namespace OamDomain

def new : OamDomain := ⟨.replicate oamLen 0⟩

def read (o : OamDomain) (offset : Nat) : Option U8 := o.bytes[offset]?

def write (o : OamDomain) (offset : Nat) (value : U8) : Option OamDomain := do
  let bytes ← storeByte o.bytes offset value
  some { o with bytes }

end OamDomain

/-! ## The registers that the bus owns -/

/-- `FF4C`: written by the boot program until its handoff, never read back. -/
structure CgbKey0State where
  value : U8
  locked : Bool
  deriving Repr, DecidableEq

namespace CgbKey0State

def new : CgbKey0State := ⟨0, true⟩

def readRuntime (_ : CgbKey0State) : U8 := blockedReadValue

def writeRuntime (k : CgbKey0State) (value : U8) : CgbKey0State :=
  if k.locked then k else { k with value }

end CgbKey0State

/-- `FF72` to `FF75`. -/
structure CgbMiscIoState where
  ff72 : U8
  ff73 : U8
  ff74 : U8
  ff75Bits4To6 : U8
  deriving Repr, DecidableEq

namespace CgbMiscIoState

def new : CgbMiscIoState := ⟨0, 0, 0, 0⟩

def ff75ForcedBits : U8 := 0x8F
def ff75WritableMask : U8 := 0x70

def read (m : CgbMiscIoState) (address : U16) : U8 :=
  if address = 0xFF72 then m.ff72
  else if address = 0xFF73 then m.ff73
  else if address = 0xFF74 then m.ff74
  else if address = 0xFF75 then ff75ForcedBits ||| m.ff75Bits4To6
  else blockedReadValue

def write (m : CgbMiscIoState) (address : U16) (value : U8) : CgbMiscIoState :=
  if address = 0xFF72 then { m with ff72 := value }
  else if address = 0xFF73 then { m with ff73 := value }
  else if address = 0xFF74 then { m with ff74 := value }
  else if address = 0xFF75 then { m with ff75Bits4To6 := value &&& ff75WritableMask }
  else m

end CgbMiscIoState

/-! ## Cells -/

theorem getElem?_storeByte {n : Nat} {bytes stored : Vector U8 n} {index : Nat} {value : U8}
    (h : storeByte bytes index value = some stored) (i : Nat) :
    stored[i]? = if i = index then some value else bytes[i]? := by
  unfold storeByte at h
  split at h
  · rename_i hindex
    rw [← Option.some.inj h, Vector.getElem?_set]
    by_cases hi : i = index
    · rw [if_pos hi.symm, if_pos hi]
    · rw [if_neg (Ne.symm hi), if_neg hi]
  · cases h

theorem storeByte_isSome {n : Nat} (bytes : Vector U8 n) {index : Nat} (value : U8)
    (h : index < n) : ∃ stored, storeByte bytes index value = some stored :=
  ⟨_, dif_pos h⟩

theorem selectedWramBank_lt (w : WramDomain) : w.selectedWramBank.toNat < 8 := by
  unfold WramDomain.selectedWramBank
  have hmask : (w.selectedBankRegister &&& 0x07).toNat ≤ 7 := by
    rw [BitVec.toNat_and]
    exact Nat.and_le_right
  split
  · decide
  · omega

theorem selectedWramBank_pos (w : WramDomain) : 0 < w.selectedWramBank.toNat := by
  unfold WramDomain.selectedWramBank
  split
  · decide
  · rename_i hbank
    exact Nat.pos_of_ne_zero fun h => hbank (BitVec.eq_of_toNat_eq h)

end GbCycle
