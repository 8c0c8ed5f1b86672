import GbCycle.Word

/-!
# Images, windows and external RAM

What the mappers share.  A ROM or RAM image is a list of bytes; a read past its end gives the
value of an undriven bus, and a write past its end is lost.  The processor sees the ROM through
two windows of 16 KiB, for most mappers with a fixed low bank and a switched high one; a mapper
answers reads there and also reports which bank a window shows.
-/

namespace GbCycle

def ramAbsentReadValue : U8 := 0xFF
def romBankBytes : Nat := 16 * 1024

/-- `bytes.get(index).copied().unwrap_or(RAM_ABSENT_READ_VALUE)`. -/
def readOr (bytes : List U8) (index : Nat) : U8 := bytes[index]?.getD ramAbsentReadValue

theorem readOr_set {bytes : List U8} {index : Nat} (hin : index < bytes.length) (value : U8) :
    readOr (bytes.set index value) index = value := by
  rw [readOr, List.getElem?_set_self hin]
  rfl

/-! ## ROM windows -/

inductive CartridgeMappedRomSource where
  | rom
  | flash
  deriving Repr, DecidableEq

structure CartridgeMappedRomWindow where
  source : CartridgeMappedRomSource
  bank : Nat
  bankSize : Nat
  bankOffset : Nat
  deriving Repr, DecidableEq

namespace CartridgeMappedRomWindow

def rom (bank bankSize bankOffset : Nat) : CartridgeMappedRomWindow :=
  { source := .rom, bank, bankSize, bankOffset }

def flash (bank bankSize bankOffset : Nat) : CartridgeMappedRomWindow :=
  { source := .flash, bank, bankSize, bankOffset }

/-- The byte of an image that a window shows. -/
def byteOf (window : CartridgeMappedRomWindow) (image : List U8) : U8 :=
  readOr image (window.bank * window.bankSize + window.bankOffset)

end CartridgeMappedRomWindow

/-- The index into the ROM when the low window shows one bank and the high window another. -/
def bankedRomIndex (lowBank highBank : Nat) (address : U16) : Nat :=
  if address < 0x4000 then lowBank * 0x4000 + address.toNat
  else highBank * 0x4000 + (address.toNat - 0x4000)

/-- The window over an address, for the same two banks. -/
def bankedRomWindow (lowBank highBank : Nat) (address : U16) : Option CartridgeMappedRomWindow :=
  if 0x8000 ≤ address then none
  else if address < 0x4000 then some (.rom lowBank 0x4000 address.toNat)
  else some (.rom highBank 0x4000 (address.toNat - 0x4000))

theorem byteOf_bankedRomWindow {lowBank highBank : Nat} {address : U16}
    {window : CartridgeMappedRomWindow} (h : bankedRomWindow lowBank highBank address = some window)
    (image : List U8) :
    window.source = .rom ∧
      window.byteOf image = readOr image (bankedRomIndex lowBank highBank address) := by
  unfold bankedRomWindow at h
  unfold bankedRomIndex
  by_cases hlow : address < 0x4000
  · rw [if_pos hlow] at h ⊢
    split at h
    · cases h
    · cases h
      exact ⟨rfl, rfl⟩
  · rw [if_neg hlow] at h ⊢
    split at h
    · cases h
    · cases h
      exact ⟨rfl, rfl⟩

/-! ## External RAM -/

/-- An address of the external RAM window.  The bus asks a cartridge about no other. -/
structure ExternalAddress where
  address : U16
  inWindow : 0xA000 ≤ address ∧ address ≤ 0xBFFF
  deriving Repr, DecidableEq

/-- `(address - 0xA000) as usize`. -/
def ramWindowOffset (address : U16) : Nat := address.toNat - 0xA000

theorem ExternalAddress.offset_lt (address : ExternalAddress) :
    ramWindowOffset address.address < 0x2000 := by
  obtain ⟨hlow, hhigh⟩ := address.inWindow
  unfold ramWindowOffset
  bv_omega

/-- A read of RAM that may be absent, behind an enable bit. -/
def readEnabledRam (enabled : Bool) (ram : Option (List U8)) (offset : Nat) : U8 :=
  if !enabled then ramAbsentReadValue
  else
    match ram with
    | none => ramAbsentReadValue
    | some ram => readOr ram offset

def writeEnabledRam (enabled : Bool) (ram : Option (List U8)) (offset : Nat) (value : U8) :
    Option (List U8) :=
  if !enabled then ram else ram.map (·.set offset value)

theorem readEnabledRam_absent {enabled : Bool} {ram : Option (List U8)}
    (h : (enabled && ram.isSome) = false) (offset : Nat) :
    readEnabledRam enabled ram offset = ramAbsentReadValue := by
  cases enabled with
  | false => rfl
  | true =>
      cases ram with
      | none => rfl
      | some ram => cases h

theorem writeEnabledRam_absent {enabled : Bool} {ram : Option (List U8)}
    (h : (enabled && ram.isSome) = false) (offset : Nat) (value : U8) :
    writeEnabledRam enabled ram offset value = ram := by
  cases enabled with
  | false => rfl
  | true =>
      cases ram with
      | none => rfl
      | some ram => cases h

theorem readEnabledRam_write {ram : List U8} {offset : Nat} (hin : offset < ram.length)
    (value : U8) :
    readEnabledRam true (writeEnabledRam true (some ram) offset value) offset = value :=
  readOr_set hin value

/-- RAM of the same size that has been cleared. -/
def clearedRam (ram : Option (List U8)) : Option (List U8) :=
  ram.map fun ram => List.replicate ram.length 0

@[simp] theorem clearedRam_write (enabled : Bool) (ram : Option (List U8)) (offset : Nat)
    (value : U8) : clearedRam (writeEnabledRam enabled ram offset value) = clearedRam ram := by
  cases enabled with
  | false => rfl
  | true =>
      cases ram with
      | none => rfl
      | some ram => simp [clearedRam, writeEnabledRam]

theorem length_of_clearedRam {ram : List U8} {other : Option (List U8)}
    (h : clearedRam (some ram) = clearedRam other) :
    ∃ ram', other = some ram' ∧ ram'.length = ram.length := by
  cases other with
  | none => cases h
  | some ram' =>
      have hsame := congrArg List.length (Option.some.inj h)
      simp only [List.length_replicate] at hsame
      exact ⟨ram', rfl, hsame.symm⟩

/-- What holds of the size of a RAM holds of every RAM of that size. -/
theorem ramLength_of_clearedRam {P : Nat → Prop} {ram other : Option (List U8)}
    (h : clearedRam ram = clearedRam other) (hother : ∀ bytes, other = some bytes → P bytes.length) :
    ∀ bytes, ram = some bytes → P bytes.length := by
  rintro bytes rfl
  obtain ⟨bytes', rfl, hlength⟩ := length_of_clearedRam h
  exact hlength ▸ hother bytes' rfl

/-- `(ram.len() / 0x2000).max(1)`. -/
def ramBankCount (ram : Option (List U8)) : Nat :=
  match ram with
  | none => 1
  | some ram => max (ram.length / 0x2000) 1

theorem ramBankCount_of_clearedRam {ram other : Option (List U8)}
    (h : clearedRam ram = clearedRam other) : ramBankCount ram = ramBankCount other := by
  cases ram with
  | none =>
      cases other with
      | none => rfl
      | some other => cases h
  | some ram =>
      obtain ⟨other, rfl, hlength⟩ := length_of_clearedRam h
      simp only [ramBankCount, hlength]

/-- A bank below the count and an offset in its window lie inside the RAM, when it is made of
whole banks. -/
theorem banked_offset_lt {bank count offset size : Nat} (hbank : bank < count)
    (hoffset : offset < 0x2000) (hsize : count * 0x2000 ≤ size) :
    bank * 0x2000 + offset < size := by
  have hbanks : (bank + 1) * 0x2000 ≤ count * 0x2000 := Nat.mul_le_mul_right _ hbank
  omega

end GbCycle
