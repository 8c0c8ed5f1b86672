import Mathlib.Data.BitVec
import Mathlib.Tactic.Common

/-!
# Bytes and words

The emulated machine computes on eight and sixteen bit integers.  We read the Rust
types `u8` and `u16` as bit vectors of those widths, so that `wrapping_add` is addition
and `!`, `&`, `|`, `^` are the bitwise operations of `BitVec`.

The only other thing the core needs from a word is its split into two bytes.  The source
writes it `to_le_bytes`, `to_be_bytes` and `from_be_bytes`; here it is `U16.low`,
`U16.high` and `U16.ofBytes`, with the laws that make the split a bijection.
-/

namespace GbCycle

abbrev U8 := BitVec 8
abbrev U16 := BitVec 16

/-- `saturating_add` of an unsigned type with `w` bits. -/
def saturatingAdd (w a b : Nat) : Nat := min (a + b) (2 ^ w - 1)

/-- `checked_add` of an unsigned type with `w` bits. -/
def checkedAdd (w a b : Nat) : Option Nat := if a + b < 2 ^ w then some (a + b) else none

/-! ## The two bytes of a word -/

def U16.low (w : U16) : U8 := w.setWidth 8
def U16.high (w : U16) : U8 := (w >>> 8).setWidth 8

/-- `u16::from(byte)`. -/
def U16.ofByte (b : U8) : U16 := b.setWidth 16

/-- The word with the given high and low bytes (`u16::from_be_bytes([high, low])`). -/
def U16.ofBytes (high low : U8) : U16 := ofByte low ||| (ofByte high <<< 8)

@[simp] theorem U16.ofBytes_low (h l : U8) : (U16.ofBytes h l).low = l := by
  ext i hi
  simp [U16.low, U16.ofBytes, U16.ofByte]

@[simp] theorem U16.ofBytes_high (h l : U8) : (U16.ofBytes h l).high = h := by
  ext i hi
  have high_bit : ¬ (8 + i < 8) := by omega
  have in_word : 8 + i < 16 := by omega
  have in_byte : i < 16 := by omega
  simp [U16.high, U16.ofBytes, U16.ofByte, high_bit, in_word, in_byte,
    BitVec.getLsbD_eq_getElem hi]

@[simp] theorem U16.ofBytes_high_low (w : U16) : U16.ofBytes w.high w.low = w := by
  ext i hi
  by_cases low_bit : i < 8
  · simp [U16.high, U16.low, U16.ofBytes, U16.ofByte, low_bit,
      BitVec.getLsbD_eq_getElem hi]
  · have high_bit : i - 8 < 8 := by omega
    have same : 8 + (i - 8) = i := by omega
    simp [U16.high, U16.low, U16.ofBytes, U16.ofByte, low_bit, high_bit, same,
      BitVec.getLsbD_eq_getElem hi]

/-! ## Masks -/

theorem U8.and_ne_zero_of_or {flags other mask : U8} (h : flags &&& mask ≠ 0) :
    (flags ||| other) &&& mask ≠ 0 := by
  intro hzero
  have habsorb : flags &&& mask = flags &&& ((flags ||| other) &&& mask) := by
    ext i hi
    simp only [BitVec.getElem_and, BitVec.getElem_or]
    cases flags[i] <;> simp
  rw [hzero, show flags &&& (0 : U8) = 0 from BitVec.and_zero] at habsorb
  exact h habsorb

theorem U8.toNat_and_nibble (v : U8) : (v &&& 0x0F).toNat = v.toNat % 16 := by
  rw [BitVec.toNat_and]
  exact Nat.and_two_pow_sub_one_eq_mod _ 4

theorem U8.or_and_self (flags mask : U8) : (flags ||| mask) &&& mask = mask := by
  ext i hi
  simp only [BitVec.getElem_and, BitVec.getElem_or]
  cases mask[i] <;> simp

theorem U8.and_not_and_self (flags mask : U8) : (flags &&& ~~~ mask) &&& mask = 0 := by
  ext i hi
  simp only [BitVec.getElem_and, BitVec.getElem_not]
  cases mask[i] <;> simp

theorem U8.or_and_not_and (flags mask cleared : U8) :
    ((flags ||| mask) &&& ~~~ cleared) &&& mask = mask &&& ~~~ cleared := by
  ext i hi
  simp only [BitVec.getElem_and, BitVec.getElem_or, BitVec.getElem_not]
  cases mask[i] <;> simp

/-- What is outside one mask is inside the other. -/
theorem U8.and_of_and_eq_zero {value inside outside : U8} (h : value &&& outside = 0)
    (hall : inside ||| outside = 0xFF) : value &&& inside = value := by
  have hsplit : value &&& (inside ||| outside) = (value &&& inside) ||| (value &&& outside) := by
    ext i hi
    simp only [BitVec.getElem_and, BitVec.getElem_or]
    cases value[i] <;> simp
  rw [hall, h, show (0xFF : U8) = BitVec.allOnes 8 from rfl, BitVec.and_allOnes,
    show (value &&& inside) ||| (0 : U8) = value &&& inside from BitVec.or_zero] at hsplit
  exact hsplit.symm

end GbCycle
