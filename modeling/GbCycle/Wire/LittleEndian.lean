import GbCycle.Wire.Decoder
import Mathlib.Algebra.Group.Nat.Defs

/-!
# Numbers as bytes, the low byte first

`leBytes k` writes a number below `256 ^ k` as `k` bytes and `ofLeBytes` reads it back.  A
decoder of such a number takes exactly the bytes that write it.
-/

namespace Wire

abbrev Byte := BitVec 8

def leBytes : Nat → Nat → List Byte
  | 0, _ => []
  | k + 1, n => BitVec.ofNat 8 n :: leBytes k (n / 256)

def ofLeBytes : List Byte → Nat
  | [] => 0
  | b :: bs => b.toNat + 256 * ofLeBytes bs

@[simp] theorem length_leBytes (k n : Nat) : (leBytes k n).length = k := by
  induction k generalizing n with
  | zero => rfl
  | succ k ih => rw [leBytes, List.length_cons, ih]

theorem ofLeBytes_lt (bs : List Byte) : ofLeBytes bs < 256 ^ bs.length := by
  induction bs with
  | nil => exact Nat.one_pos
  | cons b bs ih =>
      rw [ofLeBytes, List.length_cons, Nat.pow_succ]
      have hb := b.isLt
      omega

theorem ofLeBytes_leBytes {k n : Nat} (h : n < 256 ^ k) : ofLeBytes (leBytes k n) = n := by
  induction k generalizing n with
  | zero =>
      rw [Nat.pow_zero] at h
      exact (Nat.lt_one_iff.mp h).symm
  | succ k ih =>
      rw [Nat.pow_succ] at h
      rw [leBytes, ofLeBytes, ih (by omega), BitVec.toNat_ofNat]
      omega

theorem leBytes_ofLeBytes (bs : List Byte) : leBytes bs.length (ofLeBytes bs) = bs := by
  induction bs with
  | nil => rfl
  | cons b bs ih =>
      have hb := b.isLt
      have hlow : BitVec.ofNat 8 (b.toNat + 256 * ofLeBytes bs) = b := by
        apply BitVec.eq_of_toNat_eq
        rw [BitVec.toNat_ofNat]
        omega
      have hhigh : (b.toNat + 256 * ofLeBytes bs) / 256 = ofLeBytes bs := by omega
      rw [List.length_cons, ofLeBytes, leBytes, hlow, hhigh, ih]

namespace Decoder

variable {ε : Type}

/-- A number of `k` bytes. -/
def leNat (eof : Nat → Nat → Nat → ε) (k : Nat) : Decoder ε Byte Nat := do
  let bytes ← take eof k
  pure (ofLeBytes bytes)

@[simp] theorem decodes_leNat {eof : Nat → Nat → Nat → ε} {k n : Nat} {w : List Byte} :
    (leNat eof k).Decodes w n ↔ w = leBytes k n ∧ n < 256 ^ k := by
  simp only [leNat, decodes_bind, decodes_take, decodes_pure]
  constructor
  · rintro ⟨w₁, w₂, v, rfl, ⟨rfl, rfl⟩, rfl, rfl⟩
    rw [List.append_nil, leBytes_ofLeBytes]
    exact ⟨rfl, ofLeBytes_lt w₁⟩
  · rintro ⟨rfl, hn⟩
    exact ⟨_, [], _, (List.append_nil _).symm, ⟨rfl, length_leBytes k n⟩, rfl,
      ofLeBytes_leBytes hn⟩

end Decoder

end Wire
