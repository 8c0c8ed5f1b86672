import GbCycle.Cpu.Encoding

/-!
# The arithmetic unit computes the reference operations

The core detects carries by masking and comparing bytes; the reference compares sums with
`256` and `16`.  For each operation the two agree on the result and on all four flags.
-/

namespace GbCycle

open Sm83 (Reg8 Reg16 StackReg Operand8 Cond AluOp RotOp Flags Regs)

/-! ## Masks are remainders -/

theorem toNat_and_lowNibble (v : U8) : (v &&& 0x0F#8).toNat = v.toNat % 16 := by
  rw [BitVec.toNat_and]
  exact Nat.and_two_pow_sub_one_eq_mod v.toNat 4

theorem toNat_and_low12 (v : U16) : (v &&& 0x0FFF#16).toNat = v.toNat % 4096 := by
  rw [BitVec.toNat_and]
  exact Nat.and_two_pow_sub_one_eq_mod v.toNat 12

theorem toNat_and_low4 (v : U16) : (v &&& 0x000F#16).toNat = v.toNat % 16 := by
  rw [BitVec.toNat_and]
  exact Nat.and_two_pow_sub_one_eq_mod v.toNat 4

theorem toNat_and_low8 (v : U16) : (v &&& 0x00FF#16).toNat = v.toNat % 256 := by
  rw [BitVec.toNat_and]
  exact Nat.and_two_pow_sub_one_eq_mod v.toNat 8

theorem toNat_ofByte (v : U8) : (U16.ofByte v).toNat = v.toNat := by
  rw [U16.ofByte, BitVec.toNat_setWidth]
  exact Nat.mod_eq_of_lt (by omega)

theorem beq_zero_iff_toNat (v : U8) : (v == 0#8) = (v.toNat == 0) := by
  rw [Bool.eq_iff_iff, beq_iff_eq, beq_iff_eq]
  exact ⟨fun h => by rw [h]; rfl, fun h => BitVec.eq_of_toNat_eq h⟩

/-! ## Additions -/

/-- The carry as the core adds it in. -/
def carryByte (c : Bool) : U8 := if c then 1 else 0

theorem toNat_carryByte (c : Bool) : (carryByte c).toNat = c.toNat := by
  cases c <;> rfl

/-- The sixteen-bit sum of the source, cut to its low byte. -/
theorem setWidth_ofByte_add (a v c : U8) :
    (U16.ofByte a + U16.ofByte v + U16.ofByte c).setWidth 8 = a + v + c := by
  apply BitVec.eq_of_toNat_eq
  simp only [BitVec.toNat_setWidth, BitVec.toNat_add, toNat_ofByte]
  omega

theorem add8_result (a v : U8) (c : Bool) : (Sm83.add8 a v c).1 = a + v + carryByte c := by
  apply BitVec.eq_of_toNat_eq
  simp only [Sm83.add8, BitVec.toNat_ofNat, BitVec.toNat_add, toNat_carryByte]
  omega

theorem add8_flags (a v : U8) (c : Bool) :
    (Sm83.add8 a v c).2 =
      { z := a + v + carryByte c == 0#8, n := false,
        h := decide ((a &&& 0x0F) + (v &&& 0x0F) + carryByte c > 0x0F),
        c := decide (U16.ofByte a + U16.ofByte v + U16.ofByte (carryByte c) > 0xFF) } := by
  have ha := a.isLt
  have hv := v.isLt
  have hc : c.toNat ≤ 1 := Bool.toNat_le c
  simp only [Sm83.add8, Flags.mk.injEq, true_and, gt_iff_lt, BitVec.lt_def, BitVec.toNat_add,
    BitVec.ofNat_eq_ofNat, BitVec.toNat_ofNat, toNat_and_lowNibble, toNat_ofByte,
    toNat_carryByte, beq_zero_iff_toNat, decide_eq_decide]
  refine ⟨?_, ?_, ?_⟩
  · congr 1
    omega
  · omega
  · omega

/-! ## Subtractions -/

theorem sub8_result (a v : U8) (c : Bool) : (Sm83.sub8 a v c).1 = a - v - carryByte c := by
  have ha := a.isLt
  have hv := v.isLt
  have hc : c.toNat ≤ 1 := Bool.toNat_le c
  apply BitVec.eq_of_toNat_eq
  simp only [Sm83.sub8, BitVec.toNat_ofInt, BitVec.toNat_sub, toNat_carryByte]
  omega

theorem sub8_flags (a v : U8) (c : Bool) :
    (Sm83.sub8 a v c).2 =
      { z := a - v - carryByte c == 0#8, n := true,
        h := decide ((a &&& 0x0F) < (v &&& 0x0F) + carryByte c),
        c := decide (U16.ofByte a < U16.ofByte v + U16.ofByte (carryByte c)) } := by
  have ha := a.isLt
  have hv := v.isLt
  have hc : c.toNat ≤ 1 := Bool.toNat_le c
  simp only [Sm83.sub8, Flags.mk.injEq, true_and, BitVec.lt_def, BitVec.toNat_add,
    BitVec.toNat_sub, BitVec.ofNat_eq_ofNat, toNat_and_lowNibble, toNat_ofByte,
    toNat_carryByte, beq_zero_iff_toNat, decide_eq_decide]
  refine ⟨?_, ?_, ?_⟩
  · rw [Bool.eq_iff_iff, beq_iff_eq, beq_iff_eq]
    omega
  · omega
  · omega

/-- Without a carry to take in, the borrow is the comparison of the bytes. -/
theorem sub8_flags_noCarry (a v : U8) :
    (Sm83.sub8 a v false).2 =
      { z := a - v == 0#8, n := true, h := decide ((a &&& 0x0F) < (v &&& 0x0F)),
        c := decide (a < v) } := by
  have hv : ∀ x : U8, x - carryByte false = x := fun x => BitVec.sub_zero x
  have ha : ∀ x : U8, x + carryByte false = x := fun x => BitVec.add_zero x
  rw [sub8_flags, hv, ha]
  simp only [Flags.mk.injEq, true_and, BitVec.lt_def, BitVec.toNat_add, toNat_ofByte,
    toNat_carryByte, decide_eq_decide]
  have := v.isLt
  rw [Bool.toNat_false]
  omega

theorem add8_flags_noCarry (a v : U8) :
    (Sm83.add8 a v false).2 =
      { z := a + v == 0#8, n := false,
        h := decide ((a &&& 0x0F) + (v &&& 0x0F) > 0x0F),
        c := BitVec.uaddOverflow a v } := by
  have hc : ∀ x : U8, x + carryByte false = x := fun x => BitVec.add_zero x
  rw [add8_flags, hc, hc]
  simp only [Flags.mk.injEq, true_and]
  rw [BitVec.uaddOverflow, Bool.eq_iff_iff, decide_eq_true_iff, decide_eq_true_iff]
  have := a.isLt
  have := v.isLt
  simp only [gt_iff_lt, BitVec.lt_def, BitVec.toNat_add, toNat_ofByte, toNat_carryByte,
    BitVec.ofNat_eq_ofNat, BitVec.toNat_ofNat, Bool.toNat_false]
  omega

/-! ## The accumulator operations -/

namespace CpuCore

variable (cpu : CpuCore) (r : Regs)

@[simp] theorem withRegs_carryIn : (cpu.withRegs r).carryIn = carryByte r.flags.c := by
  simp only [carryIn, withRegs_carryFlag, carryByte]

@[simp] theorem withRegs_applyAluOperation (op : AluOp) (v : U8) :
    (cpu.withRegs r).applyAluOperation (.ofSm83 op) v =
      cpu.withRegs { r with a := (Sm83.alu op r.a v r.flags).1,
                            flags := (Sm83.alu op r.a v r.flags).2 } := by
  cases op with
  | add =>
      have hr : (Sm83.add8 r.a v false).1 = r.a + v := by
        rw [add8_result]; exact BitVec.add_zero _
      simp only [AluOperation.ofSm83, applyAluOperation, addToA, Sm83.alu, add8_flags_noCarry, hr,
        withRegs_setA, withRegs_writeFlags, withRegs_registers, CpuRegisters.ofSm83]
      rfl
  | adc =>
      simp only [AluOperation.ofSm83, applyAluOperation, adcToA, Sm83.alu, add8_flags,
        add8_result, withRegs_carryIn, withRegs_setA, withRegs_writeFlags, withRegs_registers,
        CpuRegisters.ofSm83]
      rw [setWidth_ofByte_add]
      rfl
  | sub =>
      have hr : (Sm83.sub8 r.a v false).1 = r.a - v := by
        rw [sub8_result]; exact BitVec.sub_zero _
      simp only [AluOperation.ofSm83, applyAluOperation, subFromA, Sm83.alu, sub8_flags_noCarry,
        hr, withRegs_setA, withRegs_writeFlags, withRegs_registers, CpuRegisters.ofSm83]
      rfl
  | sbc =>
      simp only [AluOperation.ofSm83, applyAluOperation, sbcFromA, Sm83.alu, sub8_flags,
        sub8_result, withRegs_carryIn, withRegs_setA, withRegs_writeFlags, withRegs_registers,
        CpuRegisters.ofSm83]
      rfl
  | and =>
      simp only [AluOperation.ofSm83, applyAluOperation, andWithA, Sm83.alu, withRegs_setA,
        withRegs_writeFlags, withRegs_registers, CpuRegisters.ofSm83, BitVec.ofNat_eq_ofNat]
  | xor =>
      simp only [AluOperation.ofSm83, applyAluOperation, xorWithA, Sm83.alu, withRegs_setA,
        withRegs_writeFlags, withRegs_registers, CpuRegisters.ofSm83, BitVec.ofNat_eq_ofNat]
  | or =>
      simp only [AluOperation.ofSm83, applyAluOperation, orWithA, Sm83.alu, withRegs_setA,
        withRegs_writeFlags, withRegs_registers, CpuRegisters.ofSm83, BitVec.ofNat_eq_ofNat]
  | cp =>
      simp only [AluOperation.ofSm83, applyAluOperation, compareA, Sm83.alu, sub8_flags_noCarry,
        withRegs_writeFlags, withRegs_registers, CpuRegisters.ofSm83]
      rfl

/-! ## Increments and decrements -/

theorem inc8_eq (v : U8) (c : Bool) :
    Sm83.inc8 v ⟨false, false, false, c⟩ =
      (v + 1, { z := v + 1 == 0#8, n := false, h := v &&& 0x0F == 0x0F, c := c }) := by
  have hv : v.toNat < 256 := v.isLt
  have hone : (1 : U8).toNat = 1 := rfl
  have hsum : (BitVec.ofNat 8 (v.toNat + 1)) = v + 1 := by
    apply BitVec.eq_of_toNat_eq
    rw [BitVec.toNat_ofNat, BitVec.toNat_add, hone]
  have hz : ((v.toNat + 1) % 256 == 0) = (v + 1 == 0#8) := by
    rw [Bool.eq_iff_iff, beq_iff_eq, beq_iff_eq, ← BitVec.toNat_inj, BitVec.toNat_add, hone]
    rfl
  have hh : decide (16 ≤ v.toNat % 16 + 1) = (v &&& 0x0F == 0x0F) := by
    rw [Bool.eq_iff_iff, decide_eq_true_iff, beq_iff_eq, ← BitVec.toNat_inj, U8.toNat_and_nibble]
    show _ ↔ _ = 15
    omega
  simp only [Sm83.inc8, Sm83.add8, hone, Bool.toNat_false, Nat.add_zero]
  rw [hsum, hz, ← hh]

theorem dec8_eq (v : U8) (c : Bool) :
    Sm83.dec8 v ⟨false, false, false, c⟩ =
      (v - 1, { z := v - 1 == 0#8, n := true, h := v &&& 0x0F == 0, c := c }) := by
  have hv : v.toNat < 256 := v.isLt
  have hone : (1 : U8).toNat = 1 := rfl
  have hdifference : BitVec.ofInt 8 (v.toNat - 1) = v - 1 := by
    apply BitVec.eq_of_toNat_eq
    rw [BitVec.toNat_ofInt, BitVec.toNat_sub, hone]
    omega
  have hz : (((v.toNat : Int) - 1) % 256 == 0) = (v - 1 == 0#8) := by
    rw [Bool.eq_iff_iff, beq_iff_eq, beq_iff_eq, ← BitVec.toNat_inj, BitVec.toNat_sub, hone]
    show _ ↔ _ = 0
    omega
  have hh : decide (v.toNat % 16 < 1) = (v &&& 0x0F == 0) := by
    rw [Bool.eq_iff_iff, decide_eq_true_iff, beq_iff_eq, ← BitVec.toNat_inj, U8.toNat_and_nibble]
    show _ ↔ _ = 0
    omega
  have hcast : (v.toNat : Int) - (1 : Nat) - (0 : Nat) = v.toNat - 1 := by
    omega
  simp only [Sm83.dec8, Sm83.sub8, hone, Bool.toNat_false, Nat.add_zero, hcast]
  rw [← hh, ← hz, ← hdifference]

theorem updateIncFlags_eq (before result : U8) :
    cpu.updateIncFlags before result =
      cpu.writeFlags (result == 0) false (before &&& 0x0F == 0x0F) cpu.carryFlag := by
  simp only [updateIncFlags, writeFlags]
  rfl

theorem updateDecFlags_eq (before result : U8) :
    cpu.updateDecFlags before result =
      cpu.writeFlags (result == 0) true (before &&& 0x0F == 0) cpu.carryFlag := by
  simp only [updateDecFlags, writeFlags]
  refine congrArg cpu.setF ?_
  generalize (result == 0) = z
  generalize (before &&& 0x0F == 0) = h
  generalize cpu.carryFlag = c
  revert z h c
  decide

@[simp] theorem withRegs_updateIncFlags (v : U8) :
    (cpu.withRegs r).updateIncFlags v (v + 1#8) =
      cpu.withRegs { r with flags := (Sm83.inc8 v r.flags).2 } := by
  rw [updateIncFlags_eq, withRegs_writeFlags, withRegs_carryFlag]
  have h : (Sm83.inc8 v r.flags).2 = (Sm83.inc8 v ⟨false, false, false, r.flags.c⟩).2 := rfl
  rw [h, inc8_eq]
  rfl

@[simp] theorem withRegs_updateDecFlags (v : U8) :
    (cpu.withRegs r).updateDecFlags v (v - 1#8) =
      cpu.withRegs { r with flags := (Sm83.dec8 v r.flags).2 } := by
  rw [updateDecFlags_eq, withRegs_writeFlags, withRegs_carryFlag]
  have h : (Sm83.dec8 v r.flags).2 = (Sm83.dec8 v ⟨false, false, false, r.flags.c⟩).2 := rfl
  rw [h, dec8_eq]
  rfl

@[simp] theorem inc8_result (v : U8) (f : Flags) : (Sm83.inc8 v f).1 = v + 1#8 := by
  have h : (Sm83.inc8 v f).1 = (Sm83.inc8 v ⟨false, false, false, f.c⟩).1 := rfl
  rw [h, inc8_eq]
  rfl

@[simp] theorem dec8_result (v : U8) (f : Flags) : (Sm83.dec8 v f).1 = v - 1#8 := by
  have h : (Sm83.dec8 v f).1 = (Sm83.dec8 v ⟨false, false, false, f.c⟩).1 := rfl
  rw [h, dec8_eq]
  rfl

/-! ## Sixteen bits -/

@[simp] theorem withRegs_addToHl (v : U16) :
    (cpu.withRegs r).addToHl v =
      cpu.withRegs { r.set16 .hl (Sm83.addHl r.hl v r.flags).1 with
        flags := (Sm83.addHl r.hl v r.flags).2 } := by
  have hr : (Sm83.addHl r.hl v r.flags).1 = r.hl + v := by
    apply BitVec.eq_of_toNat_eq
    simp only [Sm83.addHl, BitVec.toNat_ofNat, BitVec.toNat_add]
  have hf : (Sm83.addHl r.hl v r.flags).2 =
      { z := r.flags.z, n := false,
        h := decide ((r.hl &&& 0x0FFF) + (v &&& 0x0FFF) > 0x0FFF),
        c := decide ((r.hl.setWidth 32 + v.setWidth 32 : BitVec 32) > 0xFFFF) } := by
    have := r.hl.isLt
    have := v.isLt
    simp only [Sm83.addHl, Flags.mk.injEq, true_and, gt_iff_lt, BitVec.lt_def,
      BitVec.toNat_add, BitVec.toNat_setWidth, BitVec.ofNat_eq_ofNat, BitVec.toNat_ofNat,
      toNat_and_low12, decide_eq_decide]
    omega
  simp only [addToHl, withRegs_hl, withRegs_writeRegister16_hl, withRegs_writeFlags, hr, hf,
    withRegs_registers, CpuRegisters.ofSm83, BitVec.ofNat_eq_ofNat, toByte_flagZ]
  rfl

@[simp] theorem withRegs_spPlusSignedImmediate (v : U8) :
    (cpu.withRegs r).spPlusSignedImmediate v =
      ((Sm83.addSp r.sp v).1,
        cpu.withRegs { r with flags := (Sm83.addSp r.sp v).2 }) := by
  have hr : (Sm83.addSp r.sp v).1 = r.sp + v.signExtend 16 := by
    simp only [Sm83.addSp, BitVec.signExtend, BitVec.ofInt_add, BitVec.ofInt_natCast,
      BitVec.ofNat_toNat, BitVec.setWidth_eq]
  have hf : (Sm83.addSp r.sp v).2 =
      { z := false, n := false,
        h := decide ((r.sp &&& 0x000F) + U16.ofByte (v &&& 0x0F) > 0x000F),
        c := decide ((r.sp &&& 0x00FF) + U16.ofByte v > 0x00FF) } := by
    have := r.sp.isLt
    have := v.isLt
    simp only [Sm83.addSp, Flags.mk.injEq, true_and, gt_iff_lt, BitVec.lt_def,
      BitVec.toNat_add, toNat_ofByte, BitVec.ofNat_eq_ofNat, BitVec.toNat_ofNat,
      toNat_and_low4, toNat_and_low8, toNat_and_lowNibble, decide_eq_decide]
    omega
  simp only [spPlusSignedImmediate, withRegs_registers, CpuRegisters.ofSm83,
    withRegs_writeFlags, hr, hf]
  rfl

/-! ## Flag and accumulator instructions -/

theorem daa_eq : ∀ (a : U8) (n h c : Bool),
    Sm83.daa a ⟨false, n, h, c⟩ =
      (if !n then
        let lowAdjust : U8 := if h || (a &&& 0x0F) > 0x09 then 0x06 else 0
        let highAdjust : U8 := if c || a > 0x99 then 0x60 else 0
        let a' := a + (lowAdjust ||| highAdjust)
        (a', ⟨a' == 0, n, false, if c || a > 0x99 then true else c⟩)
      else
        let lowAdjust : U8 := if h then 0x06 else 0
        let highAdjust : U8 := if c then 0x60 else 0
        let a' := a - (lowAdjust ||| highAdjust)
        (a', ⟨a' == 0, n, false, c⟩)) := by
  decide +kernel

@[simp] theorem withRegs_decimalAdjustA :
    (cpu.withRegs r).decimalAdjustA =
      cpu.withRegs { r with a := (Sm83.daa r.a r.flags).1,
                            flags := (Sm83.daa r.a r.flags).2 } := by
  have h : Sm83.daa r.a r.flags = Sm83.daa r.a ⟨false, r.flags.n, r.flags.h, r.flags.c⟩ := rfl
  rw [h, daa_eq]
  simp only [decimalAdjustA, withRegs_registers, CpuRegisters.ofSm83, BitVec.ofNat_eq_ofNat,
    toByte_flagN, toByte_flagH, toByte_flagC]
  split
  · simp only [withRegs_setA, withRegs_writeFlags]
    rfl
  · simp only [withRegs_setA, withRegs_writeFlags]

@[simp] theorem withRegs_complementA :
    (cpu.withRegs r).complementA =
      cpu.withRegs { r with a := ~~~ r.a, flags := { r.flags with n := true, h := true } } := by
  simp only [complementA, withRegs_setA, withRegs_registers, CpuRegisters.ofSm83,
    BitVec.ofNat_eq_ofNat, toByte_flagZ, toByte_flagC, withRegs_writeFlags]

@[simp] theorem withRegs_setCarryFlag :
    (cpu.withRegs r).setCarryFlag =
      cpu.withRegs { r with
        flags := { r.flags with n := false, h := false, c := true } } := by
  simp only [setCarryFlag, withRegs_registers, CpuRegisters.ofSm83, BitVec.ofNat_eq_ofNat,
    toByte_flagZ, withRegs_writeFlags]

@[simp] theorem withRegs_complementCarryFlag :
    (cpu.withRegs r).complementCarryFlag =
      cpu.withRegs { r with
        flags := { r.flags with n := false, h := false, c := !r.flags.c } } := by
  simp only [complementCarryFlag, withRegs_registers, CpuRegisters.ofSm83,
    BitVec.ofNat_eq_ofNat, toByte_flagZ, toByte_noFlagC, withRegs_writeFlags]

/-! ## Rotates, shifts and bits -/

/-- The core's result and carry for each rotate or shift. -/
theorem rot_eq : ∀ (op : RotOp) (v : U8) (c : Bool),
    Sm83.rot op v c = match op with
      | .rlc => (v.rotateLeft 1, v &&& 0x80 != 0)
      | .rrc => (v.rotateRight 1, v &&& 0x01 != 0)
      | .rl => ((v <<< 1) ||| carryByte c, v &&& 0x80 != 0)
      | .rr => ((v >>> 1) ||| (carryByte c <<< 7), v &&& 0x01 != 0)
      | .sla => (v <<< 1, v &&& 0x80 != 0)
      | .sra => ((v >>> 1) ||| (v &&& 0x80), v &&& 0x01 != 0)
      | .swap => (v.rotateLeft 4, false)
      | .srl => (v >>> 1, v &&& 0x01 != 0) := by
  intro op
  cases op <;> decide +kernel

theorem withRegs_rotateLeftCarry (v : U8) :
    (cpu.withRegs r).rotateLeftCarry v =
      let p := Sm83.rot .rlc v r.flags.c
      (p.1, cpu.withRegs { r with flags := Sm83.rotFlags p.1 p.2 }) := by
  simp only [rotateLeftCarry, rot_eq, withRegs_writeFlags, Sm83.rotFlags]

theorem withRegs_rotateRightCarry (v : U8) :
    (cpu.withRegs r).rotateRightCarry v =
      let p := Sm83.rot .rrc v r.flags.c
      (p.1, cpu.withRegs { r with flags := Sm83.rotFlags p.1 p.2 }) := by
  simp only [rotateRightCarry, rot_eq, withRegs_writeFlags, Sm83.rotFlags]

theorem withRegs_rotateLeftThroughCarry (v : U8) :
    (cpu.withRegs r).rotateLeftThroughCarry v =
      let p := Sm83.rot .rl v r.flags.c
      (p.1, cpu.withRegs { r with flags := Sm83.rotFlags p.1 p.2 }) := by
  simp only [rotateLeftThroughCarry, rot_eq, withRegs_writeFlags, withRegs_carryIn, Sm83.rotFlags]

theorem withRegs_rotateRightThroughCarry (v : U8) :
    (cpu.withRegs r).rotateRightThroughCarry v =
      let p := Sm83.rot .rr v r.flags.c
      (p.1, cpu.withRegs { r with flags := Sm83.rotFlags p.1 p.2 }) := by
  simp only [rotateRightThroughCarry, rot_eq, withRegs_writeFlags, withRegs_carryIn, Sm83.rotFlags]

@[simp] theorem withRegs_applyCbOperation_rot (op : RotOp) (x : Register8Operand) (v : U8) :
    (cpu.withRegs r).applyCbOperation (.ofRot op x) v =
      let p := Sm83.rot op v r.flags.c
      (some p.1, cpu.withRegs { r with flags := Sm83.rotFlags p.1 p.2 }) := by
  cases op <;>
    simp only [CbInstructionKind.ofRot, applyCbOperation, rotateLeftCarry, rotateRightCarry,
      rotateLeftThroughCarry, rotateRightThroughCarry, shiftLeftArithmetic,
      shiftRightArithmetic, swapNibbles, shiftRightLogical, rot_eq, withRegs_writeFlags,
      withRegs_carryIn, Sm83.rotFlags, Prod.map]
  all_goals rfl

/-- The mask of a bit. -/
theorem one_shiftLeft_eq_twoPow (n : Fin 8) :
    (1#8 <<< (BitVec.ofNat 8 n.val).toNat) = BitVec.twoPow 8 n.val := by
  have hbit : (BitVec.ofNat 8 n.val).toNat = n.val := by
    rw [BitVec.toNat_ofNat, Nat.mod_eq_of_lt (by omega)]
  rw [hbit, ← BitVec.twoPow_eq]

theorem bit_eq (v : U8) (n : Fin 8) :
    (v &&& (1#8 <<< (BitVec.ofNat 8 n.val).toNat) == 0#8) = !v.getLsbD n := by
  rw [one_shiftLeft_eq_twoPow, BitVec.and_twoPow]
  cases v.getLsbD n
  · simp
  · have hne : BitVec.twoPow 8 n.val ≠ 0#8 := by
      intro h
      have hbit := congrArg (fun w => w.getLsbD n.val) h
      simp at hbit
    simpa using hne

theorem ofNat_two_pow_eq_twoPow (n : Nat) : BitVec.ofNat 8 (2 ^ n) = BitVec.twoPow 8 n := by
  apply BitVec.eq_of_toNat_eq
  rw [BitVec.toNat_ofNat, BitVec.toNat_twoPow]

theorem getElem_putBit (v : U8) (n : Fin 8) (x : Bool) {i : Nat} (hi : i < 8) :
    (Sm83.putBit v n x)[i] = if n.val = i then x else v[i] := by
  unfold Sm83.putBit
  by_cases hn : n.val = i
  · subst hn
    rw [if_pos rfl]
    split
    · next hsame =>
        rw [← BitVec.getLsbD_eq_getElem hi]
        exact hsame.symm
    · next hflip =>
        rw [ofNat_two_pow_eq_twoPow, BitVec.getElem_xor, BitVec.getElem_twoPow,
          ← BitVec.getLsbD_eq_getElem hi]
        cases x <;> simp_all
  · have hother : ¬ i = n.val := fun h => hn h.symm
    rw [if_neg hn]
    split
    · rfl
    · rw [ofNat_two_pow_eq_twoPow, BitVec.getElem_xor, BitVec.getElem_twoPow]
      simp [hother]

theorem resetBit_eq (v : U8) (n : Fin 8) :
    resetBit v (BitVec.ofNat 8 n.val) = Sm83.putBit v n false := by
  ext i hi
  have hmask : (1 : U8) <<< (BitVec.ofNat 8 n.val).toNat = BitVec.twoPow 8 n.val :=
    one_shiftLeft_eq_twoPow n
  rw [getElem_putBit, resetBit, hmask, BitVec.getElem_and, BitVec.getElem_not,
    BitVec.getElem_twoPow]
  by_cases hn : n.val = i
  · subst hn
    simp
  · have hother : ¬ i = n.val := fun h => hn h.symm
    simp [hn, hother]

theorem setBit_eq (v : U8) (n : Fin 8) :
    setBit v (BitVec.ofNat 8 n.val) = Sm83.putBit v n true := by
  ext i hi
  have hmask : (1 : U8) <<< (BitVec.ofNat 8 n.val).toNat = BitVec.twoPow 8 n.val :=
    one_shiftLeft_eq_twoPow n
  rw [getElem_putBit, setBit, hmask, BitVec.getElem_or, BitVec.getElem_twoPow]
  by_cases hn : n.val = i
  · subst hn
    simp
  · have hother : ¬ i = n.val := fun h => hn h.symm
    simp [hn, hother]

@[simp] theorem withRegs_bitTest (v : U8) (n : Fin 8) :
    (cpu.withRegs r).bitTest (BitVec.ofNat 8 n.val) v =
      cpu.withRegs { r with flags := ⟨!v.getLsbD n, false, true, r.flags.c⟩ } := by
  have h : ∀ z c : Bool, (if c then (if z then flagH ||| flagZ else flagH) ||| flagC
      else if z then flagH ||| flagZ else flagH) = Flags.toByte ⟨z, false, true, c⟩ := by
    decide
  simp only [bitTest, BitVec.ofNat_eq_ofNat, bit_eq, withRegs_carryFlag, h]
  rfl

@[simp] theorem withRegs_applyCbOperation_bit (n : Fin 8) (x : Register8Operand) (v : U8) :
    (cpu.withRegs r).applyCbOperation (.bitTest (BitVec.ofNat 8 n.val) x) v =
      (none, cpu.withRegs { r with flags := ⟨!v.getLsbD n, false, true, r.flags.c⟩ }) := by
  rw [applyCbOperation, withRegs_bitTest]

@[simp] theorem withRegs_applyCbOperation_res (n : Fin 8) (x : Register8Operand) (v : U8) :
    (cpu.withRegs r).applyCbOperation (.resetBit (BitVec.ofNat 8 n.val) x) v =
      (some (Sm83.putBit v n false), cpu.withRegs r) := by
  rw [applyCbOperation, resetBit_eq]

@[simp] theorem withRegs_applyCbOperation_set (n : Fin 8) (x : Register8Operand) (v : U8) :
    (cpu.withRegs r).applyCbOperation (.setBit (BitVec.ofNat 8 n.val) x) v =
      (some (Sm83.putBit v n true), cpu.withRegs r) := by
  rw [applyCbOperation, setBit_eq]

end CpuCore

end GbCycle
