import GbCycle.Cpu.Cycle
import GbCycle.Sm83.Step

/-!
# The core's encoding of SM83 instructions and registers

The reference semantics has its own instructions and its own registers.  This module says
how the core represents both: `toDecoded` is what the decoder should make of an
instruction, and `withRegs` puts a reference register file into a core.  The core's
register and arithmetic operations on `withRegs` are then the reference's operations on
the register file.
-/

namespace GbCycle

open Sm83 (Reg8 Reg16 StackReg Operand8 Cond AluOp RotOp PairAddress Instr CbInstr Flags Regs)

/-! ## Instructions -/

def Register8.ofSm83 : Reg8 → Register8
  | .a => .a
  | .b => .b
  | .c => .c
  | .d => .d
  | .e => .e
  | .h => .h
  | .l => .l

@[simp] def Register8Operand.ofSm83 : Operand8 → Register8Operand
  | .reg r => .register (.ofSm83 r)
  | .atHl => .indirectHl

def Register16.ofSm83 : Reg16 → Register16
  | .bc => .bc
  | .de => .de
  | .hl => .hl
  | .sp => .sp

def StackRegister16.ofSm83 : StackReg → StackRegister16
  | .bc => .bc
  | .de => .de
  | .hl => .hl
  | .af => .af

def ConditionCode.ofSm83 : Cond → ConditionCode
  | .nz => .nz
  | .z => .z
  | .nc => .nc
  | .c => .c

def AluOperation.ofSm83 : AluOp → AluOperation
  | .add => .add
  | .adc => .adc
  | .sub => .sub
  | .sbc => .sbc
  | .and => .and
  | .xor => .xor
  | .or => .or
  | .cp => .compare

/-- The decoder's result for an instruction of the reference. -/
def DecodedOpcode.ofInstr : Instr → DecodedOpcode
  | .nop => .completeOnFetch .nop
  | .stop => .execute .stop
  | .halt => .completeOnFetch .halt
  | .di => .completeOnFetch .disableInterrupts
  | .ei => .completeOnFetch .enableInterrupts
  | .daa => .completeOnFetch .decimalAdjustAccumulator
  | .cpl => .completeOnFetch .complementAccumulator
  | .scf => .completeOnFetch .setCarryFlag
  | .ccf => .completeOnFetch .complementCarryFlag
  | .rotA .rlc => .completeOnFetch .rotateLeftAccumulatorCarry
  | .rotA .rrc => .completeOnFetch .rotateRightAccumulatorCarry
  | .rotA .rl => .completeOnFetch .rotateLeftAccumulatorThroughCarry
  | .rotA .rr => .completeOnFetch .rotateRightAccumulatorThroughCarry
  | .rotA _ => .unsupported
  | .ld (.reg dst) (.reg x) =>
      .completeOnFetch (.loadRegisterToRegister (.ofSm83 dst) (.ofSm83 x))
  | .ld (.reg dst) .atHl => .execute (.loadRegisterFromHl (.ofSm83 dst))
  | .ld .atHl (.reg x) => .execute (.storeRegisterToHl (.ofSm83 x))
  | .ld .atHl .atHl => .unsupported
  | .ldImm (.reg dst) => .execute (.loadRegisterImmediate (.ofSm83 dst))
  | .ldImm .atHl => .execute .storeImmediateToHl
  | .ldPairImm dst => .execute (.loadRegisterPairImmediate (.ofSm83 dst))
  | .ldAFrom .bc => .execute (.loadAFromDirectAddress .bc)
  | .ldAFrom .de => .execute (.loadAFromDirectAddress .de)
  | .ldAFrom .hlInc => .execute (.loadAFromHlWithUpdate .increment)
  | .ldAFrom .hlDec => .execute (.loadAFromHlWithUpdate .decrement)
  | .ldATo .bc => .execute (.storeAToDirectAddress .bc)
  | .ldATo .de => .execute (.storeAToDirectAddress .de)
  | .ldATo .hlInc => .execute (.storeAToHlWithUpdate .increment)
  | .ldATo .hlDec => .execute (.storeAToHlWithUpdate .decrement)
  | .ldhAFromImm => .execute .loadAFromHighImmediateAddress
  | .ldhAToImm => .execute .storeAToHighImmediateAddress
  | .ldhAFromC => .execute (.loadAFromDirectAddress .highC)
  | .ldhAToC => .execute (.storeAToDirectAddress .highC)
  | .ldAFromAbs => .execute .loadAFromImmediate16Address
  | .ldAToAbs => .execute .storeAToImmediate16Address
  | .ldAbsSp => .execute .storeSpToImmediate16
  | .ldHlSp => .execute .loadHlFromSpPlusImmediate
  | .ldSpHl => .execute .loadSpFromHl
  | .addSp => .execute .addSpImmediate
  | .inc (.reg x) => .completeOnFetch (.incrementRegister (.ofSm83 x))
  | .inc .atHl => .execute .incrementHlMemory
  | .dec (.reg x) => .completeOnFetch (.decrementRegister (.ofSm83 x))
  | .dec .atHl => .execute .decrementHlMemory
  | .incPair x => .execute (.incrementRegisterPair (.ofSm83 x))
  | .decPair x => .execute (.decrementRegisterPair (.ofSm83 x))
  | .addHl x => .execute (.addHl (.ofSm83 x))
  | .alu op (.reg x) => .completeOnFetch (.aluRegister (.ofSm83 op) (.ofSm83 x))
  | .alu op .atHl => .execute (.aluFromHl (.ofSm83 op))
  | .aluImm op => .execute (.aluImmediate (.ofSm83 op))
  | .jr none => .execute .relativeJump
  | .jr (some cond) => .execute (.conditionalRelativeJump (.ofSm83 cond))
  | .jp none => .execute .absoluteJump
  | .jp (some cond) => .execute (.conditionalAbsoluteJump (.ofSm83 cond))
  | .jpHl => .completeOnFetch .jumpHl
  | .call none => .execute .call
  | .call (some cond) => .execute (.conditionalCall (.ofSm83 cond))
  | .ret none => .execute .ret
  | .ret (some cond) => .execute (.conditionalReturn (.ofSm83 cond))
  | .reti => .execute .returnFromInterrupt
  | .rst vector => .execute (.restart vector)
  | .push x => .execute (.pushRegisterPair (.ofSm83 x))
  | .pop x => .execute (.popRegisterPair (.ofSm83 x))
  | .cb => .execute .cbPrefixed
  | .undefined => .unsupported

def CbInstructionKind.ofRot : RotOp → Register8Operand → CbInstructionKind
  | .rlc => .rotateLeftCarry
  | .rrc => .rotateRightCarry
  | .rl => .rotateLeftThroughCarry
  | .rr => .rotateRightThroughCarry
  | .sla => .shiftLeftArithmetic
  | .sra => .shiftRightArithmetic
  | .swap => .swapNibbles
  | .srl => .shiftRightLogical

@[simp] def CbInstructionKind.ofInstr : CbInstr → CbInstructionKind
  | .rot op x => .ofRot op (.ofSm83 x)
  | .bit n x => .bitTest (BitVec.ofNat 8 n) (.ofSm83 x)
  | .res n x => .resetBit (BitVec.ofNat 8 n) (.ofSm83 x)
  | .set n x => .setBit (BitVec.ofNat 8 n) (.ofSm83 x)

/-- The decoder agrees with the regular encoding on every opcode. -/
theorem decodeFetchedOpcode_eq :
    ∀ opcode : U8, decodeFetchedOpcode opcode = .ofInstr (Sm83.decode opcode) := by
  decide +kernel

theorem decodeCbOpcode_eq :
    ∀ opcode : U8, decodeCbOpcode opcode = .ofInstr (Sm83.decodeCb opcode) := by
  decide +kernel

@[simp] theorem CbInstructionKind.target_ofRot (op : RotOp) (x : Register8Operand) :
    (CbInstructionKind.ofRot op x).target = x := by
  cases op <;> rfl

@[simp] theorem CbInstructionKind.isBitTest_ofRot (op : RotOp) (x : Register8Operand) :
    (CbInstructionKind.ofRot op x).isBitTest = false := by
  cases op <;> rfl

/-! ## Registers -/

/-- The core's register file for a register file of the reference. -/
def CpuRegisters.ofSm83 (r : Regs) : CpuRegisters :=
  { a := r.a, f := r.flags.toByte, b := r.b, c := r.c, d := r.d, e := r.e, h := r.h,
    l := r.l, sp := r.sp, pc := r.pc }

/-- The register file of the reference that a core's register file stands for. -/
def CpuRegisters.toSm83 (r : CpuRegisters) : Regs :=
  { a := r.a, flags := .ofByte r.f, b := r.b, c := r.c, d := r.d, e := r.e, h := r.h,
    l := r.l, sp := r.sp, pc := r.pc }

section Flags

variable (f : Flags)

@[simp] theorem toByte_flagZ : (f.toByte &&& flagZ != 0#8) = f.z := by
  rcases f with ⟨z, n, h, c⟩
  cases z <;> cases n <;> cases h <;> cases c <;> decide

@[simp] theorem toByte_flagN : (f.toByte &&& flagN != 0#8) = f.n := by
  rcases f with ⟨z, n, h, c⟩
  cases z <;> cases n <;> cases h <;> cases c <;> decide

@[simp] theorem toByte_flagH : (f.toByte &&& flagH != 0#8) = f.h := by
  rcases f with ⟨z, n, h, c⟩
  cases z <;> cases n <;> cases h <;> cases c <;> decide

@[simp] theorem toByte_flagC : (f.toByte &&& flagC != 0#8) = f.c := by
  rcases f with ⟨z, n, h, c⟩
  cases z <;> cases n <;> cases h <;> cases c <;> decide

@[simp] theorem toByte_noFlagZ : (f.toByte &&& flagZ == 0#8) = !f.z := by
  rw [← toByte_flagZ, bne, Bool.not_not]

@[simp] theorem toByte_noFlagC : (f.toByte &&& flagC == 0#8) = !f.c := by
  rw [← toByte_flagC, bne, Bool.not_not]

end Flags

theorem CpuRegisters.ofSm83_toSm83 (r : CpuRegisters) (h : r.f &&& 0x0F = 0) :
    CpuRegisters.ofSm83 r.toSm83 = r := by
  simp only [ofSm83, toSm83, Flags.toByte_ofByte r.f h]

namespace CpuCore

def withRegs (cpu : CpuCore) (r : Regs) : CpuCore :=
  { cpu with registers := .ofSm83 r }

variable (cpu : CpuCore) (r : Regs)

/-! ### Reading -/

@[simp] theorem withRegs_registers : (cpu.withRegs r).registers = .ofSm83 r := rfl
@[simp] theorem withRegs_withRegs (r' : Regs) : (cpu.withRegs r).withRegs r' = cpu.withRegs r' :=
  rfl
@[simp] theorem withRegs_hl : (cpu.withRegs r).hl = r.hl := rfl
@[simp] theorem withRegs_bc : (cpu.withRegs r).bc = r.bc := rfl
@[simp] theorem withRegs_de : (cpu.withRegs r).de = r.de := rfl

@[simp] theorem withRegs_readRegister8 (x : Reg8) :
    (cpu.withRegs r).readRegister8 (.ofSm83 x) = r.get8 x := by
  cases x <;> rfl

@[simp] theorem withRegs_readRegister16 (x : Reg16) :
    (cpu.withRegs r).readRegister16 (.ofSm83 x) = r.get16 x := by
  cases x <;> rfl

@[simp] theorem withRegs_readStackRegister16 (x : StackReg) :
    (cpu.withRegs r).readStackRegister16 (.ofSm83 x)
      = U16.ofBytes (r.getStack x).1 (r.getStack x).2 := by
  cases x <;> rfl

@[simp] theorem withRegs_conditionIsMet (x : Cond) :
    (cpu.withRegs r).conditionIsMet (some (.ofSm83 x)) = r.test x := by
  cases x <;> simp [conditionIsMet, ConditionCode.ofSm83, CpuRegisters.ofSm83, Flags.test]

@[simp] theorem withRegs_carryFlag : (cpu.withRegs r).carryFlag = r.flags.c := by
  simp [carryFlag, CpuRegisters.ofSm83]

/-! ### Writing -/

@[simp] theorem withRegs_writeRegister8 (x : Reg8) (v : U8) :
    (cpu.withRegs r).writeRegister8 (.ofSm83 x) v = cpu.withRegs (r.set8 x v) := by
  cases x <;> rfl

@[simp] theorem withRegs_writeRegister16 (x : Reg16) (v : U16) :
    (cpu.withRegs r).writeRegister16 (.ofSm83 x) v = cpu.withRegs (r.set16 x v) := by
  cases x <;> rfl

@[simp] theorem withRegs_writeRegister16_hl (v : U16) :
    (cpu.withRegs r).writeRegister16 .hl v = cpu.withRegs (r.set16 .hl v) := rfl

@[simp] theorem withRegs_writeRegister16_sp (v : U16) :
    (cpu.withRegs r).writeRegister16 .sp v = cpu.withRegs { r with sp := v } := rfl

@[simp] theorem withRegs_writeStackRegister16 (x : StackReg) (high low : U8) :
    (cpu.withRegs r).writeStackRegister16 (.ofSm83 x) (U16.ofBytes high low)
      = cpu.withRegs (r.setStack x high low) := by
  cases x <;>
    simp [writeStackRegister16, StackRegister16.ofSm83, withRegs, Regs.setStack,
      CpuRegisters.ofSm83, Flags.toByte_ofByte_high]

@[simp] theorem withRegs_setPc (pc : U16) :
    (cpu.withRegs r).setPc pc = cpu.withRegs { r with pc := pc } := rfl

@[simp] theorem withRegs_setSp (sp : U16) :
    (cpu.withRegs r).setSp sp = cpu.withRegs { r with sp := sp } := rfl

@[simp] theorem withRegs_setA (a : U8) :
    (cpu.withRegs r).setA a = cpu.withRegs { r with a := a } := rfl

theorem writeFlags_eq (z n h c : Bool) :
    cpu.writeFlags z n h c = cpu.setF (Flags.toByte ⟨z, n, h, c⟩) := by
  simp only [writeFlags]
  refine congrArg cpu.setF ?_
  revert z n h c
  decide

@[simp] theorem withRegs_writeFlags (z n h c : Bool) :
    (cpu.withRegs r).writeFlags z n h c = cpu.withRegs { r with flags := ⟨z, n, h, c⟩ } :=
  writeFlags_eq _ z n h c

end CpuCore

end GbCycle
