import GbCycle.Cpu.MachineCycle

/-!
# The core in the middle of an instruction

While an instruction runs, only the register file, the in-flight record, the execution
state and the two activity records of the core change.  `inCycle` fixes the last four, so
that a core inside an instruction is written `(cpu.inCycle …).withRegs r`.  Every primitive
of the execute stage maps such a core to another one; the equations below say to which,
and are what symbolic execution of a machine cycle rewrites with.
-/

namespace GbCycle

open Sm83 (Reg8 Reg16 StackReg Operand8 Cond AluOp RotOp Flags Regs)

namespace CpuCore

def inCycle (cpu : CpuCore) (fl : InFlightInstruction) (st : CpuExecutionState)
    (ba : Option CpuBusActivity) (ae : Option CpuAddressEvent) : CpuCore :=
  { cpu with inFlight := fl, executionState := st, lastBusActivity := ba,
             lastAddressEvent := ae }

/-- No read of this core spends the halt bug. -/
def NoHaltBug (cpu : CpuCore) : Prop := cpu.haltControl ≠ .haltBugPending

section Equations

variable (cpu : CpuCore) (fl : InFlightInstruction) (st : CpuExecutionState)
  (ba : Option CpuBusActivity) (ae : Option CpuAddressEvent) (r : Regs)

/-! ## Fields -/

@[simp] theorem inCycle_inFlight : ((cpu.inCycle fl st ba ae).withRegs r).inFlight = fl := rfl
@[simp] theorem inCycle_executionState :
    ((cpu.inCycle fl st ba ae).withRegs r).executionState = st := rfl
@[simp] theorem inCycle_lastBusActivity :
    ((cpu.inCycle fl st ba ae).withRegs r).lastBusActivity = ba := rfl

@[simp] theorem ofSm83_a : (CpuRegisters.ofSm83 r).a = r.a := rfl
@[simp] theorem ofSm83_c : (CpuRegisters.ofSm83 r).c = r.c := rfl
@[simp] theorem ofSm83_pc : (CpuRegisters.ofSm83 r).pc = r.pc := rfl
@[simp] theorem ofSm83_sp : (CpuRegisters.ofSm83 r).sp = r.sp := rfl

/-! ## Local updates -/

@[simp] theorem inCycle_atLastT (st' : CpuExecutionState) :
    ((cpu.inCycle fl st ba ae).withRegs r).atLastT st'
      = (cpu.inCycle fl st' none none).withRegs r := rfl

@[simp] theorem inCycle_setOperand8Latch (v : U8) :
    ((cpu.inCycle fl st ba ae).withRegs r).setOperand8Latch v
      = (cpu.inCycle { fl with operand8Latch := v } st ba ae).withRegs r := rfl

@[simp] theorem inCycle_setOperand16Latch (v : U16) :
    ((cpu.inCycle fl st ba ae).withRegs r).setOperand16Latch v
      = (cpu.inCycle { fl with operand16Latch := v } st ba ae).withRegs r := rfl

@[simp] theorem inCycle_setCbInstructionKind (kind : CbInstructionKind) :
    ((cpu.inCycle fl st ba ae).withRegs r).setCbInstructionKind kind
      = (cpu.inCycle { fl with cbInstructionKind := some kind } st ba ae).withRegs r := rfl

@[simp] theorem inCycle_advanceInstruction (step : Nat) :
    ((cpu.inCycle fl st ba ae).withRegs r).advanceInstruction step
      = (cpu.inCycle fl (.execute step 0) ba ae).withRegs r := rfl

@[simp] theorem inCycle_recordBusActivity (kind : CpuBusAccessKind) (address : U16) (v : U8) :
    ((cpu.inCycle fl st ba ae).withRegs r).recordBusActivity kind address v
      = (cpu.inCycle fl st (some ⟨kind, address, v⟩) ae).withRegs r := rfl

@[simp] theorem inCycle_recordAddressEvent (event : CpuAddressEvent) :
    ((cpu.inCycle fl st ba ae).withRegs r).recordAddressEvent event
      = (cpu.inCycle fl st ba (some event)).withRegs r := rfl

@[simp] theorem inCycle_finishInstruction :
    ((cpu.inCycle fl st ba ae).withRegs r).finishInstruction
      = (cpu.advanceDelayedImeEnable.inCycle fl.clear .fetch ba ae).withRegs r := by
  simp only [finishInstruction, clearInFlightInstructionState, advanceDelayedImeEnable, inCycle,
    withRegs]
  split <;> first | rfl | (split <;> rfl)

@[simp] theorem inCycle_incrementRegisterPair (x : Reg16) :
    ((cpu.inCycle fl st ba ae).withRegs r).incrementOrDecrementRegisterPair (.ofSm83 x)
        .increment
      = (cpu.inCycle fl st ba (some (.ofIncDec (r.get16 x + 1) .increment))).withRegs
          (r.set16 x (r.get16 x + 1)) := by
  cases x <;> rfl

@[simp] theorem inCycle_decrementRegisterPair (x : Reg16) :
    ((cpu.inCycle fl st ba ae).withRegs r).incrementOrDecrementRegisterPair (.ofSm83 x)
        .decrement
      = (cpu.inCycle fl st ba (some (.ofIncDec (r.get16 x - 1) .decrement))).withRegs
          (r.set16 x (r.get16 x - 1)) := by
  cases x <;> rfl

@[simp] theorem inCycle_commitRelativeJump :
    ((cpu.inCycle fl st ba ae).withRegs r).commitRelativeJump
      = (cpu.inCycle fl st ba ae).withRegs
          { r with pc := Sm83.jumpOffset r.pc fl.operand8Latch } := by
  have h : Sm83.jumpOffset r.pc fl.operand8Latch = r.pc + fl.operand8Latch.signExtend 16 := by
    simp only [Sm83.jumpOffset, BitVec.signExtend, BitVec.ofInt_add, BitVec.ofInt_natCast,
      BitVec.ofNat_toNat, BitVec.setWidth_eq]
  rw [h]
  rfl

@[simp] theorem inCycle_setIme :
    ((cpu.inCycle fl st ba ae).withRegs r).setImeEnabled.cancelDelayedImeEnable
      = (cpu.setImeEnabled.cancelDelayedImeEnable.inCycle fl st ba ae).withRegs r := rfl

@[simp] theorem inCycle_scheduleDelayedImeEnable :
    ((cpu.inCycle fl st ba ae).withRegs r).scheduleDelayedImeEnable
      = (cpu.scheduleDelayedImeEnable.inCycle fl st ba ae).withRegs r := by
  rcases cpu with ⟨m, su, r0, st0, fl0, ime, halt, ba0, ae0, div, sw⟩
  cases ime <;> rfl

/-! ## Resolved addresses -/

@[simp] theorem inCycle_resolveImmediate16Address :
    ((cpu.inCycle fl st ba ae).withRegs r).resolveImmediate16Address = fl.operand16Latch := rfl

@[simp] theorem inCycle_resolveHighImmediateAddress :
    ((cpu.inCycle fl st ba ae).withRegs r).resolveHighImmediateAddress
      = 0xFF00#16 ||| U16.ofByte fl.operand8Latch := rfl

@[simp] theorem withRegs_resolveDirectAddress_bc :
    (cpu.withRegs r).resolveDirectAddress .bc = r.bc := rfl
@[simp] theorem withRegs_resolveDirectAddress_de :
    (cpu.withRegs r).resolveDirectAddress .de = r.de := rfl
@[simp] theorem withRegs_resolveDirectAddress_highC :
    (cpu.withRegs r).resolveDirectAddress .highC = 0xFF00#16 ||| U16.ofByte r.c := rfl

/-- The address latch after its high byte has been read. -/
@[simp] theorem ofByte_or_ofByte_shiftLeft (high low : U8) :
    U16.ofByte low ||| U16.ofByte high <<< 8 = U16.ofBytes high low := rfl

@[simp] theorem highPage_eq (v : U8) : 0xFF00#16 ||| U16.ofByte v = Sm83.highPage v := by
  have hroom : v.toNat < 2 ^ 8 := v.isLt
  apply BitVec.eq_of_toNat_eq
  have hpage : (0xFF00#16 ||| U16.ofByte v).toNat = 0xFF <<< 8 ||| v.toNat := by
    rw [BitVec.toNat_or, U16.ofByte, BitVec.toNat_setWidth, Nat.mod_eq_of_lt (by omega)]
    rfl
  rw [hpage, ← Nat.shiftLeft_add_eq_or_of_lt hroom, Sm83.highPage, BitVec.toNat_ofNat,
    Nat.mod_eq_of_lt (by omega)]
  rfl

end Equations

/-! ## Bus accesses -/

section Bus

variable {σ : Type} (bus : CpuExternalCallback σ) (cpu : CpuCore) (fl : InFlightInstruction)
  (st : CpuExecutionState) (ba : Option CpuBusActivity) (ae : Option CpuAddressEvent) (r : Regs)
  (s : σ)

theorem inCycle_readPcU8WithKind (kind : CpuBusAccessKind) (h : cpu.NoHaltBug) :
    readPcU8WithKind bus ((cpu.inCycle fl st ba ae).withRegs r) kind s =
      ((bus.read r.pc s).1,
        (cpu.inCycle fl st (some ⟨kind, r.pc, (bus.read r.pc s).1⟩)
          (some (.ofReadWithIncDec r.pc (r.pc + 1) .increment))).withRegs { r with pc := r.pc + 1 },
        (bus.read r.pc s).2) := by
  rcases cpu with ⟨m, su, r0, st0, fl0, ime, halt, ba0, ae0, div, sw⟩
  cases halt with
  | haltBugPending => exact absurd rfl h
  | idle => rfl
  | pendingRequest context => rfl

@[simp] theorem inCycle_readPcU8 (h : cpu.NoHaltBug) :
    readPcU8 bus ((cpu.inCycle fl st ba ae).withRegs r) s =
      ((bus.read r.pc s).1,
        (cpu.inCycle fl st (some ⟨.operandRead, r.pc, (bus.read r.pc s).1⟩)
          (some (.ofReadWithIncDec r.pc (r.pc + 1) .increment))).withRegs { r with pc := r.pc + 1 },
        (bus.read r.pc s).2) :=
  inCycle_readPcU8WithKind bus cpu fl st ba ae r s .operandRead h

@[simp] theorem inCycle_readByte (address : U16) :
    readByte bus ((cpu.inCycle fl st ba ae).withRegs r) address s =
      ((bus.read address s).1,
        (cpu.inCycle fl st (some ⟨.dataRead, address, (bus.read address s).1⟩)
          (some (.ofRead address))).withRegs r,
        (bus.read address s).2) := rfl

@[simp] theorem inCycle_writeByte (address : U16) (v : U8) :
    writeByte bus ((cpu.inCycle fl st ba ae).withRegs r) address v s =
      ((cpu.inCycle fl st (some ⟨.dataWrite, address, v⟩)
          (some (.ofWrite address))).withRegs r,
        bus.write address v s) := rfl

@[simp] theorem inCycle_writeByteAtSp (v : U8) :
    writeByteAtSp bus ((cpu.inCycle fl st ba ae).withRegs r) v s =
      ((cpu.inCycle fl st (some ⟨.dataWrite, r.sp, v⟩) (some (.ofWrite r.sp))).withRegs r,
        bus.write r.sp v s) := rfl

@[simp] theorem inCycle_readHlWithUpdate_increment :
    readHlWithUpdate bus ((cpu.inCycle fl st ba ae).withRegs r) .increment s =
      ((bus.read r.hl s).1,
        (cpu.inCycle fl st (some ⟨.dataRead, r.hl, (bus.read r.hl s).1⟩)
          (some (.ofReadWithIncDec r.hl (r.hl + 1) .increment))).withRegs
            (r.set16 .hl (r.hl + 1)),
        (bus.read r.hl s).2) := rfl

@[simp] theorem inCycle_readHlWithUpdate_decrement :
    readHlWithUpdate bus ((cpu.inCycle fl st ba ae).withRegs r) .decrement s =
      ((bus.read r.hl s).1,
        (cpu.inCycle fl st (some ⟨.dataRead, r.hl, (bus.read r.hl s).1⟩)
          (some (.ofReadWithIncDec r.hl (r.hl - 1) .decrement))).withRegs
            (r.set16 .hl (r.hl - 1)),
        (bus.read r.hl s).2) := rfl

@[simp] theorem inCycle_writeHlWithUpdate_increment (v : U8) :
    writeHlWithUpdate bus ((cpu.inCycle fl st ba ae).withRegs r) v .increment s =
      ((cpu.inCycle fl st (some ⟨.dataWrite, r.hl, v⟩)
          (some (.ofWriteWithIncDec r.hl (r.hl + 1) .increment))).withRegs
            (r.set16 .hl (r.hl + 1)),
        bus.write r.hl v s) := rfl

@[simp] theorem inCycle_writeHlWithUpdate_decrement (v : U8) :
    writeHlWithUpdate bus ((cpu.inCycle fl st ba ae).withRegs r) v .decrement s =
      ((cpu.inCycle fl st (some ⟨.dataWrite, r.hl, v⟩)
          (some (.ofWriteWithIncDec r.hl (r.hl - 1) .decrement))).withRegs
            (r.set16 .hl (r.hl - 1)),
        bus.write r.hl v s) := rfl

@[simp] theorem inCycle_readByteAndIncrementSp :
    readByteAndIncrementSp bus ((cpu.inCycle fl st ba ae).withRegs r) s =
      ((bus.read r.sp s).1,
        (cpu.inCycle fl st (some ⟨.dataRead, r.sp, (bus.read r.sp s).1⟩)
          (some (.ofReadWithIncDec r.sp (r.sp + 1) .increment))).withRegs
            { r with sp := r.sp + 1 },
        (bus.read r.sp s).2) := rfl

@[simp] theorem inCycle_decrementSpAndRecordIduEvent :
    ((cpu.inCycle fl st ba ae).withRegs r).decrementSpAndRecordIduEvent =
      (cpu.inCycle fl st ba (some (.ofIncDec (r.sp - 1) .decrement))).withRegs
        { r with sp := r.sp - 1 } := rfl

@[simp] theorem inCycle_preparePcStackPush :
    ((cpu.inCycle fl st ba ae).withRegs r).preparePcStackPush =
      (cpu.inCycle { fl with operand8Latch := r.pc.low } st ba
        (some (.ofIncDec (r.sp - 1) .decrement))).withRegs { r with sp := r.sp - 1 } := rfl

@[simp] theorem inCycle_pushPcHighAtSp :
    pushPcHighAtSp bus ((cpu.inCycle fl st ba ae).withRegs r) s =
      ((cpu.inCycle fl st (some ⟨.dataWrite, r.sp, r.pc.high⟩)
          (some (.ofWrite r.sp))).withRegs r,
        bus.write r.sp r.pc.high s) := rfl

@[simp] theorem inCycle_pushLatchedU16HighAtSp :
    pushLatchedU16HighAtSp bus ((cpu.inCycle fl st ba ae).withRegs r) s =
      ((cpu.inCycle fl st (some ⟨.dataWrite, r.sp, fl.operand16Latch.high⟩)
          (some (.ofWrite r.sp))).withRegs r,
        bus.write r.sp fl.operand16Latch.high s) := rfl

@[simp] theorem inCycle_pushLatchedLowWithDecrementedSp :
    pushLatchedLowWithDecrementedSp bus ((cpu.inCycle fl st ba ae).withRegs r) s =
      ((cpu.inCycle fl st (some ⟨.dataWrite, r.sp - 1, fl.operand8Latch⟩)
          (some (.ofWriteWithIncDec (r.sp - 1) (r.sp - 1) .decrement))).withRegs
            { r with sp := r.sp - 1 },
        bus.write (r.sp - 1) fl.operand8Latch s) := rfl

@[simp] theorem inCycle_readLatchedStackLowByte :
    readLatchedStackLowByte bus ((cpu.inCycle fl st ba ae).withRegs r) s =
      ((cpu.inCycle { fl with operand16Latch := U16.ofByte (bus.read r.sp s).1 } st
          (some ⟨.dataRead, r.sp, (bus.read r.sp s).1⟩)
          (some (.ofReadWithIncDec r.sp (r.sp + 1) .increment))).withRegs
            { r with sp := r.sp + 1 },
        (bus.read r.sp s).2) := rfl

@[simp] theorem inCycle_readLatchedStackHighByte :
    readLatchedStackHighByte bus ((cpu.inCycle fl st ba ae).withRegs r) s =
      ((cpu.inCycle { fl with
            operand16Latch := fl.operand16Latch ||| (U16.ofByte (bus.read r.sp s).1 <<< 8) } st
          (some ⟨.dataRead, r.sp, (bus.read r.sp s).1⟩)
          (some (.ofReadWithIncDec r.sp (r.sp + 1) .increment))).withRegs
            { r with sp := r.sp + 1 },
        (bus.read r.sp s).2) := rfl

@[simp] theorem inCycle_writeByteWithDecrementedSp (v : U8) :
    writeByteWithDecrementedSp bus ((cpu.inCycle fl st ba ae).withRegs r) v s =
      ((cpu.inCycle fl st (some ⟨.dataWrite, r.sp - 1, v⟩)
          (some (.ofWriteWithIncDec (r.sp - 1) (r.sp - 1) .decrement))).withRegs
            { r with sp := r.sp - 1 },
        bus.write (r.sp - 1) v s) := rfl

end Bus

end CpuCore

end GbCycle
