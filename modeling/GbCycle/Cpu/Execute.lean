import GbCycle.Cpu.Bus

/-!
# The execute stage

One machine cycle of an instruction that did not finish on its opcode fetch.  There is one
executor for each `InstructionExecutionGroup`; it looks at the instruction kind and at the
step the instruction has reached.  A step ends by advancing to the next one or by
finishing; a step the instruction does not have stalls.

An executor that is handed a kind of another group is `unreachable!` in the source.  The
dispatcher below only passes a kind to the executor of its own group (or of the latched
group, which is the same), so these arms leave the core as it is.
-/

namespace GbCycle

namespace CpuCore

variable {σ : Type} (bus : CpuExternalCallback σ)

/-! ## Loads -/

@[simp] def executeLoadMachineCycle (cpu : CpuCore) (kind : CpuInstructionKind) (step : Nat)
    (s : σ) : CpuCore × σ :=
  match kind with
  | .loadRegisterImmediate target =>
      match step with
      | 0 =>
          let (value, cpu, s) := readPcU8 bus cpu s
          ((cpu.writeRegister8 target value).finishInstruction, s)
      | step => (cpu.stallInstruction step, s)
  | .loadRegisterPairImmediate target =>
      match step with
      | 0 =>
          let (low, cpu, s) := readPcU8 bus cpu s
          ((cpu.setOperand16Latch (U16.ofByte low)).advanceInstruction 1, s)
      | 1 =>
          let (high, cpu, s) := readPcU8 bus cpu s
          let value := cpu.inFlight.operand16Latch ||| (U16.ofByte high <<< 8)
          ((cpu.writeRegister16 target value).finishInstruction, s)
      | step => (cpu.stallInstruction step, s)
  | .loadRegisterFromHl target =>
      match step with
      | 0 =>
          let (value, cpu, s) := readByte bus cpu cpu.hl s
          ((cpu.writeRegister8 target value).finishInstruction, s)
      | step => (cpu.stallInstruction step, s)
  | .storeRegisterToHl source =>
      match step with
      | 0 =>
          let (cpu, s) := writeByte bus cpu cpu.hl (cpu.readRegister8 source) s
          (cpu.finishInstruction, s)
      | step => (cpu.stallInstruction step, s)
  | .storeImmediateToHl =>
      match step with
      | 0 =>
          let (value, cpu, s) := readPcU8 bus cpu s
          ((cpu.setOperand8Latch value).advanceInstruction 1, s)
      | 1 =>
          let (cpu, s) := writeByte bus cpu cpu.hl cpu.inFlight.operand8Latch s
          (cpu.finishInstruction, s)
      | step => (cpu.stallInstruction step, s)
  | .loadAFromHlWithUpdate direction =>
      match step with
      | 0 =>
          let (value, cpu, s) := readHlWithUpdate bus cpu direction s
          ((cpu.setA value).finishInstruction, s)
      | step => (cpu.stallInstruction step, s)
  | .storeAToHlWithUpdate direction =>
      match step with
      | 0 =>
          let (cpu, s) := writeHlWithUpdate bus cpu cpu.registers.a direction s
          (cpu.finishInstruction, s)
      | step => (cpu.stallInstruction step, s)
  | .loadAFromDirectAddress source =>
      match step with
      | 0 =>
          let (value, cpu, s) := readByte bus cpu (cpu.resolveDirectAddress source) s
          ((cpu.setA value).finishInstruction, s)
      | step => (cpu.stallInstruction step, s)
  | .loadAFromImmediate16Address =>
      match step with
      | 0 =>
          let (low, cpu, s) := readPcU8 bus cpu s
          ((cpu.setOperand16Latch (U16.ofByte low)).advanceInstruction 1, s)
      | 1 =>
          let (high, cpu, s) := readPcU8 bus cpu s
          ((cpu.setOperand16Latch (cpu.inFlight.operand16Latch ||| (U16.ofByte high <<< 8))
            ).advanceInstruction 2, s)
      | 2 =>
          let (value, cpu, s) := readByte bus cpu cpu.resolveImmediate16Address s
          ((cpu.setA value).finishInstruction, s)
      | step => (cpu.stallInstruction step, s)
  | .loadAFromHighImmediateAddress =>
      match step with
      | 0 =>
          let (value, cpu, s) := readPcU8 bus cpu s
          ((cpu.setOperand8Latch value).advanceInstruction 1, s)
      | 1 =>
          let (value, cpu, s) := readByte bus cpu cpu.resolveHighImmediateAddress s
          ((cpu.setA value).finishInstruction, s)
      | step => (cpu.stallInstruction step, s)
  | .storeAToDirectAddress destination =>
      match step with
      | 0 =>
          let (cpu, s) := writeByte bus cpu (cpu.resolveDirectAddress destination)
            cpu.registers.a s
          (cpu.finishInstruction, s)
      | step => (cpu.stallInstruction step, s)
  | .storeAToImmediate16Address =>
      match step with
      | 0 =>
          let (low, cpu, s) := readPcU8 bus cpu s
          ((cpu.setOperand16Latch (U16.ofByte low)).advanceInstruction 1, s)
      | 1 =>
          let (high, cpu, s) := readPcU8 bus cpu s
          ((cpu.setOperand16Latch (cpu.inFlight.operand16Latch ||| (U16.ofByte high <<< 8))
            ).advanceInstruction 2, s)
      | 2 =>
          let (cpu, s) := writeByte bus cpu cpu.resolveImmediate16Address cpu.registers.a s
          (cpu.finishInstruction, s)
      | step => (cpu.stallInstruction step, s)
  | .storeAToHighImmediateAddress =>
      match step with
      | 0 =>
          let (value, cpu, s) := readPcU8 bus cpu s
          ((cpu.setOperand8Latch value).advanceInstruction 1, s)
      | 1 =>
          let (cpu, s) := writeByte bus cpu cpu.resolveHighImmediateAddress cpu.registers.a s
          (cpu.finishInstruction, s)
      | step => (cpu.stallInstruction step, s)
  | .storeSpToImmediate16 =>
      match step with
      | 0 =>
          let (low, cpu, s) := readPcU8 bus cpu s
          ((cpu.setOperand16Latch (U16.ofByte low)).advanceInstruction 1, s)
      | 1 =>
          let (high, cpu, s) := readPcU8 bus cpu s
          ((cpu.setOperand16Latch (cpu.inFlight.operand16Latch ||| (U16.ofByte high <<< 8))
            ).advanceInstruction 2, s)
      | 2 =>
          let (cpu, s) := writeByte bus cpu cpu.inFlight.operand16Latch cpu.registers.sp.low s
          (cpu.advanceInstruction 3, s)
      | 3 =>
          let (cpu, s) := writeByte bus cpu (cpu.inFlight.operand16Latch + 1)
            cpu.registers.sp.high s
          (cpu.finishInstruction, s)
      | step => (cpu.stallInstruction step, s)
  | .loadSpFromHl =>
      match step with
      | 0 => ((cpu.writeRegister16 .sp cpu.hl).finishInstruction, s)
      | step => (cpu.stallInstruction step, s)
  | _ => (cpu, s)

/-! ## Arithmetic -/

@[simp] def executeArithmeticMachineCycle (cpu : CpuCore) (kind : CpuInstructionKind)
    (step : Nat) (s : σ) : CpuCore × σ :=
  match kind with
  | .loadHlFromSpPlusImmediate =>
      match step with
      | 0 =>
          let (value, cpu, s) := readPcU8 bus cpu s
          ((cpu.setOperand8Latch value).advanceInstruction 1, s)
      | 1 =>
          let (result, cpu) := cpu.spPlusSignedImmediate cpu.inFlight.operand8Latch
          ((cpu.writeRegister16 .hl result).finishInstruction, s)
      | step => (cpu.stallInstruction step, s)
  | .addSpImmediate =>
      match step with
      | 0 =>
          let (value, cpu, s) := readPcU8 bus cpu s
          ((cpu.setOperand8Latch value).advanceInstruction 1, s)
      | 1 => (cpu.advanceInstruction 2, s)
      | 2 =>
          let (result, cpu) := cpu.spPlusSignedImmediate cpu.inFlight.operand8Latch
          ((cpu.writeRegister16 .sp result).finishInstruction, s)
      | step => (cpu.stallInstruction step, s)
  | .addHl source =>
      match step with
      | 0 => ((cpu.addToHl (cpu.readRegister16 source)).finishInstruction, s)
      | step => (cpu.stallInstruction step, s)
  | .incrementRegisterPair target =>
      match step with
      | 0 =>
          ((cpu.incrementOrDecrementRegisterPair target .increment).finishInstruction, s)
      | step => (cpu.stallInstruction step, s)
  | .decrementRegisterPair target =>
      match step with
      | 0 =>
          ((cpu.incrementOrDecrementRegisterPair target .decrement).finishInstruction, s)
      | step => (cpu.stallInstruction step, s)
  | .incrementHlMemory =>
      match step with
      | 0 =>
          let (value, cpu, s) := readByte bus cpu cpu.hl s
          ((cpu.setOperand8Latch value).advanceInstruction 1, s)
      | 1 =>
          let before := cpu.inFlight.operand8Latch
          let result := before + 1
          let cpu := cpu.setOperand8Latch result
          let (cpu, s) := writeByte bus cpu cpu.hl result s
          ((cpu.updateIncFlags before result).finishInstruction, s)
      | step => (cpu.stallInstruction step, s)
  | .decrementHlMemory =>
      match step with
      | 0 =>
          let (value, cpu, s) := readByte bus cpu cpu.hl s
          ((cpu.setOperand8Latch value).advanceInstruction 1, s)
      | 1 =>
          let before := cpu.inFlight.operand8Latch
          let result := before - 1
          let cpu := cpu.setOperand8Latch result
          let (cpu, s) := writeByte bus cpu cpu.hl result s
          ((cpu.updateDecFlags before result).finishInstruction, s)
      | step => (cpu.stallInstruction step, s)
  | .aluImmediate operation =>
      match step with
      | 0 =>
          let (value, cpu, s) := readPcU8 bus cpu s
          ((cpu.applyAluOperation operation value).finishInstruction, s)
      | step => (cpu.stallInstruction step, s)
  | .aluFromHl operation =>
      match step with
      | 0 =>
          let (value, cpu, s) := readByte bus cpu cpu.hl s
          ((cpu.applyAluOperation operation value).finishInstruction, s)
      | step => (cpu.stallInstruction step, s)
  | _ => (cpu, s)

/-! ## Stack -/

@[simp] def executeStackMachineCycle (cpu : CpuCore) (kind : CpuInstructionKind) (step : Nat)
    (s : σ) : CpuCore × σ :=
  match kind with
  | .pushRegisterPair source =>
      match step with
      | 0 =>
          let cpu := cpu.setOperand16Latch (cpu.readStackRegister16 source)
          (cpu.decrementSpAndRecordIduEvent.advanceInstruction 1, s)
      | 1 =>
          let low := cpu.inFlight.operand16Latch.low
          let (cpu, s) := pushLatchedU16HighAtSp bus cpu s
          ((cpu.setOperand8Latch low).advanceInstruction 2, s)
      | 2 =>
          let (cpu, s) := pushLatchedLowWithDecrementedSp bus cpu s
          (cpu.finishInstruction, s)
      | step => (cpu.stallInstruction step, s)
  | .popRegisterPair target =>
      match step with
      | 0 =>
          let (cpu, s) := readLatchedStackLowByte bus cpu s
          (cpu.advanceInstruction 1, s)
      | 1 =>
          let (cpu, s) := readLatchedStackHighByte bus cpu s
          ((cpu.writeStackRegister16 target cpu.inFlight.operand16Latch).finishInstruction, s)
      | step => (cpu.stallInstruction step, s)
  | _ => (cpu, s)

/-! ## The CB page -/

@[simp] def executeCbPrefixedMachineCycle (cpu : CpuCore) (step : Nat) (s : σ) : CpuCore × σ :=
  match step with
  | 0 =>
      let (cbOpcode, cpu, s) := readPcU8 bus cpu s
      let cpu := cpu.setOperand8Latch cbOpcode
      let kind := decodeCbOpcode cbOpcode
      match kind.target with
      | .register target =>
          let value := cpu.readRegister8 target
          match cpu.applyCbOperation kind value with
          | (some result, cpu) => ((cpu.writeRegister8 target result).finishInstruction, s)
          | (none, cpu) => (cpu.finishInstruction, s)
      | .indirectHl =>
          ((cpu.setCbInstructionKind kind).advanceInstruction 1, s)
  | 1 =>
      match cpu.inFlight.cbInstructionKind with
      | some kind =>
          if kind.target = .indirectHl then
            let (value, cpu, s) := readByte bus cpu cpu.hl s
            match cpu.applyCbOperation kind value with
            | (some result, cpu) => ((cpu.setOperand8Latch result).advanceInstruction 2, s)
            | (none, cpu) => (cpu.finishInstruction, s)
          else (cpu.stallInstruction step, s)
      | none => (cpu.stallInstruction step, s)
  | 2 =>
      match cpu.inFlight.cbInstructionKind with
      | some kind =>
          if kind.target = .indirectHl ∧ kind.isBitTest = false then
            let (cpu, s) := writeByte bus cpu cpu.hl cpu.inFlight.operand8Latch s
            (cpu.finishInstruction, s)
          else (cpu.stallInstruction step, s)
      | none => (cpu.stallInstruction step, s)
  | _ => (cpu.stallInstruction step, s)

end CpuCore

end GbCycle
