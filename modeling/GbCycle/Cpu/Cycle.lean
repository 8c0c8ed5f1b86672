import GbCycle.Cpu.InterruptControl

/-!
# One T-cycle of the CPU

`tickTCycle` is the CPU's share of a scheduler cycle.  A state with a T-cycle counter below
three only counts; on the fourth T-cycle the machine cycle does its work, which may be the
opcode fetch, a step of an instruction, or a step of an interrupt service.
-/

namespace GbCycle

namespace CpuCore

/-! ## Instructions that finish on their fetch -/

/-- The accumulator rotates clear `Z`, which the shared rotate has just computed. -/
def rotateAccumulator (cpu : CpuCore) (rotate : CpuCore → U8 → U8 × CpuCore) : CpuCore :=
  let (result, cpu) := rotate cpu cpu.registers.a
  let cpu := cpu.setA result
  (cpu.writeFlags false false false cpu.carryFlag).finishInstruction

def completeFetchCompletion (cpu : CpuCore) : FetchCompletionKind → CpuCore
  | .nop => cpu.finishInstruction
  | .decimalAdjustAccumulator => cpu.decimalAdjustA.finishInstruction
  | .complementAccumulator => cpu.complementA.finishInstruction
  | .setCarryFlag => cpu.setCarryFlag.finishInstruction
  | .complementCarryFlag => cpu.complementCarryFlag.finishInstruction
  | .rotateLeftAccumulatorCarry => cpu.rotateAccumulator rotateLeftCarry
  | .rotateLeftAccumulatorThroughCarry => cpu.rotateAccumulator rotateLeftThroughCarry
  | .rotateRightAccumulatorCarry => cpu.rotateAccumulator rotateRightCarry
  | .rotateRightAccumulatorThroughCarry => cpu.rotateAccumulator rotateRightThroughCarry
  | .halt => cpu.finishAndRequestHalt
  | .disableInterrupts => cpu.setImeDisabled.cancelDelayedImeEnable.finishInstruction
  | .enableInterrupts => cpu.scheduleDelayedImeEnable.finishInstruction
  | .jumpHl => (cpu.setPc cpu.hl).finishInstruction
  | .loadRegisterToRegister destination source =>
      (cpu.writeRegister8 destination (cpu.readRegister8 source)).finishInstruction
  | .incrementRegister target =>
      let before := cpu.readRegister8 target
      let result := before + 1
      ((cpu.writeRegister8 target result).updateIncFlags before result).finishInstruction
  | .decrementRegister target =>
      let before := cpu.readRegister8 target
      let result := before - 1
      ((cpu.writeRegister8 target result).updateDecFlags before result).finishInstruction
  | .aluRegister operation source =>
      (cpu.applyAluOperation operation (cpu.readRegister8 source)).finishInstruction

/-! ## The opcode fetch -/

def beginInstruction (cpu : CpuCore) (opcode : U8) (kind : CpuInstructionKind) : CpuCore :=
  { cpu with
    inFlight := { cpu.inFlight with
      opcode := some opcode
      kind := some kind
      executionGroup := some kind.executionGroup
      cbInstructionKind := none }
    executionState := .execute 0 0 }

def enterInvalidOpcodeTrap (cpu : CpuCore) (opcode : U8) : CpuCore :=
  let address := (cpu.lastAddressEvent.bind (·.accessAddress)).getD (cpu.registers.pc - 1)
  { cpu.clearDecodedInstructionState with
    executionState := .diagnosticTrap (.invalidOpcode opcode address) }

section Tick

variable {σ : Type} (bus : CpuExternalCallback σ)

def stopCompletesOnFetchMachineCycle (cpu : CpuCore) (s : σ) : Bool × σ :=
  let (prepared, s) := cgbSpeedSwitchPrepared bus s
  if prepared then (false, s)
  else
    let (wakeLineAsserted, s) := stopWakeLineAsserted bus s
    if !wakeLineAsserted then (false, s)
    else if cpu.imeState.imeEnabled then
      (cpu.stopEntryResolution wakeLineAsserted false == .completeOnCurrentMachineCycle, s)
    else
      let (highest, s) := currentHighestPendingInterrupt bus s
      (cpu.stopEntryResolution wakeLineAsserted highest.isSome
        == .completeOnCurrentMachineCycle, s)

def completeDecodedFetch (cpu : CpuCore) (opcode : U8) : CpuCore :=
  match decodeFetchedOpcode opcode with
  | .completeOnFetch completion => cpu.completeFetchCompletion completion
  | .execute kind => cpu.beginInstruction opcode kind
  | .unsupported => cpu.enterInvalidOpcodeTrap opcode

def completeFetchOpcode (cpu : CpuCore) (s : σ) : CpuCore × σ :=
  let (opcode, cpu, s) := readOpcodeU8 bus cpu s
  let cpu := { cpu with inFlight := { cpu.inFlight with opcode := some opcode } }
  if opcode = 0x10 then
    let (completes, s) := stopCompletesOnFetchMachineCycle bus cpu s
    if completes then (cpu.requestStopDivReset.finishInstruction, s)
    else (cpu.completeDecodedFetch opcode, s)
  else (cpu.completeDecodedFetch opcode, s)

/-! ## The T-cycle -/

def advanceSpeedSwitchPause (cpu : CpuCore) (remainingTCycles : Nat) : CpuCore :=
  if remainingTCycles ≤ 1 then { cpu with executionState := .fetch }
  else { cpu with executionState := .speedSwitchPause (remainingTCycles - 1) }

def tickTCycle (cpu : CpuCore) (s : σ) : CpuCore × σ :=
  let cpu := { cpu with lastBusActivity := none, lastAddressEvent := none }
  match cpu.executionState with
  | .fetchOpcode tCycle =>
      if tCycle < lastMachineCycleT then
        ({ cpu with executionState := .fetchOpcode (tCycle + 1) }, s)
      else completeFetchOpcode bus cpu s
  | .execute step tCycle =>
      if tCycle < lastMachineCycleT then
        ({ cpu with executionState := .execute step (tCycle + 1) }, s)
      else completeExecuteMachineCycle bus cpu step s
  | .serviceInterrupt source step tCycle =>
      if tCycle < lastMachineCycleT then
        ({ cpu with executionState := .serviceInterrupt source step (tCycle + 1) }, s)
      else completeInterruptServiceMachineCycle bus cpu source step s
  | .serviceStopWakeBuggedInterrupt step tCycle =>
      if tCycle < lastMachineCycleT then
        ({ cpu with executionState := .serviceStopWakeBuggedInterrupt step (tCycle + 1) }, s)
      else completeStopWakeBuggedInterruptServiceMachineCycle bus cpu step s
  | .speedSwitchPause remainingTCycles => (cpu.advanceSpeedSwitchPause remainingTCycles, s)
  | .diagnosticTrap _ | .halted | .zombieStopped | .stopped => (cpu, s)

end Tick

end CpuCore

end GbCycle
