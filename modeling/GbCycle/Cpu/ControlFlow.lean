import GbCycle.Cpu.Execute

/-!
# Control flow and the dispatch of the execute stage

Jumps, calls, returns, restarts and STOP, whose machine cycles also read the condition
flags, the stack and (for STOP) the state of the buttons and of the speed switch.  The
module ends with the dispatcher that sends a machine cycle to the executor of its group.
-/

namespace GbCycle

/-- `CGB_SPEED_SWITCH_PAUSE_T_CYCLES`. -/
def cgbSpeedSwitchPauseTCycles : Nat := 65540

inductive StopEntryResolution where
  | completeOnCurrentMachineCycle
  | enterStoppedAfterPaddingFetch
  | enterZombieStopped
  | enterHaltAfterPaddingFetch
  deriving Repr, DecidableEq

namespace CpuCore

variable {σ : Type} (bus : CpuExternalCallback σ)

/-! ## Entering STOP and HALT -/

def requestStopDivReset (cpu : CpuCore) : CpuCore :=
  { cpu with stopDivResetRequested := true }

def requestCgbSpeedSwitch (cpu : CpuCore) : CpuCore :=
  { cpu with cgbSpeedSwitchRequested := true }

def enterStoppedState (cpu : CpuCore) : CpuCore :=
  let cpu := cpu.clearInFlightInstructionState.advanceDelayedImeEnable
  { cpu with executionState := .stopped }

def enterZombieStoppedState (cpu : CpuCore) : CpuCore :=
  let cpu := cpu.clearInFlightInstructionState.advanceDelayedImeEnable
  { cpu with executionState := .zombieStopped }

def enterSpeedSwitchPauseState (cpu : CpuCore) : CpuCore :=
  let cpu := cpu.clearInFlightInstructionState.advanceDelayedImeEnable
  { cpu with executionState := .speedSwitchPause cgbSpeedSwitchPauseTCycles }

/-- HALT itself, and STOP where it behaves like HALT: the request is left for the
wake-up phase of the cycle to resolve. -/
def finishAndRequestHalt (cpu : CpuCore) : CpuCore :=
  let cpu := cpu.clearInFlightInstructionState
  let imeEnabled := cpu.ime
  let hadPendingEi := cpu.delayedImeEnable
  let cpu := cpu.advanceDelayedImeEnable.requestHaltAfterCurrentInstruction imeEnabled
    hadPendingEi
  { cpu with executionState := .fetch }

def stopEntryResolution (cpu : CpuCore) (wakeLineAsserted pendingInterrupt : Bool) :
    StopEntryResolution :=
  if cpu.imeState.imeEnabled then
    if wakeLineAsserted then .completeOnCurrentMachineCycle
    else .enterStoppedAfterPaddingFetch
  else
    match wakeLineAsserted, pendingInterrupt with
    | false, false => .enterStoppedAfterPaddingFetch
    | false, true => .enterZombieStopped
    | true, false => .enterHaltAfterPaddingFetch
    | true, true => .completeOnCurrentMachineCycle

def executeStop (cpu : CpuCore) (s : σ) : CpuCore × σ :=
  let cpu := cpu.requestStopDivReset
  let (prepared, s) := cgbSpeedSwitchPrepared bus s
  if prepared then
    let (_, cpu, s) := readPcU8 bus cpu s
    (cpu.requestCgbSpeedSwitch.enterSpeedSwitchPauseState, s)
  else
    let (wakeLineAsserted, s) := stopWakeLineAsserted bus s
    let (pendingInterrupt, s) :=
      if cpu.ime then (false, s)
      else
        let (highest, s) := currentHighestPendingInterrupt bus s
        (highest.isSome, s)
    match cpu.stopEntryResolution wakeLineAsserted pendingInterrupt with
    | .completeOnCurrentMachineCycle => (cpu.finishInstruction, s)
    | .enterStoppedAfterPaddingFetch =>
        let (_, cpu, s) := readPcU8 bus cpu s
        (cpu.enterStoppedState, s)
    | .enterZombieStopped => (cpu.enterZombieStoppedState, s)
    | .enterHaltAfterPaddingFetch =>
        let (_, cpu, s) := readPcU8 bus cpu s
        (cpu.finishAndRequestHalt, s)

/-! ## Jumps, calls, returns -/

/-- `pc.wrapping_add_signed(i16::from(operand8_latch as i8))`. -/
def commitRelativeJump (cpu : CpuCore) : CpuCore :=
  cpu.setPc (cpu.registers.pc + cpu.inFlight.operand8Latch.signExtend 16)

@[simp] def executeControlFlowMachineCycle (cpu : CpuCore) (kind : CpuInstructionKind)
    (step : Nat) (s : σ) : CpuCore × σ :=
  match kind with
  | .relativeJump =>
      match step with
      | 0 =>
          let (offset, cpu, s) := readPcU8 bus cpu s
          ((cpu.setOperand8Latch offset).advanceInstruction 1, s)
      | 1 => (cpu.commitRelativeJump.finishInstruction, s)
      | step => (cpu.stallInstruction step, s)
  | .conditionalRelativeJump condition =>
      match step with
      | 0 =>
          let (offset, cpu, s) := readPcU8 bus cpu s
          let cpu := cpu.setOperand8Latch offset
          if cpu.conditionIsMet (some condition) then (cpu.advanceInstruction 1, s)
          else (cpu.finishInstruction, s)
      | 1 => (cpu.commitRelativeJump.finishInstruction, s)
      | step => (cpu.stallInstruction step, s)
  | .absoluteJump =>
      match step with
      | 0 =>
          let (low, cpu, s) := readPcU8 bus cpu s
          ((cpu.setOperand16Latch (U16.ofByte low)).advanceInstruction 1, s)
      | 1 =>
          let (high, cpu, s) := readPcU8 bus cpu s
          ((cpu.setOperand16Latch (cpu.inFlight.operand16Latch ||| (U16.ofByte high <<< 8))
            ).advanceInstruction 2, s)
      | 2 =>
          ((cpu.setPc cpu.inFlight.operand16Latch).finishInstruction, s)
      | step => (cpu.stallInstruction step, s)
  | .conditionalAbsoluteJump condition =>
      match step with
      | 0 =>
          let (low, cpu, s) := readPcU8 bus cpu s
          ((cpu.setOperand16Latch (U16.ofByte low)).advanceInstruction 1, s)
      | 1 =>
          let (high, cpu, s) := readPcU8 bus cpu s
          let cpu := cpu.setOperand16Latch
            (cpu.inFlight.operand16Latch ||| (U16.ofByte high <<< 8))
          if cpu.conditionIsMet (some condition) then (cpu.advanceInstruction 2, s)
          else (cpu.finishInstruction, s)
      | 2 =>
          ((cpu.setPc cpu.inFlight.operand16Latch).finishInstruction, s)
      | step => (cpu.stallInstruction step, s)
  | .call =>
      match step with
      | 0 =>
          let (low, cpu, s) := readPcU8 bus cpu s
          ((cpu.setOperand16Latch (U16.ofByte low)).advanceInstruction 1, s)
      | 1 =>
          let (high, cpu, s) := readPcU8 bus cpu s
          ((cpu.setOperand16Latch (cpu.inFlight.operand16Latch ||| (U16.ofByte high <<< 8))
            ).advanceInstruction 2, s)
      | 2 => (cpu.preparePcStackPush.advanceInstruction 3, s)
      | 3 =>
          let (cpu, s) := pushPcHighAtSp bus cpu s
          (cpu.advanceInstruction 4, s)
      | 4 =>
          let (cpu, s) := pushLatchedLowWithDecrementedSp bus cpu s
          ((cpu.setPc cpu.inFlight.operand16Latch).finishInstruction, s)
      | step => (cpu.stallInstruction step, s)
  | .conditionalCall condition =>
      match step with
      | 0 =>
          let (low, cpu, s) := readPcU8 bus cpu s
          ((cpu.setOperand16Latch (U16.ofByte low)).advanceInstruction 1, s)
      | 1 =>
          let (high, cpu, s) := readPcU8 bus cpu s
          let cpu := cpu.setOperand16Latch
            (cpu.inFlight.operand16Latch ||| (U16.ofByte high <<< 8))
          if cpu.conditionIsMet (some condition) then (cpu.advanceInstruction 2, s)
          else (cpu.finishInstruction, s)
      | 2 => (cpu.preparePcStackPush.advanceInstruction 3, s)
      | 3 =>
          let (cpu, s) := pushPcHighAtSp bus cpu s
          (cpu.advanceInstruction 4, s)
      | 4 =>
          let (cpu, s) := pushLatchedLowWithDecrementedSp bus cpu s
          ((cpu.setPc cpu.inFlight.operand16Latch).finishInstruction, s)
      | step => (cpu.stallInstruction step, s)
  | .ret =>
      match step with
      | 0 =>
          let (cpu, s) := readLatchedStackLowByte bus cpu s
          (cpu.advanceInstruction 1, s)
      | 1 =>
          let (cpu, s) := readLatchedStackHighByte bus cpu s
          (cpu.advanceInstruction 2, s)
      | 2 => ((cpu.setPc cpu.inFlight.operand16Latch).finishInstruction, s)
      | step => (cpu.stallInstruction step, s)
  | .conditionalReturn condition =>
      match step with
      | 0 =>
          if cpu.conditionIsMet (some condition) then (cpu.advanceInstruction 1, s)
          else (cpu.finishInstruction, s)
      | 1 =>
          let (cpu, s) := readLatchedStackLowByte bus cpu s
          (cpu.advanceInstruction 2, s)
      | 2 =>
          let (cpu, s) := readLatchedStackHighByte bus cpu s
          (cpu.advanceInstruction 3, s)
      | 3 =>
          ((cpu.setPc cpu.inFlight.operand16Latch).finishInstruction, s)
      | step => (cpu.stallInstruction step, s)
  | .returnFromInterrupt =>
      match step with
      | 0 =>
          let (cpu, s) := readLatchedStackLowByte bus cpu s
          (cpu.advanceInstruction 1, s)
      | 1 =>
          let (cpu, s) := readLatchedStackHighByte bus cpu s
          (cpu.advanceInstruction 2, s)
      | 2 =>
          let cpu := cpu.setPc cpu.inFlight.operand16Latch
          (cpu.setImeEnabled.cancelDelayedImeEnable.finishInstruction, s)
      | step => (cpu.stallInstruction step, s)
  | .stop =>
      match step with
      | 0 => executeStop bus cpu s
      | step => (cpu.stallInstruction step, s)
  | .restart vector =>
      match step with
      | 0 => (cpu.preparePcStackPush.advanceInstruction 1, s)
      | 1 =>
          let (cpu, s) := pushPcHighAtSp bus cpu s
          (cpu.advanceInstruction 2, s)
      | 2 =>
          let (cpu, s) := pushLatchedLowWithDecrementedSp bus cpu s
          ((cpu.setPc vector).finishInstruction, s)
      | step => (cpu.stallInstruction step, s)
  | _ => (cpu, s)

/-! ## Dispatch -/

@[simp] def completeExecuteMachineCycle (cpu : CpuCore) (step : Nat) (s : σ) : CpuCore × σ :=
  match cpu.inFlight.executionDescriptor with
  | none => ({ cpu with executionState := .execute step lastMachineCycleT }, s)
  | some (kind, .load) => executeLoadMachineCycle bus cpu kind step s
  | some (kind, .arithmetic) => executeArithmeticMachineCycle bus cpu kind step s
  | some (kind, .controlFlow) => executeControlFlowMachineCycle bus cpu kind step s
  | some (kind, .stack) => executeStackMachineCycle bus cpu kind step s
  | some (_, .cbPrefixed) => executeCbPrefixedMachineCycle bus cpu step s

end CpuCore

end GbCycle
