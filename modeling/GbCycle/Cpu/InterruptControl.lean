import GbCycle.Cpu.ControlFlow
import GbCycle.Joypad

/-!
# Interrupt acceptance, wake-up and service

An interrupt is accepted in one of three places.  `evaluateCurrentCycleInterruptRequests`
runs before the CPU's own T-cycle; `evaluateWakeAndInterrupts` runs at the end of the
cycle, where it also resolves a HALT that has just completed and wakes a halted or stopped
core.  Acceptance clears the source's IF bit at once and latches the source in the
execution state; five machine cycles later the service has pushed `PC` and jumped to the
vector.  Only a push of the high byte that lands on IE can still change the source.
-/

namespace GbCycle

namespace CpuCore

/-! ## Beginning and continuing a service -/

def canAcceptInterrupt (cpu : CpuCore) : Bool :=
  (match cpu.executionState with
    | .fetchOpcode _ => true
    | _ => false) && cpu.inFlight.opcode.isNone

def beginInterruptService (cpu : CpuCore) (source : InterruptSource) : CpuCore :=
  let cpu := cpu.setImeDisabled.cancelDelayedImeEnable.clearInFlightInstructionState
  { cpu with executionState := .serviceInterrupt source 0 0 }

def advanceInterruptService (cpu : CpuCore) (source : InterruptSource) (nextStep : Nat) :
    CpuCore :=
  { cpu with executionState := .serviceInterrupt source nextStep 0 }

def finishInterruptService (cpu : CpuCore) : CpuCore :=
  { cpu.clearInFlightInstructionState with executionState := .fetch }

def beginStopWakeBuggedInterruptService (cpu : CpuCore) : CpuCore :=
  let cpu := cpu.setImeDisabled.cancelDelayedImeEnable.clearInFlightInstructionState
  { cpu with executionState := .serviceStopWakeBuggedInterrupt 0 0 }

def advanceStopWakeBuggedInterruptService (cpu : CpuCore) (nextStep : Nat) : CpuCore :=
  { cpu with executionState := .serviceStopWakeBuggedInterrupt nextStep 0 }

def acceptPendingInterrupt (cpu : CpuCore) (interrupts : InterruptController) :
    CpuCore × InterruptController :=
  match interrupts.highestPending with
  | none => (cpu, interrupts)
  | some source => (cpu.beginInterruptService source, interrupts.clear source)

/-! ## The machine cycles of a service -/

section Service

variable {σ : Type} (bus : CpuExternalCallback σ)

def completeInterruptServiceMachineCycle (cpu : CpuCore) (source : InterruptSource)
    (step : Nat) (s : σ) : CpuCore × σ :=
  match step with
  | 0 => (cpu.advanceInterruptService source 1, s)
  | 1 => (cpu.advanceInterruptService source 2, s)
  | 2 => (cpu.preparePcStackPush.advanceInterruptService source 3, s)
  | 3 =>
      let upperPcPushTargetsIe := cpu.registers.sp == 0xFFFF
      let (cpu, s) := pushPcHighAtSp bus cpu s
      if upperPcPushTargetsIe then
        let (pendingMask, s) := currentPendingInterruptMask bus s
        let (currentIe, s) := currentInterruptEnableMask bus s
        let candidateMask := pendingMask ||| (currentIe &&& source.mask)
        match InterruptSource.highestPriorityFromMask candidateMask with
        | some nextSource =>
            let s := if nextSource ≠ source then
                acknowledgeInterrupt bus nextSource (requestInterrupt bus source s)
              else s
            (cpu.advanceInterruptService nextSource 4, s)
        | none => ((cpu.setPc 0x0000).finishInterruptService, requestInterrupt bus source s)
      else (cpu.advanceInterruptService source 4, s)
  | 4 =>
      let (cpu, s) := pushLatchedLowWithDecrementedSp bus cpu s
      ((cpu.setPc source.vector).finishInterruptService, s)
  | step => (cpu.advanceInterruptService source step, s)

def completeStopWakeBuggedInterruptServiceMachineCycle (cpu : CpuCore) (step : Nat)
    (s : σ) : CpuCore × σ :=
  match step with
  | 0 => (cpu.advanceStopWakeBuggedInterruptService 1, s)
  | 1 => (cpu.advanceStopWakeBuggedInterruptService 2, s)
  | 2 => (cpu.preparePcStackPush.advanceStopWakeBuggedInterruptService 3, s)
  | 3 =>
      let (cpu, s) := pushPcHighAtSp bus cpu s
      (cpu.advanceStopWakeBuggedInterruptService 4, s)
  | 4 =>
      -- The final decrement of `SP` is dropped, so the low byte lands on the high one.
      let (cpu, s) := writeByteAtSp bus cpu cpu.inFlight.operand8Latch s
      ((cpu.setPc 0x0000).finishInterruptService, s)
  | step => (cpu.advanceStopWakeBuggedInterruptService step, s)

end Service

/-! ## The two evaluations of a cycle -/

def isStopSleepState (cpu : CpuCore) : Bool :=
  match cpu.executionState with
  | .stopped | .zombieStopped => true
  | _ => false

def isDiagnosticTrap (cpu : CpuCore) : Bool :=
  match cpu.executionState with
  | .diagnosticTrap _ => true
  | _ => false

def evaluateWakeAndInterrupts (cpu : CpuCore) (interrupts : InterruptController)
    (joypad : Joypad) : CpuCore × InterruptController × Joypad :=
  let stopSleepState := cpu.isStopSleepState
  if !(stopSleepState || joypad.stopWakePending || cpu.isDiagnosticTrap
      || cpu.executionState == .halted || cpu.haltRequestPending
      || cpu.ime && cpu.canAcceptInterrupt) then
    (cpu, interrupts, joypad)
  else if stopSleepState then
    let (woken, joypad) := joypad.consumeStopWakeEvent
    if woken then
      if cpu.executionState == .stopped && cpu.ime
          && interrupts.pendingMask &&& InterruptSource.joypad.mask != 0 then
        (cpu.beginStopWakeBuggedInterruptService, interrupts.clear .joypad, joypad)
      else ({ cpu with executionState := .fetch }, interrupts, joypad)
    else (cpu, interrupts, joypad)
  else
    let (_, joypad) := joypad.consumeStopWakeEvent
    if cpu.isDiagnosticTrap then (cpu, interrupts, joypad)
    else
      let pending := interrupts.pendingMask != 0
      match cpu.takeHaltRequest with
      | (some haltRequest, cpu) =>
          if !haltRequest.imeEnabled && pending then
            if haltRequest.hadPendingEi && cpu.ime then
              let cpu := cpu.setPc (cpu.registers.pc - 1)
              let (cpu, interrupts) := cpu.acceptPendingInterrupt interrupts
              (cpu, interrupts, joypad)
            else ({ cpu.armHaltBug with executionState := .fetch }, interrupts, joypad)
          else if pending then
            let (cpu, interrupts) := cpu.acceptPendingInterrupt interrupts
            (cpu, interrupts, joypad)
          else ({ cpu with executionState := .halted }, interrupts, joypad)
      | (none, cpu) =>
          if cpu.executionState = .halted then
            if !pending then (cpu, interrupts, joypad)
            else if cpu.ime then
              let (cpu, interrupts) := cpu.acceptPendingInterrupt interrupts
              (cpu, interrupts, joypad)
            else ({ cpu with executionState := .fetch }, interrupts, joypad)
          else if !cpu.ime || !cpu.canAcceptInterrupt then (cpu, interrupts, joypad)
          else
            let (cpu, interrupts) := cpu.acceptPendingInterrupt interrupts
            (cpu, interrupts, joypad)

/-- Acceptance before the CPU's own T-cycle.  `currentCycleRequestMask` holds requests the
peripherals have queued in this cycle and that IF does not show yet. -/
def evaluateCurrentCycleInterruptRequests (cpu : CpuCore) (interrupts : InterruptController)
    (currentCycleRequestMask : U8) :
    Option InterruptSource × CpuCore × InterruptController :=
  if currentCycleRequestMask == 0 || !cpu.ime || !cpu.canAcceptInterrupt then
    (none, cpu, interrupts)
  else
    let pendingMask :=
      interrupts.pendingMask ||| (interrupts.readIe &&& currentCycleRequestMask)
    match InterruptSource.highestPriorityFromMask pendingMask with
    | none => (none, cpu, interrupts)
    | some source =>
        (some source, cpu.beginInterruptService source, interrupts.clear source)

end CpuCore

end GbCycle
