import GbCycle.Cpu.Core

/-!
# Register access and small state changes

Reading and writing the register file by name, the `IME` latch, the HALT control state
and the bookkeeping that ends an instruction.  Each definition carries the name the
source gives it; none of them touches the bus.
-/

namespace GbCycle

def flagZ : U8 := 0x80
def flagN : U8 := 0x40
def flagH : U8 := 0x20
def flagC : U8 := 0x10

/-- The T-cycle of a machine cycle on which its work is done. -/
def lastMachineCycleT : Nat := 3

def CpuRegisters.bc (r : CpuRegisters) : U16 := U16.ofBytes r.b r.c
def CpuRegisters.de (r : CpuRegisters) : U16 := U16.ofBytes r.d r.e
def CpuRegisters.hl (r : CpuRegisters) : U16 := U16.ofBytes r.h r.l
def CpuRegisters.af (r : CpuRegisters) : U16 := U16.ofBytes r.a r.f

namespace CpuCore

/-! ## Registers -/

def bc (cpu : CpuCore) : U16 := cpu.registers.bc
def de (cpu : CpuCore) : U16 := cpu.registers.de
def hl (cpu : CpuCore) : U16 := cpu.registers.hl

def setPc (cpu : CpuCore) (pc : U16) : CpuCore :=
  { cpu with registers := { cpu.registers with pc := pc } }

def setSp (cpu : CpuCore) (sp : U16) : CpuCore :=
  { cpu with registers := { cpu.registers with sp := sp } }

def setA (cpu : CpuCore) (a : U8) : CpuCore :=
  { cpu with registers := { cpu.registers with a := a } }

def setF (cpu : CpuCore) (f : U8) : CpuCore :=
  { cpu with registers := { cpu.registers with f := f } }

def conditionIsMet (cpu : CpuCore) : Option ConditionCode → Bool
  | none => true
  | some .nz => cpu.registers.f &&& flagZ == 0
  | some .z => cpu.registers.f &&& flagZ != 0
  | some .nc => cpu.registers.f &&& flagC == 0
  | some .c => cpu.registers.f &&& flagC != 0

def readRegister8 (cpu : CpuCore) : Register8 → U8
  | .a => cpu.registers.a
  | .b => cpu.registers.b
  | .c => cpu.registers.c
  | .d => cpu.registers.d
  | .e => cpu.registers.e
  | .h => cpu.registers.h
  | .l => cpu.registers.l

def writeRegister8 (cpu : CpuCore) (register : Register8) (value : U8) : CpuCore :=
  match register with
  | .a => { cpu with registers := { cpu.registers with a := value } }
  | .b => { cpu with registers := { cpu.registers with b := value } }
  | .c => { cpu with registers := { cpu.registers with c := value } }
  | .d => { cpu with registers := { cpu.registers with d := value } }
  | .e => { cpu with registers := { cpu.registers with e := value } }
  | .h => { cpu with registers := { cpu.registers with h := value } }
  | .l => { cpu with registers := { cpu.registers with l := value } }

def readRegister16 (cpu : CpuCore) : Register16 → U16
  | .bc => cpu.bc
  | .de => cpu.de
  | .hl => cpu.hl
  | .sp => cpu.registers.sp

def writeRegister16 (cpu : CpuCore) (register : Register16) (value : U16) : CpuCore :=
  match register with
  | .bc => { cpu with registers := { cpu.registers with b := value.high, c := value.low } }
  | .de => { cpu with registers := { cpu.registers with d := value.high, e := value.low } }
  | .hl => { cpu with registers := { cpu.registers with h := value.high, l := value.low } }
  | .sp => cpu.setSp value

def readStackRegister16 (cpu : CpuCore) : StackRegister16 → U16
  | .bc => cpu.bc
  | .de => cpu.de
  | .hl => cpu.hl
  | .af => cpu.registers.af

def writeStackRegister16 (cpu : CpuCore) (register : StackRegister16) (value : U16) :
    CpuCore :=
  match register with
  | .bc => { cpu with registers := { cpu.registers with b := value.high, c := value.low } }
  | .de => { cpu with registers := { cpu.registers with d := value.high, e := value.low } }
  | .hl => { cpu with registers := { cpu.registers with h := value.high, l := value.low } }
  | .af => { cpu with
      registers := { cpu.registers with a := value.high, f := value.low &&& 0xF0 } }

/-! ## Bus and address records -/

def recordBusActivity (cpu : CpuCore) (kind : CpuBusAccessKind) (address : U16)
    (value : U8) : CpuCore :=
  { cpu with lastBusActivity := some { kind := kind, address := address, value := value } }

def recordAddressEvent (cpu : CpuCore) (event : CpuAddressEvent) : CpuCore :=
  { cpu with lastAddressEvent := some event }

/-- `(increment_or_decrement_register16)`: the updated value and the core holding it. -/
def incrementOrDecrementRegister16 (cpu : CpuCore) (target : Register16)
    (direction : CpuAddressUpdateDirection) : U16 × CpuCore :=
  let current := cpu.readRegister16 target
  let updated := match direction with
    | .increment => current + 1
    | .decrement => current - 1
  (updated, cpu.writeRegister16 target updated)

def incrementOrDecrementRegisterPair (cpu : CpuCore) (target : Register16)
    (direction : CpuAddressUpdateDirection) : CpuCore :=
  let (updated, cpu) := cpu.incrementOrDecrementRegister16 target direction
  cpu.recordAddressEvent (.ofIncDec updated direction)

/-! ## The interrupt master enable -/

def ime (cpu : CpuCore) : Bool := cpu.imeState.imeEnabled
def delayedImeEnable (cpu : CpuCore) : Bool := cpu.imeState.delayedEnablePending

def setImeEnabled (cpu : CpuCore) : CpuCore := { cpu with imeState := .enabled }
def setImeDisabled (cpu : CpuCore) : CpuCore := { cpu with imeState := .disabled }

def scheduleDelayedImeEnable (cpu : CpuCore) : CpuCore :=
  if cpu.delayedImeEnable then cpu
  else if cpu.ime then { cpu with imeState := .enabledPendingEnable 2 }
  else { cpu with imeState := .disabledPendingEnable 2 }

def cancelDelayedImeEnable (cpu : CpuCore) : CpuCore :=
  { cpu with imeState := if cpu.ime then .enabled else .disabled }

/-- One instruction has ended: the delay EI started counts down, and when it runs out
`IME` is set. -/
def advanceDelayedImeEnable (cpu : CpuCore) : CpuCore :=
  match cpu.imeState with
  | .disabledPendingEnable n =>
      if n > 1 then { cpu with imeState := .disabledPendingEnable (n - 1) }
      else cpu.setImeEnabled
  | .enabledPendingEnable n =>
      if n > 1 then { cpu with imeState := .enabledPendingEnable (n - 1) }
      else cpu.setImeEnabled
  | .disabled | .enabled => cpu

/-! ## HALT control -/

def requestHaltAfterCurrentInstruction (cpu : CpuCore) (imeEnabled hadPendingEi : Bool) :
    CpuCore :=
  { cpu with haltControl := .pendingRequest ⟨imeEnabled, hadPendingEi⟩ }

def takeHaltRequest (cpu : CpuCore) : Option HaltRequestContext × CpuCore :=
  match cpu.haltControl with
  | .pendingRequest context => (some context, { cpu with haltControl := .idle })
  | .idle | .haltBugPending => (none, cpu)

def haltRequestPending (cpu : CpuCore) : Bool :=
  match cpu.haltControl with
  | .pendingRequest _ => true
  | .idle | .haltBugPending => false

def armHaltBug (cpu : CpuCore) : CpuCore := { cpu with haltControl := .haltBugPending }

def consumeHaltBugPending (cpu : CpuCore) : Bool × CpuCore :=
  match cpu.haltControl with
  | .haltBugPending => (true, { cpu with haltControl := .idle })
  | .idle | .pendingRequest _ => (false, cpu)

/-! ## Ending and continuing an instruction -/

def clearDecodedInstructionState (cpu : CpuCore) : CpuCore :=
  { cpu with inFlight := cpu.inFlight.clearDecodedState }

def clearInFlightInstructionState (cpu : CpuCore) : CpuCore :=
  { cpu with inFlight := cpu.inFlight.clear }

def setOperand8Latch (cpu : CpuCore) (value : U8) : CpuCore :=
  { cpu with inFlight := { cpu.inFlight with operand8Latch := value } }

def setOperand16Latch (cpu : CpuCore) (value : U16) : CpuCore :=
  { cpu with inFlight := { cpu.inFlight with operand16Latch := value } }

def setCbInstructionKind (cpu : CpuCore) (kind : CbInstructionKind) : CpuCore :=
  { cpu with inFlight := { cpu.inFlight with cbInstructionKind := some kind } }

def advanceInstruction (cpu : CpuCore) (nextStep : Nat) : CpuCore :=
  { cpu with executionState := .execute nextStep 0 }

/-- A machine cycle the instruction does not have: the core repeats its last T-cycle. -/
def stallInstruction (cpu : CpuCore) (step : Nat) : CpuCore :=
  { cpu with executionState := .execute step lastMachineCycleT }

def finishInstruction (cpu : CpuCore) : CpuCore :=
  let cpu := cpu.clearInFlightInstructionState.advanceDelayedImeEnable
  { cpu with executionState := .fetch }

/-! ## Construction and start-up -/

def new (consoleModel : ConsoleModel) : CpuCore :=
  { consoleModel := consoleModel
    startupState := .powerOnReset
    registers := .fromStartupState .powerOnReset
    executionState := .fetch
    inFlight :=
      { opcode := none, kind := none, executionGroup := none, cbInstructionKind := none,
        operand8Latch := 0, operand16Latch := 0 }
    imeState := .disabled
    haltControl := .idle
    lastBusActivity := none
    lastAddressEvent := none
    stopDivResetRequested := false
    cgbSpeedSwitchRequested := false }

def applyStartupState (cpu : CpuCore) (startupState : CpuStartupState) : CpuCore :=
  { cpu with
    startupState := startupState
    registers := .fromStartupState startupState
    executionState := .fetch
    imeState := .disabled
    haltControl := .idle
    inFlight := cpu.inFlight.clear
    lastBusActivity := none
    lastAddressEvent := none
    stopDivResetRequested := false
    cgbSpeedSwitchRequested := false }

/-- A T-cycle the DMA unit takes from the CPU. -/
def tickDmaStallTCycle (cpu : CpuCore) : CpuCore :=
  { cpu with lastBusActivity := none, lastAddressEvent := none }

end CpuCore

end GbCycle
