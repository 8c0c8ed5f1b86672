import GbCycle.Interrupts
import GbCycle.Model

/-!
# The CPU core and its state

`CpuCore` is the machine's SM83 at the resolution of one T-cycle.  An instruction is cut
into machine cycles of four T-cycles; what the CPU is doing between two T-cycles is its
`CpuExecutionState`, and what an instruction has to remember from one machine cycle to
the next is its `InFlightInstruction`.

The kinds below are what the decoder produces: a `FetchCompletionKind` is finished on the
opcode fetch itself, a `CpuInstructionKind` continues with machine cycles of its own.
-/

namespace GbCycle

/-! ## Operands and instruction kinds -/

inductive Register8 where
  | a | b | c | d | e | h | l
  deriving Repr, DecidableEq

inductive Register16 where
  | bc | de | hl | sp
  deriving Repr, DecidableEq

inductive StackRegister16 where
  | bc | de | hl | af
  deriving Repr, DecidableEq

inductive AluOperation where
  | add | adc | sub | sbc | and | xor | or | compare
  deriving Repr, DecidableEq

inductive ConditionCode where
  | nz | z | nc | c
  deriving Repr, DecidableEq

inductive Register8Operand where
  | register (r : Register8)
  | indirectHl
  deriving Repr, DecidableEq

inductive DirectAddressSource where
  | bc | de | highC
  deriving Repr, DecidableEq

inductive CpuAddressUpdateDirection where
  | increment | decrement
  deriving Repr, DecidableEq

inductive InstructionExecutionGroup where
  | load | arithmetic | controlFlow | stack | cbPrefixed
  deriving Repr, DecidableEq

inductive FetchCompletionKind where
  | nop
  | decimalAdjustAccumulator
  | complementAccumulator
  | setCarryFlag
  | complementCarryFlag
  | rotateLeftAccumulatorCarry
  | rotateLeftAccumulatorThroughCarry
  | rotateRightAccumulatorCarry
  | rotateRightAccumulatorThroughCarry
  | halt
  | disableInterrupts
  | enableInterrupts
  | jumpHl
  | loadRegisterToRegister (destination source : Register8)
  | incrementRegister (target : Register8)
  | decrementRegister (target : Register8)
  | aluRegister (operation : AluOperation) (source : Register8)
  deriving Repr, DecidableEq

inductive CbInstructionKind where
  | rotateLeftCarry (target : Register8Operand)
  | rotateRightCarry (target : Register8Operand)
  | rotateLeftThroughCarry (target : Register8Operand)
  | rotateRightThroughCarry (target : Register8Operand)
  | shiftLeftArithmetic (target : Register8Operand)
  | shiftRightArithmetic (target : Register8Operand)
  | swapNibbles (target : Register8Operand)
  | shiftRightLogical (target : Register8Operand)
  | bitTest (bit : U8) (target : Register8Operand)
  | resetBit (bit : U8) (target : Register8Operand)
  | setBit (bit : U8) (target : Register8Operand)
  deriving Repr, DecidableEq

def CbInstructionKind.target : CbInstructionKind → Register8Operand
  | rotateLeftCarry t | rotateRightCarry t | rotateLeftThroughCarry t
  | rotateRightThroughCarry t | shiftLeftArithmetic t | shiftRightArithmetic t
  | swapNibbles t | shiftRightLogical t | bitTest _ t | resetBit _ t | setBit _ t => t

def CbInstructionKind.isBitTest : CbInstructionKind → Bool
  | bitTest _ _ => true
  | _ => false

section CbTargets

variable (bit : U8) (target : Register8Operand)

@[simp] theorem CbInstructionKind.target_bitTest : (bitTest bit target).target = target := rfl
@[simp] theorem CbInstructionKind.target_resetBit : (resetBit bit target).target = target := rfl
@[simp] theorem CbInstructionKind.target_setBit : (setBit bit target).target = target := rfl

@[simp] theorem CbInstructionKind.isBitTest_resetBit :
    (resetBit bit target).isBitTest = false := rfl
@[simp] theorem CbInstructionKind.isBitTest_setBit : (setBit bit target).isBitTest = false := rfl

end CbTargets

inductive CpuInstructionKind where
  | loadRegisterImmediate (target : Register8)
  | loadRegisterPairImmediate (target : Register16)
  | loadRegisterFromHl (target : Register8)
  | storeRegisterToHl (source : Register8)
  | storeImmediateToHl
  | loadAFromHlWithUpdate (direction : CpuAddressUpdateDirection)
  | storeAToHlWithUpdate (direction : CpuAddressUpdateDirection)
  | loadAFromDirectAddress (source : DirectAddressSource)
  | loadAFromImmediate16Address
  | loadAFromHighImmediateAddress
  | storeAToDirectAddress (destination : DirectAddressSource)
  | storeAToImmediate16Address
  | storeAToHighImmediateAddress
  | storeSpToImmediate16
  | loadHlFromSpPlusImmediate
  | addSpImmediate
  | loadSpFromHl
  | addHl (source : Register16)
  | incrementRegisterPair (target : Register16)
  | decrementRegisterPair (target : Register16)
  | incrementHlMemory
  | decrementHlMemory
  | aluImmediate (operation : AluOperation)
  | aluFromHl (operation : AluOperation)
  | relativeJump
  | conditionalRelativeJump (condition : ConditionCode)
  | absoluteJump
  | conditionalAbsoluteJump (condition : ConditionCode)
  | call
  | conditionalCall (condition : ConditionCode)
  | ret
  | conditionalReturn (condition : ConditionCode)
  | returnFromInterrupt
  | stop
  | restart (vector : U16)
  | pushRegisterPair (source : StackRegister16)
  | popRegisterPair (target : StackRegister16)
  | cbPrefixed
  deriving Repr, DecidableEq

@[simp] def CpuInstructionKind.executionGroup : CpuInstructionKind → InstructionExecutionGroup
  | loadRegisterImmediate _ | loadRegisterPairImmediate _ | loadRegisterFromHl _
  | storeRegisterToHl _ | storeImmediateToHl | loadAFromHlWithUpdate _
  | storeAToHlWithUpdate _ | loadAFromDirectAddress _ | loadAFromImmediate16Address
  | loadAFromHighImmediateAddress | storeAToDirectAddress _ | storeAToImmediate16Address
  | storeAToHighImmediateAddress | storeSpToImmediate16 | loadSpFromHl => .load
  | loadHlFromSpPlusImmediate | addSpImmediate | addHl _ | incrementRegisterPair _
  | decrementRegisterPair _ | incrementHlMemory | decrementHlMemory | aluImmediate _
  | aluFromHl _ => .arithmetic
  | relativeJump | conditionalRelativeJump _ | absoluteJump | conditionalAbsoluteJump _
  | call | conditionalCall _ | ret | conditionalReturn _ | returnFromInterrupt | stop
  | restart _ => .controlFlow
  | pushRegisterPair _ | popRegisterPair _ => .stack
  | cbPrefixed => .cbPrefixed

inductive DecodedOpcode where
  | completeOnFetch (completion : FetchCompletionKind)
  | execute (kind : CpuInstructionKind)
  | unsupported
  deriving Repr, DecidableEq

/-! ## What the CPU shows of its bus and address activity -/

inductive CpuBusAccessKind where
  | opcodeFetch | operandRead | dataRead | dataWrite
  deriving Repr, DecidableEq

structure CpuBusActivity where
  kind : CpuBusAccessKind
  address : U16
  value : U8
  deriving Repr, DecidableEq

inductive CpuAddressEventKind where
  | read | write | incDec | readWithIncDec | writeWithIncDec
  deriving Repr, DecidableEq

structure CpuAddressEvent where
  kind : CpuAddressEventKind
  accessAddress : Option U16
  iduAddress : Option U16
  updateDirection : Option CpuAddressUpdateDirection
  deriving Repr, DecidableEq

namespace CpuAddressEvent

def ofRead (address : U16) : CpuAddressEvent :=
  { kind := .read, accessAddress := some address, iduAddress := none,
    updateDirection := none }

def ofWrite (address : U16) : CpuAddressEvent :=
  { kind := .write, accessAddress := some address, iduAddress := none,
    updateDirection := none }

def ofIncDec (address : U16) (direction : CpuAddressUpdateDirection) : CpuAddressEvent :=
  { kind := .incDec, accessAddress := none, iduAddress := some address,
    updateDirection := some direction }

def ofReadWithIncDec (accessAddress iduAddress : U16)
    (direction : CpuAddressUpdateDirection) : CpuAddressEvent :=
  { kind := .readWithIncDec, accessAddress := some accessAddress,
    iduAddress := some iduAddress, updateDirection := some direction }

def ofWriteWithIncDec (accessAddress iduAddress : U16)
    (direction : CpuAddressUpdateDirection) : CpuAddressEvent :=
  { kind := .writeWithIncDec, accessAddress := some accessAddress,
    iduAddress := some iduAddress, updateDirection := some direction }

end CpuAddressEvent

/-! ## The core -/

structure CpuRegisters where
  a : U8
  f : U8
  b : U8
  c : U8
  d : U8
  e : U8
  h : U8
  l : U8
  sp : U16
  pc : U16
  deriving Repr, DecidableEq

/-- The register file a start-up hands to the CPU; its `f` is not masked yet. -/
structure CpuStartupState where
  a : U8
  f : U8
  b : U8
  c : U8
  d : U8
  e : U8
  h : U8
  l : U8
  sp : U16
  pc : U16
  deriving Repr, DecidableEq

def CpuStartupState.powerOnReset : CpuStartupState :=
  { a := 0, f := 0, b := 0, c := 0, d := 0, e := 0, h := 0, l := 0, sp := 0, pc := 0 }

def CpuRegisters.fromStartupState (s : CpuStartupState) : CpuRegisters :=
  { a := s.a, f := s.f &&& 0xF0, b := s.b, c := s.c, d := s.d, e := s.e, h := s.h,
    l := s.l, sp := s.sp, pc := s.pc }

inductive CpuDiagnosticTrap where
  | invalidOpcode (opcode : U8) (address : U16)
  deriving Repr, DecidableEq

inductive CpuExecutionState where
  | fetchOpcode (tCycle : Nat)
  | execute (step tCycle : Nat)
  | serviceInterrupt (source : InterruptSource) (step tCycle : Nat)
  | serviceStopWakeBuggedInterrupt (step tCycle : Nat)
  | speedSwitchPause (remainingTCycles : Nat)
  | diagnosticTrap (trap : CpuDiagnosticTrap)
  | halted
  | zombieStopped
  | stopped
  deriving Repr, DecidableEq

/-- The state in which every instruction starts. -/
@[simp] def CpuExecutionState.fetch : CpuExecutionState := .fetchOpcode 0

structure InFlightInstruction where
  opcode : Option U8
  kind : Option CpuInstructionKind
  executionGroup : Option InstructionExecutionGroup
  cbInstructionKind : Option CbInstructionKind
  operand8Latch : U8
  operand16Latch : U16
  deriving Repr, DecidableEq

namespace InFlightInstruction

def clearDecodedState (i : InFlightInstruction) : InFlightInstruction :=
  { i with kind := none, executionGroup := none, cbInstructionKind := none,
           operand8Latch := 0, operand16Latch := 0 }

def clear (i : InFlightInstruction) : InFlightInstruction :=
  { i with opcode := none }.clearDecodedState

@[simp] def executionDescriptor (i : InFlightInstruction) :
    Option (CpuInstructionKind × InstructionExecutionGroup) :=
  match i.kind with
  | none => none
  | some kind =>
    match i.executionGroup with
    | some group => some (kind, group)
    | none => some (kind, kind.executionGroup)

end InFlightInstruction

inductive ImeState where
  | disabled
  | disabledPendingEnable (instructionsRemaining : Nat)
  | enabled
  | enabledPendingEnable (instructionsRemaining : Nat)
  deriving Repr, DecidableEq

namespace ImeState

def imeEnabled : ImeState → Bool
  | enabled | enabledPendingEnable _ => true
  | disabled | disabledPendingEnable _ => false

def delayedEnablePending : ImeState → Bool
  | disabledPendingEnable _ | enabledPendingEnable _ => true
  | disabled | enabled => false

end ImeState

structure HaltRequestContext where
  imeEnabled : Bool
  hadPendingEi : Bool
  deriving Repr, DecidableEq

inductive HaltControlState where
  | idle
  | pendingRequest (context : HaltRequestContext)
  | haltBugPending
  deriving Repr, DecidableEq

structure CpuCore where
  consoleModel : ConsoleModel
  startupState : CpuStartupState
  registers : CpuRegisters
  executionState : CpuExecutionState
  inFlight : InFlightInstruction
  imeState : ImeState
  haltControl : HaltControlState
  lastBusActivity : Option CpuBusActivity
  lastAddressEvent : Option CpuAddressEvent
  stopDivResetRequested : Bool
  cgbSpeedSwitchRequested : Bool
  deriving Repr, DecidableEq

end GbCycle
