import GbCycle.Cpu.Alu
import GbCycle.Cpu.Decode

/-!
# The CPU's side of the bus

Everything the CPU asks of the rest of the machine goes through one callback, which is
handed a `CpuExternalOperation` and may answer with a byte.  The machine behind it is an
arbitrary state `σ` here.  A read always answers (the source states this with an
`expect`), which `CpuExternalCallback` carries as a field.

The definitions after the callback are the access patterns of the instructions: a byte at
`PC`, a byte at an address, a push or pop with its `SP` update.
-/

namespace GbCycle

inductive CpuBusOperation where
  | read (address : U16)
  | write (address : U16) (value : U8)
  deriving Repr, DecidableEq

inductive CpuExternalOperation where
  | bus (operation : CpuBusOperation)
  | pendingInterruptMask
  | interruptEnableMask
  | stopWakeLineAsserted
  | cgbSpeedSwitchPrepared
  | acknowledgeInterrupt (source : InterruptSource)
  | requestInterrupt (source : InterruptSource)
  deriving Repr, DecidableEq

/-- The machine as the CPU sees it: its answer to an operation and its next state. -/
structure CpuExternalCallback (σ : Type) where
  call : CpuExternalOperation → σ → Option U8 × σ
  read_isSome : ∀ address s, (call (.bus (.read address)) s).1.isSome

namespace CpuExternalCallback

variable {σ : Type} (bus : CpuExternalCallback σ)

def read (address : U16) (s : σ) : U8 × σ :=
  ((bus.call (.bus (.read address)) s).1.get (bus.read_isSome address s),
    (bus.call (.bus (.read address)) s).2)

def write (address : U16) (value : U8) (s : σ) : σ :=
  (bus.call (.bus (.write address value)) s).2

/-- The answer to a query that is `0` when the machine gives none. -/
def query (operation : CpuExternalOperation) (s : σ) : U8 × σ :=
  ((bus.call operation s).1.getD 0, (bus.call operation s).2)

end CpuExternalCallback

namespace CpuCore

variable {σ : Type} (bus : CpuExternalCallback σ)

/-! ## Reads and writes -/

def readByteWithKind (cpu : CpuCore) (address : U16) (kind : CpuBusAccessKind) (s : σ) :
    U8 × CpuCore × σ :=
  let (value, s) := bus.read address s
  (value, cpu.recordBusActivity kind address value, s)

/-- A byte at `PC`.  The halt bug is spent here: the read that finds it pending leaves
`PC` where it was. -/
def readPcU8WithKind (cpu : CpuCore) (kind : CpuBusAccessKind) (s : σ) :
    U8 × CpuCore × σ :=
  let address := cpu.registers.pc
  let (value, cpu, s) := readByteWithKind bus cpu address kind s
  let (haltBug, cpu) := cpu.consumeHaltBugPending
  if haltBug then
    (value, cpu.recordAddressEvent (.ofRead address), s)
  else
    let cpu := cpu.setPc (cpu.registers.pc + 1)
    (value, cpu.recordAddressEvent (.ofReadWithIncDec address cpu.registers.pc .increment), s)

def readOpcodeU8 (cpu : CpuCore) (s : σ) : U8 × CpuCore × σ :=
  readPcU8WithKind bus cpu .opcodeFetch s

def readPcU8 (cpu : CpuCore) (s : σ) : U8 × CpuCore × σ :=
  readPcU8WithKind bus cpu .operandRead s

def readByte (cpu : CpuCore) (address : U16) (s : σ) : U8 × CpuCore × σ :=
  let (value, cpu, s) := readByteWithKind bus cpu address .dataRead s
  (value, cpu.recordAddressEvent (.ofRead address), s)

def writeByteWithoutAddressEvent (cpu : CpuCore) (address : U16) (value : U8) (s : σ) :
    CpuCore × σ :=
  (cpu.recordBusActivity .dataWrite address value, bus.write address value s)

def writeByte (cpu : CpuCore) (address : U16) (value : U8) (s : σ) : CpuCore × σ :=
  let (cpu, s) := writeByteWithoutAddressEvent bus cpu address value s
  (cpu.recordAddressEvent (.ofWrite address), s)

/-! ## Addresses of an instruction -/

def resolveDirectAddress (cpu : CpuCore) : DirectAddressSource → U16
  | .bc => cpu.bc
  | .de => cpu.de
  | .highC => 0xFF00 ||| U16.ofByte cpu.registers.c

def resolveImmediate16Address (cpu : CpuCore) : U16 := cpu.inFlight.operand16Latch

def resolveHighImmediateAddress (cpu : CpuCore) : U16 :=
  0xFF00 ||| U16.ofByte cpu.inFlight.operand8Latch

/-! ## Transfers through `HL` with an update -/

def readHlWithUpdate (cpu : CpuCore) (direction : CpuAddressUpdateDirection) (s : σ) :
    U8 × CpuCore × σ :=
  let address := cpu.hl
  let (value, cpu, s) := readByteWithKind bus cpu address .dataRead s
  let (updated, cpu) := cpu.incrementOrDecrementRegister16 .hl direction
  (value, cpu.recordAddressEvent (.ofReadWithIncDec address updated direction), s)

def writeHlWithUpdate (cpu : CpuCore) (value : U8) (direction : CpuAddressUpdateDirection)
    (s : σ) : CpuCore × σ :=
  let address := cpu.hl
  let (cpu, s) := writeByteWithoutAddressEvent bus cpu address value s
  let (updated, cpu) := cpu.incrementOrDecrementRegister16 .hl direction
  (cpu.recordAddressEvent (.ofWriteWithIncDec address updated direction), s)

/-! ## The stack -/

def readByteAndIncrementSp (cpu : CpuCore) (s : σ) : U8 × CpuCore × σ :=
  let address := cpu.registers.sp
  let (value, cpu, s) := readByteWithKind bus cpu address .dataRead s
  let cpu := cpu.setSp (cpu.registers.sp + 1)
  (value, cpu.recordAddressEvent (.ofReadWithIncDec address cpu.registers.sp .increment), s)

def decrementSpAndRecordIduEvent (cpu : CpuCore) : CpuCore :=
  let cpu := cpu.setSp (cpu.registers.sp - 1)
  cpu.recordAddressEvent (.ofIncDec cpu.registers.sp .decrement)

def writeByteAtSp (cpu : CpuCore) (value : U8) (s : σ) : CpuCore × σ :=
  writeByte bus cpu cpu.registers.sp value s

def writeByteWithDecrementedSp (cpu : CpuCore) (value : U8) (s : σ) : CpuCore × σ :=
  let cpu := cpu.setSp (cpu.registers.sp - 1)
  let address := cpu.registers.sp
  let (cpu, s) := writeByteWithoutAddressEvent bus cpu address value s
  (cpu.recordAddressEvent (.ofWriteWithIncDec address address .decrement), s)

def preparePcStackPush (cpu : CpuCore) : CpuCore :=
  (cpu.setOperand8Latch cpu.registers.pc.low).decrementSpAndRecordIduEvent

def pushPcHighAtSp (cpu : CpuCore) (s : σ) : CpuCore × σ :=
  writeByteAtSp bus cpu cpu.registers.pc.high s

def pushLatchedU16HighAtSp (cpu : CpuCore) (s : σ) : CpuCore × σ :=
  writeByteAtSp bus cpu cpu.inFlight.operand16Latch.high s

def pushLatchedLowWithDecrementedSp (cpu : CpuCore) (s : σ) : CpuCore × σ :=
  writeByteWithDecrementedSp bus cpu cpu.inFlight.operand8Latch s

def readLatchedStackLowByte (cpu : CpuCore) (s : σ) : CpuCore × σ :=
  let (low, cpu, s) := readByteAndIncrementSp bus cpu s
  (cpu.setOperand16Latch (U16.ofByte low), s)

def readLatchedStackHighByte (cpu : CpuCore) (s : σ) : CpuCore × σ :=
  let (high, cpu, s) := readByteAndIncrementSp bus cpu s
  (cpu.setOperand16Latch (cpu.inFlight.operand16Latch ||| (U16.ofByte high <<< 8)), s)

/-! ## Queries -/

def stopWakeLineAsserted (s : σ) : Bool × σ :=
  let (answer, s) := bus.query .stopWakeLineAsserted s
  (answer != 0, s)

def cgbSpeedSwitchPrepared (s : σ) : Bool × σ :=
  let (answer, s) := bus.query .cgbSpeedSwitchPrepared s
  (answer != 0, s)

def currentPendingInterruptMask (s : σ) : U8 × σ := bus.query .pendingInterruptMask s

def currentInterruptEnableMask (s : σ) : U8 × σ := bus.query .interruptEnableMask s

def currentHighestPendingInterrupt (s : σ) : Option InterruptSource × σ :=
  let (mask, s) := currentPendingInterruptMask bus s
  (InterruptSource.highestPriorityFromMask mask, s)

def requestInterrupt (source : InterruptSource) (s : σ) : σ :=
  (bus.call (.requestInterrupt source) s).2

def acknowledgeInterrupt (source : InterruptSource) (s : σ) : σ :=
  (bus.call (.acknowledgeInterrupt source) s).2

end CpuCore

end GbCycle
