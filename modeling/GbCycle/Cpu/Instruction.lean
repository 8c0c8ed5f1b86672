import GbCycle.Cpu.InFlight

/-!
# Instructions as runs of machine cycles

`runToFetch` runs machine cycles until the core is back at an opcode fetch.  `Implements`
compares it with the reference: from the state the opcode fetch leaves, the machine cycles
of an instruction kind make the accesses of the reference instruction, in the same order,
and end with its registers and its memory.  There is one theorem for each kind.

Each is proved the same way.  The equations of `inCycle` evaluate the core's machine
cycles, those of the `ExecM` primitives evaluate the reference, and what is left is that the
two spell the same address or the same sum differently.
-/

namespace GbCycle

open Sm83 (Reg8 Reg16 StackReg Operand8 Cond AluOp RotOp PairAddress Instr CbInstr Flags Regs)

/-- The reference's memory, as the core's bus offers it. -/
def CpuExternalCallback.memory {σ : Type} (bus : CpuExternalCallback σ) : Sm83.Memory σ :=
  { read := bus.read, write := bus.write }

@[simp] def CpuBusAccessKind.ofSm83 : Sm83.AccessKind → CpuBusAccessKind
  | .fetch => .opcodeFetch
  | .operand => .operandRead
  | .read => .dataRead
  | .write => .dataWrite

/-- The bus activity the core shows for an access of the reference. -/
@[simp] def CpuBusActivity.ofSm83 (a : Sm83.Access) : CpuBusActivity :=
  { kind := .ofSm83 a.kind, address := a.address, value := a.value }

namespace CpuCore

variable {σ : Type} (bus : CpuExternalCallback σ)

@[simp] theorem memory_read : bus.memory.read = bus.read := rfl
@[simp] theorem memory_write : bus.memory.write = bus.write := rfl

/-! ## Running to the next opcode fetch -/

/-- At most `n` machine cycles, up to the first that ends at an opcode fetch, with the bus
activity of each. -/
@[simp] def runToFetch : Nat → CpuCore × σ → Option (List (Option CpuBusActivity) × CpuCore × σ)
  | 0, _ => none
  | n + 1, x =>
      let y := machineCycle bus x
      match y.1.executionState with
      | .fetchOpcode 0 => some ([y.1.lastBusActivity], y)
      | .execute _ 0 => (runToFetch n y).map fun z => (y.1.lastBusActivity :: z.1, z.2)
      | _ => none

theorem runToFetch_instructionRun {n : Nat} {x y : CpuCore × σ}
    {activities : List (Option CpuBusActivity)} (hx : StartsMachineCycle x.1)
    (h : runToFetch bus n x = some (activities, y)) : InstructionRun bus x activities y := by
  induction n generalizing x activities with
  | zero => exact nomatch h
  | succ n ih =>
      simp only [runToFetch] at h
      split at h
      · next hfetch =>
          cases h
          exact .finish hx rfl hfetch
      · next step hstep =>
          obtain ⟨⟨rest, z⟩, hz, hrest⟩ := Option.map_eq_some_iff.mp h
          cases hrest
          exact .next hx rfl hstep (ih (.inr ⟨_, hstep⟩) hz)
      · cases h

@[simp] theorem machineCycle_execute (cpu : CpuCore) (fl : InFlightInstruction) (step t : Nat)
    (ba : Option CpuBusActivity) (ae : Option CpuAddressEvent) (r : Regs) (s : σ) :
    machineCycle bus ((cpu.inCycle fl (.execute step t) ba ae).withRegs r, s) =
      completeExecuteMachineCycle bus
        ((cpu.inCycle fl (.execute step lastMachineCycleT) none none).withRegs r) step s := rfl

/-- The in-flight record after the opcode fetch of an instruction. -/
@[simp] def decodedInFlight (opcode : U8) (kind : CpuInstructionKind) (w8 : U8) (w16 : U16) :
    InFlightInstruction :=
  { opcode := some opcode, kind := some kind, executionGroup := some kind.executionGroup,
    cbInstructionKind := none, operand8Latch := w8, operand16Latch := w16 }

/-- The machine cycles of `kind` are those of the reference instruction `i`, after the
fetch of its opcode. -/
def Implements (kind : CpuInstructionKind) (i : Instr) : Prop :=
  ∀ (cpu : CpuCore) (opcode w8 : U8) (w16 : U16) (ba : Option CpuBusActivity)
    (ae : Option CpuAddressEvent) (r : Regs) (s : σ) (before : List (Option Sm83.Access)),
    cpu.NoHaltBug →
    let x := (Sm83.exec bus.memory i ⟨r, s, before⟩).2
    ∃ accesses y, x.cycles = before ++ accesses ∧
      runToFetch bus 5
          ((cpu.inCycle (decodedInFlight opcode kind w8 w16) (.execute 0 0) ba ae).withRegs r, s)
        = some (accesses.map (Option.map .ofSm83), y) ∧
      y.1.registers = .ofSm83 x.regs ∧ y.2 = x.mem

/-! ## Loads -/

theorem loadRegisterImmediate_implements (dst : Reg8) :
    Implements bus (.loadRegisterImmediate (.ofSm83 dst)) (.ldImm (.reg dst)) := by
  intro cpu opcode w8 w16 ba ae r s before h
  simp [h]

theorem loadRegisterPairImmediate_implements (dst : Reg16) :
    Implements bus (.loadRegisterPairImmediate (.ofSm83 dst)) (.ldPairImm dst) := by
  intro cpu opcode w8 w16 ba ae r s before h
  simp [h]

theorem loadRegisterFromHl_implements (dst : Reg8) :
    Implements bus (.loadRegisterFromHl (.ofSm83 dst)) (.ld (.reg dst) .atHl) := by
  intro cpu opcode w8 w16 ba ae r s before h
  simp

theorem storeRegisterToHl_implements (src : Reg8) :
    Implements bus (.storeRegisterToHl (.ofSm83 src)) (.ld .atHl (.reg src)) := by
  intro cpu opcode w8 w16 ba ae r s before h
  simp

theorem storeImmediateToHl_implements :
    Implements bus .storeImmediateToHl (.ldImm .atHl) := by
  intro cpu opcode w8 w16 ba ae r s before h
  simp [h]

theorem loadAFromHlIncrement_implements :
    Implements bus (.loadAFromHlWithUpdate .increment) (.ldAFrom .hlInc) := by
  intro cpu opcode w8 w16 ba ae r s before h
  simp

theorem loadAFromHlDecrement_implements :
    Implements bus (.loadAFromHlWithUpdate .decrement) (.ldAFrom .hlDec) := by
  intro cpu opcode w8 w16 ba ae r s before h
  simp

theorem storeAToHlIncrement_implements :
    Implements bus (.storeAToHlWithUpdate .increment) (.ldATo .hlInc) := by
  intro cpu opcode w8 w16 ba ae r s before h
  simp

theorem storeAToHlDecrement_implements :
    Implements bus (.storeAToHlWithUpdate .decrement) (.ldATo .hlDec) := by
  intro cpu opcode w8 w16 ba ae r s before h
  simp

theorem loadAFromBc_implements :
    Implements bus (.loadAFromDirectAddress .bc) (.ldAFrom .bc) := by
  intro cpu opcode w8 w16 ba ae r s before h
  simp

theorem loadAFromDe_implements :
    Implements bus (.loadAFromDirectAddress .de) (.ldAFrom .de) := by
  intro cpu opcode w8 w16 ba ae r s before h
  simp

theorem loadAFromHighC_implements :
    Implements bus (.loadAFromDirectAddress .highC) .ldhAFromC := by
  intro cpu opcode w8 w16 ba ae r s before h
  simp

theorem loadAFromImmediate16Address_implements :
    Implements bus .loadAFromImmediate16Address .ldAFromAbs := by
  intro cpu opcode w8 w16 ba ae r s before h
  simp [h]

theorem loadAFromHighImmediateAddress_implements :
    Implements bus .loadAFromHighImmediateAddress .ldhAFromImm := by
  intro cpu opcode w8 w16 ba ae r s before h
  simp [h]

theorem storeAToBc_implements :
    Implements bus (.storeAToDirectAddress .bc) (.ldATo .bc) := by
  intro cpu opcode w8 w16 ba ae r s before h
  simp

theorem storeAToDe_implements :
    Implements bus (.storeAToDirectAddress .de) (.ldATo .de) := by
  intro cpu opcode w8 w16 ba ae r s before h
  simp

theorem storeAToHighC_implements :
    Implements bus (.storeAToDirectAddress .highC) .ldhAToC := by
  intro cpu opcode w8 w16 ba ae r s before h
  simp

theorem storeAToImmediate16Address_implements :
    Implements bus .storeAToImmediate16Address .ldAToAbs := by
  intro cpu opcode w8 w16 ba ae r s before h
  simp [h]

theorem storeAToHighImmediateAddress_implements :
    Implements bus .storeAToHighImmediateAddress .ldhAToImm := by
  intro cpu opcode w8 w16 ba ae r s before h
  simp [h]

theorem storeSpToImmediate16_implements :
    Implements bus .storeSpToImmediate16 .ldAbsSp := by
  intro cpu opcode w8 w16 ba ae r s before h
  simp [h]

theorem loadSpFromHl_implements :
    Implements bus .loadSpFromHl .ldSpHl := by
  intro cpu opcode w8 w16 ba ae r s before h
  simp

/-! ## Arithmetic -/

theorem loadHlFromSpPlusImmediate_implements :
    Implements bus .loadHlFromSpPlusImmediate .ldHlSp := by
  intro cpu opcode w8 w16 ba ae r s before h
  simp [h]
  rfl

theorem addSpImmediate_implements :
    Implements bus .addSpImmediate .addSp := by
  intro cpu opcode w8 w16 ba ae r s before h
  simp [h]

theorem addHl_implements (src : Reg16) :
    Implements bus (.addHl (.ofSm83 src)) (.addHl src) := by
  intro cpu opcode w8 w16 ba ae r s before h
  simp

theorem incrementRegisterPair_implements (x : Reg16) :
    Implements bus (.incrementRegisterPair (.ofSm83 x)) (.incPair x) := by
  intro cpu opcode w8 w16 ba ae r s before h
  simp

theorem decrementRegisterPair_implements (x : Reg16) :
    Implements bus (.decrementRegisterPair (.ofSm83 x)) (.decPair x) := by
  intro cpu opcode w8 w16 ba ae r s before h
  simp

theorem incrementHlMemory_implements :
    Implements bus .incrementHlMemory (.inc .atHl) := by
  intro cpu opcode w8 w16 ba ae r s before h
  simp

theorem decrementHlMemory_implements :
    Implements bus .decrementHlMemory (.dec .atHl) := by
  intro cpu opcode w8 w16 ba ae r s before h
  simp

theorem aluImmediate_implements (op : AluOp) :
    Implements bus (.aluImmediate (.ofSm83 op)) (.aluImm op) := by
  intro cpu opcode w8 w16 ba ae r s before h
  simp [h]

theorem aluFromHl_implements (op : AluOp) :
    Implements bus (.aluFromHl (.ofSm83 op)) (.alu op .atHl) := by
  intro cpu opcode w8 w16 ba ae r s before h
  simp

/-! ## Control flow and the stack

A condition is tested on the flags the instruction started with, so the taken and the
untaken instruction are two separate runs. -/

theorem relativeJump_implements :
    Implements bus .relativeJump (.jr none) := by
  intro cpu opcode w8 w16 ba ae r s before h
  simp [h]

theorem conditionalRelativeJump_implements (x : Cond) :
    Implements bus (.conditionalRelativeJump (.ofSm83 x)) (.jr (some x)) := by
  intro cpu opcode w8 w16 ba ae r s before h
  cases ht : r.flags.test x
  · simp [h, ht]
  · simp [h, ht]

theorem absoluteJump_implements :
    Implements bus .absoluteJump (.jp none) := by
  intro cpu opcode w8 w16 ba ae r s before h
  simp [h]

theorem conditionalAbsoluteJump_implements (x : Cond) :
    Implements bus (.conditionalAbsoluteJump (.ofSm83 x)) (.jp (some x)) := by
  intro cpu opcode w8 w16 ba ae r s before h
  cases ht : r.flags.test x
  · simp [h, ht]
  · simp [h, ht]

theorem call_implements :
    Implements bus .call (.call none) := by
  intro cpu opcode w8 w16 ba ae r s before h
  simp [h]

theorem conditionalCall_implements (x : Cond) :
    Implements bus (.conditionalCall (.ofSm83 x)) (.call (some x)) := by
  intro cpu opcode w8 w16 ba ae r s before h
  cases ht : r.flags.test x
  · simp [h, ht]
  · simp [h, ht]

theorem ret_implements :
    Implements bus .ret (.ret none) := by
  intro cpu opcode w8 w16 ba ae r s before h
  simp

theorem conditionalReturn_implements (x : Cond) :
    Implements bus (.conditionalReturn (.ofSm83 x)) (.ret (some x)) := by
  intro cpu opcode w8 w16 ba ae r s before h
  cases ht : r.flags.test x
  · simp [ht]
  · simp [ht]

theorem returnFromInterrupt_implements :
    Implements bus .returnFromInterrupt .reti := by
  intro cpu opcode w8 w16 ba ae r s before h
  simp

theorem restart_implements (vector : U16) :
    Implements bus (.restart vector) (.rst vector) := by
  intro cpu opcode w8 w16 ba ae r s before h
  simp

theorem pushRegisterPair_implements (x : StackReg) :
    Implements bus (.pushRegisterPair (.ofSm83 x)) (.push x) := by
  intro cpu opcode w8 w16 ba ae r s before h
  simp

theorem popRegisterPair_implements (x : StackReg) :
    Implements bus (.popRegisterPair (.ofSm83 x)) (.pop x) := by
  intro cpu opcode w8 w16 ba ae r s before h
  simp

/-! ## The CB page -/

theorem cbPrefixed_implements : Implements bus .cbPrefixed .cb := by
  intro cpu opcode w8 w16 ba ae r s before h
  cases hi : Sm83.decodeCb (bus.read r.pc s).1 with
  | rot op x =>
      cases x with
      | reg x => simp [h, Sm83.execCb, hi, decodeCbOpcode_eq]
      | atHl => simp [h, Sm83.execCb, hi, decodeCbOpcode_eq]
  | bit n x =>
      cases x with
      | reg x => simp [h, Sm83.execCb, hi, decodeCbOpcode_eq]
      | atHl => simp [h, Sm83.execCb, hi, decodeCbOpcode_eq]
  | res n x =>
      cases x with
      | reg x => simp [h, Sm83.execCb, hi, decodeCbOpcode_eq]
      | atHl => simp [h, Sm83.execCb, hi, decodeCbOpcode_eq]
  | set n x =>
      cases x with
      | reg x => simp [h, Sm83.execCb, hi, decodeCbOpcode_eq]
      | atHl => simp [h, Sm83.execCb, hi, decodeCbOpcode_eq]

/-! ## Instructions that finish on their fetch -/

/-- The completion of `completion` on the opcode fetch is the reference instruction `i`:
it takes no further machine cycle. -/
def FinishesOnFetch (completion : FetchCompletionKind) (i : Instr) : Prop :=
  ∀ (cpu : CpuCore) (fl : InFlightInstruction) (st : CpuExecutionState)
    (ba : Option CpuBusActivity) (ae : Option CpuAddressEvent) (r : Regs) (s : σ)
    (before : List (Option Sm83.Access)),
    let x := (Sm83.exec bus.memory i ⟨r, s, before⟩).2
    x.mem = s ∧ x.cycles = before ∧
    ∃ (cpu' : CpuCore) (fl' : InFlightInstruction),
      ((cpu.inCycle fl st ba ae).withRegs r).completeFetchCompletion completion =
        (cpu'.inCycle fl' .fetch ba ae).withRegs x.regs

theorem nop_finishes :
    FinishesOnFetch bus .nop .nop := by
  intro cpu fl st ba ae r s before
  simp [completeFetchCompletion]
  exact ⟨_, _, rfl⟩

theorem decimalAdjustAccumulator_finishes :
    FinishesOnFetch bus .decimalAdjustAccumulator .daa := by
  intro cpu fl st ba ae r s before
  simp [completeFetchCompletion]
  exact ⟨_, _, rfl⟩

theorem complementAccumulator_finishes :
    FinishesOnFetch bus .complementAccumulator .cpl := by
  intro cpu fl st ba ae r s before
  simp [completeFetchCompletion]
  exact ⟨_, _, rfl⟩

theorem setCarryFlag_finishes :
    FinishesOnFetch bus .setCarryFlag .scf := by
  intro cpu fl st ba ae r s before
  simp [completeFetchCompletion]
  exact ⟨_, _, rfl⟩

theorem complementCarryFlag_finishes :
    FinishesOnFetch bus .complementCarryFlag .ccf := by
  intro cpu fl st ba ae r s before
  simp [completeFetchCompletion]
  exact ⟨_, _, rfl⟩

/-- A rotate of the core that computes the reference's `op`, applied to the accumulator. -/
theorem rotateAccumulator_eq {rotate : CpuCore → U8 → U8 × CpuCore} {op : RotOp} {cpu : CpuCore}
    {r : Regs}
    (h : ∀ v, rotate (cpu.withRegs r) v =
      let p := Sm83.rot op v r.flags.c
      (p.1, cpu.withRegs { r with flags := Sm83.rotFlags p.1 p.2 })) :
    (cpu.withRegs r).rotateAccumulator rotate =
      (cpu.withRegs { r with
        a := (Sm83.rot op r.a r.flags.c).1,
        flags := ⟨false, false, false, (Sm83.rot op r.a r.flags.c).2⟩ }).finishInstruction := by
  simp only [rotateAccumulator, withRegs_registers, ofSm83_a, h, withRegs_setA,
    withRegs_carryFlag, withRegs_writeFlags, Sm83.rotFlags]

theorem rotateLeftAccumulatorCarry_finishes :
    FinishesOnFetch bus .rotateLeftAccumulatorCarry (.rotA .rlc) := by
  intro cpu fl st ba ae r s before
  have h (v : U8) := withRegs_rotateLeftCarry (cpu.inCycle fl st ba ae) r v
  simp only [completeFetchCompletion, rotateAccumulator_eq h, inCycle_finishInstruction]
  exact ⟨rfl, rfl, _, _, rfl⟩

theorem rotateRightAccumulatorCarry_finishes :
    FinishesOnFetch bus .rotateRightAccumulatorCarry (.rotA .rrc) := by
  intro cpu fl st ba ae r s before
  have h (v : U8) := withRegs_rotateRightCarry (cpu.inCycle fl st ba ae) r v
  simp only [completeFetchCompletion, rotateAccumulator_eq h, inCycle_finishInstruction]
  exact ⟨rfl, rfl, _, _, rfl⟩

theorem rotateLeftAccumulatorThroughCarry_finishes :
    FinishesOnFetch bus .rotateLeftAccumulatorThroughCarry (.rotA .rl) := by
  intro cpu fl st ba ae r s before
  have h (v : U8) := withRegs_rotateLeftThroughCarry (cpu.inCycle fl st ba ae) r v
  simp only [completeFetchCompletion, rotateAccumulator_eq h, inCycle_finishInstruction]
  exact ⟨rfl, rfl, _, _, rfl⟩

theorem rotateRightAccumulatorThroughCarry_finishes :
    FinishesOnFetch bus .rotateRightAccumulatorThroughCarry (.rotA .rr) := by
  intro cpu fl st ba ae r s before
  have h (v : U8) := withRegs_rotateRightThroughCarry (cpu.inCycle fl st ba ae) r v
  simp only [completeFetchCompletion, rotateAccumulator_eq h, inCycle_finishInstruction]
  exact ⟨rfl, rfl, _, _, rfl⟩

theorem disableInterrupts_finishes :
    FinishesOnFetch bus .disableInterrupts .di := by
  intro cpu fl st ba ae r s before
  exact ⟨rfl, rfl, _, _, inCycle_finishInstruction cpu.setImeDisabled.cancelDelayedImeEnable ..⟩

theorem enableInterrupts_finishes :
    FinishesOnFetch bus .enableInterrupts .ei := by
  intro cpu fl st ba ae r s before
  simp [completeFetchCompletion]
  exact ⟨_, _, rfl⟩

theorem jumpHl_finishes :
    FinishesOnFetch bus .jumpHl .jpHl := by
  intro cpu fl st ba ae r s before
  simp [completeFetchCompletion]
  exact ⟨_, _, rfl⟩

theorem loadRegisterToRegister_finishes (dst x : Reg8) :
    FinishesOnFetch bus (.loadRegisterToRegister (.ofSm83 dst) (.ofSm83 x))
      (.ld (.reg dst) (.reg x)) := by
  intro cpu fl st ba ae r s before
  simp [completeFetchCompletion]
  exact ⟨_, _, rfl⟩

theorem incrementRegister_finishes (x : Reg8) :
    FinishesOnFetch bus (.incrementRegister (.ofSm83 x)) (.inc (.reg x)) := by
  intro cpu fl st ba ae r s before
  simp [completeFetchCompletion]
  exact ⟨_, _, rfl⟩

theorem decrementRegister_finishes (x : Reg8) :
    FinishesOnFetch bus (.decrementRegister (.ofSm83 x)) (.dec (.reg x)) := by
  intro cpu fl st ba ae r s before
  simp [completeFetchCompletion]
  exact ⟨_, _, rfl⟩

theorem aluRegister_finishes (op : AluOp) (x : Reg8) :
    FinishesOnFetch bus (.aluRegister (.ofSm83 op) (.ofSm83 x)) (.alu op (.reg x)) := by
  intro cpu fl st ba ae r s before
  simp [completeFetchCompletion]
  exact ⟨_, _, rfl⟩

end CpuCore

end GbCycle
