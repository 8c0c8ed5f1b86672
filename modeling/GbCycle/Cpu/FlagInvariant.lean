import GbCycle.Cpu.Cycle

/-!
# The low nibble of `F`

The flag register has four flags and nothing below them.  `FlagsClear` says so of a core;
a start-up establishes it, and no step of the CPU, and neither of the two interrupt
evaluations, breaks it.
-/

namespace GbCycle

namespace CpuCore

def FlagsClear (cpu : CpuCore) : Prop := cpu.registers.f &&& 0x0F = 0

/-! ## Operations that leave `F` alone -/

section Frame

variable (cpu : CpuCore)

@[simp] theorem flagsClear_setPc (pc : U16) : (cpu.setPc pc).FlagsClear ↔ cpu.FlagsClear := .rfl
@[simp] theorem flagsClear_setA (a : U8) : (cpu.setA a).FlagsClear ↔ cpu.FlagsClear := .rfl

@[simp] theorem flagsClear_writeRegister8 (x : Register8) (v : U8) :
    (cpu.writeRegister8 x v).FlagsClear ↔ cpu.FlagsClear := by
  cases x <;> rfl

@[simp] theorem flagsClear_writeRegister16 (x : Register16) (v : U16) :
    (cpu.writeRegister16 x v).FlagsClear ↔ cpu.FlagsClear := by
  cases x <;> rfl

@[simp] theorem flagsClear_incrementOrDecrementRegisterPair (x : Register16)
    (direction : CpuAddressUpdateDirection) :
    (cpu.incrementOrDecrementRegisterPair x direction).FlagsClear ↔ cpu.FlagsClear := by
  cases x <;> cases direction <;> rfl

@[simp] theorem flagsClear_setImeEnabled : cpu.setImeEnabled.FlagsClear ↔ cpu.FlagsClear := .rfl
@[simp] theorem flagsClear_setImeDisabled : cpu.setImeDisabled.FlagsClear ↔ cpu.FlagsClear :=
  .rfl
@[simp] theorem flagsClear_cancelDelayedImeEnable :
    cpu.cancelDelayedImeEnable.FlagsClear ↔ cpu.FlagsClear := .rfl

@[simp] theorem flagsClear_scheduleDelayedImeEnable :
    cpu.scheduleDelayedImeEnable.FlagsClear ↔ cpu.FlagsClear := by
  simp only [scheduleDelayedImeEnable]
  split
  · rfl
  · split <;> rfl

@[simp] theorem flagsClear_advanceDelayedImeEnable :
    cpu.advanceDelayedImeEnable.FlagsClear ↔ cpu.FlagsClear := by
  simp only [advanceDelayedImeEnable]
  split
  · split <;> rfl
  · split <;> rfl
  · rfl
  · rfl

@[simp] theorem flagsClear_takeHaltRequest :
    cpu.takeHaltRequest.2.FlagsClear ↔ cpu.FlagsClear := by
  simp only [takeHaltRequest]
  split <;> rfl

@[simp] theorem flagsClear_setOperand8Latch (v : U8) :
    (cpu.setOperand8Latch v).FlagsClear ↔ cpu.FlagsClear := .rfl
@[simp] theorem flagsClear_setOperand16Latch (v : U16) :
    (cpu.setOperand16Latch v).FlagsClear ↔ cpu.FlagsClear := .rfl
@[simp] theorem flagsClear_setCbInstructionKind (kind : CbInstructionKind) :
    (cpu.setCbInstructionKind kind).FlagsClear ↔ cpu.FlagsClear := .rfl
@[simp] theorem flagsClear_advanceInstruction (step : Nat) :
    (cpu.advanceInstruction step).FlagsClear ↔ cpu.FlagsClear := .rfl
@[simp] theorem flagsClear_stallInstruction (step : Nat) :
    (cpu.stallInstruction step).FlagsClear ↔ cpu.FlagsClear := .rfl
@[simp] theorem flagsClear_finishInstruction :
    cpu.finishInstruction.FlagsClear ↔ cpu.FlagsClear :=
  flagsClear_advanceDelayedImeEnable cpu.clearInFlightInstructionState
@[simp] theorem flagsClear_requestStopDivReset :
    cpu.requestStopDivReset.FlagsClear ↔ cpu.FlagsClear := .rfl
@[simp] theorem flagsClear_requestCgbSpeedSwitch :
    cpu.requestCgbSpeedSwitch.FlagsClear ↔ cpu.FlagsClear := .rfl
@[simp] theorem flagsClear_enterStoppedState :
    cpu.enterStoppedState.FlagsClear ↔ cpu.FlagsClear :=
  flagsClear_advanceDelayedImeEnable cpu.clearInFlightInstructionState
@[simp] theorem flagsClear_enterZombieStoppedState :
    cpu.enterZombieStoppedState.FlagsClear ↔ cpu.FlagsClear :=
  flagsClear_advanceDelayedImeEnable cpu.clearInFlightInstructionState
@[simp] theorem flagsClear_enterSpeedSwitchPauseState :
    cpu.enterSpeedSwitchPauseState.FlagsClear ↔ cpu.FlagsClear :=
  flagsClear_advanceDelayedImeEnable cpu.clearInFlightInstructionState
@[simp] theorem flagsClear_commitRelativeJump :
    cpu.commitRelativeJump.FlagsClear ↔ cpu.FlagsClear := .rfl
@[simp] theorem flagsClear_preparePcStackPush :
    cpu.preparePcStackPush.FlagsClear ↔ cpu.FlagsClear := .rfl
@[simp] theorem flagsClear_decrementSpAndRecordIduEvent :
    cpu.decrementSpAndRecordIduEvent.FlagsClear ↔ cpu.FlagsClear := .rfl

variable {σ : Type} (bus : CpuExternalCallback σ) (s : σ)

@[simp] theorem flagsClear_readPcU8WithKind (kind : CpuBusAccessKind) :
    (readPcU8WithKind bus cpu kind s).2.1.FlagsClear ↔ cpu.FlagsClear := by
  rcases cpu with ⟨m, su, r, state, fl, ime, halt, ba, ae, div, sw⟩
  cases halt <;> rfl

@[simp] theorem flagsClear_readOpcodeU8 :
    (readOpcodeU8 bus cpu s).2.1.FlagsClear ↔ cpu.FlagsClear :=
  flagsClear_readPcU8WithKind cpu bus s .opcodeFetch

@[simp] theorem flagsClear_readPcU8 : (readPcU8 bus cpu s).2.1.FlagsClear ↔ cpu.FlagsClear :=
  flagsClear_readPcU8WithKind cpu bus s .operandRead

@[simp] theorem flagsClear_readByte (address : U16) :
    (readByte bus cpu address s).2.1.FlagsClear ↔ cpu.FlagsClear := .rfl
@[simp] theorem flagsClear_writeByte (address : U16) (v : U8) :
    (writeByte bus cpu address v s).1.FlagsClear ↔ cpu.FlagsClear := .rfl

@[simp] theorem flagsClear_readHlWithUpdate (direction : CpuAddressUpdateDirection) :
    (readHlWithUpdate bus cpu direction s).2.1.FlagsClear ↔ cpu.FlagsClear := by
  cases direction <;> rfl

@[simp] theorem flagsClear_writeHlWithUpdate (v : U8) (direction : CpuAddressUpdateDirection) :
    (writeHlWithUpdate bus cpu v direction s).1.FlagsClear ↔ cpu.FlagsClear := by
  cases direction <;> rfl

@[simp] theorem flagsClear_pushPcHighAtSp :
    (pushPcHighAtSp bus cpu s).1.FlagsClear ↔ cpu.FlagsClear := .rfl
@[simp] theorem flagsClear_pushLatchedU16HighAtSp :
    (pushLatchedU16HighAtSp bus cpu s).1.FlagsClear ↔ cpu.FlagsClear := .rfl
@[simp] theorem flagsClear_pushLatchedLowWithDecrementedSp :
    (pushLatchedLowWithDecrementedSp bus cpu s).1.FlagsClear ↔ cpu.FlagsClear := .rfl
@[simp] theorem flagsClear_readLatchedStackLowByte :
    (readLatchedStackLowByte bus cpu s).1.FlagsClear ↔ cpu.FlagsClear := .rfl
@[simp] theorem flagsClear_readLatchedStackHighByte :
    (readLatchedStackHighByte bus cpu s).1.FlagsClear ↔ cpu.FlagsClear := .rfl

end Frame

/-! ## Operations that write `F` -/

section Flags

variable (cpu : CpuCore)

@[simp] theorem flagsClear_writeFlags (z n h c : Bool) : (cpu.writeFlags z n h c).FlagsClear := by
  show (cpu.writeFlags z n h c).registers.f &&& 0x0F = 0
  simp only [writeFlags, setF]
  revert z n h c
  decide

@[simp] theorem flagsClear_updateIncFlags (before result : U8) :
    (cpu.updateIncFlags before result).FlagsClear :=
  flagsClear_writeFlags cpu (result == 0) false (before &&& 0x0F == 0x0F) cpu.carryFlag

@[simp] theorem flagsClear_updateDecFlags (before result : U8) :
    (cpu.updateDecFlags before result).FlagsClear := by
  show (cpu.updateDecFlags before result).registers.f &&& 0x0F = 0
  simp only [updateDecFlags, setF]
  generalize (result == 0) = z
  generalize (before &&& 0x0F == 0) = h
  generalize cpu.carryFlag = c
  revert z h c
  decide

@[simp] theorem flagsClear_bitTest (bit v : U8) : (cpu.bitTest bit v).FlagsClear := by
  show (cpu.bitTest bit v).registers.f &&& 0x0F = 0
  simp only [bitTest, setF]
  generalize (v &&& ((1 : U8) <<< bit.toNat) == 0) = z
  generalize cpu.carryFlag = c
  revert z c
  decide

theorem flagsClear_writeStackRegister16 (x : StackRegister16) (v : U16)
    (h : cpu.FlagsClear) : (cpu.writeStackRegister16 x v).FlagsClear := by
  cases x with
  | af =>
      show (v.low &&& 0xF0) &&& 0x0F = 0
      rw [BitVec.and_assoc]
      exact BitVec.and_zero
  | _ => exact h

@[simp] theorem flagsClear_applyAluOperation (operation : AluOperation) (v : U8) :
    (cpu.applyAluOperation operation v).FlagsClear := by
  cases operation <;>
    simp [applyAluOperation, addToA, adcToA, subFromA, sbcFromA, andWithA, xorWithA, orWithA,
      compareA]

@[simp] theorem flagsClear_addToHl (v : U16) : (cpu.addToHl v).FlagsClear := by
  simp [addToHl]

@[simp] theorem flagsClear_spPlusSignedImmediate (v : U8) :
    (cpu.spPlusSignedImmediate v).2.FlagsClear := by
  simp [spPlusSignedImmediate]

@[simp] theorem flagsClear_decimalAdjustA : cpu.decimalAdjustA.FlagsClear := by
  simp only [decimalAdjustA]
  split <;> exact flagsClear_writeFlags ..

@[simp] theorem flagsClear_complementA : cpu.complementA.FlagsClear := by
  simp [complementA]

@[simp] theorem flagsClear_setCarryFlag : cpu.setCarryFlag.FlagsClear := by
  simp [setCarryFlag]

@[simp] theorem flagsClear_complementCarryFlag : cpu.complementCarryFlag.FlagsClear := by
  simp [complementCarryFlag]

@[simp] theorem flagsClear_rotateAccumulator (rotate : CpuCore → U8 → U8 × CpuCore) :
    (cpu.rotateAccumulator rotate).FlagsClear := by
  simp [rotateAccumulator]

end Flags

/-! ## The machine cycles -/

section MachineCycle

variable {σ : Type} (bus : CpuExternalCallback σ) {cpu : CpuCore}

theorem flagsClear_applyCbOperation (h : cpu.FlagsClear) (kind : CbInstructionKind) (v : U8) :
    (cpu.applyCbOperation kind v).2.FlagsClear := by
  cases kind <;>
    simp [applyCbOperation, rotateLeftCarry, rotateRightCarry, rotateLeftThroughCarry,
      rotateRightThroughCarry, shiftLeftArithmetic, shiftRightArithmetic, swapNibbles,
      shiftRightLogical, h]

theorem flagsClear_executeLoad (h : cpu.FlagsClear) (kind : CpuInstructionKind) (step : Nat)
    (s : σ) : (executeLoadMachineCycle bus cpu kind step s).1.FlagsClear := by
  cases kind <;> simp only [executeLoadMachineCycle]
  all_goals first | exact h | (split <;> simp [h])

theorem flagsClear_executeArithmetic (h : cpu.FlagsClear) (kind : CpuInstructionKind)
    (step : Nat) (s : σ) : (executeArithmeticMachineCycle bus cpu kind step s).1.FlagsClear := by
  cases kind <;> simp only [executeArithmeticMachineCycle]
  all_goals first | exact h | (split <;> simp [h])

theorem flagsClear_executeStack (h : cpu.FlagsClear) (kind : CpuInstructionKind) (step : Nat)
    (s : σ) : (executeStackMachineCycle bus cpu kind step s).1.FlagsClear := by
  cases kind <;> simp only [executeStackMachineCycle]
  all_goals first | exact h | (split <;> simp [h, flagsClear_writeStackRegister16])

theorem flagsClear_of_applyCbOperation {cpu' : CpuCore} {kind : CbInstructionKind} {v : U8}
    {result : Option U8} (h : cpu.FlagsClear)
    (heq : cpu.applyCbOperation kind v = (result, cpu')) : cpu'.FlagsClear := by
  have hop := flagsClear_applyCbOperation h kind v
  rwa [heq] at hop

theorem flagsClear_executeCbPrefixed (h : cpu.FlagsClear) (step : Nat) (s : σ) :
    (executeCbPrefixedMachineCycle bus cpu step s).1.FlagsClear := by
  simp only [executeCbPrefixedMachineCycle]
  split
  · split
    · split
      · next heq => simp [flagsClear_of_applyCbOperation (by simp [h]) heq]
      · next heq => simp [flagsClear_of_applyCbOperation (by simp [h]) heq]
    · simp [h]
  · split
    · split
      · split
        · next heq => simp [flagsClear_of_applyCbOperation (by simp [h]) heq]
        · next heq => simp [flagsClear_of_applyCbOperation (by simp [h]) heq]
      · simp [h]
    · simp [h]
  · split
    · split <;> simp [h]
    · simp [h]
  · simp [h]

@[simp] theorem flagsClear_finishAndRequestHalt (cpu : CpuCore) :
    cpu.finishAndRequestHalt.FlagsClear ↔ cpu.FlagsClear :=
  flagsClear_advanceDelayedImeEnable cpu.clearInFlightInstructionState

theorem flagsClear_executeStop (h : cpu.FlagsClear) (s : σ) :
    (executeStop bus cpu s).1.FlagsClear := by
  simp only [executeStop]
  split
  · simp [h]
  · split <;> simp [h]

theorem flagsClear_executeControlFlow (h : cpu.FlagsClear) (kind : CpuInstructionKind)
    (step : Nat) (s : σ) :
    (executeControlFlowMachineCycle bus cpu kind step s).1.FlagsClear := by
  cases kind with
  | stop =>
      simp only [executeControlFlowMachineCycle]
      split
      · exact flagsClear_executeStop bus h s
      · exact h
  | conditionalRelativeJump | conditionalAbsoluteJump | conditionalCall | conditionalReturn =>
      simp only [executeControlFlowMachineCycle]
      split <;> (try split) <;> simp [h]
  | relativeJump | absoluteJump | call | ret | returnFromInterrupt | restart =>
      simp only [executeControlFlowMachineCycle]
      split <;> simp [h]
  | _ => exact h

theorem flagsClear_completeExecute (h : cpu.FlagsClear) (step : Nat) (s : σ) :
    (completeExecuteMachineCycle bus cpu step s).1.FlagsClear := by
  simp only [completeExecuteMachineCycle]
  split
  · exact h
  · exact flagsClear_executeLoad bus h _ step s
  · exact flagsClear_executeArithmetic bus h _ step s
  · exact flagsClear_executeControlFlow bus h _ step s
  · exact flagsClear_executeStack bus h _ step s
  · exact flagsClear_executeCbPrefixed bus h step s

theorem flagsClear_completeFetchCompletion (h : cpu.FlagsClear)
    (completion : FetchCompletionKind) :
    (cpu.completeFetchCompletion completion).FlagsClear := by
  cases completion <;> simp [completeFetchCompletion, h]

theorem flagsClear_completeDecodedFetch (h : cpu.FlagsClear) (opcode : U8) :
    (cpu.completeDecodedFetch opcode).FlagsClear := by
  simp only [completeDecodedFetch]
  split
  · exact flagsClear_completeFetchCompletion h _
  · exact h
  · exact h

theorem flagsClear_completeFetchOpcode (h : cpu.FlagsClear) (s : σ) :
    (completeFetchOpcode bus cpu s).1.FlagsClear := by
  have hread : (readOpcodeU8 bus cpu s).2.1.FlagsClear :=
    (flagsClear_readOpcodeU8 cpu bus s).mpr h
  rw [completeFetchOpcode]
  generalize readOpcodeU8 bus cpu s = x at hread ⊢
  obtain ⟨opcode, cpu', s'⟩ := x
  have hfetched : ({ cpu' with inFlight := { cpu'.inFlight with opcode := some opcode } }
      : CpuCore).FlagsClear := hread
  dsimp only
  split
  · split
    · simpa using hfetched
    · exact flagsClear_completeDecodedFetch hfetched opcode
  · exact flagsClear_completeDecodedFetch hfetched opcode

theorem flagsClear_completeInterruptService (h : cpu.FlagsClear) (source : InterruptSource)
    (step : Nat) (s : σ) :
    (completeInterruptServiceMachineCycle bus cpu source step s).1.FlagsClear := by
  simp only [completeInterruptServiceMachineCycle]
  split
  · exact h
  · exact h
  · exact h
  · split
    · split <;> exact h
    · exact h
  · exact h
  · exact h

theorem flagsClear_completeStopWakeBuggedInterruptService (h : cpu.FlagsClear) (step : Nat)
    (s : σ) :
    (completeStopWakeBuggedInterruptServiceMachineCycle bus cpu step s).1.FlagsClear := by
  simp only [completeStopWakeBuggedInterruptServiceMachineCycle]
  split <;> exact h

/-- No T-cycle puts anything into the low nibble of `F`. -/
theorem flagsClear_tickTCycle (h : cpu.FlagsClear) (s : σ) :
    (cpu.tickTCycle bus s).1.FlagsClear := by
  have h' : ({ cpu with lastBusActivity := none, lastAddressEvent := none }
      : CpuCore).FlagsClear := h
  simp only [tickTCycle]
  split
  · split
    · exact h
    · exact flagsClear_completeFetchOpcode bus h' s
  · split
    · exact h
    · exact flagsClear_completeExecute bus h' _ s
  · split
    · exact h
    · exact flagsClear_completeInterruptService bus h' _ _ s
  · split
    · exact h
    · exact flagsClear_completeStopWakeBuggedInterruptService bus h' _ s
  · simp only [advanceSpeedSwitchPause]
    split <;> exact h
  · exact h
  · exact h
  · exact h
  · exact h

end MachineCycle

/-! ## Whole runs -/

theorem flagsClear_acceptPendingInterrupt {cpu : CpuCore} (h : cpu.FlagsClear)
    (interrupts : InterruptController) :
    (cpu.acceptPendingInterrupt interrupts).1.FlagsClear := by
  simp only [acceptPendingInterrupt]
  split <;> exact h

theorem flagsClear_evaluateWakeAndInterrupts {cpu : CpuCore} (h : cpu.FlagsClear)
    (interrupts : InterruptController) (joypad : Joypad) :
    (cpu.evaluateWakeAndInterrupts interrupts joypad).1.FlagsClear := by
  have htake : cpu.takeHaltRequest.2.FlagsClear := (flagsClear_takeHaltRequest cpu).mpr h
  simp only [evaluateWakeAndInterrupts]
  split
  · exact h
  · split
    · split
      · split <;> exact h
      · exact h
    · split
      · exact h
      · split
        · next heq =>
            rw [heq] at htake
            split
            · split
              · exact flagsClear_acceptPendingInterrupt ((flagsClear_setPc _ _).mpr htake) _
              · exact htake
            · split
              · exact flagsClear_acceptPendingInterrupt htake _
              · exact htake
        · next heq =>
            rw [heq] at htake
            split
            · split
              · exact htake
              · split
                · exact flagsClear_acceptPendingInterrupt htake _
                · exact htake
            · split
              · exact htake
              · exact flagsClear_acceptPendingInterrupt htake _

theorem flagsClear_evaluateCurrentCycleInterruptRequests {cpu : CpuCore} (h : cpu.FlagsClear)
    (interrupts : InterruptController) (mask : U8) :
    (cpu.evaluateCurrentCycleInterruptRequests interrupts mask).2.1.FlagsClear := by
  simp only [evaluateCurrentCycleInterruptRequests]
  split
  · exact h
  · split <;> exact h

theorem flagsClear_applyStartupState (cpu : CpuCore) (startupState : CpuStartupState) :
    (cpu.applyStartupState startupState).FlagsClear := by
  show (startupState.f &&& 0xF0) &&& 0x0F = 0
  rw [BitVec.and_assoc]
  exact BitVec.and_zero

/-- What the rest of a machine does with its core, in any order: its own T-cycles and those
the DMA unit takes, the two interrupt evaluations with whatever the controller and the
joypad hold, and changes of the machine behind the bus. -/
inductive Event (σ : Type) where
  | tick
  | tickDmaStall
  | evaluateCurrentCycleInterruptRequests (interrupts : InterruptController) (mask : U8)
  | evaluateWakeAndInterrupts (interrupts : InterruptController) (joypad : Joypad)
  | environment (s : σ)

section Event

variable {σ : Type} (bus : CpuExternalCallback σ)

def Event.apply (x : CpuCore × σ) : Event σ → CpuCore × σ
  | .tick => x.1.tickTCycle bus x.2
  | .tickDmaStall => (x.1.tickDmaStallTCycle, x.2)
  | .evaluateCurrentCycleInterruptRequests interrupts mask =>
      ((x.1.evaluateCurrentCycleInterruptRequests interrupts mask).2.1, x.2)
  | .evaluateWakeAndInterrupts interrupts joypad =>
      ((x.1.evaluateWakeAndInterrupts interrupts joypad).1, x.2)
  | .environment s => (x.1, s)

def runEvents (events : List (Event σ)) (x : CpuCore × σ) : CpuCore × σ :=
  events.foldl (Event.apply bus) x

theorem flagsClear_apply {x : CpuCore × σ} (h : x.1.FlagsClear) (event : Event σ) :
    (Event.apply bus x event).1.FlagsClear := by
  cases event with
  | tick => exact flagsClear_tickTCycle bus h x.2
  | tickDmaStall => exact h
  | evaluateCurrentCycleInterruptRequests interrupts mask =>
      exact flagsClear_evaluateCurrentCycleInterruptRequests h interrupts mask
  | evaluateWakeAndInterrupts interrupts joypad =>
      exact flagsClear_evaluateWakeAndInterrupts h interrupts joypad
  | environment s => exact h

theorem flagsClear_runEvents {x : CpuCore × σ} (h : x.1.FlagsClear) (events : List (Event σ)) :
    (runEvents bus events x).1.FlagsClear := by
  induction events generalizing x with
  | nil => exact h
  | cons event events ih => exact ih (flagsClear_apply bus h event)

/-- The low nibble of `F` is zero in every run from a start-up, so the program reads four
flags and four zeros from it whenever it looks. -/
theorem startup_flagsClear (cpu : CpuCore) (startupState : CpuStartupState) (s : σ)
    (events : List (Event σ)) :
    (runEvents bus events (cpu.applyStartupState startupState, s)).1.registers.f &&& 0x0F = 0 :=
  flagsClear_runEvents bus (flagsClear_applyStartupState cpu startupState) events

end Event

end CpuCore

end GbCycle
