import GbCycle.Cpu.Cycle

/-!
# Where an instruction ends

When an interrupt may come in is decided by little of the core: the `IME` latch, the HALT
control state, what is in flight, and the execution state.  `control` collects the first three.
Most of the core leaves it alone, so that a machine cycle can only do one of four things to it:
go on with the same instruction, end it, end it as RETI does, or end it with a request to halt.
-/

namespace GbCycle

/-- The part of the core that decides when an interrupt may come in. -/
structure CpuControl where
  imeState : ImeState
  haltControl : HaltControlState
  opcode : Option U8
  kind : Option CpuInstructionKind
  executionGroup : Option InstructionExecutionGroup
  deriving Repr, DecidableEq

/-- `advance_delayed_ime_enable`, on the latch alone. -/
def ImeState.advance : ImeState → ImeState
  | .disabledPendingEnable n => if n > 1 then .disabledPendingEnable (n - 1) else .enabled
  | .enabledPendingEnable n => if n > 1 then .enabledPendingEnable (n - 1) else .enabled
  | .disabled => .disabled
  | .enabled => .enabled

namespace CpuControl

/-- A read at `PC` spends the halt bug. -/
def spendHaltBug (c : CpuControl) : CpuControl :=
  { c with haltControl := if c.haltControl = .haltBugPending then .idle else c.haltControl }

/-- Nothing is in flight any more, and the delay of EI has counted down. -/
def finish (c : CpuControl) : CpuControl :=
  { imeState := c.imeState.advance, haltControl := c.haltControl, opcode := none, kind := none,
    executionGroup := none }

/-- As `finish`, with the request to halt. -/
def finishHalt (c : CpuControl) : CpuControl :=
  { c.finish with
    haltControl := .pendingRequest ⟨c.imeState.imeEnabled, c.imeState.delayedEnablePending⟩ }

theorem spendHaltBug_of_idle {c : CpuControl} (h : c.haltControl = .idle) : c.spendHaltBug = c := by
  obtain ⟨imeState, haltControl, opcode, kind, executionGroup⟩ := c
  cases h
  rfl

end CpuControl

namespace CpuCore

def control (cpu : CpuCore) : CpuControl :=
  { imeState := cpu.imeState, haltControl := cpu.haltControl, opcode := cpu.inFlight.opcode,
    kind := cpu.inFlight.kind, executionGroup := cpu.inFlight.executionGroup }

/-! ## What leaves the control alone -/

section Frame

variable (cpu : CpuCore)

@[simp] theorem control_setPc (pc : U16) : (cpu.setPc pc).control = cpu.control := rfl
@[simp] theorem control_setSp (sp : U16) : (cpu.setSp sp).control = cpu.control := rfl
@[simp] theorem control_setA (a : U8) : (cpu.setA a).control = cpu.control := rfl
@[simp] theorem control_setF (f : U8) : (cpu.setF f).control = cpu.control := rfl

@[simp] theorem control_writeRegister8 (x : Register8) (v : U8) :
    (cpu.writeRegister8 x v).control = cpu.control := by
  cases x <;> rfl

@[simp] theorem control_writeRegister16 (x : Register16) (v : U16) :
    (cpu.writeRegister16 x v).control = cpu.control := by
  cases x <;> rfl

@[simp] theorem control_writeStackRegister16 (x : StackRegister16) (v : U16) :
    (cpu.writeStackRegister16 x v).control = cpu.control := by
  cases x <;> rfl

@[simp] theorem control_incrementOrDecrementRegisterPair (x : Register16)
    (direction : CpuAddressUpdateDirection) :
    (cpu.incrementOrDecrementRegisterPair x direction).control = cpu.control := by
  cases x <;> cases direction <;> rfl

@[simp] theorem control_setOperand8Latch (v : U8) :
    (cpu.setOperand8Latch v).control = cpu.control := rfl
@[simp] theorem control_setOperand16Latch (v : U16) :
    (cpu.setOperand16Latch v).control = cpu.control := rfl
@[simp] theorem control_setCbInstructionKind (kind : CbInstructionKind) :
    (cpu.setCbInstructionKind kind).control = cpu.control := rfl
@[simp] theorem control_requestStopDivReset : cpu.requestStopDivReset.control = cpu.control := rfl
@[simp] theorem control_requestCgbSpeedSwitch :
    cpu.requestCgbSpeedSwitch.control = cpu.control := rfl
@[simp] theorem control_commitRelativeJump : cpu.commitRelativeJump.control = cpu.control := rfl
@[simp] theorem control_preparePcStackPush : cpu.preparePcStackPush.control = cpu.control := rfl
@[simp] theorem control_decrementSpAndRecordIduEvent :
    cpu.decrementSpAndRecordIduEvent.control = cpu.control := rfl

/-! ### Arithmetic -/

@[simp] theorem control_writeFlags (z n h c : Bool) :
    (cpu.writeFlags z n h c).control = cpu.control := rfl
@[simp] theorem control_updateIncFlags (before result : U8) :
    (cpu.updateIncFlags before result).control = cpu.control := rfl
@[simp] theorem control_updateDecFlags (before result : U8) :
    (cpu.updateDecFlags before result).control = cpu.control := rfl
@[simp] theorem control_addToHl (v : U16) : (cpu.addToHl v).control = cpu.control := rfl
@[simp] theorem control_spPlusSignedImmediate (v : U8) :
    (cpu.spPlusSignedImmediate v).2.control = cpu.control := rfl
@[simp] theorem control_complementA : cpu.complementA.control = cpu.control := rfl
@[simp] theorem control_setCarryFlag : cpu.setCarryFlag.control = cpu.control := rfl
@[simp] theorem control_complementCarryFlag : cpu.complementCarryFlag.control = cpu.control := rfl

@[simp] theorem control_applyAluOperation (operation : AluOperation) (v : U8) :
    (cpu.applyAluOperation operation v).control = cpu.control := by
  cases operation <;> rfl

@[simp] theorem control_decimalAdjustA : cpu.decimalAdjustA.control = cpu.control := by
  simp only [decimalAdjustA]
  split <;> rfl

theorem control_applyCbOperation (kind : CbInstructionKind) (v : U8) :
    (cpu.applyCbOperation kind v).2.control = cpu.control := by
  cases kind <;> rfl

/-! ### The bus -/

variable {σ : Type} (bus : CpuExternalCallback σ) (s : σ)

theorem control_readPcU8WithKind (kind : CpuBusAccessKind) :
    (readPcU8WithKind bus cpu kind s).2.1.control = cpu.control.spendHaltBug := by
  rcases cpu with ⟨m, su, r, state, fl, ime, halt, ba, ae, div, sw⟩
  cases halt <;> rfl

@[simp] theorem control_readPcU8 :
    (readPcU8 bus cpu s).2.1.control = cpu.control.spendHaltBug :=
  control_readPcU8WithKind cpu bus s .operandRead

@[simp] theorem control_readOpcodeU8 :
    (readOpcodeU8 bus cpu s).2.1.control = cpu.control.spendHaltBug :=
  control_readPcU8WithKind cpu bus s .opcodeFetch

@[simp] theorem control_readByte (address : U16) :
    (readByte bus cpu address s).2.1.control = cpu.control := rfl
@[simp] theorem control_writeByte (address : U16) (v : U8) :
    (writeByte bus cpu address v s).1.control = cpu.control := rfl

@[simp] theorem control_readHlWithUpdate (direction : CpuAddressUpdateDirection) :
    (readHlWithUpdate bus cpu direction s).2.1.control = cpu.control := by
  cases direction <;> rfl

@[simp] theorem control_writeHlWithUpdate (v : U8) (direction : CpuAddressUpdateDirection) :
    (writeHlWithUpdate bus cpu v direction s).1.control = cpu.control := by
  cases direction <;> rfl

@[simp] theorem control_pushPcHighAtSp : (pushPcHighAtSp bus cpu s).1.control = cpu.control := rfl
@[simp] theorem control_pushLatchedU16HighAtSp :
    (pushLatchedU16HighAtSp bus cpu s).1.control = cpu.control := rfl
@[simp] theorem control_pushLatchedLowWithDecrementedSp :
    (pushLatchedLowWithDecrementedSp bus cpu s).1.control = cpu.control := rfl
@[simp] theorem control_readLatchedStackLowByte :
    (readLatchedStackLowByte bus cpu s).1.control = cpu.control := rfl
@[simp] theorem control_readLatchedStackHighByte :
    (readLatchedStackHighByte bus cpu s).1.control = cpu.control := rfl

end Frame

/-! ## Ends of an instruction -/

/-- The core is not inside an instruction, and not trapped. -/
def Ended (cpu : CpuCore) : Prop :=
  cpu.executionState = .fetch ∨ cpu.executionState = .stopped ∨
  cpu.executionState = .zombieStopped ∨ ∃ n, cpu.executionState = .speedSwitchPause n

theorem control_advanceDelayedImeEnable (cpu : CpuCore) :
    cpu.clearInFlightInstructionState.advanceDelayedImeEnable.control = cpu.control.finish := by
  rcases cpu with ⟨m, su, r, state, fl, ime, halt, ba, ae, div, sw⟩
  cases ime with
  | disabled => rfl
  | enabled => rfl
  | disabledPendingEnable n =>
      by_cases h : n > 1
      · simp [clearInFlightInstructionState, advanceDelayedImeEnable, control, CpuControl.finish,
          ImeState.advance, h, InFlightInstruction.clear, InFlightInstruction.clearDecodedState]
      · simp [clearInFlightInstructionState, advanceDelayedImeEnable, control, CpuControl.finish,
          ImeState.advance, h, InFlightInstruction.clear, InFlightInstruction.clearDecodedState,
          setImeEnabled]
  | enabledPendingEnable n =>
      by_cases h : n > 1
      · simp [clearInFlightInstructionState, advanceDelayedImeEnable, control, CpuControl.finish,
          ImeState.advance, h, InFlightInstruction.clear, InFlightInstruction.clearDecodedState]
      · simp [clearInFlightInstructionState, advanceDelayedImeEnable, control, CpuControl.finish,
          ImeState.advance, h, InFlightInstruction.clear, InFlightInstruction.clearDecodedState,
          setImeEnabled]

theorem control_finishInstruction (cpu : CpuCore) :
    cpu.finishInstruction.control = cpu.control.finish := cpu.control_advanceDelayedImeEnable

theorem control_finishAndRequestHalt (cpu : CpuCore) :
    cpu.finishAndRequestHalt.control = cpu.control.finishHalt := by
  have hhalt : cpu.finishAndRequestHalt.control =
      { cpu.clearInFlightInstructionState.advanceDelayedImeEnable.control with
        haltControl := .pendingRequest ⟨cpu.ime, cpu.delayedImeEnable⟩ } := rfl
  rw [hhalt, control_advanceDelayedImeEnable]
  rfl

/-! ## A machine cycle of an instruction -/

/-- What a machine cycle makes of a core `x` in the execute stage. -/
inductive MachineCycleResult (x y : CpuCore) : Prop
  | continues (step t : Nat) (hstate : y.executionState = .execute step t)
      (ht : t ≤ lastMachineCycleT) (hcontrol : y.control = x.control)
  | ends (hended : y.Ended) (hcontrol : y.control = x.control.finish)
      (hkind : x.inFlight.kind ≠ some .returnFromInterrupt)
  | returns (hstate : y.executionState = .fetch)
      (hcontrol : y.control = { x.control.finish with imeState := .enabled })
      (hkind : x.inFlight.kind = some .returnFromInterrupt)
  | halts (hstate : y.executionState = .fetch) (hcontrol : y.control = x.control.finishHalt)
      (hkind : x.inFlight.kind = some .stop)

section MachineCycle

variable {x y : CpuCore}

theorem result_stays (step : Nat) (hstate : x.executionState = .execute step lastMachineCycleT) :
    MachineCycleResult x x :=
  .continues step _ hstate (Nat.le_refl _) rfl

theorem result_advance (hy : y.control = x.control) (step : Nat) :
    MachineCycleResult x (y.advanceInstruction step) :=
  .continues step 0 rfl (Nat.zero_le _) hy

theorem result_stall (hy : y.control = x.control) (step : Nat) :
    MachineCycleResult x (y.stallInstruction step) :=
  .continues step lastMachineCycleT rfl (Nat.le_refl _) hy

theorem result_finish (hy : y.control = x.control)
    (hkind : x.inFlight.kind ≠ some .returnFromInterrupt) :
    MachineCycleResult x y.finishInstruction :=
  .ends (.inl rfl) (by rw [control_finishInstruction, hy]) hkind

variable {σ : Type} (bus : CpuExternalCallback σ)

theorem result_executeLoad (hhalt : x.haltControl = .idle) {step : Nat}
    (hstate : x.executionState = .execute step lastMachineCycleT) {kind : CpuInstructionKind}
    (hkind : x.inFlight.kind ≠ some .returnFromInterrupt) (s : σ) :
    MachineCycleResult x (executeLoadMachineCycle bus x kind step s).1 := by
  have hspend : x.control.spendHaltBug = x.control := CpuControl.spendHaltBug_of_idle hhalt
  cases kind <;> simp only [executeLoadMachineCycle]
  all_goals first
    | exact result_stays step hstate
    | (split <;> first
        | exact result_finish (by simp [hspend]) hkind
        | exact result_advance (by simp [hspend]) _
        | exact result_stall rfl _)

theorem result_executeArithmetic (hhalt : x.haltControl = .idle) {step : Nat}
    (hstate : x.executionState = .execute step lastMachineCycleT) {kind : CpuInstructionKind}
    (hkind : x.inFlight.kind ≠ some .returnFromInterrupt) (s : σ) :
    MachineCycleResult x (executeArithmeticMachineCycle bus x kind step s).1 := by
  have hspend : x.control.spendHaltBug = x.control := CpuControl.spendHaltBug_of_idle hhalt
  cases kind <;> simp only [executeArithmeticMachineCycle]
  all_goals first
    | exact result_stays step hstate
    | (split <;> first
        | exact result_finish (by simp [hspend]) hkind
        | exact result_advance (by simp [hspend]) _
        | exact result_stall rfl _)

theorem result_executeStack {step : Nat}
    (hstate : x.executionState = .execute step lastMachineCycleT) {kind : CpuInstructionKind}
    (hkind : x.inFlight.kind ≠ some .returnFromInterrupt) (s : σ) :
    MachineCycleResult x (executeStackMachineCycle bus x kind step s).1 := by
  cases kind <;> simp only [executeStackMachineCycle]
  all_goals first
    | exact result_stays step hstate
    | (split <;> first
        | exact result_finish (by simp) hkind
        | exact result_advance (by simp) _
        | exact result_stall rfl _)

theorem control_of_applyCbOperation {kind : CbInstructionKind} {v : U8} {result : Option U8}
    (heq : x.applyCbOperation kind v = (result, y)) : y.control = x.control := by
  have hcontrol := x.control_applyCbOperation kind v
  rwa [heq] at hcontrol

theorem result_executeCbPrefixed (hhalt : x.haltControl = .idle) {step : Nat}
    (hkind : x.inFlight.kind ≠ some .returnFromInterrupt) (s : σ) :
    MachineCycleResult x (executeCbPrefixedMachineCycle bus x step s).1 := by
  have hspend : x.control.spendHaltBug = x.control := CpuControl.spendHaltBug_of_idle hhalt
  simp only [executeCbPrefixedMachineCycle]
  split
  · split
    · split
      · next heq => exact result_finish (by simp [control_of_applyCbOperation heq, hspend]) hkind
      · next heq => exact result_finish (by simp [control_of_applyCbOperation heq, hspend]) hkind
    · exact result_advance (by simp [hspend]) _
  · split
    · split
      · split
        · next heq => exact result_advance (by simp [control_of_applyCbOperation heq]) _
        · next heq => exact result_finish (by simp [control_of_applyCbOperation heq]) hkind
      · exact result_stall rfl _
    · exact result_stall rfl _
  · split
    · split
      · exact result_finish (by simp) hkind
      · exact result_stall rfl _
    · exact result_stall rfl _
  · exact result_stall rfl _

/-- STOP either ends, in one of the states it can end in, or becomes a HALT. -/
theorem result_executeStop (hhalt : x.haltControl = .idle) (hkind : x.inFlight.kind = some .stop)
    (s : σ) : MachineCycleResult x (executeStop bus x s).1 := by
  have hspend : x.control.spendHaltBug = x.control := CpuControl.spendHaltBug_of_idle hhalt
  have hother : x.inFlight.kind ≠ some .returnFromInterrupt := by
    rw [hkind]
    exact fun h => nomatch h
  simp only [executeStop]
  split
  · refine .ends (.inr (.inr (.inr ⟨_, rfl⟩))) ?_ hother
    exact (control_advanceDelayedImeEnable _).trans (by simp [hspend])
  · split
    · exact result_finish (by simp) hother
    · refine .ends (.inr (.inl rfl)) ?_ hother
      exact (control_advanceDelayedImeEnable _).trans (by simp [hspend])
    · refine .ends (.inr (.inr (.inl rfl))) ?_ hother
      exact (control_advanceDelayedImeEnable _).trans (by simp)
    · refine .halts rfl ?_ hkind
      rw [control_finishAndRequestHalt]
      simp [hspend]

theorem result_executeControlFlow (hhalt : x.haltControl = .idle) {step : Nat}
    (hstate : x.executionState = .execute step lastMachineCycleT) {kind : CpuInstructionKind}
    (hkind : x.inFlight.kind = some kind) (s : σ) :
    MachineCycleResult x (executeControlFlowMachineCycle bus x kind step s).1 := by
  have hspend : x.control.spendHaltBug = x.control := CpuControl.spendHaltBug_of_idle hhalt
  cases kind with
  | stop =>
      simp only [executeControlFlowMachineCycle]
      split
      · exact result_executeStop bus hhalt hkind s
      · exact result_stall rfl _
  | returnFromInterrupt =>
      simp only [executeControlFlowMachineCycle]
      split
      · exact result_advance (by simp) _
      · exact result_advance (by simp) _
      · exact .returns rfl (control_finishInstruction _) hkind
      · exact result_stall rfl _
  | conditionalRelativeJump | conditionalAbsoluteJump | conditionalCall | conditionalReturn =>
      have hother : x.inFlight.kind ≠ some .returnFromInterrupt := by
        rw [hkind]
        intro h
        cases h
      simp only [executeControlFlowMachineCycle]
      split <;> (try split) <;> first
        | exact result_finish (by simp [hspend]) hother
        | exact result_advance (by simp [hspend]) _
        | exact result_stall rfl _
  | relativeJump | absoluteJump | call | ret | restart =>
      have hother : x.inFlight.kind ≠ some .returnFromInterrupt := by
        rw [hkind]
        intro h
        cases h
      simp only [executeControlFlowMachineCycle]
      split <;> first
        | exact result_finish (by simp) hother
        | exact result_advance (by simp [hspend]) _
        | exact result_stall rfl _
  | _ => exact result_stays step hstate

/-- The in-flight record of an instruction that the decoder has produced. -/
def InFlightOf (cpu : CpuCore) (opcode : U8) (kind : CpuInstructionKind) : Prop :=
  cpu.inFlight.opcode = some opcode ∧ decodeFetchedOpcode opcode = .execute kind ∧
  cpu.inFlight.kind = some kind ∧ cpu.inFlight.executionGroup = some kind.executionGroup

theorem result_completeExecute (hhalt : x.haltControl = .idle) {step : Nat}
    (hstate : x.executionState = .execute step lastMachineCycleT) {opcode : U8}
    {kind : CpuInstructionKind} (hflight : x.InFlightOf opcode kind) (s : σ) :
    MachineCycleResult x (completeExecuteMachineCycle bus x step s).1 := by
  obtain ⟨-, -, hkind, hgroup⟩ := hflight
  have hdescriptor : x.inFlight.executionDescriptor = some (kind, kind.executionGroup) := by
    simp only [InFlightInstruction.executionDescriptor, hkind, hgroup]
  have hother : kind.executionGroup ≠ .controlFlow → x.inFlight.kind ≠ some .returnFromInterrupt := by
    intro hgroup heq
    rw [hkind, Option.some.injEq] at heq
    rw [heq] at hgroup
    exact hgroup rfl
  rw [completeExecuteMachineCycle, hdescriptor]
  cases hgroup' : kind.executionGroup with
  | load =>
      exact result_executeLoad bus hhalt hstate (hother (by rw [hgroup']; exact fun h => nomatch h)) s
  | arithmetic =>
      exact result_executeArithmetic bus hhalt hstate
        (hother (by rw [hgroup']; exact fun h => nomatch h)) s
  | controlFlow => exact result_executeControlFlow bus hhalt hstate hkind s
  | stack =>
      exact result_executeStack bus hstate (hother (by rw [hgroup']; exact fun h => nomatch h)) s
  | cbPrefixed =>
      exact result_executeCbPrefixed bus hhalt (hother (by rw [hgroup']; exact fun h => nomatch h)) s

end MachineCycle

/-! ## The opcode fetch -/

/-- The opcodes that act on `IME` or stop the core. -/
theorem decodeFetchedOpcode_special (opcode : U8) :
    (decodeFetchedOpcode opcode = .completeOnFetch .disableInterrupts ↔ opcode = 0xF3) ∧
    (decodeFetchedOpcode opcode = .completeOnFetch .enableInterrupts ↔ opcode = 0xFB) ∧
    (decodeFetchedOpcode opcode = .completeOnFetch .halt ↔ opcode = 0x76) ∧
    (decodeFetchedOpcode opcode = .completeOnFetch .jumpHl ↔ opcode = 0xE9) ∧
    (decodeFetchedOpcode opcode = .execute .returnFromInterrupt ↔ opcode = 0xD9) ∧
    (decodeFetchedOpcode opcode = .execute .stop ↔ opcode = 0x10) := by
  revert opcode
  decide +kernel

/-- What the fetch of `opcode` makes of a core with control `c`. -/
inductive FetchResult (c : CpuControl) (opcode : U8) (y : CpuCore) : Prop
  | begins (kind : CpuInstructionKind) (hstate : y.executionState = .execute 0 0)
      (hdecode : decodeFetchedOpcode opcode = .execute kind)
      (hcontrol : y.control = { c with opcode := some opcode, kind := some kind, executionGroup := some kind.executionGroup })
  | traps (trap : CpuDiagnosticTrap) (hstate : y.executionState = .diagnosticTrap trap)
      (hcontrol : y.control.imeState = c.imeState ∧ y.control.haltControl = c.haltControl)
  | ends (hstate : y.executionState = .fetch) (hcontrol : y.control = c.finish)
      (hopcode : opcode ≠ 0xF3 ∧ opcode ≠ 0xFB ∧ opcode ≠ 0x76 ∧ opcode ≠ 0xD9)
  | disables (hstate : y.executionState = .fetch)
      (hcontrol : y.control = { c.finish with imeState := .disabled }) (hopcode : opcode = 0xF3)
  | enables (hstate : y.executionState = .fetch)
      (hcontrol : y.control = { c.finish with
        imeState := if c.imeState.delayedEnablePending then c.imeState.advance
          else if c.imeState.imeEnabled then .enabledPendingEnable 1 else .disabledPendingEnable 1 })
      (hopcode : opcode = 0xFB)
  | halts (hstate : y.executionState = .fetch) (hcontrol : y.control = c.finishHalt)
      (hopcode : opcode = 0x76)

theorem fetch_completion {cpu : CpuCore} {opcode : U8} {completion : FetchCompletionKind}
    (hdecode : decodeFetchedOpcode opcode = .completeOnFetch completion) :
    FetchResult cpu.control opcode (cpu.completeFetchCompletion completion) := by
  obtain ⟨hdi, hei, hhalt, -, hreti, -⟩ := decodeFetchedOpcode_special opcode
  have hends : completion ≠ .disableInterrupts → completion ≠ .enableInterrupts →
      completion ≠ .halt → opcode ≠ 0xF3 ∧ opcode ≠ 0xFB ∧ opcode ≠ 0x76 ∧ opcode ≠ 0xD9 := by
    intro h₁ h₂ h₃
    rw [Ne, ← hdi, Ne, ← hei, Ne, ← hhalt, Ne, ← hreti, hdecode]
    exact ⟨fun h => h₁ (by cases h; rfl), fun h => h₂ (by cases h; rfl),
      fun h => h₃ (by cases h; rfl), fun h => nomatch h⟩
  have hfinish : ∀ y : CpuCore, y.control = cpu.control → completion ≠ .disableInterrupts →
      completion ≠ .enableInterrupts → completion ≠ .halt →
      FetchResult cpu.control opcode y.finishInstruction := by
    intro y hy h₁ h₂ h₃
    exact .ends rfl (by rw [control_finishInstruction, hy]) (hends h₁ h₂ h₃)
  cases completion with
  | halt => exact .halts rfl (control_finishAndRequestHalt cpu) (hhalt.mp hdecode)
  | disableInterrupts => exact .disables rfl (control_finishInstruction _) (hdi.mp hdecode)
  | enableInterrupts =>
      refine .enables rfl ((control_finishInstruction _).trans ?_) (hei.mp hdecode)
      rcases cpu with ⟨m, su, r, state, fl, ime, halt, ba, ae, div, sw⟩
      cases ime <;> rfl
  | rotateLeftAccumulatorCarry | rotateLeftAccumulatorThroughCarry
  | rotateRightAccumulatorCarry | rotateRightAccumulatorThroughCarry =>
      exact hfinish _ rfl (fun h => nomatch h) (fun h => nomatch h) (fun h => nomatch h)
  | _ => exact hfinish _ (by simp) (fun h => nomatch h) (fun h => nomatch h) (fun h => nomatch h)

/-- The control at the end of an opcode fetch, before the opcode is looked at. -/
def fetchedControl (cpu : CpuCore) (opcode : U8) : CpuControl :=
  { cpu.control.spendHaltBug with opcode := some opcode }

section Fetch

variable {σ : Type} (bus : CpuExternalCallback σ)

theorem fetch_decoded {cpu : CpuCore} (opcode : U8) :
    FetchResult cpu.control opcode (cpu.completeDecodedFetch opcode) := by
  unfold completeDecodedFetch
  split
  · next completion hdecode => exact fetch_completion hdecode
  · next kind hdecode => exact .begins kind rfl hdecode rfl
  · exact .traps _ rfl ⟨rfl, rfl⟩

theorem fetch_completeFetchOpcode (cpu : CpuCore) (s : σ) :
    FetchResult (cpu.fetchedControl (bus.read cpu.registers.pc s).1) (bus.read cpu.registers.pc s).1
      (completeFetchOpcode bus cpu s).1 := by
  have hread : (readOpcodeU8 bus cpu s).1 = (bus.read cpu.registers.pc s).1 := by
    rcases cpu with ⟨m, su, r, state, fl, ime, halt, ba, ae, div, sw⟩
    cases halt <;> rfl
  have hcontrol := cpu.control_readOpcodeU8 bus s
  rw [completeFetchOpcode]
  generalize readOpcodeU8 bus cpu s = x at hread hcontrol ⊢
  obtain ⟨opcode, cpu', s'⟩ := x
  dsimp only at hread hcontrol ⊢
  have hfetched : CpuCore.control { cpu' with inFlight := { cpu'.inFlight with opcode := some opcode } } =
      cpu.fetchedControl opcode := by
    rw [fetchedControl, ← hcontrol]
    rfl
  rw [← hread, ← hfetched]
  split
  · next hstop =>
      split
      · refine .ends rfl (control_finishInstruction _) ?_
        rw [hstop]
        decide
      · exact fetch_decoded opcode
  · exact fetch_decoded opcode

end Fetch

/-! ## The invariant of the core between T-cycles -/

/-- What the core has in flight in each execution state. -/
def FlightSettled (cpu : CpuCore) : Prop :=
  match cpu.executionState with
  | .execute _ t =>
      t ≤ lastMachineCycleT ∧ cpu.haltControl = .idle ∧ ∃ opcode kind, cpu.InFlightOf opcode kind
  | .diagnosticTrap _ => cpu.haltControl = .idle
  | .fetchOpcode t => t ≤ lastMachineCycleT ∧ cpu.inFlight.opcode = none
  | _ => cpu.haltControl = .idle ∧ cpu.inFlight.opcode = none

/-- What holds of the core after every T-cycle: EI has at most the next instruction to wait
for, a request to halt is at the boundary it was made at and knows what `IME` was, and the halt
bug is only pending with interrupts disabled. -/
structure Settled (cpu : CpuCore) : Prop where
  flight : cpu.FlightSettled
  ime : cpu.imeState = .disabled ∨ cpu.imeState = .enabled ∨
    cpu.imeState = .disabledPendingEnable 1 ∨ cpu.imeState = .enabledPendingEnable 1
  request : ∀ r, cpu.haltControl = .pendingRequest r → cpu.executionState = .fetch ∧
    cpu.imeState = if r.imeEnabled || r.hadPendingEi then .enabled else .disabled
  bug : cpu.haltControl = .haltBugPending → cpu.imeState = .disabled

/-- `IME` and whether an EI has just been executed, as the programmer knows them. -/
structure ImeStatus where
  ime : Bool
  afterEi : Bool
  deriving Repr, DecidableEq

def imeStatus (cpu : CpuCore) : ImeStatus := ⟨cpu.ime, cpu.delayedImeEnable⟩

/-- DI clears `IME` and RETI sets it at their own end; the instruction after an EI, whatever it
is otherwise, sets it at its end. -/
def ImeStatus.retire (status : ImeStatus) (opcode : U8) : ImeStatus :=
  if opcode = 0xF3 then ⟨false, false⟩
  else if opcode = 0xD9 then ⟨true, false⟩
  else if status.afterEi then ⟨true, false⟩
  else if opcode = 0xFB then ⟨status.ime, true⟩
  else status

section Tick

variable {σ : Type} (bus : CpuExternalCallback σ)

/-- `opcode`, if the core has left the execute stage with it. -/
def endOf (after : CpuCore) (opcode : Option U8) : Option U8 :=
  match after.executionState with
  | .execute _ _ | .diagnosticTrap _ => none
  | _ => opcode

/-- The opcode of the instruction that a T-cycle of the core ends. -/
def retired (cpu : CpuCore) (s : σ) : Option U8 :=
  match cpu.executionState with
  | .fetchOpcode t =>
      if t < lastMachineCycleT then none
      else (cpu.tickTCycle bus s).1.endOf (some (bus.read cpu.registers.pc s).1)
  | .execute _ _ => (cpu.tickTCycle bus s).1.endOf cpu.inFlight.opcode
  | _ => none

/-! ## One T-cycle -/

theorem settled_of_idle {y : CpuCore} (hhalt : y.haltControl = .idle) (hflight : y.FlightSettled)
    (hime : y.imeState = .disabled ∨ y.imeState = .enabled ∨
      y.imeState = .disabledPendingEnable 1 ∨ y.imeState = .enabledPendingEnable 1) :
    y.Settled := by
  refine ⟨hflight, hime, fun r hr => ?_, fun hbug => ?_⟩
  · rw [hhalt] at hr
    cases hr
  · rw [hhalt] at hbug
    cases hbug

/-- The end of an instruction other than DI, EI, RETI. -/
theorem advance_cases {i : ImeState} (h : i = .disabled ∨ i = .enabled ∨
    i = .disabledPendingEnable 1 ∨ i = .enabledPendingEnable 1) {opcode : U8}
    (hopcode : opcode ≠ 0xF3 ∧ opcode ≠ 0xFB ∧ opcode ≠ 0xD9) :
    i.advance = (if i.imeEnabled || i.delayedEnablePending then .enabled else .disabled) ∧
    ImeStatus.mk i.advance.imeEnabled i.advance.delayedEnablePending =
      ImeStatus.retire ⟨i.imeEnabled, i.delayedEnablePending⟩ opcode := by
  obtain ⟨hdi, hei, hreti⟩ := hopcode
  unfold ImeStatus.retire
  rw [if_neg hdi, if_neg hreti, if_neg hei]
  rcases h with rfl | rfl | rfl | rfl
  · exact ⟨rfl, rfl⟩
  · exact ⟨rfl, rfl⟩
  · exact ⟨rfl, rfl⟩
  · exact ⟨rfl, rfl⟩

/-- What a T-cycle of the core does: the invariant is kept, `IME` moves with the instruction
that the T-cycle ends, and a HALT leaves its request. -/
structure TickResult (cpu y : CpuCore) (retired : Option U8) : Prop where
  settled : y.Settled
  status : y.imeStatus = retired.elim cpu.imeStatus cpu.imeStatus.retire
  halt : retired = some 0x76 → y.executionState = .fetch ∧
    y.haltControl = .pendingRequest ⟨cpu.ime, cpu.delayedImeEnable⟩
  request : y.haltRequestPending = true → retired = some 0x76 ∨ retired = some 0x10

theorem tickResult_of_idle {cpu y : CpuCore} (hime : y.imeState = cpu.imeState)
    (hhalt : y.haltControl = .idle) (hflight : y.FlightSettled) (h : cpu.Settled) :
    TickResult cpu y none where
  settled := settled_of_idle hhalt hflight (by rw [hime]; exact h.ime)
  status := by rw [imeStatus, ime, delayedImeEnable, hime]; rfl
  halt hnone := nomatch hnone
  request hpending := by rw [haltRequestPending, hhalt] at hpending; cases hpending

/-- A T-cycle that ends an instruction with `finish`. -/
theorem tickResult_of_finish {cpu y : CpuCore} {opcode : U8} (h : cpu.Settled)
    (hended : y.Ended) (hime : y.imeState = cpu.imeState.advance) (hhalt : y.haltControl = .idle)
    (hflight : y.inFlight.opcode = none)
    (hopcode : opcode ≠ 0xF3 ∧ opcode ≠ 0xFB ∧ opcode ≠ 0xD9) (hhaltOpcode : opcode ≠ 0x76) :
    TickResult cpu y (some opcode) := by
  obtain ⟨hadvance, hstatus⟩ := advance_cases h.ime hopcode
  refine ⟨settled_of_idle hhalt ?_ ?_, ?_, fun heq => ?_, fun hpending => ?_⟩
  · unfold FlightSettled
    rcases hended with hstate | hstate | hstate | ⟨n, hstate⟩ <;> rw [hstate]
    · exact ⟨Nat.zero_le _, hflight⟩
    · exact ⟨hhalt, hflight⟩
    · exact ⟨hhalt, hflight⟩
    · exact ⟨hhalt, hflight⟩
  · rw [hime, hadvance]
    split
    · exact .inr (.inl rfl)
    · exact .inl rfl
  · rw [imeStatus, ime, delayedImeEnable, hime]
    exact hstatus
  · exact absurd (Option.some.inj heq) hhaltOpcode
  · rw [haltRequestPending, hhalt] at hpending
    cases hpending

/-- A T-cycle that ends an instruction with a request to halt. -/
theorem tickResult_of_finishHalt {cpu y : CpuCore} {opcode : U8} (h : cpu.Settled)
    (hstate : y.executionState = .fetch) (hime : y.imeState = cpu.imeState.advance)
    (hhalt : y.haltControl = .pendingRequest ⟨cpu.ime, cpu.delayedImeEnable⟩)
    (hflight : y.inFlight.opcode = none) (hopcode : opcode = 0x76 ∨ opcode = 0x10) :
    TickResult cpu y (some opcode) := by
  have hother : opcode ≠ 0xF3 ∧ opcode ≠ 0xFB ∧ opcode ≠ 0xD9 := by
    rcases hopcode with rfl | rfl
    · decide
    · decide
  obtain ⟨hadvance, hstatus⟩ := advance_cases h.ime hother
  refine ⟨⟨?_, ?_, fun r hr => ?_, fun hbug => ?_⟩, ?_, fun _ => ⟨hstate, hhalt⟩, fun _ => ?_⟩
  · unfold FlightSettled
    rw [hstate]
    exact ⟨Nat.zero_le _, hflight⟩
  · rw [hime, hadvance]
    split
    · exact .inr (.inl rfl)
    · exact .inl rfl
  · rw [hhalt] at hr
    cases hr
    exact ⟨hstate, hime.trans hadvance⟩
  · rw [hhalt] at hbug
    cases hbug
  · rw [imeStatus, ime, delayedImeEnable, hime]
    exact hstatus
  · rcases hopcode with rfl | rfl
    · exact .inl rfl
    · exact .inr rfl

theorem idle_of_not_pending {cpu : CpuCore} (hpending : cpu.haltRequestPending = false) :
    cpu.control.spendHaltBug.haltControl = .idle := by
  rcases cpu with ⟨m, su, r, state, fl, ime, halt, ba, ae, div, sw⟩
  cases halt with
  | pendingRequest => cases hpending
  | idle => rfl
  | haltBugPending => rfl

theorem tickResult_fetch {cpu y : CpuCore} (h : cpu.Settled)
    (hpending : cpu.haltRequestPending = false) {opcode : U8}
    (hfetch : FetchResult (cpu.fetchedControl opcode) opcode y) :
    TickResult cpu y (y.endOf (some opcode)) := by
  have hidle : (cpu.fetchedControl opcode).haltControl = .idle := idle_of_not_pending hpending
  cases hfetch with
  | begins kind hstate hdecode hcontrol =>
      have hime : y.imeState = cpu.imeState := congrArg CpuControl.imeState hcontrol
      have hhalt : y.haltControl = .idle := (congrArg CpuControl.haltControl hcontrol).trans hidle
      rw [endOf, hstate]
      refine tickResult_of_idle hime hhalt ?_ h
      unfold FlightSettled
      rw [hstate]
      exact ⟨Nat.zero_le _, hhalt, opcode, kind, congrArg CpuControl.opcode hcontrol, hdecode,
        congrArg CpuControl.kind hcontrol, congrArg CpuControl.executionGroup hcontrol⟩
  | traps trap hstate hcontrol =>
      rw [endOf, hstate]
      have hhalt : y.haltControl = .idle := hcontrol.2.trans hidle
      refine tickResult_of_idle hcontrol.1 hhalt ?_ h
      unfold FlightSettled
      rw [hstate]
      exact hhalt
  | ends hstate hcontrol hopcode =>
      rw [endOf, hstate]
      exact tickResult_of_finish h (.inl hstate) (congrArg CpuControl.imeState hcontrol)
        ((congrArg CpuControl.haltControl hcontrol).trans hidle) (congrArg CpuControl.opcode hcontrol)
        ⟨hopcode.1, hopcode.2.1, hopcode.2.2.2⟩ hopcode.2.2.1
  | halts hstate hcontrol hopcode =>
      rw [endOf, hstate]
      exact tickResult_of_finishHalt h hstate (congrArg CpuControl.imeState hcontrol)
        (congrArg CpuControl.haltControl hcontrol) (congrArg CpuControl.opcode hcontrol)
        (.inl hopcode)
  | disables hstate hcontrol hopcode =>
      rw [endOf, hstate]
      subst hopcode
      have hime : y.imeState = .disabled := congrArg CpuControl.imeState hcontrol
      have hhalt : y.haltControl = .idle := (congrArg CpuControl.haltControl hcontrol).trans hidle
      refine ⟨settled_of_idle hhalt ?_ (.inl hime), ?_, fun heq => ?_, fun hrequest => ?_⟩
      · unfold FlightSettled
        rw [hstate]
        exact ⟨Nat.zero_le _, congrArg CpuControl.opcode hcontrol⟩
      · rw [imeStatus, ime, delayedImeEnable, hime]
        rfl
      · exact absurd (Option.some.inj heq) (by decide)
      · rw [haltRequestPending, hhalt] at hrequest
        cases hrequest
  | enables hstate hcontrol hopcode =>
      rw [endOf, hstate]
      subst hopcode
      have hime : y.imeState = if cpu.imeState.delayedEnablePending then cpu.imeState.advance
          else if cpu.imeState.imeEnabled then .enabledPendingEnable 1
          else .disabledPendingEnable 1 := congrArg CpuControl.imeState hcontrol
      have hhalt : y.haltControl = .idle := (congrArg CpuControl.haltControl hcontrol).trans hidle
      have hcases : (y.imeState = .disabled ∨ y.imeState = .enabled ∨
          y.imeState = .disabledPendingEnable 1 ∨ y.imeState = .enabledPendingEnable 1) ∧
          ImeStatus.mk y.imeState.imeEnabled y.imeState.delayedEnablePending =
            ImeStatus.retire ⟨cpu.imeState.imeEnabled, cpu.imeState.delayedEnablePending⟩ 0xFB := by
        rw [hime]
        rcases h.ime with hi | hi | hi | hi <;> rw [hi]
        · exact ⟨.inr (.inr (.inl rfl)), rfl⟩
        · exact ⟨.inr (.inr (.inr rfl)), rfl⟩
        · exact ⟨.inr (.inl rfl), rfl⟩
        · exact ⟨.inr (.inl rfl), rfl⟩
      refine ⟨settled_of_idle hhalt ?_ hcases.1, hcases.2, fun heq => ?_, fun hrequest => ?_⟩
      · unfold FlightSettled
        rw [hstate]
        exact ⟨Nat.zero_le _, congrArg CpuControl.opcode hcontrol⟩
      · exact absurd (Option.some.inj heq) (by decide)
      · rw [haltRequestPending, hhalt] at hrequest
        cases hrequest

theorem tickResult_execute {cpu y : CpuCore} (h : cpu.Settled) {opcode : U8}
    {kind : CpuInstructionKind} (hhalt : cpu.haltControl = .idle)
    (hflight : cpu.InFlightOf opcode kind) (hresult : MachineCycleResult cpu y) :
    TickResult cpu y (y.endOf (some opcode)) := by
  obtain ⟨hdi, hei, hhaltOpcode, -, hreti, hstop⟩ := decodeFetchedOpcode_special opcode
  obtain ⟨hopcode, hdecode, hkind, hgroup⟩ := hflight
  have hfetch : opcode ≠ 0xF3 ∧ opcode ≠ 0xFB ∧ opcode ≠ 0x76 := by
    rw [Ne, ← hdi, Ne, ← hei, Ne, ← hhaltOpcode, hdecode]
    refine ⟨?_, ?_, ?_⟩ <;> exact fun h => nomatch h
  cases hresult with
  | continues step t hstate ht hcontrol =>
      rw [endOf, hstate]
      have hidle : y.haltControl = .idle := (congrArg CpuControl.haltControl hcontrol).trans hhalt
      refine tickResult_of_idle (congrArg CpuControl.imeState hcontrol) hidle ?_ h
      unfold FlightSettled
      rw [hstate]
      exact ⟨ht, hidle, opcode, kind, (congrArg CpuControl.opcode hcontrol).trans hopcode, hdecode,
        (congrArg CpuControl.kind hcontrol).trans hkind,
        (congrArg CpuControl.executionGroup hcontrol).trans hgroup⟩
  | ends hended hcontrol hother =>
      have hnot : opcode ≠ 0xD9 := by
        rw [Ne, ← hreti, hdecode]
        intro heq
        cases heq
        exact hother hkind
      have hresult := tickResult_of_finish h hended (congrArg CpuControl.imeState hcontrol)
        ((congrArg CpuControl.haltControl hcontrol).trans hhalt)
        (congrArg CpuControl.opcode hcontrol) ⟨hfetch.1, hfetch.2.1, hnot⟩ hfetch.2.2
      unfold endOf
      rcases hended with hstate | hstate | hstate | ⟨n, hstate⟩ <;> rw [hstate] <;> exact hresult
  | returns hstate hcontrol hreturn =>
      have heq : opcode = 0xD9 := by
        rw [← hreti, hdecode]
        rw [hkind, Option.some.injEq] at hreturn
        rw [hreturn]
      subst heq
      rw [endOf, hstate]
      have hime : y.imeState = .enabled := congrArg CpuControl.imeState hcontrol
      have hidle : y.haltControl = .idle := (congrArg CpuControl.haltControl hcontrol).trans hhalt
      refine ⟨settled_of_idle hidle ?_ (.inr (.inl hime)), ?_, fun heq => ?_, fun hrequest => ?_⟩
      · unfold FlightSettled
        rw [hstate]
        exact ⟨Nat.zero_le _, congrArg CpuControl.opcode hcontrol⟩
      · rw [imeStatus, ime, delayedImeEnable, hime]
        rfl
      · exact absurd (Option.some.inj heq) (by decide)
      · rw [haltRequestPending, hidle] at hrequest
        cases hrequest
  | halts hstate hcontrol hstopKind =>
      have heq : opcode = 0x10 := by
        rw [← hstop, hdecode]
        rw [hkind, Option.some.injEq] at hstopKind
        rw [hstopKind]
      rw [endOf, hstate]
      exact tickResult_of_finishHalt h hstate (congrArg CpuControl.imeState hcontrol)
        (congrArg CpuControl.haltControl hcontrol) (congrArg CpuControl.opcode hcontrol)
        (.inr heq)

/-! ### The services -/

theorem service_keeps (cpu : CpuCore) (source : InterruptSource) (step : Nat) (s : σ)
    (hflight : cpu.inFlight.opcode = none) :
    let y := (completeInterruptServiceMachineCycle bus cpu source step s).1
    y.imeState = cpu.imeState ∧ y.haltControl = cpu.haltControl ∧ y.inFlight.opcode = none ∧
    (y.executionState = .fetch ∨
      ∃ source step, y.executionState = .serviceInterrupt source step 0) := by
  simp only [completeInterruptServiceMachineCycle]
  split
  · exact ⟨rfl, rfl, hflight, .inr ⟨_, _, rfl⟩⟩
  · exact ⟨rfl, rfl, hflight, .inr ⟨_, _, rfl⟩⟩
  · exact ⟨rfl, rfl, hflight, .inr ⟨_, _, rfl⟩⟩
  · split
    · split
      · exact ⟨rfl, rfl, hflight, .inr ⟨_, _, rfl⟩⟩
      · exact ⟨rfl, rfl, rfl, .inl rfl⟩
    · exact ⟨rfl, rfl, hflight, .inr ⟨_, _, rfl⟩⟩
  · exact ⟨rfl, rfl, rfl, .inl rfl⟩
  · exact ⟨rfl, rfl, hflight, .inr ⟨_, _, rfl⟩⟩

theorem stopWake_keeps (cpu : CpuCore) (step : Nat) (s : σ) (hflight : cpu.inFlight.opcode = none) :
    let y := (completeStopWakeBuggedInterruptServiceMachineCycle bus cpu step s).1
    y.imeState = cpu.imeState ∧ y.haltControl = cpu.haltControl ∧ y.inFlight.opcode = none ∧
    (y.executionState = .fetch ∨
      ∃ step, y.executionState = .serviceStopWakeBuggedInterrupt step 0) := by
  simp only [completeStopWakeBuggedInterruptServiceMachineCycle]
  split
  · exact ⟨rfl, rfl, hflight, .inr ⟨_, rfl⟩⟩
  · exact ⟨rfl, rfl, hflight, .inr ⟨_, rfl⟩⟩
  · exact ⟨rfl, rfl, hflight, .inr ⟨_, rfl⟩⟩
  · exact ⟨rfl, rfl, hflight, .inr ⟨_, rfl⟩⟩
  · exact ⟨rfl, rfl, rfl, .inl rfl⟩
  · exact ⟨rfl, rfl, hflight, .inr ⟨_, rfl⟩⟩

/-! ### All of them -/

/-- The core at the beginning of its T-cycle. -/
theorem settled_tickDmaStallTCycle {cpu : CpuCore} (h : cpu.Settled) :
    cpu.tickDmaStallTCycle.Settled := ⟨h.flight, h.ime, h.request, h.bug⟩

/-- A T-cycle that only counts, or does nothing. -/
theorem tickResult_count {cpu : CpuCore} (h : cpu.Settled)
    (hpending : cpu.haltRequestPending = false) (state : CpuExecutionState)
    (hflight : ({ cpu with executionState := state } : CpuCore).FlightSettled) :
    TickResult cpu { cpu with executionState := state } none := by
  refine ⟨⟨hflight, h.ime, fun r hr => ?_, h.bug⟩, rfl, (fun hnone => nomatch hnone),
    fun hrequest => ?_⟩
  · have hr' : cpu.haltControl = .pendingRequest r := hr
    rw [haltRequestPending, hr'] at hpending
    cases hpending
  · have hrequest' : cpu.haltRequestPending = true := hrequest
    rw [hpending] at hrequest'
    cases hrequest'

/-- A machine cycle of a service. -/
theorem tickResult_service {cpu y : CpuCore} (h : cpu.Settled) (hhalt : cpu.haltControl = .idle)
    (hkeeps : y.imeState = cpu.imeState ∧ y.haltControl = cpu.haltControl ∧
      y.inFlight.opcode = none ∧ (y.executionState = .fetch ∨
        (∃ source step, y.executionState = .serviceInterrupt source step 0) ∨
        ∃ step, y.executionState = .serviceStopWakeBuggedInterrupt step 0)) :
    TickResult cpu y none := by
  obtain ⟨hime, hidle, hopcode, hend⟩ := hkeeps
  refine tickResult_of_idle hime (hidle.trans hhalt) ?_ h
  unfold FlightSettled
  rcases hend with hend | ⟨source, step, hend⟩ | ⟨step, hend⟩ <;> rw [hend]
  · exact ⟨Nat.zero_le _, hopcode⟩
  · exact ⟨hidle.trans hhalt, hopcode⟩
  · exact ⟨hidle.trans hhalt, hopcode⟩

/-- A T-cycle begins with the two records of the last one cleared. -/
theorem tickResult_start {cpu y : CpuCore} {opcode : Option U8}
    (h : TickResult cpu.tickDmaStallTCycle y opcode) : TickResult cpu y opcode :=
  ⟨h.settled, h.status, h.halt, h.request⟩

theorem tickResult_tickTCycle {cpu : CpuCore} (h : cpu.Settled)
    (hpending : cpu.haltRequestPending = false) (s : σ) :
    TickResult cpu (cpu.tickTCycle bus s).1 (retired bus cpu s) := by
  have hstart : cpu.tickDmaStallTCycle.Settled := ⟨h.flight, h.ime, h.request, h.bug⟩
  have hpendingStart : cpu.tickDmaStallTCycle.haltRequestPending = false := hpending
  refine tickResult_start ?_
  have hretired : retired bus cpu s = retired bus cpu.tickDmaStallTCycle s := rfl
  have htick : cpu.tickTCycle bus s = cpu.tickDmaStallTCycle.tickTCycle bus s := rfl
  rw [hretired, htick]
  rcases cpu with ⟨m, su, r, state, fl, ime, halt, ba, ae, div, sw⟩
  unfold tickDmaStallTCycle at hstart hpendingStart ⊢
  dsimp only at hstart hpendingStart ⊢
  have hflight := hstart.flight
  unfold retired tickTCycle
  cases state with
  | fetchOpcode t =>
      dsimp only
      by_cases ht : t < lastMachineCycleT
      · rw [if_pos ht, if_pos ht]
        exact tickResult_count hstart hpendingStart _ ⟨ht, hflight.2⟩
      · rw [if_neg ht, if_neg ht]
        exact tickResult_fetch hstart hpendingStart (fetch_completeFetchOpcode bus _ s)
  | execute step t =>
      obtain ⟨hle, hhalt, opcode, kind, hin⟩ := hflight
      dsimp only
      by_cases ht : t < lastMachineCycleT
      · rw [if_pos ht]
        exact tickResult_count hstart hpendingStart _ ⟨ht, hhalt, opcode, kind, hin⟩
      · rw [if_neg ht]
        obtain rfl : t = lastMachineCycleT := Nat.le_antisymm hle (Nat.le_of_not_lt ht)
        have hopcode : fl.opcode = some opcode := hin.1
        rw [hopcode]
        exact tickResult_execute hstart hhalt hin (result_completeExecute bus hhalt rfl hin s)
  | serviceInterrupt source step t =>
      dsimp only
      by_cases ht : t < lastMachineCycleT
      · rw [if_pos ht]
        exact tickResult_count hstart hpendingStart _ hflight
      · rw [if_neg ht]
        obtain ⟨hime, hidle, hopcode, hend⟩ := service_keeps bus _ source step s hflight.2
        exact tickResult_service hstart hflight.1 ⟨hime, hidle, hopcode, hend.imp_right .inl⟩
  | serviceStopWakeBuggedInterrupt step t =>
      dsimp only
      by_cases ht : t < lastMachineCycleT
      · rw [if_pos ht]
        exact tickResult_count hstart hpendingStart _ hflight
      · rw [if_neg ht]
        obtain ⟨hime, hidle, hopcode, hend⟩ := stopWake_keeps bus _ step s hflight.2
        exact tickResult_service hstart hflight.1 ⟨hime, hidle, hopcode, hend.imp_right .inr⟩
  | speedSwitchPause n =>
      dsimp only
      unfold advanceSpeedSwitchPause
      split
      · exact tickResult_count hstart hpendingStart _ ⟨Nat.zero_le _, hflight.2⟩
      · exact tickResult_count hstart hpendingStart _ hflight
  | diagnosticTrap trap => exact tickResult_count hstart hpendingStart _ hflight
  | halted => exact tickResult_count hstart hpendingStart _ hflight
  | zombieStopped => exact tickResult_count hstart hpendingStart _ hflight
  | stopped => exact tickResult_count hstart hpendingStart _ hflight

end Tick

end CpuCore

end GbCycle
