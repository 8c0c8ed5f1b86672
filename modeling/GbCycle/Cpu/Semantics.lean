import GbCycle.Cpu.FlagInvariant
import GbCycle.Cpu.Instruction

/-!
# The T-cycle core computes the SM83

The theorems of the instruction kinds are put together here.  An instruction of the
reference is one the decoder sends either to the execute stage or to a completion on its
fetch, so an opcode fetch followed by the machine cycles of its kind is an
`InstructionRun` whose end is the reference's `step`.  STOP and HALT leave the core for
other reasons and are not part of the comparison; an undefined opcode traps.
-/

namespace GbCycle

open Sm83 (Reg8 Reg16 StackReg Operand8 Cond AluOp RotOp PairAddress Instr CbInstr Flags Regs)

namespace CpuCore

variable {σ : Type} (bus : CpuExternalCallback σ)

/-! ## Every instruction, by its decoding -/

theorem implements_of_ofInstr {i : Instr} {kind : CpuInstructionKind}
    (h : DecodedOpcode.ofInstr i = .execute kind) (hstop : i ≠ .stop) :
    Implements bus kind i := by
  cases i with
  | stop => exact absurd rfl hstop
  | nop | halt | di | ei | daa | cpl | scf | ccf | jpHl | undefined => cases h
  | rotA op => cases op <;> cases h
  | ld dst x =>
      cases dst with
      | reg dst =>
          cases x with
          | reg x => cases h
          | atHl => cases h; exact loadRegisterFromHl_implements bus dst
      | atHl =>
          cases x with
          | reg x => cases h; exact storeRegisterToHl_implements bus x
          | atHl => cases h
  | ldImm dst =>
      cases dst with
      | reg dst => cases h; exact loadRegisterImmediate_implements bus dst
      | atHl => cases h; exact storeImmediateToHl_implements bus
  | ldPairImm dst => cases h; exact loadRegisterPairImmediate_implements bus dst
  | ldAFrom p =>
      cases p <;> cases h
      · exact loadAFromBc_implements bus
      · exact loadAFromDe_implements bus
      · exact loadAFromHlIncrement_implements bus
      · exact loadAFromHlDecrement_implements bus
  | ldATo p =>
      cases p <;> cases h
      · exact storeAToBc_implements bus
      · exact storeAToDe_implements bus
      · exact storeAToHlIncrement_implements bus
      · exact storeAToHlDecrement_implements bus
  | ldhAFromImm => cases h; exact loadAFromHighImmediateAddress_implements bus
  | ldhAToImm => cases h; exact storeAToHighImmediateAddress_implements bus
  | ldhAFromC => cases h; exact loadAFromHighC_implements bus
  | ldhAToC => cases h; exact storeAToHighC_implements bus
  | ldAFromAbs => cases h; exact loadAFromImmediate16Address_implements bus
  | ldAToAbs => cases h; exact storeAToImmediate16Address_implements bus
  | ldAbsSp => cases h; exact storeSpToImmediate16_implements bus
  | ldHlSp => cases h; exact loadHlFromSpPlusImmediate_implements bus
  | ldSpHl => cases h; exact loadSpFromHl_implements bus
  | addSp => cases h; exact addSpImmediate_implements bus
  | inc x =>
      cases x with
      | reg x => cases h
      | atHl => cases h; exact incrementHlMemory_implements bus
  | dec x =>
      cases x with
      | reg x => cases h
      | atHl => cases h; exact decrementHlMemory_implements bus
  | incPair x => cases h; exact incrementRegisterPair_implements bus x
  | decPair x => cases h; exact decrementRegisterPair_implements bus x
  | addHl x => cases h; exact addHl_implements bus x
  | alu op x =>
      cases x with
      | reg x => cases h
      | atHl => cases h; exact aluFromHl_implements bus op
  | aluImm op => cases h; exact aluImmediate_implements bus op
  | jr condition =>
      cases condition <;> cases h
      · exact relativeJump_implements bus
      · exact conditionalRelativeJump_implements bus _
  | jp condition =>
      cases condition <;> cases h
      · exact absoluteJump_implements bus
      · exact conditionalAbsoluteJump_implements bus _
  | call condition =>
      cases condition <;> cases h
      · exact call_implements bus
      · exact conditionalCall_implements bus _
  | ret condition =>
      cases condition <;> cases h
      · exact ret_implements bus
      · exact conditionalReturn_implements bus _
  | reti => cases h; exact returnFromInterrupt_implements bus
  | rst vector => cases h; exact restart_implements bus vector
  | push x => cases h; exact pushRegisterPair_implements bus x
  | pop x => cases h; exact popRegisterPair_implements bus x
  | cb => cases h; exact cbPrefixed_implements bus

theorem finishes_of_ofInstr {i : Instr} {completion : FetchCompletionKind}
    (h : DecodedOpcode.ofInstr i = .completeOnFetch completion) (hhalt : i ≠ .halt) :
    FinishesOnFetch bus completion i := by
  cases i with
  | halt => exact absurd rfl hhalt
  | nop => cases h; exact nop_finishes bus
  | di => cases h; exact disableInterrupts_finishes bus
  | ei => cases h; exact enableInterrupts_finishes bus
  | daa => cases h; exact decimalAdjustAccumulator_finishes bus
  | cpl => cases h; exact complementAccumulator_finishes bus
  | scf => cases h; exact setCarryFlag_finishes bus
  | ccf => cases h; exact complementCarryFlag_finishes bus
  | jpHl => cases h; exact jumpHl_finishes bus
  | rotA op =>
      cases op <;> cases h
      · exact rotateLeftAccumulatorCarry_finishes bus
      · exact rotateRightAccumulatorCarry_finishes bus
      · exact rotateLeftAccumulatorThroughCarry_finishes bus
      · exact rotateRightAccumulatorThroughCarry_finishes bus
  | ld dst x =>
      cases dst <;> cases x <;> cases h
      exact loadRegisterToRegister_finishes bus _ _
  | inc x => cases x <;> cases h; exact incrementRegister_finishes bus _
  | dec x => cases x <;> cases h; exact decrementRegister_finishes bus _
  | alu op x => cases x <;> cases h; exact aluRegister_finishes bus op _
  | ldImm x => cases x <;> cases h
  | ldAFrom p => cases p <;> cases h
  | ldATo p => cases p <;> cases h
  | jr condition => cases condition <;> cases h
  | jp condition => cases condition <;> cases h
  | call condition => cases condition <;> cases h
  | ret condition => cases condition <;> cases h
  | _ => cases h

/-! ## The opcode fetch -/

theorem unsupported_iff_undefined : ∀ opcode : U8,
    DecodedOpcode.ofInstr (Sm83.decode opcode) = .unsupported ↔ Sm83.decode opcode = .undefined := by
  decide +kernel

theorem decode_stop : ∀ opcode : U8, opcode = 0x10 ↔ Sm83.decode opcode = .stop := by
  decide +kernel

/-- The core after the bus read of an opcode fetch, before the opcode is decoded. -/
def fetched (cpu : CpuCore) (s : σ) : CpuCore :=
  let pc := cpu.registers.pc
  let opcode := (bus.read pc s).1
  (cpu.inCycle { cpu.inFlight with opcode := some opcode } (.fetchOpcode lastMachineCycleT)
    (some ⟨.opcodeFetch, pc, opcode⟩)
    (some (.ofReadWithIncDec pc (pc + 1) .increment))).withRegs
      { cpu.registers.toSm83 with pc := pc + 1 }

theorem completeFetchOpcode_of_read {cpu cpu' : CpuCore} {s s' : σ} {opcode : U8}
    (hread : readOpcodeU8 bus cpu s = (opcode, cpu', s')) (hstop : opcode ≠ 0x10) :
    completeFetchOpcode bus cpu s =
      (({ cpu' with inFlight := { cpu'.inFlight with opcode := some opcode } }
        : CpuCore).completeDecodedFetch opcode, s') := by
  simp only [completeFetchOpcode, hread]
  rw [if_neg hstop]

/-- The machine cycle of an opcode fetch that is not a STOP. -/
theorem machineCycle_fetch {cpu : CpuCore} {s : σ} (hfetch : cpu.executionState = .fetch)
    (hbug : cpu.NoHaltBug) (hflags : cpu.FlagsClear)
    (hstop : (bus.read cpu.registers.pc s).1 ≠ 0x10) :
    machineCycle bus (cpu, s) =
      ((fetched bus cpu s).completeDecodedFetch (bus.read cpu.registers.pc s).1,
        (bus.read cpu.registers.pc s).2) := by
  have hcycle : machineCycle bus (cpu, s) =
      completeFetchOpcode bus (cpu.atLastT (.fetchOpcode lastMachineCycleT)) s := by
    rcases cpu with ⟨m, su, r, state, fl, ime, halt, ba, ae, div, sw⟩
    cases hfetch
    rfl
  have hcpu : cpu.atLastT (.fetchOpcode lastMachineCycleT) =
      (cpu.inCycle cpu.inFlight (.fetchOpcode lastMachineCycleT) none none).withRegs
        cpu.registers.toSm83 := by
    simp only [atLastT, inCycle, withRegs, CpuRegisters.ofSm83_toSm83 _ hflags]
  have hread := inCycle_readPcU8WithKind bus cpu cpu.inFlight (.fetchOpcode lastMachineCycleT)
    none none cpu.registers.toSm83 s .opcodeFetch hbug
  rw [hcycle, hcpu, completeFetchOpcode_of_read bus hread hstop]
  rfl

/-- From an opcode fetch of any instruction but STOP, HALT and the undefined ones, the core
runs to the next opcode fetch in the reference's machine cycles. -/
theorem instructionRun_of_fetch {cpu : CpuCore} {s : σ} (hfetch : cpu.executionState = .fetch)
    (hbug : cpu.NoHaltBug) (hflags : cpu.FlagsClear)
    (hstop : Sm83.decode (bus.read cpu.registers.pc s).1 ≠ .stop)
    (hhalt : Sm83.decode (bus.read cpu.registers.pc s).1 ≠ .halt)
    (hdef : Sm83.decode (bus.read cpu.registers.pc s).1 ≠ .undefined) :
    let x := Sm83.step bus.memory cpu.registers.toSm83 s
    ∃ y, InstructionRun bus (cpu, s) (x.cycles.map (Option.map .ofSm83)) y ∧
      y.1.registers = .ofSm83 x.regs ∧ y.2 = x.mem := by
  have hcycle := machineCycle_fetch bus hfetch hbug hflags (mt (decode_stop _).mp hstop)
  generalize hop : (bus.read cpu.registers.pc s).1 = opcode at hstop hhalt hdef hcycle
  rw [completeDecodedFetch, decodeFetchedOpcode_eq] at hcycle
  have hstep : Sm83.step bus.memory cpu.registers.toSm83 s =
      (Sm83.exec bus.memory (Sm83.decode opcode)
        ⟨{ cpu.registers.toSm83 with pc := cpu.registers.pc + 1 },
          (bus.read cpu.registers.pc s).2,
          [some ⟨.fetch, cpu.registers.pc, opcode⟩]⟩).2 := by
    subst hop
    rfl
  cases hdec : DecodedOpcode.ofInstr (Sm83.decode opcode) with
  | unsupported => exact absurd ((unsupported_iff_undefined opcode).mp hdec) hdef
  | completeOnFetch completion =>
      rw [hdec] at hcycle
      obtain ⟨hmem, hcycles, cpu', fl', hcpu'⟩ :=
        finishes_of_ofInstr bus hdec hhalt cpu { cpu.inFlight with opcode := some opcode }
          (.fetchOpcode lastMachineCycleT) (some ⟨.opcodeFetch, cpu.registers.pc, opcode⟩)
          (some (.ofReadWithIncDec cpu.registers.pc (cpu.registers.pc + 1) .increment))
          { cpu.registers.toSm83 with pc := cpu.registers.pc + 1 }
          (bus.read cpu.registers.pc s).2 [some ⟨.fetch, cpu.registers.pc, opcode⟩]
      simp only [fetched, hop, hcpu'] at hcycle
      rw [hstep]
      dsimp only
      rw [hcycles]
      exact ⟨_, .finish (.inl hfetch) hcycle rfl, rfl, hmem.symm⟩
  | execute kind =>
      rw [hdec] at hcycle
      obtain ⟨accesses, y, hcycles, hrun, hregs, hmem⟩ :=
        implements_of_ofInstr bus hdec hstop cpu opcode cpu.inFlight.operand8Latch
          cpu.inFlight.operand16Latch (some ⟨.opcodeFetch, cpu.registers.pc, opcode⟩)
          (some (.ofReadWithIncDec cpu.registers.pc (cpu.registers.pc + 1) .increment))
          { cpu.registers.toSm83 with pc := cpu.registers.pc + 1 }
          (bus.read cpu.registers.pc s).2 [some ⟨.fetch, cpu.registers.pc, opcode⟩] hbug
      simp only [fetched, hop] at hcycle
      rw [hstep]
      dsimp only
      rw [hcycles]
      refine ⟨y, ?_, hregs, hmem⟩
      exact .next (.inl hfetch) hcycle rfl
        (runToFetch_instructionRun bus (.inr ⟨0, rfl⟩) hrun)

/-! ## The trap of an undefined opcode -/

/-- A trapped core: stopped for good on an undefined `opcode` read at `address`. -/
def TrappedOn (cpu : CpuCore) (opcode : U8) (address : U16) : Prop :=
  cpu.executionState = .diagnosticTrap (.invalidOpcode opcode address)

theorem machineCycle_undefined {cpu : CpuCore} {s : σ} (hfetch : cpu.executionState = .fetch)
    (hbug : cpu.NoHaltBug) (hflags : cpu.FlagsClear)
    (hundef : Sm83.decode (bus.read cpu.registers.pc s).1 = .undefined) :
    let opcode := (bus.read cpu.registers.pc s).1
    let y := machineCycle bus (cpu, s)
    y.1.TrappedOn opcode cpu.registers.pc ∧
    y.1.registers = { cpu.registers with pc := cpu.registers.pc + 1 } ∧
    y.1.lastBusActivity = some ⟨.opcodeFetch, cpu.registers.pc, opcode⟩ ∧
    y.2 = (bus.read cpu.registers.pc s).2 := by
  have hstop : Sm83.decode (bus.read cpu.registers.pc s).1 ≠ .stop := by
    rw [hundef]
    exact nofun
  have hregs : CpuRegisters.ofSm83 { cpu.registers.toSm83 with pc := cpu.registers.pc + 1 }
      = { cpu.registers with pc := cpu.registers.pc + 1 } :=
    congrArg (fun r : CpuRegisters => { r with pc := cpu.registers.pc + 1 })
      (CpuRegisters.ofSm83_toSm83 cpu.registers hflags)
  rw [machineCycle_fetch bus hfetch hbug hflags (mt (decode_stop _).mp hstop),
    completeDecodedFetch, decodeFetchedOpcode_eq, hundef]
  exact ⟨rfl, hregs, rfl, rfl⟩

/-- Nothing the machine does with a trapped core changes its registers or lets it touch the
bus again. -/
theorem trapped_apply {x : CpuCore × σ} {opcode : U8} {address : U16}
    (h : x.1.TrappedOn opcode address) (event : Event σ) :
    let y := Event.apply bus x event
    y.1.TrappedOn opcode address ∧ y.1.registers = x.1.registers ∧
    (event = .tick → y.1.lastBusActivity = none ∧ y.2 = x.2) := by
  obtain ⟨cpu, s⟩ := x
  rcases cpu with ⟨m, su, r, state, fl, ime, halt, ba, ae, div, sw⟩
  cases h
  cases event with
  | tick => exact ⟨rfl, rfl, fun _ => ⟨rfl, rfl⟩⟩
  | tickDmaStall => exact ⟨rfl, rfl, fun h => by cases h⟩
  | environment s => exact ⟨rfl, rfl, fun h => by cases h⟩
  | evaluateCurrentCycleInterruptRequests interrupts mask =>
      refine ⟨?_, ?_, fun h => by cases h⟩ <;>
        simp [Event.apply, TrappedOn, evaluateCurrentCycleInterruptRequests, canAcceptInterrupt]
  | evaluateWakeAndInterrupts interrupts joypad =>
      refine ⟨?_, ?_, fun h => by cases h⟩ <;>
        simp [Event.apply, TrappedOn, evaluateWakeAndInterrupts, isStopSleepState,
          isDiagnosticTrap]

theorem trapped_runEvents {x : CpuCore × σ} {opcode : U8} {address : U16}
    (h : x.1.TrappedOn opcode address) (events : List (Event σ)) :
    (runEvents bus events x).1.TrappedOn opcode address ∧
    (runEvents bus events x).1.registers = x.1.registers := by
  induction events generalizing x with
  | nil => exact ⟨h, rfl⟩
  | cons event events ih =>
      obtain ⟨ht, hr, _⟩ := trapped_apply bus h event
      obtain ⟨iht, ihr⟩ := ih ht
      exact ⟨iht, ihr.trans hr⟩

/-! ## The core and the reference -/

/-- One instruction of the core, from an opcode fetch.

Every instruction but STOP and HALT takes four T-cycles for each machine cycle of the timing
table and no fewer, and ends with the registers, the flags, the memory and the accesses of
the reference, one access at most on the last T-cycle of each machine cycle.  An undefined
opcode is read and then traps: whatever the machine does with the core afterwards, it stays
trapped with the same registers, and its T-cycles leave the bus alone. -/
theorem tickTCycle_computes_sm83 (cpu : CpuCore) (s : σ) (hfetch : cpu.executionState = .fetch)
    (hbug : cpu.NoHaltBug) (hflags : cpu.FlagsClear) :
    let r := cpu.registers.toSm83
    let opcode := bus.read r.pc s
    let i := Sm83.decode opcode.1
    let x := Sm83.step bus.memory r s
    (i ≠ .stop → i ≠ .halt → i ≠ .undefined →
      let machineCycles := i.machineCycles (i.isTaken r) (bus.read (r.pc + 1) opcode.2).1
      let y := (tick bus)^[4 * machineCycles] (cpu, s)
      y.1.executionState = .fetch ∧
      (∀ k, 0 < k → k < 4 * machineCycles →
        ((tick bus)^[k] (cpu, s)).1.executionState ≠ .fetch) ∧
      y.1.registers = .ofSm83 x.regs ∧ y.1.registers.f &&& 0x0F = 0 ∧ y.2 = x.mem ∧
      x.cycles.length = machineCycles ∧
      outputs (tick bus) activity (4 * machineCycles) (cpu, s) =
        x.cycles.flatMap fun a => perTCycle (a.map .ofSm83)) ∧
    (i = .undefined →
      outputs (tick bus) activity 4 (cpu, s) =
        [none, none, none, some ⟨.opcodeFetch, r.pc, opcode.1⟩] ∧
      ((tick bus)^[4] (cpu, s)).2 = opcode.2 ∧
      ∀ events : List (Event σ),
        let y := runEvents bus events ((tick bus)^[4] (cpu, s))
        y.1.TrappedOn opcode.1 r.pc ∧
        y.1.registers = { cpu.registers with pc := r.pc + 1 } ∧
        (tick bus y).1.lastBusActivity = none ∧ (tick bus y).2 = y.2) := by
  intro r opcode i x
  refine ⟨fun hstop hhalt hdef => ?_, fun hundef => ?_⟩
  · intro machineCycles y
    obtain ⟨z, hrun, hregs, hmem⟩ :=
      instructionRun_of_fetch bus hfetch hbug hflags hstop hhalt hdef
    have hlen : x.cycles.length = machineCycles := Sm83.step_cycles_length bus.memory r s
    obtain ⟨hz, hzfetch, hout, hearlier⟩ := hrun.ticks
    rw [List.length_map, hlen] at hz hout hearlier
    have hy : y = z := hz
    have hlow : z.1.registers.f &&& 0x0F = 0 := by
      rw [hregs]
      exact Flags.toByte_low_nibble x.regs.flags
    rw [hy]
    refine ⟨hzfetch, hearlier, hregs, hlow, hmem, hlen, ?_⟩
    rw [hout, List.flatMap_map]
  · obtain ⟨h4, hout, _⟩ := machineCycle_eq_ticks bus (x := (cpu, s)) (.inl hfetch)
    obtain ⟨htrap, hregs, hact, hmem⟩ := machineCycle_undefined bus hfetch hbug hflags hundef
    rw [h4, hout, hact]
    refine ⟨rfl, hmem, fun events => ?_⟩
    obtain ⟨ht, hr⟩ := trapped_runEvents bus htrap events
    obtain ⟨_, _, htick⟩ := trapped_apply bus ht .tick
    exact ⟨ht, hr.trans hregs, htick rfl⟩

/-- A bus with nothing behind it, which answers every read with `opcode`. -/
def constantBus (opcode : U8) : CpuExternalCallback Unit where
  call operation s :=
    match operation with
    | .bus (.read _) => (some opcode, s)
    | _ => (none, s)
  read_isSome _ _ := rfl

/-- `INC A` on a core that has just been built: one machine cycle, and `A` is one. -/
theorem tickTCycle_computes_sm83_incA :
    let y := (tick (constantBus 0x3C))^[4] (CpuCore.new .gameBoy, ())
    y.1.executionState = .fetch ∧ y.1.registers.a = 1 ∧ y.1.registers.pc = 1 := by
  have h := (tickTCycle_computes_sm83 (constantBus 0x3C) (CpuCore.new .gameBoy) () rfl nofun
    rfl).1 (by decide) (by decide) (by decide)
  refine ⟨h.1, ?_, ?_⟩
  · exact (congrArg CpuRegisters.a h.2.2.1).trans (by decide)
  · exact (congrArg CpuRegisters.pc h.2.2.1).trans (by decide)

end CpuCore

end GbCycle
