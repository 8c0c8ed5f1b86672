import GbCycle.Cpu.InterruptOrder

/-!
# What becomes of a HALT

A HALT leaves a request that the next wake-up phase resolves: the halt bug, an acceptance, or the
halted state.  The halt bug is spent by the next opcode fetch, which reads at `PC` and leaves it
where it is.  A halted core uses no bus and goes on only when a wake-up phase finds a request
that is enabled.
-/

namespace GbCycle

namespace CpuCore

/-! ## The fetch that spends the halt bug -/

/-- Where the core reads next, and what it last did on the bus. -/
def busView (cpu : CpuCore) : U16 × Option CpuBusActivity :=
  (cpu.registers.pc, cpu.lastBusActivity)

section Frame

variable (cpu : CpuCore)

theorem busView_advanceDelayedImeEnable : cpu.advanceDelayedImeEnable.busView = cpu.busView := by
  rcases cpu with ⟨m, su, r, state, fl, ime, halt, ba, ae, div, sw⟩
  cases ime with
  | disabled => rfl
  | enabled => rfl
  | disabledPendingEnable n => simp only [advanceDelayedImeEnable]; split <;> rfl
  | enabledPendingEnable n => simp only [advanceDelayedImeEnable]; split <;> rfl

@[simp] theorem busView_finishInstruction : cpu.finishInstruction.busView = cpu.busView :=
  cpu.clearInFlightInstructionState.busView_advanceDelayedImeEnable

@[simp] theorem busView_finishAndRequestHalt : cpu.finishAndRequestHalt.busView = cpu.busView :=
  cpu.clearInFlightInstructionState.busView_advanceDelayedImeEnable

@[simp] theorem busView_scheduleDelayedImeEnable :
    cpu.scheduleDelayedImeEnable.busView = cpu.busView := by
  unfold scheduleDelayedImeEnable
  split
  · rfl
  · split <;> rfl

@[simp] theorem busView_setA (a : U8) : (cpu.setA a).busView = cpu.busView := rfl
@[simp] theorem busView_writeFlags (z n h c : Bool) :
    (cpu.writeFlags z n h c).busView = cpu.busView := rfl
@[simp] theorem busView_updateIncFlags (before result : U8) :
    (cpu.updateIncFlags before result).busView = cpu.busView := rfl
@[simp] theorem busView_updateDecFlags (before result : U8) :
    (cpu.updateDecFlags before result).busView = cpu.busView := rfl
@[simp] theorem busView_complementA : cpu.complementA.busView = cpu.busView := rfl
@[simp] theorem busView_setCarryFlag : cpu.setCarryFlag.busView = cpu.busView := rfl
@[simp] theorem busView_complementCarryFlag : cpu.complementCarryFlag.busView = cpu.busView := rfl

@[simp] theorem busView_writeRegister8 (x : Register8) (v : U8) :
    (cpu.writeRegister8 x v).busView = cpu.busView := by
  cases x <;> rfl

@[simp] theorem busView_applyAluOperation (operation : AluOperation) (v : U8) :
    (cpu.applyAluOperation operation v).busView = cpu.busView := by
  cases operation <;> rfl

@[simp] theorem busView_decimalAdjustA : cpu.decimalAdjustA.busView = cpu.busView := by
  simp only [decimalAdjustA]
  split <;> rfl

/-- An opcode that is done on its fetch uses no bus, and only `JP HL` moves `PC`. -/
theorem busView_completeFetchCompletion (completion : FetchCompletionKind) :
    (cpu.completeFetchCompletion completion).busView =
      if completion = .jumpHl then (cpu.hl, cpu.lastBusActivity) else cpu.busView := by
  cases completion with
  | jumpHl => exact busView_finishInstruction _
  | rotateLeftAccumulatorCarry | rotateLeftAccumulatorThroughCarry
  | rotateRightAccumulatorCarry | rotateRightAccumulatorThroughCarry =>
      exact busView_finishInstruction _
  | disableInterrupts => exact busView_finishInstruction _
  | _ => simp [completeFetchCompletion]

end Frame

variable {σ : Type} (bus : CpuExternalCallback σ)

/-- The fetch that spends the halt bug leaves none behind. -/
theorem FetchResult.bug_spent {c : CpuControl} {opcode : U8} {y : CpuCore}
    (h : FetchResult c opcode y) (hidle : c.haltControl = .idle) :
    y.haltControl ≠ .haltBugPending := by
  intro hbug
  have hne : ∀ {c' : CpuControl}, y.control = c' → c'.haltControl ≠ .haltBugPending → False := by
    intro c' hcontrol hne
    exact hne (by rw [← hcontrol]; exact hbug)
  have hidle' : c.haltControl ≠ .haltBugPending := by
    rw [hidle]
    exact fun h => nomatch h
  cases h with
  | begins kind hstate hdecode hcontrol => exact hne hcontrol hidle'
  | traps trap hstate hcontrol => exact hidle' (hcontrol.2.symm.trans hbug)
  | ends hstate hcontrol hopcode => exact hne hcontrol hidle'
  | disables hstate hcontrol hopcode => exact hne hcontrol hidle'
  | enables hstate hcontrol hopcode => exact hne hcontrol hidle'
  | halts hstate hcontrol hopcode => exact hne hcontrol fun h => nomatch h

theorem busView_completeDecodedFetch (cpu : CpuCore) (opcode : U8) :
    (cpu.completeDecodedFetch opcode).busView =
      if opcode = 0xE9 then (cpu.hl, cpu.lastBusActivity) else cpu.busView := by
  have hjump := (decodeFetchedOpcode_special opcode).2.2.2.1
  unfold completeDecodedFetch
  split
  · next completion hdecode =>
      rw [busView_completeFetchCompletion]
      rw [hdecode, DecodedOpcode.completeOnFetch.injEq] at hjump
      simp only [hjump]
  · next kind hdecode =>
      rw [if_neg (by rw [← hjump, hdecode]; exact fun h => nomatch h)]
      rfl
  · next hdecode =>
      rw [if_neg (by rw [← hjump, hdecode]; exact fun h => nomatch h)]
      rfl

/-- An opcode fetch reads at `PC`, and the next instruction byte is the one after it; with the
halt bug pending it is the same byte again. -/
theorem busView_completeFetchOpcode (cpu : CpuCore) (s : σ) :
    let opcode := (bus.read cpu.registers.pc s).1
    (completeFetchOpcode bus cpu s).1.busView =
      (if opcode = 0xE9 then cpu.hl
        else if cpu.haltControl = .haltBugPending then cpu.registers.pc
        else cpu.registers.pc + 1,
        some ⟨.opcodeFetch, cpu.registers.pc, opcode⟩) := by
  intro opcode
  have hread : (readOpcodeU8 bus cpu s).1 = opcode ∧
      (readOpcodeU8 bus cpu s).2.1.hl = cpu.hl ∧
      (readOpcodeU8 bus cpu s).2.1.busView =
        (if cpu.haltControl = .haltBugPending then cpu.registers.pc else cpu.registers.pc + 1,
          some ⟨.opcodeFetch, cpu.registers.pc, opcode⟩) := by
    rcases cpu with ⟨m, su, r, state, fl, ime, halt, ba, ae, div, sw⟩
    cases halt <;> exact ⟨rfl, rfl, rfl⟩
  rw [completeFetchOpcode]
  generalize readOpcodeU8 bus cpu s = x at hread ⊢
  obtain ⟨op, cpu', s'⟩ := x
  obtain ⟨rfl, hhl, hview⟩ := hread
  have hdecoded := busView_completeDecodedFetch
    { cpu' with inFlight := { cpu'.inFlight with opcode := some opcode } } opcode
  dsimp only at hhl hview ⊢
  have hresult : (completeDecodedFetch
      { cpu' with inFlight := { cpu'.inFlight with opcode := some opcode } } opcode).busView =
      (if opcode = 0xE9 then cpu.hl
        else if cpu.haltControl = .haltBugPending then cpu.registers.pc
        else cpu.registers.pc + 1,
        some ⟨.opcodeFetch, cpu.registers.pc, opcode⟩) := by
    have hactivity : cpu'.lastBusActivity = some ⟨.opcodeFetch, cpu.registers.pc, opcode⟩ :=
      (Prod.ext_iff.mp hview).2
    rw [hdecoded]
    split
    · exact Prod.ext hhl hactivity
    · exact hview
  split
  · next hstop =>
    split
    · rw [busView_finishInstruction, if_neg (by rw [hstop]; decide)]
      exact hview
    · exact hresult
  · exact hresult

theorem haltBugFetch {cpu : CpuCore} (hstate : cpu.executionState = .fetchOpcode lastMachineCycleT)
    (hbug : cpu.haltControl = .haltBugPending) (s : σ) :
    ∃ opcode,
      (cpu.tickTCycle bus s).1.lastBusActivity =
        some ⟨.opcodeFetch, cpu.registers.pc, opcode⟩ ∧
      (cpu.tickTCycle bus s).1.registers.pc =
        (if opcode = 0xE9 then cpu.hl else cpu.registers.pc) ∧
      (cpu.tickTCycle bus s).1.haltControl ≠ .haltBugPending := by
  have htick : cpu.tickTCycle bus s = completeFetchOpcode bus cpu.tickDmaStallTCycle s := by
    rcases cpu with ⟨m, su, regs, state, fl, ime, halt, ba, ae, div, sw⟩
    cases hstate
    rfl
  have hview := busView_completeFetchOpcode bus cpu.tickDmaStallTCycle s
  have hfetch := fetch_completeFetchOpcode bus cpu.tickDmaStallTCycle s
  have hbug' : cpu.tickDmaStallTCycle.haltControl = .haltBugPending := hbug
  rw [hbug', if_pos rfl] at hview
  rw [htick]
  refine ⟨_, (Prod.ext_iff.mp hview).2, (Prod.ext_iff.mp hview).1, hfetch.bug_spent ?_⟩
  show (if cpu.tickDmaStallTCycle.haltControl = .haltBugPending then HaltControlState.idle
    else cpu.tickDmaStallTCycle.haltControl) = .idle
  rw [hbug', if_pos rfl]

/-- What stays of a core that neither executes nor is woken up. -/
structure Rests (x y : CpuCore) : Prop where
  registers : y.registers = x.registers
  executionState : y.executionState = x.executionState
  inFlight : y.inFlight = x.inFlight
  imeState : y.imeState = x.imeState
  haltControl : y.haltControl = x.haltControl

theorem Rests.refl (x : CpuCore) : x.Rests x := ⟨rfl, rfl, rfl, rfl, rfl⟩

theorem Rests.trans {x y z : CpuCore} (h₁ : x.Rests y) (h₂ : y.Rests z) : x.Rests z :=
  ⟨h₂.registers.trans h₁.registers, h₂.executionState.trans h₁.executionState,
    h₂.inFlight.trans h₁.inFlight, h₂.imeState.trans h₁.imeState,
    h₂.haltControl.trans h₁.haltControl⟩

theorem Rests.settled {x y : CpuCore} (h : x.Rests y) (hx : x.Settled) : y.Settled := by
  rcases x with ⟨m, su, regs, state, fl, ime, halt, ba, ae, div, sw⟩
  rcases y with ⟨m', su', regs', state', fl', ime', halt', ba', ae', div', sw'⟩
  obtain ⟨h₁, h₂, h₃, h₄, h₅⟩ := h
  dsimp only at h₁ h₂ h₃ h₄ h₅
  subst h₁ h₂ h₃ h₄ h₅
  exact ⟨hx.flight, hx.ime, hx.request, hx.bug⟩

theorem rests_tickDmaStallTCycle (x : CpuCore) : x.Rests x.tickDmaStallTCycle :=
  ⟨rfl, rfl, rfl, rfl, rfl⟩

end CpuCore

namespace CpuSide

open CpuCore ImeEvent

variable {σ : Type} (a : AddressSpace σ) (c : CycleInput σ) (m : CpuSide σ)

/-! ## The phase that resolves a HALT -/

/-- The request `r` is resolved between `x` and `y`. -/
structure HaltResolved (r : HaltRequestContext) (x y : CpuSide σ) : Prop where
  bug : r.imeEnabled = false → r.hadPendingEi = false → x.interrupts.pendingMask ≠ 0 →
    y.cpu = { x.cpu with haltControl := .haltBugPending } ∧ y.interrupts = x.interrupts
  afterEi : r.imeEnabled = false → r.hadPendingEi = true →
    ∀ source, x.interrupts.highestPending = some source →
      y.cpu = (({ x.cpu with haltControl := .idle } : CpuCore).setPc
        (x.cpu.registers.pc - 1)).beginInterruptService source ∧
      y.interrupts = x.interrupts.clear source
  enabled : r.imeEnabled = true → ∀ source, x.interrupts.highestPending = some source →
    y.cpu = ({ x.cpu with haltControl := .idle } : CpuCore).beginInterruptService source ∧
    y.interrupts = x.interrupts.clear source
  halts : x.interrupts.pendingMask = 0 →
    y.cpu = { x.cpu with haltControl := .idle, executionState := .halted } ∧
    y.interrupts = x.interrupts

theorem wake_eq {x : CpuSide σ} (h : Evaluates c x) :
    (wake c x).cpu = (x.cpu.evaluateWakeAndInterrupts x.interrupts x.joypad).1 ∧
    (wake c x).interrupts = (x.cpu.evaluateWakeAndInterrupts x.interrupts x.joypad).2.1 := by
  unfold wake
  rw [if_neg (by rw [h.1]; exact Bool.false_ne_true), if_neg (by rw [h.2]; exact Bool.false_ne_true)]
  exact ⟨rfl, rfl⟩

/-- A wake-up phase that DMA takes or the PPU puts off leaves the core as it is. -/
theorem wake_rests {x : CpuSide σ} (h : ¬ Evaluates c x) :
    x.cpu.Rests (wake c x).cpu ∧ (wake c x).interrupts = x.interrupts := by
  unfold wake
  split
  · exact ⟨rests_tickDmaStallTCycle x.cpu, rfl⟩
  · next hstall =>
      split
      · exact ⟨.refl _, rfl⟩
      · next hdeferred =>
          exact absurd ⟨Bool.eq_false_of_not_eq_true hstall, Bool.eq_false_of_not_eq_true hdeferred⟩ h

theorem acceptPendingInterrupt_eq {cpu : CpuCore} {interrupts : InterruptController}
    {source : InterruptSource} (h : interrupts.highestPending = some source) :
    cpu.acceptPendingInterrupt interrupts =
      (cpu.beginInterruptService source, interrupts.clear source) := by
  rw [acceptPendingInterrupt, h]

theorem haltResolved_wake {x : CpuSide σ} (h : x.cpu.Settled) {r : HaltRequestContext}
    (hr : x.cpu.haltControl = .pendingRequest r) (hevaluates : Evaluates c x) :
    HaltResolved r x (wake c x) := by
  obtain ⟨hstate, hime⟩ := h.request r hr
  obtain ⟨hcpu, hint⟩ := wake_eq c hevaluates
  have heq := evaluateWake_request hr hstate x.interrupts x.joypad
  rw [← hcpu, ← hint] at heq
  have hsplit : ∀ {cpu : CpuCore} {i : InterruptController},
      ((wake c x).cpu, (wake c x).interrupts) = (cpu, i) →
      (wake c x).cpu = cpu ∧ (wake c x).interrupts = i := fun h => Prod.ext_iff.mp h
  refine ⟨fun hclear hei hpending => hsplit ?_, fun hclear hei source hsource => hsplit ?_,
    fun hset source hsource => hsplit ?_, fun hnone => hsplit ?_⟩
  · rw [heq, hclear, hei, bne_iff_ne.mpr hpending]
    rfl
  · have himeSet : x.cpu.ime = true := by
      rw [CpuCore.ime, hime, hei, Bool.or_true]
      rfl
    rw [heq, hclear, hei, himeSet, bne_iff_ne.mpr (pendingMask_of_highestPending hsource)]
    exact acceptPendingInterrupt_eq hsource
  · rw [heq, hset, bne_iff_ne.mpr (pendingMask_of_highestPending hsource)]
    exact acceptPendingInterrupt_eq hsource
  · rw [heq, hnone, bne_self_eq_false, Bool.and_false]
    rfl

/-! ## The halted core -/

theorem cpuTick_rests (x : CpuSide σ) (h : x.cpu.executionState = .halted) :
    x.cpu.Rests (cpuTick a c x).cpu ∧ (cpuTick a c x).cpu.lastBusActivity = none := by
  cases hstall : c.cpuStalled with
  | true =>
      rw [cpuTick_stalled a c hstall]
      exact ⟨rests_tickDmaStallTCycle x.cpu, rfl⟩
  | false =>
      rw [(cpuTick_eq a c hstall).1]
      rcases x with ⟨⟨m, su, regs, state, fl, ime, halt, ba, ae, div, sw⟩, i, j, e⟩
      cases h
      exact ⟨⟨rfl, rfl, rfl, rfl, rfl⟩, rfl⟩

/-- A halted core comes to its wake-up phase as it was, without an acceptance or an access. -/
theorem halted_toWake (h : m.cpu.executionState = .halted) :
    (entered c m).1 = none ∧ activity a c m = [] ∧ m.cpu.Rests (toWake a c m).cpu := by
  have hentered : entered c m = (none, ingress c m) := by
    have hcan : (ingress c m).cpu.canAcceptInterrupt = false := by
      rw [canAcceptInterrupt, show (ingress c m).cpu.executionState = .halted from h]
      rfl
    simp only [entered, evaluateRequests, evaluateCurrentCycleInterruptRequests, hcan,
      Bool.not_false, Bool.or_true, if_true]
    split <;> rfl
  obtain ⟨hrests, hactivity⟩ := cpuTick_rests a c (ingress c m) h
  rw [toWake, activity, hentered, hactivity]
  exact ⟨rfl, rfl, hrests⟩

/-- What a wake-up phase that looks at a halted core does to it. -/
structure HaltAnswered (x y : CpuSide σ) : Prop where
  waits : x.interrupts.pendingMask = 0 → y.cpu = x.cpu ∧ y.interrupts = x.interrupts
  resumes : x.cpu.ime = false → x.interrupts.pendingMask ≠ 0 →
    y.cpu = { x.cpu with executionState := .fetch } ∧ y.interrupts = x.interrupts
  accepts : x.cpu.ime = true → ∀ source, x.interrupts.highestPending = some source →
    y.cpu = x.cpu.beginInterruptService source ∧ y.interrupts = x.interrupts.clear source

theorem haltAnswered_wake {x : CpuSide σ} (h : x.cpu.Settled)
    (hstate : x.cpu.executionState = .halted) (hevaluates : Evaluates c x) :
    HaltAnswered x (wake c x) := by
  have hidle := h.halt_idle fun t ht => by rw [hstate] at ht; cases ht
  obtain ⟨hcpu, hint⟩ := wake_eq c hevaluates
  have heq := evaluateWake_halted hidle hstate x.interrupts x.joypad
  rw [← hcpu, ← hint] at heq
  have hsplit : ∀ {cpu : CpuCore} {i : InterruptController},
      ((wake c x).cpu, (wake c x).interrupts) = (cpu, i) →
      (wake c x).cpu = cpu ∧ (wake c x).interrupts = i := fun h => Prod.ext_iff.mp h
  refine ⟨fun hnone => hsplit ?_, fun hime hpending => hsplit ?_,
    fun hime source hsource => hsplit ?_⟩
  · rw [heq, hnone, bne_self_eq_false]
    rfl
  · rw [heq, bne_iff_ne.mpr hpending, hime]
    rfl
  · rw [heq, bne_iff_ne.mpr (pendingMask_of_highestPending hsource), hime]
    exact acceptPendingInterrupt_eq hsource

/-- Whenever a wake-up phase of the run looks at the core, nothing that is enabled is pending. -/
def Unanswered : List (CycleInput σ) → CpuSide σ → Prop
  | [], _ => True
  | c :: cs, m => (Evaluates c (toWake a c m) → (toWake a c m).interrupts.pendingMask = 0) ∧
      Unanswered cs (cycle a c m)

/-- A halted core stays halted, without an access, as long as nothing enabled is pending. -/
theorem halted_run (cs : List (CycleInput σ)) {m : CpuSide σ} (h : m.cpu.Settled)
    (hstate : m.cpu.executionState = .halted) (hcs : Unanswered a cs m) :
    m.cpu.Rests (run a cs m).cpu ∧ acceptedIn a cs m = [] ∧ activityIn a cs m = [] := by
  induction cs generalizing m with
  | nil => exact ⟨.refl _, rfl, rfl⟩
  | cons c cs ih =>
      obtain ⟨hentered, hactivity, hrests⟩ := halted_toWake a c m hstate
      have hsettled := hrests.settled h
      have hhalted := hrests.executionState.trans hstate
      have hcycle : (toWake a c m).cpu.Rests (cycle a c m).cpu ∧
          (cycle a c m).interrupts = (toWake a c m).interrupts := by
        by_cases hevaluates : Evaluates c (toWake a c m)
        · obtain ⟨hcpu, hint⟩ :=
            (haltAnswered_wake c hsettled hhalted hevaluates).waits (hcs.1 hevaluates)
          exact ⟨by rw [cycle, hcpu]; exact .refl _, hint⟩
        · exact wake_rests c hevaluates
      have hm := hrests.trans hcycle.1
      obtain ⟨hrun, haccepted, hbus⟩ := ih (hm.settled h) (hm.executionState.trans hstate) hcs.2
      refine ⟨hm.trans hrun, ?_, ?_⟩
      · rw [acceptedIn, haccepted, accepted, hentered, wakeAccepted, if_pos hcycle.2]
        rfl
      · rw [activityIn, hactivity, hbus]
        rfl

/-! ## The halt bug -/

/-- The core is `t` T-cycles into the fetch that spends the halt bug. -/
structure BugFetch (r : CpuRegisters) (t : Nat) (cpu : CpuCore) : Prop where
  registers : cpu.registers = r
  executionState : cpu.executionState = .fetchOpcode t
  inFlight : cpu.inFlight.opcode = none
  imeState : cpu.imeState = .disabled
  haltControl : cpu.haltControl = .haltBugPending

theorem BugFetch.undisturbed {r : CpuRegisters} {t : Nat} {cpu : CpuCore} (h : BugFetch r t cpu) :
    Undisturbed cpu where
  ime := by rw [CpuCore.ime, h.imeState]; rfl
  halt := by rw [haltRequestPending, h.haltControl]
  awake := by rw [isStopSleepState, h.executionState]
  notTrapped := by rw [isDiagnosticTrap, h.executionState]
  notHalted := by
    rw [h.executionState]
    intro hhalted
    cases hhalted

theorem BugFetch.of_rests {r : CpuRegisters} {t : Nat} {x y : CpuCore} (h : BugFetch r t x)
    (hrests : x.Rests y) : BugFetch r t y :=
  ⟨hrests.registers.trans h.registers, hrests.executionState.trans h.executionState,
    (congrArg _ hrests.inFlight).trans h.inFlight, hrests.imeState.trans h.imeState,
    hrests.haltControl.trans h.haltControl⟩

theorem bugFetch_cycle {r : CpuRegisters} {t : Nat} (h : BugFetch r t m.cpu)
    (ht : c.cpuStalled = true ∨ t < lastMachineCycleT) :
    accepted a c m = [] ∧ activity a c m = [] ∧
    BugFetch r (t + cpuTCyclesOf c) (cycle a c m).cpu := by
  have htick : BugFetch r (t + cpuTCyclesOf c) (cpuTick a c (ingress c m)).cpu ∧
      (cpuTick a c (ingress c m)).cpu.lastBusActivity = none := by
    cases hstall : c.cpuStalled with
    | true =>
        rw [cpuTick_stalled a c hstall, cpuTCyclesOf, hstall]
        exact ⟨h.of_rests (rests_tickDmaStallTCycle m.cpu), rfl⟩
    | false =>
        have hlt := ht.resolve_left (by rw [hstall]; exact Bool.false_ne_true)
        rw [(cpuTick_eq a c hstall).1, cpuTCyclesOf, hstall, tickTCycle,
          show (ingress c m).cpu.executionState = .fetchOpcode t from h.executionState]
        dsimp only
        rw [if_pos hlt]
        exact ⟨⟨h.registers, rfl, h.inFlight, h.imeState, h.haltControl⟩, rfl⟩
  obtain ⟨hfetch, hbus⟩ := htick
  obtain ⟨haccepted, hactivity, -, hcpu⟩ :=
    cycle_of_undisturbed a c h.undisturbed hfetch.undisturbed
  refine ⟨haccepted, by rw [hactivity, hbus]; rfl, ?_⟩
  rcases hcpu with hcpu | hcpu
  · rw [hcpu]
    exact hfetch
  · rw [hcpu]
    exact hfetch.of_rests (rests_tickDmaStallTCycle _)

theorem bugFetch_run (cs : List (CycleInput σ)) {m : CpuSide σ} {r : CpuRegisters} {t : Nat}
    (h : BugFetch r t m.cpu) (ht : t + cpuTCycles cs ≤ lastMachineCycleT) :
    acceptedIn a cs m = [] ∧ activityIn a cs m = [] ∧
    BugFetch r (t + cpuTCycles cs) (run a cs m).cpu := by
  induction cs generalizing m t with
  | nil => exact ⟨rfl, rfl, h⟩
  | cons c cs ih =>
      rw [cpuTCycles_cons] at ht ⊢
      have hstall : c.cpuStalled = true ∨ t < lastMachineCycleT := by
        cases hstall : c.cpuStalled with
        | true => exact .inl rfl
        | false =>
            rw [cpuTCyclesOf, hstall, if_neg Bool.false_ne_true] at ht
            exact .inr (by omega)
      obtain ⟨haccepted, hactivity, hcycle⟩ := bugFetch_cycle a c m h hstall
      obtain ⟨haccepted', hactivity', hrun⟩ := ih hcycle (by omega)
      refine ⟨?_, ?_, ?_⟩
      · rw [acceptedIn, haccepted, haccepted']
        rfl
      · rw [activityIn, hactivity, hactivity']
        rfl
      · rw [← Nat.add_assoc]
        exact hrun

/-- The halt bug: the next four T-cycles of the core fetch the opcode at `PC` and let nothing in,
and then `PC` is still there, unless the opcode is `JP HL`; the bug is over. -/
structure FetchesTwice (x : CpuCore) (m : CpuSide σ) : Prop where
  waits : ∀ cs, cpuTCycles cs ≤ 3 → acceptedIn a cs m = [] ∧ activityIn a cs m = []
  fetches : ∀ cs c, cpuTCycles cs = 3 → c.cpuStalled = false →
    (entered c (run a cs m)).1 = none ∧
    ∃ opcode, activity a c (run a cs m) = [⟨.opcodeFetch, x.registers.pc, opcode⟩] ∧
      (toWake a c (run a cs m)).cpu.registers.pc =
        (if opcode = 0xE9 then x.hl else x.registers.pc) ∧
      (toWake a c (run a cs m)).cpu.haltControl ≠ .haltBugPending

theorem fetchesTwice_of_bugFetch {x : CpuCore} {m : CpuSide σ} (h : BugFetch x.registers 0 m.cpu) :
    FetchesTwice a x m := by
  refine ⟨fun cs hcs => ?_, fun cs c hcs hstall => ?_⟩
  · obtain ⟨haccepted, hactivity, -⟩ := bugFetch_run a cs h (by rw [Nat.zero_add]; exact hcs)
    exact ⟨haccepted, hactivity⟩
  · obtain ⟨-, -, hfetch⟩ := bugFetch_run a cs h (by rw [Nat.zero_add, hcs]; exact Nat.le_refl _)
    rw [Nat.zero_add, hcs] at hfetch
    generalize run a cs m = m' at hfetch ⊢
    have hentered := entered_of_undisturbed c hfetch.undisturbed
    have hcpu : (toWake a c m').cpu = (cpuTick a c (ingress c m')).cpu := by
      rw [toWake, hentered]
      rfl
    have hresult := haltBugFetch a.callback (show (ingress c m').cpu.executionState = _
      from hfetch.executionState) hfetch.haltControl
      ((ingress c m').interrupts, (ingress c m').joypad, (ingress c m').env)
    rw [hcpu, activity, hentered, (cpuTick_eq a c hstall).1]
    obtain ⟨opcode, hactivity, hpc, hspent⟩ := hresult
    refine ⟨rfl, opcode, ?_, ?_, hspent⟩
    · rw [← hfetch.registers]
      exact congrArg Option.toList hactivity
    · rw [show x.hl = m'.cpu.hl by rw [CpuCore.hl, CpuCore.hl, hfetch.registers],
        ← hfetch.registers]
      exact hpc

/-! ## The order of a run -/

/-- `IME` after `events`, from a core that has just been switched on. -/
def statusAfter (events : List ImeEvent) : ImeStatus := events.foldl ImeStatus.next ⟨false, false⟩

/-- The order of the events of a run. -/
structure ImeInOrder (events : List ImeEvent) : Prop where
  accepts : ∀ pre source post, events = pre ++ .accepted source :: post →
    (statusAfter pre).ime = true
  sets : ∀ pre event post, events = pre ++ event :: post → (statusAfter pre).ime = false →
    (statusAfter (pre ++ [event])).ime = true → event = .retired 0xD9 ∨
      ∃ pre' opcode, pre = pre' ++ [.retired 0xFB] ∧ event = .retired opcode ∧ opcode ≠ 0xF3
  delays : ∀ pre opcode post, events = pre ++ .retired 0xFB :: .retired opcode :: post →
    opcode ≠ 0xF3 → (statusAfter (pre ++ [.retired 0xFB, .retired opcode])).ime = true
  disables : ∀ pre mid post, events = pre ++ .retired 0xFB :: (mid ++ .retired 0xF3 :: post) →
    statusAfter pre = ⟨false, false⟩ → (∀ opcode, .retired opcode ∉ mid) →
    (∀ source, .accepted source ∉ mid) ∧
    statusAfter (pre ++ .retired 0xFB :: (mid ++ [.retired 0xF3])) = ⟨false, false⟩

/-- What a cycle that begins in `m` does about interrupts and HALT. -/
structure HaltInOrder (c : CycleInput σ) (m : CpuSide σ) : Prop where
  enters : ∀ source, (entered c m).1 = some source → m.cpu.ime = true ∧ m.cpu.AtBoundary
  wakes : ∀ source, wakeAccepted a c m = some source →
    (toWake a c m).cpu.ime = true ∧ (toWake a c m).cpu.AtBoundary
  requests : retiredIn a c m = some 0x76 → (toWake a c m).cpu.executionState = .fetch ∧
    (toWake a c m).cpu.haltControl =
      .pendingRequest ⟨(entered c m).2.cpu.ime, (entered c m).2.cpu.delayedImeEnable⟩
  keeps : m.cpu.haltRequestPending = true → m.cpu.Rests (toWake a c m).cpu
  postpones : ¬ Evaluates c (toWake a c m) → (toWake a c m).cpu.Rests (cycle a c m).cpu
  resolves : ∀ r, (toWake a c m).cpu.haltControl = .pendingRequest r →
    Evaluates c (toWake a c m) → HaltResolved r (toWake a c m) (cycle a c m) ∧
    (r.imeEnabled = false → r.hadPendingEi = false →
      (toWake a c m).interrupts.pendingMask ≠ 0 →
      FetchesTwice a (toWake a c m).cpu (cycle a c m))
  waits : m.cpu.executionState = .halted → ∀ cs, Unanswered a cs m →
    m.cpu.Rests (run a cs m).cpu ∧ acceptedIn a cs m = [] ∧ activityIn a cs m = []
  answers : m.cpu.executionState = .halted → Evaluates c (toWake a c m) →
    HaltAnswered (toWake a c m) (cycle a c m)

/-! ### Events -/

theorem statusAfter_append (es fs : List ImeEvent) :
    statusAfter (es ++ fs) = fs.foldl ImeStatus.next (statusAfter es) := List.foldl_append

theorem allowed_cut {status : ImeStatus} {pre post : List ImeEvent} {source : InterruptSource}
    (h : Allowed status (pre ++ .accepted source :: post)) :
    (pre.foldl ImeStatus.next status).ime = true :=
  (allowed_append.mp h).2.1 source rfl

/-- Only the end of an EI leaves `IME` about to be set. -/
theorem afterEi_cases {events : List ImeEvent} (h : (statusAfter events).afterEi = true) :
    ∃ pre, events = pre ++ [.retired 0xFB] := by
  rcases List.eq_nil_or_concat events with rfl | ⟨pre, event, rfl⟩
  · cases h
  · rw [List.concat_eq_append, statusAfter_append] at h
    refine ⟨pre, ?_⟩
    rw [List.concat_eq_append]
    cases event with
    | accepted source => cases h
    | stopWake => cases h
    | retired opcode =>
        have hretire : ((statusAfter pre).retire opcode).afterEi = true := h
        unfold ImeStatus.retire at hretire
        split at hretire
        · cases hretire
        · split at hretire
          · cases hretire
          · split at hretire
            · cases hretire
            · next hnot =>
                split at hretire
                · next heq => rw [heq]
                · exact absurd hretire hnot

theorem ime_set_cases {pre : List ImeEvent} {event : ImeEvent}
    (hclear : (statusAfter pre).ime = false) (hset : (statusAfter (pre ++ [event])).ime = true) :
    event = .retired 0xD9 ∨
      ∃ pre' opcode, pre = pre' ++ [.retired 0xFB] ∧ event = .retired opcode ∧ opcode ≠ 0xF3 := by
  rw [statusAfter_append] at hset
  cases event with
  | accepted source => cases hset
  | stopWake => cases hset
  | retired opcode =>
      have hretire : ((statusAfter pre).retire opcode).ime = true := hset
      unfold ImeStatus.retire at hretire
      split at hretire
      · cases hretire
      · next hdi =>
          split at hretire
          · next heq => exact .inl (by rw [heq])
          · split at hretire
            · next hei =>
                obtain ⟨pre', hpre⟩ := afterEi_cases hei
                exact .inr ⟨pre', opcode, hpre, rfl, hdi⟩
            · split at hretire
              · rw [hclear] at hretire
                cases hretire
              · rw [hclear] at hretire
                cases hretire

/-- At the end of the instruction after an EI, whatever it is but DI, `IME` is set. -/
theorem retire_after_ei (status : ImeStatus) {opcode : U8} (h : opcode ≠ 0xF3) :
    ((status.retire 0xFB).retire opcode).ime = true := by
  have hei : status.retire 0xFB =
      if status.afterEi then ⟨true, false⟩ else ⟨status.ime, true⟩ := rfl
  rw [hei, ImeStatus.retire, if_neg h]
  split
  · rfl
  · cases status.afterEi with
    | true => simp only [if_true]; split <;> (try split) <;> rfl
    | false => rfl

/-- While no instruction ends, nothing is let in with `IME` clear. -/
theorem not_accepted_of_clear {status : ImeStatus} {mid post : List ImeEvent}
    (h : Allowed status (mid ++ post)) (hclear : status.ime = false)
    (hmid : ∀ opcode, .retired opcode ∉ mid) : ∀ source, .accepted source ∉ mid := by
  induction mid generalizing status with
  | nil => exact fun source hmem => nomatch hmem
  | cons event mid ih =>
      obtain ⟨haccepts, hrest⟩ := h
      have hclear' : (status.next event).ime = false := by
        cases event with
        | accepted source => rfl
        | stopWake => rfl
        | retired opcode => exact absurd List.mem_cons_self (hmid opcode)
      intro source hmem
      rcases List.mem_cons.mp hmem with heq | hmem
      · have hset := haccepts source heq.symm
        rw [hclear] at hset
        cases hset
      · exact ih hrest hclear' (fun opcode hop => hmid opcode (List.mem_cons_of_mem _ hop))
          source hmem

theorem imeInOrder_of_allowed {events : List ImeEvent} (h : Allowed ⟨false, false⟩ events) :
    ImeInOrder events where
  accepts pre source post heq := by
    rw [heq] at h
    exact allowed_cut h
  sets pre event post _ := ime_set_cases
  delays pre opcode post _ hopcode := by
    rw [statusAfter_append]
    exact retire_after_ei _ hopcode
  disables pre mid post heq hstatus hmid := by
    rw [heq, allowed_append, ← statusAfter, hstatus] at h
    refine ⟨not_accepted_of_clear h.2.2 rfl hmid, ?_⟩
    rw [statusAfter_append, List.foldl_cons, List.foldl_append]
    rfl

/-! ### Cycles -/

theorem stalled_rests (hstall : c.cpuStalled = true) : m.cpu.Rests (toWake a c m).cpu := by
  have hentered : entered c m = (none, ingress c m) := by
    rw [entered, evaluateRequests, if_pos hstall]
  have hcpu : (toWake a c m).cpu = (cpuTick a c (ingress c m)).cpu := by
    rw [toWake, hentered]
    rfl
  rw [hcpu, cpuTick_stalled a c hstall]
  exact rests_tickDmaStallTCycle m.cpu

theorem retiredIn_halt (h : (entered c m).2.cpu.Settled)
    (hhalt : (entered c m).2.cpu.haltRequestPending = true → c.cpuStalled = true)
    (hretired : retiredIn a c m = some 0x76) :
    (toWake a c m).cpu.executionState = .fetch ∧ (toWake a c m).cpu.haltControl =
      .pendingRequest ⟨(entered c m).2.cpu.ime, (entered c m).2.cpu.delayedImeEnable⟩ := by
  have hcpu : (toWake a c m).cpu = (cpuTick a c (entered c m).2).cpu := rfl
  rw [retiredIn] at hretired
  cases hstall : c.cpuStalled with
  | true =>
      rw [hstall, if_pos rfl] at hretired
      cases hretired
  | false =>
      have hpending : (entered c m).2.cpu.haltRequestPending = false := by
        cases hp : (entered c m).2.cpu.haltRequestPending with
        | false => rfl
        | true => exact absurd (hhalt hp) (by rw [hstall]; exact Bool.false_ne_true)
      rw [hstall, if_neg Bool.false_ne_true] at hretired
      rw [hcpu, (cpuTick_eq a c (m := (entered c m).2) hstall).1]
      exact (tickResult_tickTCycle a.callback h hpending
        ((entered c m).2.interrupts, (entered c m).2.joypad, (entered c m).2.env)).halt hretired

/-- An acceptance in the wake-up phase is at a boundary with `IME` set. -/
theorem wakeAccepted_boundary (h : (toWake a c m).cpu.Settled) {source : InterruptSource}
    (haccepted : wakeAccepted a c m = some source) :
    (toWake a c m).cpu.ime = true ∧ (toWake a c m).cpu.AtBoundary := by
  have hwake := wakeResult_wake c h
  rw [← cycle] at hwake
  unfold wakeAccepted at haccepted
  cases hwake with
  | keeps hinterrupts hsettled hstatus hstate =>
      rw [if_pos hinterrupts] at haccepted
      cases haccepted
  | accepts source hpending hime hboundary hinterrupts hsettled hstatus hstate =>
      exact ⟨hime, hboundary⟩
  | stopWake hstopped hpending hinterrupts hsettled hstatus hstate =>
      rw [if_neg (by rw [hinterrupts]; exact clear_ne hpending), hstate] at haccepted
      cases haccepted

theorem haltInOrder_of_settled (h : m.cpu.Settled)
    (hhalt : m.cpu.haltRequestPending = true → c.cpuStalled = true) : HaltInOrder a c m := by
  obtain ⟨hentered, hpending, -⟩ := entered_leads c m h hhalt
  obtain ⟨htoWake, -⟩ := cpuTick_leads a c m hentered hpending
  refine ⟨fun source haccepted => ?_, fun source haccepted => ?_, retiredIn_halt a c m hentered hpending,
    fun hp => stalled_rests a c m (hhalt hp), fun hnot => (wake_rests c hnot).1,
    fun r hr hevaluates => ⟨haltResolved_wake c htoWake hr hevaluates, fun hclear hei hmask => ?_⟩,
    fun hstate cs => halted_run a cs h hstate, fun hstate hevaluates => ?_⟩
  · obtain ⟨hime, hboundary, -, -⟩ := entered_accepts c m haccepted
    exact ⟨hime, hboundary⟩
  · exact wakeAccepted_boundary a c m htoWake haccepted
  · obtain ⟨hcpu, -⟩ := (haltResolved_wake c htoWake hr hevaluates).bug hclear hei hmask
    obtain ⟨hstate, hime⟩ := htoWake.request r hr
    have hflight := htoWake.flight
    unfold FlightSettled at hflight
    rw [hstate] at hflight
    refine fetchesTwice_of_bugFetch a ?_
    rw [cycle, hcpu]
    refine ⟨rfl, hstate, hflight.2, ?_, rfl⟩
    show (toWake a c m).cpu.imeState = .disabled
    rw [hime, hclear, hei]
    rfl
  · obtain ⟨-, -, hrests⟩ := halted_toWake a c m hstate
    exact haltAnswered_wake c htoWake (hrests.executionState.trans hstate) hevaluates

/-! ## Every run -/

theorem haltInTime_append (cs ds : List (CycleInput σ)) (m : CpuSide σ) :
    HaltInTime a (cs ++ ds) m ↔ HaltInTime a cs m ∧ HaltInTime a ds (run a cs m) := by
  induction cs generalizing m with
  | nil => exact ⟨fun h => ⟨trivial, h⟩, fun h => h.2⟩
  | cons c cs ih =>
      show (_ ∧ HaltInTime a (cs ++ ds) _) ↔ (_ ∧ HaltInTime a cs _) ∧ _
      rw [ih, and_assoc]
      rfl

/-- The core as it is built, or as the boot ROM leaves it. -/
def PoweredOn (cpu : CpuCore) : Prop :=
  ∃ model, cpu = CpuCore.new model ∨
    ∃ startupState, cpu = (CpuCore.new model).applyStartupState startupState

theorem PoweredOn.settled {cpu : CpuCore} (h : PoweredOn cpu) :
    cpu.Settled ∧ cpu.imeStatus = ⟨false, false⟩ := by
  obtain ⟨model, rfl | ⟨startupState, rfl⟩⟩ := h
  · exact ⟨settled_of_idle rfl ⟨Nat.zero_le _, rfl⟩ (.inl rfl), rfl⟩
  · exact ⟨settled_of_idle rfl ⟨Nat.zero_le _, rfl⟩ (.inl rfl), rfl⟩

/-- In every run from power-on in which no HALT is still unresolved when the core takes its next
T-cycle, whatever the program and the requests are:

* `IME` moves with the events of the run, an interrupt comes in only with `IME` set, `IME` is set
  by RETI or at the end of the instruction after an EI, and EI followed by DI lets nothing in
  that the state before EI did not;
* in every next cycle an acceptance is at a boundary with `IME` set, and a HALT becomes the halt
  bug, an acceptance, or a halted core that waits for a request. -/
theorem interrupts_and_halt_in_order {m : CpuSide σ} (hstart : PoweredOn m.cpu)
    (cs : List (CycleInput σ)) (hcs : HaltInTime a cs m) :
    (run a cs m).cpu.imeStatus = statusAfter (eventsIn a cs m) ∧
    ImeInOrder (eventsIn a cs m) ∧
    ∀ c, HaltInTime a (cs ++ [c]) m → HaltInOrder a c (run a cs m) := by
  obtain ⟨hsettled, hstatus⟩ := hstart.settled
  obtain ⟨hrun, hleads, hallowed⟩ := run_leads a cs hsettled hcs
  rw [hstatus] at hleads hallowed
  refine ⟨hleads, imeInOrder_of_allowed hallowed, fun c hc => ?_⟩
  exact haltInOrder_of_settled a c _ hrun ((haltInTime_append a cs [c] m).mp hc).2.1

/-- The timer's interrupt is enabled and requested, then `EI; HALT`. -/
def eiHaltProgram : List U8 := [0x3E, 0x04, 0xE0, 0xFF, 0xE0, 0x0F, 0xFB, 0x76]

/-- The core of `eiHaltProgram` in the last T-cycle of its HALT. -/
def eiHalting : CpuSide Unit := run (programSpace eiHaltProgram) (List.replicate 39 quiet) started

/-- A HALT right after an EI, with `IME` clear and an enabled request pending, has no halt bug:
the interrupt is accepted at once, and will return to the HALT itself. -/
theorem interrupts_and_halt_in_order_ei_halt :
    let p := programSpace eiHaltProgram
    (retiredIn p quiet eiHalting = some 0x76 ∧ (entered quiet eiHalting).2.cpu.ime = false ∧
      (toWake p quiet eiHalting).interrupts.highestPending = some .timer) ∧
    wakeAccepted p quiet eiHalting = some .timer ∧
    activityIn p (List.replicate 20 quiet) (cycle p quiet eiHalting) =
      [⟨.dataWrite, 0xFFFD, 0x01⟩, ⟨.dataWrite, 0xFFFC, 0x07⟩] ∧
    ¬ FetchesTwice p (toWake p quiet eiHalting).cpu (cycle p quiet eiHalting) := by
  refine ⟨by decide +kernel, by decide +kernel, by decide +kernel, fun h => ?_⟩
  obtain ⟨-, opcode, hactivity, -⟩ := h.fetches (List.replicate 3 quiet) quiet (by decide) rfl
  have hnone : activity (programSpace eiHaltProgram) quiet
      (run (programSpace eiHaltProgram) (List.replicate 3 quiet)
        (cycle (programSpace eiHaltProgram) quiet eiHalting)) = [] := by decide +kernel
  rw [hnone] at hactivity
  cases hactivity

/-- The run up to that HALT, and the cycle that ends it. -/
theorem interrupts_and_halt_in_order_ei :
    let p := programSpace eiHaltProgram
    eiHalting.cpu.imeStatus = statusAfter (eventsIn p (List.replicate 39 quiet) started) ∧
    ImeInOrder (eventsIn p (List.replicate 39 quiet) started) ∧ HaltInOrder p quiet eiHalting := by
  have h := interrupts_and_halt_in_order (programSpace eiHaltProgram) (m := started)
    ⟨.gameBoy, .inr ⟨_, rfl⟩⟩ (List.replicate 39 quiet) (by decide +kernel)
  exact ⟨h.1, h.2.1, h.2.2 quiet (by decide +kernel)⟩

end CpuSide

end GbCycle
