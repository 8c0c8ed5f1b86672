import GbCycle.Cpu.InterruptRun
import Mathlib.Tactic.IntervalCases

/-!
# An accepted interrupt is dispatched

A service takes twenty T-cycles of the core.  `Servicing` says where in them the core is;
one T-cycle of the core moves it one position on, and neither evaluation of a cycle touches
it.  Two positions do more than count: at the end of the fourth machine cycle the high byte
of `PC` is pushed, which may land on IE and change or cancel the service, and at the end of
the fifth the low byte is pushed and `PC` becomes the vector.
-/

namespace GbCycle

namespace CpuCore

/-- A service: of an interrupt source, or the one a wake-up from STOP runs instead. -/
inductive Service where
  | vectored (source : InterruptSource)
  | stopWake
  deriving Repr, DecidableEq

def Service.state : Service → Nat → Nat → CpuExecutionState
  | .vectored source => .serviceInterrupt source
  | .stopWake => .serviceStopWakeBuggedInterrupt

/-- `pos` T-cycles of the service are over.  `pc₀` and `sp₀` are from its beginning. -/
structure Servicing (service : Service) (pc₀ sp₀ : U16) (pos : Nat) (cpu : CpuCore) : Prop where
  state : cpu.executionState = service.state (pos / 4) (pos % 4)
  pc : cpu.registers.pc = pc₀
  sp : cpu.registers.sp = if pos < 12 then sp₀ else sp₀ - 1
  latch : 12 ≤ pos → cpu.inFlight.operand8Latch = pc₀.low
  ime : cpu.imeState = .disabled
  halt : cpu.haltRequestPending = false

/-- A service has ended: the core is at an opcode fetch with interrupts disabled. -/
structure Serviced (target sp₁ : U16) (cpu : CpuCore) : Prop where
  state : cpu.executionState = .fetch
  pc : cpu.registers.pc = target
  sp : cpu.registers.sp = sp₁
  ime : cpu.imeState = .disabled
  halt : cpu.haltRequestPending = false

/-! ## The evaluations leave a service alone -/

/-- Interrupts are off, and nothing that could wake the core up is left. -/
structure Undisturbed (cpu : CpuCore) : Prop where
  ime : cpu.ime = false
  halt : cpu.haltRequestPending = false
  awake : cpu.isStopSleepState = false
  notTrapped : cpu.isDiagnosticTrap = false
  notHalted : cpu.executionState ≠ .halted

theorem Servicing.undisturbed {service : Service} {pc₀ sp₀ : U16} {pos : Nat} {cpu : CpuCore}
    (h : Servicing service pc₀ sp₀ pos cpu) : Undisturbed cpu where
  ime := by rw [CpuCore.ime, h.ime]; rfl
  halt := h.halt
  awake := by rw [isStopSleepState, h.state]; cases service <;> rfl
  notTrapped := by rw [isDiagnosticTrap, h.state]; cases service <;> rfl
  notHalted := by rw [h.state]; cases service <;> exact nofun

theorem Serviced.undisturbed {target sp₁ : U16} {cpu : CpuCore} (h : Serviced target sp₁ cpu) :
    Undisturbed cpu where
  ime := by rw [CpuCore.ime, h.ime]; rfl
  halt := h.halt
  awake := by rw [isStopSleepState, h.state]; rfl
  notTrapped := by rw [isDiagnosticTrap, h.state]; rfl
  notHalted := by rw [h.state]; exact nofun

theorem Undisturbed.evaluateCurrentCycle {cpu : CpuCore} (h : Undisturbed cpu)
    (interrupts : InterruptController) (mask : U8) :
    cpu.evaluateCurrentCycleInterruptRequests interrupts mask = (none, cpu, interrupts) := by
  rw [evaluateCurrentCycleInterruptRequests, h.ime]
  simp

theorem takeHaltRequest_of_not_pending {cpu : CpuCore} (h : cpu.haltRequestPending = false) :
    cpu.takeHaltRequest = (none, cpu) := by
  rw [haltRequestPending] at h
  cases hc : cpu.haltControl with
  | pendingRequest context => rw [hc] at h; cases h
  | idle => rw [takeHaltRequest, hc]
  | haltBugPending => rw [takeHaltRequest, hc]

theorem Undisturbed.evaluateWake {cpu : CpuCore} (h : Undisturbed cpu)
    (interrupts : InterruptController) (joypad : Joypad) :
    ∃ joypad', cpu.evaluateWakeAndInterrupts interrupts joypad = (cpu, interrupts, joypad') := by
  simp only [evaluateWakeAndInterrupts, h.ime, h.halt, h.awake, h.notTrapped,
    takeHaltRequest_of_not_pending h.halt, if_neg h.notHalted]
  split
  · exact ⟨_, rfl⟩
  · exact ⟨_, rfl⟩

/-! ## The T-cycles of a service -/

section Tick

variable {σ : Type} (bus : CpuExternalCallback σ) {service : Service} {pc₀ sp₀ : U16} {pos : Nat}
  {cpu : CpuCore}

/-- All but two T-cycles of a service only move it on. -/
theorem Servicing.tick (h : Servicing service pc₀ sp₀ pos cpu) (s : σ) (hpos : pos < 19)
    (hpush : pos ≠ 15) :
    ∃ cpu', cpu.tickTCycle bus s = (cpu', s) ∧ Servicing service pc₀ sp₀ (pos + 1) cpu' ∧
      cpu'.lastBusActivity = none := by
  obtain ⟨hstate, hpc, hsp, hlatch, hime, hhalt⟩ := h
  rcases cpu with ⟨m, su, r, state, fl, ime, halt, ba, ae, div, sw⟩
  dsimp only at hstate hpc hsp hlatch hime
  subst hstate hpc hime
  cases service <;> interval_cases pos <;> first | exact absurd rfl hpush | skip
  all_goals
    refine ⟨_, rfl, ⟨rfl, rfl, ?_, ?_, rfl, hhalt⟩, rfl⟩
    · first | exact hsp | exact congrArg (· - 1) hsp
    · first
        | exact fun h => absurd h (by decide)
        | exact fun _ => rfl
        | exact fun _ => hlatch (by decide)

/-- The last T-cycle of a service: the low byte is pushed and `PC` is the vector. -/
theorem Servicing.tick_vector {source : InterruptSource}
    (h : Servicing (.vectored source) pc₀ sp₀ 19 cpu) (s : σ) :
    let x := cpu.tickTCycle bus s
    Serviced source.vector (sp₀ - 1 - 1) x.1 ∧
    x.1.lastBusActivity = some ⟨.dataWrite, sp₀ - 1 - 1, pc₀.low⟩ := by
  obtain ⟨hstate, hpc, hsp, hlatch, hime, hhalt⟩ := h
  rcases cpu with ⟨m, su, r, state, fl, ime, halt, ba, ae, div, sw⟩
  dsimp only at hstate hpc hsp hlatch hime
  subst hstate hpc hime
  have hsp' : r.sp = sp₀ - 1 := hsp
  rw [← hsp', ← hlatch (by decide)]
  exact ⟨⟨rfl, rfl, rfl, rfl, hhalt⟩, rfl⟩

/-- The service a wake-up from STOP runs pushes both bytes to one address and ends at
address zero. -/
theorem Servicing.tick_stopWakePush (h : Servicing .stopWake pc₀ sp₀ 15 cpu) (s : σ) :
    let x := cpu.tickTCycle bus s
    Servicing .stopWake pc₀ sp₀ 16 x.1 ∧
    x.1.lastBusActivity = some ⟨.dataWrite, sp₀ - 1, pc₀.high⟩ := by
  obtain ⟨hstate, hpc, hsp, hlatch, hime, hhalt⟩ := h
  rcases cpu with ⟨m, su, r, state, fl, ime, halt, ba, ae, div, sw⟩
  dsimp only at hstate hpc hsp hlatch hime
  subst hstate hpc hime
  have hsp' : r.sp = sp₀ - 1 := hsp
  rw [← hsp']
  exact ⟨⟨rfl, rfl, hsp, fun _ => hlatch (by decide), rfl, hhalt⟩, rfl⟩

theorem Servicing.tick_stopWakeVector (h : Servicing .stopWake pc₀ sp₀ 19 cpu) (s : σ) :
    let x := cpu.tickTCycle bus s
    Serviced 0x0000 (sp₀ - 1) x.1 ∧
    x.1.lastBusActivity = some ⟨.dataWrite, sp₀ - 1, pc₀.low⟩ := by
  obtain ⟨hstate, hpc, hsp, hlatch, hime, hhalt⟩ := h
  rcases cpu with ⟨m, su, r, state, fl, ime, halt, ba, ae, div, sw⟩
  dsimp only at hstate hpc hsp hlatch hime
  subst hstate hpc hime
  have hsp' : r.sp = sp₀ - 1 := hsp
  rw [← hsp', ← hlatch (by decide)]
  exact ⟨⟨rfl, rfl, rfl, rfl, hhalt⟩, rfl⟩

end Tick

/-! ## The push of the high byte -/

theorem flags_request (i : InterruptController) (source : InterruptSource) :
    (i.request source).interruptFlags &&& source.mask ≠ 0 := by
  show (i.interruptFlags ||| source.mask) &&& source.mask ≠ 0
  rw [U8.or_and_self]
  exact source.mask_ne_zero

theorem flags_request_clear (i : InterruptController) {source next : InterruptSource}
    (h : next ≠ source) : ((i.request source).clear next).interruptFlags &&& source.mask ≠ 0 := by
  have hbit : ∀ flags : U8, ((flags ||| source.mask) &&& ~~~ next.mask) &&& source.mask ≠ 0 := by
    intro flags
    rw [U8.or_and_not_and]
    cases source <;> cases next <;> first | exact absurd rfl h | decide
  exact hbit i.interruptFlags

section Push

variable {σ : Type} (a : AddressSpace σ) {pc₀ sp₀ : U16} {cpu : CpuCore}

/-- The fourth machine cycle ends with the push of the high byte.  Only where it lands on
IE can the service change: to another source, with the first one back in IF, or to nothing,
which also puts it back. -/
theorem Servicing.tick_pushHigh {source : InterruptSource}
    (h : Servicing (.vectored source) pc₀ sp₀ 15 cpu) (s : Behind σ) :
    let x := cpu.tickTCycle a.callback s
    x.1.lastBusActivity = some ⟨.dataWrite, sp₀ - 1, pc₀.high⟩ ∧
    (Servicing (.vectored source) pc₀ sp₀ 16 x.1 ∨
      sp₀ = 0 ∧ x.2.1.interruptFlags &&& source.mask ≠ 0 ∧
        (Serviced 0x0000 (sp₀ - 1) x.1 ∨
          ∃ target, Servicing (.vectored target) pc₀ sp₀ 16 x.1)) := by
  obtain ⟨hstate, hpc, hsp, hlatch, hime, hhalt⟩ := h
  have hsp' : cpu.registers.sp = sp₀ - 1 := hsp
  have hlatch' : cpu.inFlight.operand8Latch = pc₀.low := hlatch (by decide)
  have hx : cpu.tickTCycle a.callback s =
      completeInterruptServiceMachineCycle a.callback
        { cpu with lastBusActivity := none, lastAddressEvent := none } source 3 s := by
    rcases cpu with ⟨m, su, r, state, fl, ime, halt, ba, ae, div, sw⟩
    cases hstate
    rfl
  rw [hx, ← hsp', ← hpc]
  simp only [completeInterruptServiceMachineCycle]
  split
  · next hie =>
      have hzero : sp₀ = 0 := by
        have hpush : sp₀ - 1 = 0xFFFF := hsp' ▸ eq_of_beq hie
        bv_omega
      split
      · next target htarget =>
          split
          · next hne =>
              exact ⟨rfl, .inr ⟨hzero, flags_request_clear _ hne, .inr ⟨target,
                ⟨rfl, rfl, hsp', fun _ => hpc ▸ hlatch', hime, hhalt⟩⟩⟩⟩
          · next heq =>
              have heq' : target = source := by simpa using heq
              rw [heq']
              exact ⟨rfl, .inl ⟨rfl, rfl, hsp', fun _ => hpc ▸ hlatch', hime, hhalt⟩⟩
      · exact ⟨rfl, .inr ⟨hzero, flags_request _ source, .inl ⟨rfl, rfl, rfl, hime, hhalt⟩⟩⟩
  · exact ⟨rfl, .inl ⟨rfl, rfl, hsp', fun _ => hpc ▸ hlatch', hime, hhalt⟩⟩

end Push

/-! ## Bookkeeping around the core -/

theorem Servicing.finalize {service : Service} {pc₀ sp₀ : U16} {pos : Nat} {cpu : CpuCore}
    (h : Servicing service pc₀ sp₀ pos cpu) :
    Servicing service pc₀ sp₀ pos (CpuSide.finalizeCpuMicroOperation cpu) :=
  ⟨h.state, h.pc, h.sp, h.latch, h.ime, h.halt⟩

theorem Servicing.dmaStall {service : Service} {pc₀ sp₀ : U16} {pos : Nat} {cpu : CpuCore}
    (h : Servicing service pc₀ sp₀ pos cpu) :
    Servicing service pc₀ sp₀ pos cpu.tickDmaStallTCycle :=
  ⟨h.state, h.pc, h.sp, h.latch, h.ime, h.halt⟩

theorem Serviced.finalize {target sp₁ : U16} {cpu : CpuCore} (h : Serviced target sp₁ cpu) :
    Serviced target sp₁ (CpuSide.finalizeCpuMicroOperation cpu) :=
  ⟨h.state, h.pc, h.sp, h.ime, h.halt⟩

theorem Serviced.dmaStall {target sp₁ : U16} {cpu : CpuCore} (h : Serviced target sp₁ cpu) :
    Serviced target sp₁ cpu.tickDmaStallTCycle :=
  ⟨h.state, h.pc, h.sp, h.ime, h.halt⟩

theorem Servicing.carry {service : Service} {pc₀ sp₀ : U16} {pos : Nat} {cpu cpu' : CpuCore}
    (h : Servicing service pc₀ sp₀ pos cpu)
    (hcpu : cpu' = cpu ∨ cpu' = cpu.tickDmaStallTCycle) :
    Servicing service pc₀ sp₀ pos cpu' := by
  rcases hcpu with rfl | rfl
  · exact h
  · exact h.dmaStall

theorem Serviced.carry {target sp₁ : U16} {cpu cpu' : CpuCore} (h : Serviced target sp₁ cpu)
    (hcpu : cpu' = cpu ∨ cpu' = cpu.tickDmaStallTCycle) : Serviced target sp₁ cpu' := by
  rcases hcpu with rfl | rfl
  · exact h
  · exact h.dmaStall

end CpuCore

namespace CpuSide

open CpuCore

variable {σ : Type} (a : AddressSpace σ) (c : CycleInput σ) {m : CpuSide σ}

/-! ## A cycle of an undisturbed core -/

theorem entered_of_undisturbed (h : Undisturbed m.cpu) : entered c m = (none, ingress c m) := by
  have hcpu : Undisturbed (ingress c m).cpu := h
  simp only [entered, evaluateRequests, hcpu.evaluateCurrentCycle]
  split <;> rfl

/-- The wake-up phase of an undisturbed core accepts nothing. -/
theorem wake_of_undisturbed (h : Undisturbed m.cpu) :
    (wake c m).interrupts = m.interrupts ∧
    ((wake c m).cpu = m.cpu ∨ (wake c m).cpu = m.cpu.tickDmaStallTCycle) := by
  obtain ⟨joypad, hwake⟩ := h.evaluateWake m.interrupts m.joypad
  simp only [wake, hwake]
  split
  · exact ⟨rfl, .inr rfl⟩
  · split
    · exact ⟨rfl, .inl rfl⟩
    · exact ⟨rfl, .inl rfl⟩

/-- The cycle of a core that neither evaluation can touch, before or after its T-cycle. -/
theorem cycle_of_undisturbed (h : Undisturbed m.cpu)
    (htick : Undisturbed (cpuTick a c (ingress c m)).cpu) :
    accepted a c m = [] ∧
    activity a c m = (cpuTick a c (ingress c m)).cpu.lastBusActivity.toList ∧
    (cycle a c m).interrupts = (aggregate c (cpuTick a c (ingress c m)) none).interrupts ∧
    ((cycle a c m).cpu = (cpuTick a c (ingress c m)).cpu ∨
      (cycle a c m).cpu = (cpuTick a c (ingress c m)).cpu.tickDmaStallTCycle) := by
  have hentered := entered_of_undisturbed c h
  have hbefore : Undisturbed (beforeWake a c (ingress c m) none).cpu := htick
  obtain ⟨hinterrupts, hcpu⟩ := wake_of_undisturbed c hbefore
  have hcycle : cycle a c m = wake c (beforeWake a c (ingress c m) none) := by
    simp only [cycle, toWake, hentered]
  refine ⟨?_, ?_, ?_, ?_⟩
  · simp only [accepted, wakeAccepted, toWake, hentered, hcycle]
    rw [if_pos hinterrupts]
    rfl
  · simp only [activity, hentered]
  · rw [hcycle]
    exact hinterrupts
  · rw [hcycle]
    exact hcpu

/-- The core's T-cycle, when DMA does not take it. -/
theorem cpuTick_eq (hstall : c.cpuStalled = false) :
    let x := m.cpu.tickTCycle a.callback (m.interrupts, m.joypad, m.env)
    (cpuTick a c m).cpu = finalizeCpuMicroOperation x.1 ∧
    (cpuTick a c m).interrupts = x.2.1 := by
  simp only [cpuTick, hstall]
  exact ⟨rfl, rfl⟩

theorem cpuTick_stalled (hstall : c.cpuStalled = true) :
    (cpuTick a c m).cpu = m.cpu.tickDmaStallTCycle := by
  simp only [cpuTick, hstall, if_true]

/-! ## Requests only set bits -/

theorem flags_request_of_ne {i : InterruptController} {source : InterruptSource}
    (h : i.interruptFlags &&& source.mask ≠ 0) (other : InterruptSource) :
    (i.request other).interruptFlags &&& source.mask ≠ 0 :=
  U8.and_ne_zero_of_or h

theorem flags_aggregate {source : InterruptSource}
    (h : m.interrupts.interruptFlags &&& source.mask ≠ 0)
    (accepted : Option InterruptSource) :
    (aggregate c m accepted).interrupts.interruptFlags &&& source.mask ≠ 0 := by
  have hfold : ∀ (requests : List InterruptSource) (i : InterruptController),
      i.interruptFlags &&& source.mask ≠ 0 →
      (requests.foldl InterruptController.request i).interruptFlags &&& source.mask ≠ 0 := by
    intro requests
    induction requests with
    | nil => exact fun i hi => hi
    | cons other requests ih => exact fun i hi => ih _ (flags_request_of_ne hi other)
  have hif : ∀ (b : Bool) (other : InterruptSource) (i : InterruptController),
      i.interruptFlags &&& source.mask ≠ 0 →
      (if b then i.request other else i).interruptFlags &&& source.mask ≠ 0 := by
    intro b other i hi
    cases b
    · exact hi
    · exact flags_request_of_ne hi other
  exact hif _ _ _ (hif _ _ _ (hif _ _ _ (hfold _ _ h)))

/-! ## The cycles of a service -/

variable {service : Service} {pc₀ sp₀ : U16} {pos : Nat}

/-- How far a cycle takes the core: one T-cycle, or none when DMA holds it. -/
def cpuTCyclesOf (c : CycleInput σ) : Nat := if c.cpuStalled then 0 else 1

theorem servicing_cycle (h : Servicing service pc₀ sp₀ pos m.cpu)
    (hpos : c.cpuStalled = true ∨ pos < 19 ∧ pos ≠ 15) :
    accepted a c m = [] ∧ activity a c m = [] ∧
    Servicing service pc₀ sp₀ (pos + cpuTCyclesOf c) (cycle a c m).cpu := by
  have htick : Servicing service pc₀ sp₀ (pos + cpuTCyclesOf c)
        (cpuTick a c (ingress c m)).cpu ∧
      (cpuTick a c (ingress c m)).cpu.lastBusActivity = none := by
    cases hstall : c.cpuStalled with
    | true =>
        rw [cpuTick_stalled a c hstall, cpuTCyclesOf, hstall]
        exact ⟨h.dmaStall, rfl⟩
    | false =>
        obtain ⟨hlt, hne⟩ := hpos.resolve_left (by rw [hstall]; exact nofun)
        obtain ⟨cpu', heq, hserv, hact⟩ :=
          h.tick a.callback (m.interrupts, c.joypad m.joypad, c.env m.env) hlt hne
        have hcpu := (cpuTick_eq a c (m := ingress c m) hstall).1
        have heq' : (ingress c m).cpu.tickTCycle a.callback
            ((ingress c m).interrupts, (ingress c m).joypad, (ingress c m).env) =
              (cpu', (m.interrupts, c.joypad m.joypad, c.env m.env)) := heq
        rw [heq'] at hcpu
        rw [hcpu, cpuTCyclesOf, hstall]
        exact ⟨hserv.finalize, hact⟩
  obtain ⟨hserv, hact⟩ := htick
  obtain ⟨haccepted, hactivity, _, hcpu⟩ :=
    cycle_of_undisturbed a c h.undisturbed hserv.undisturbed
  exact ⟨haccepted, by rw [hactivity, hact]; rfl, hserv.carry hcpu⟩

/-- The cycle in which the high byte is pushed. -/
theorem pushHigh_cycle {source : InterruptSource}
    (h : Servicing (.vectored source) pc₀ sp₀ 15 m.cpu) (hstall : c.cpuStalled = false) :
    accepted a c m = [] ∧ activity a c m = [⟨.dataWrite, sp₀ - 1, pc₀.high⟩] ∧
    (Servicing (.vectored source) pc₀ sp₀ 16 (cycle a c m).cpu ∨
      sp₀ = 0 ∧ (cycle a c m).interrupts.interruptFlags &&& source.mask ≠ 0 ∧
        (Serviced 0x0000 (sp₀ - 1) (cycle a c m).cpu ∨
          ∃ target, Servicing (.vectored target) pc₀ sp₀ 16 (cycle a c m).cpu)) := by
  obtain ⟨hcpu, hinterrupts⟩ := cpuTick_eq a c (m := ingress c m) hstall
  obtain ⟨hact, hserv⟩ := h.tick_pushHigh a (m.interrupts, c.joypad m.joypad, c.env m.env)
  have hact' : (cpuTick a c (ingress c m)).cpu.lastBusActivity =
      some ⟨.dataWrite, sp₀ - 1, pc₀.high⟩ := by
    rw [hcpu]
    exact hact
  -- Whatever the push has made of the service, the core stays undisturbed after it.
  have hafter : Undisturbed (cpuTick a c (ingress c m)).cpu := by
    rw [hcpu]
    rcases hserv with hserv | ⟨_, _, hserv | ⟨target, hserv⟩⟩
    · exact hserv.finalize.undisturbed
    · exact hserv.finalize.undisturbed
    · exact hserv.finalize.undisturbed
  obtain ⟨haccepted, hactivity, hflags, hcycle⟩ :=
    cycle_of_undisturbed a c h.undisturbed hafter
  have hpending (hbit : (m.cpu.tickTCycle a.callback
      (m.interrupts, c.joypad m.joypad, c.env m.env)).2.1.interruptFlags &&& source.mask ≠ 0) :
      (cycle a c m).interrupts.interruptFlags &&& source.mask ≠ 0 := by
    rw [hflags]
    refine flags_aggregate c ?_ none
    rw [hinterrupts]
    exact hbit
  refine ⟨haccepted, by rw [hactivity, hact']; rfl, ?_⟩
  rw [hcpu] at hcycle
  rcases hserv with hserv | ⟨hsp, hbit, hserv | ⟨target, hserv⟩⟩
  · exact .inl (hserv.finalize.carry hcycle)
  · exact .inr ⟨hsp, hpending hbit, .inl (hserv.finalize.carry hcycle)⟩
  · exact .inr ⟨hsp, hpending hbit, .inr ⟨target, hserv.finalize.carry hcycle⟩⟩

/-- The cycle in which a service ends. -/
theorem vector_cycle {source : InterruptSource}
    (h : Servicing (.vectored source) pc₀ sp₀ 19 m.cpu) (hstall : c.cpuStalled = false) :
    accepted a c m = [] ∧ activity a c m = [⟨.dataWrite, sp₀ - 1 - 1, pc₀.low⟩] ∧
    Serviced source.vector (sp₀ - 1 - 1) (cycle a c m).cpu := by
  have hcpu := (cpuTick_eq a c (m := ingress c m) hstall).1
  obtain ⟨hserv, hact⟩ := h.tick_vector a.callback (m.interrupts, c.joypad m.joypad, c.env m.env)
  have hserv' : Serviced source.vector (sp₀ - 1 - 1) (cpuTick a c (ingress c m)).cpu := by
    rw [hcpu]
    exact hserv.finalize
  obtain ⟨haccepted, hactivity, _, hcycle⟩ :=
    cycle_of_undisturbed a c h.undisturbed hserv'.undisturbed
  refine ⟨haccepted, ?_, hserv'.carry hcycle⟩
  rw [hactivity, hcpu]
  exact congrArg Option.toList hact

theorem stopWakePush_cycle (h : Servicing .stopWake pc₀ sp₀ 15 m.cpu)
    (hstall : c.cpuStalled = false) :
    accepted a c m = [] ∧ activity a c m = [⟨.dataWrite, sp₀ - 1, pc₀.high⟩] ∧
    Servicing .stopWake pc₀ sp₀ 16 (cycle a c m).cpu := by
  have hcpu := (cpuTick_eq a c (m := ingress c m) hstall).1
  obtain ⟨hserv, hact⟩ := h.tick_stopWakePush a.callback (m.interrupts, c.joypad m.joypad, c.env m.env)
  have hserv' : Servicing .stopWake pc₀ sp₀ 16 (cpuTick a c (ingress c m)).cpu := by
    rw [hcpu]
    exact hserv.finalize
  obtain ⟨haccepted, hactivity, _, hcycle⟩ :=
    cycle_of_undisturbed a c h.undisturbed hserv'.undisturbed
  refine ⟨haccepted, ?_, hserv'.carry hcycle⟩
  rw [hactivity, hcpu]
  exact congrArg Option.toList hact

theorem stopWakeVector_cycle (h : Servicing .stopWake pc₀ sp₀ 19 m.cpu)
    (hstall : c.cpuStalled = false) :
    accepted a c m = [] ∧ activity a c m = [⟨.dataWrite, sp₀ - 1, pc₀.low⟩] ∧
    Serviced 0x0000 (sp₀ - 1) (cycle a c m).cpu := by
  have hcpu := (cpuTick_eq a c (m := ingress c m) hstall).1
  obtain ⟨hserv, hact⟩ := h.tick_stopWakeVector a.callback (m.interrupts, c.joypad m.joypad, c.env m.env)
  have hserv' : Serviced 0x0000 (sp₀ - 1) (cpuTick a c (ingress c m)).cpu := by
    rw [hcpu]
    exact hserv.finalize
  obtain ⟨haccepted, hactivity, _, hcycle⟩ :=
    cycle_of_undisturbed a c h.undisturbed hserv'.undisturbed
  refine ⟨haccepted, ?_, hserv'.carry hcycle⟩
  rw [hactivity, hcpu]
  exact congrArg Option.toList hact

/-- After a service, the T-cycles DMA takes change nothing. -/
theorem serviced_stalled_cycle {target sp₁ : U16} (h : Serviced target sp₁ m.cpu)
    (hstall : c.cpuStalled = true) :
    accepted a c m = [] ∧ activity a c m = [] ∧ Serviced target sp₁ (cycle a c m).cpu := by
  have hcpu := cpuTick_stalled a c (m := ingress c m) hstall
  have hserv : Serviced target sp₁ (cpuTick a c (ingress c m)).cpu := by
    rw [hcpu]
    exact h.dmaStall
  obtain ⟨haccepted, hactivity, _, hcycle⟩ :=
    cycle_of_undisturbed a c h.undisturbed hserv.undisturbed
  refine ⟨haccepted, ?_, hserv.carry hcycle⟩
  rw [hactivity, hcpu]
  rfl

/-! ## Runs -/

theorem run_append (cs ds : List (CycleInput σ)) (m : CpuSide σ) :
    run a (cs ++ ds) m = run a ds (run a cs m) :=
  List.foldl_append

theorem acceptedIn_append (cs ds : List (CycleInput σ)) (m : CpuSide σ) :
    acceptedIn a (cs ++ ds) m = acceptedIn a cs m ++ acceptedIn a ds (run a cs m) := by
  induction cs generalizing m with
  | nil => rfl
  | cons c cs ih => rw [List.cons_append, acceptedIn, ih, acceptedIn, List.append_assoc]; rfl

theorem activityIn_append (cs ds : List (CycleInput σ)) (m : CpuSide σ) :
    activityIn a (cs ++ ds) m = activityIn a cs m ++ activityIn a ds (run a cs m) := by
  induction cs generalizing m with
  | nil => rfl
  | cons c cs ih => rw [List.cons_append, activityIn, ih, activityIn, List.append_assoc]; rfl

theorem cpuTCycles_cons (cs : List (CycleInput σ)) :
    cpuTCycles (c :: cs) = cpuTCyclesOf c + cpuTCycles cs := by
  rw [cpuTCycles, cpuTCycles, List.countP_cons, Nat.add_comm, cpuTCyclesOf]
  cases c.cpuStalled <;> rfl

/-- A run of at least `n + 1` T-cycles of the core, cut right after the `n + 1`st. -/
theorem exists_cut (cs : List (CycleInput σ)) (n : Nat) (h : n < cpuTCycles cs) :
    ∃ cs₁ c cs₂, cs = cs₁ ++ c :: cs₂ ∧ cpuTCycles cs₁ = n ∧ c.cpuStalled = false ∧
      cpuTCycles cs₂ + (n + 1) = cpuTCycles cs := by
  induction cs generalizing n with
  | nil => exact absurd h (Nat.not_lt_zero n)
  | cons c cs ih =>
      rw [cpuTCycles_cons] at h ⊢
      cases hstall : c.cpuStalled with
      | true =>
          rw [cpuTCyclesOf, hstall, if_pos rfl, Nat.zero_add] at h ⊢
          obtain ⟨cs₁, d, cs₂, rfl, hcs₁, hd, hcs₂⟩ := ih n h
          refine ⟨c :: cs₁, d, cs₂, rfl, ?_, hd, hcs₂⟩
          rw [cpuTCycles_cons, cpuTCyclesOf, hstall, if_pos rfl, Nat.zero_add, hcs₁]
      | false =>
          rw [cpuTCyclesOf, hstall, if_neg Bool.false_ne_true] at h ⊢
          cases n with
          | zero => exact ⟨[], c, cs, rfl, rfl, hstall, by omega⟩
          | succ n =>
              obtain ⟨cs₁, d, cs₂, rfl, hcs₁, hd, hcs₂⟩ := ih n (by omega)
              refine ⟨c :: cs₁, d, cs₂, rfl, ?_, hd, by omega⟩
              rw [cpuTCycles_cons, cpuTCyclesOf, hstall, if_neg Bool.false_ne_true, hcs₁]
              omega

/-- A stretch of a service in which it only moves on. -/
theorem servicing_run (cs : List (CycleInput σ)) (h : Servicing service pc₀ sp₀ pos m.cpu)
    (hpos : pos + cpuTCycles cs ≤ 15 ∨ 16 ≤ pos ∧ pos + cpuTCycles cs ≤ 19) :
    acceptedIn a cs m = [] ∧ activityIn a cs m = [] ∧
    Servicing service pc₀ sp₀ (pos + cpuTCycles cs) (run a cs m).cpu := by
  induction cs generalizing m pos with
  | nil => exact ⟨rfl, rfl, h⟩
  | cons c cs ih =>
      rw [cpuTCycles_cons] at hpos ⊢
      have hcycle : c.cpuStalled = true ∨ pos < 19 ∧ pos ≠ 15 := by
        rcases Bool.eq_false_or_eq_true c.cpuStalled with hstall | hstall
        · exact .inl hstall
        · rw [cpuTCyclesOf, hstall, if_neg Bool.false_ne_true] at hpos
          exact .inr (by omega)
      obtain ⟨haccepted, hactivity, hserv⟩ := servicing_cycle a c h hcycle
      obtain ⟨iha, ihb, ihs⟩ := ih hserv (by omega)
      refine ⟨?_, ?_, ?_⟩
      · rw [acceptedIn, haccepted, iha]; rfl
      · rw [activityIn, hactivity, ihb]; rfl
      · rw [← Nat.add_assoc]; exact ihs

theorem serviced_run {target sp₁ : U16} (cs : List (CycleInput σ))
    (h : Serviced target sp₁ m.cpu) (hcs : cpuTCycles cs = 0) :
    acceptedIn a cs m = [] ∧ activityIn a cs m = [] ∧
    Serviced target sp₁ (run a cs m).cpu := by
  induction cs generalizing m with
  | nil => exact ⟨rfl, rfl, h⟩
  | cons c cs ih =>
      rw [cpuTCycles_cons] at hcs
      have hstall : c.cpuStalled = true := by
        rcases Bool.eq_false_or_eq_true c.cpuStalled with hstall | hstall
        · exact hstall
        · rw [cpuTCyclesOf, hstall, if_neg Bool.false_ne_true] at hcs
          omega
      obtain ⟨haccepted, hactivity, hserv⟩ := serviced_stalled_cycle a c h hstall
      obtain ⟨iha, ihb, ihs⟩ := ih hserv (by omega)
      refine ⟨?_, ?_, ihs⟩
      · rw [acceptedIn, haccepted, iha]; rfl
      · rw [activityIn, hactivity, ihb]; rfl

end CpuSide

end GbCycle
