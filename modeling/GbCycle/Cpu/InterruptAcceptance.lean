import GbCycle.Cpu.InterruptDispatch

/-!
# From acceptance to the vector

Acceptance starts a service, in the CPU's phase of a cycle or in its wake-up phase, and the
service then runs to its end.  One thing can still go wrong between the two: a HALT whose
resolution the PPU has put off is resolved in the wake-up phase of the cycle in which the
CPU's phase has just accepted an interrupt, and the service is overwritten.
-/

namespace GbCycle

namespace CpuSide

open CpuCore

variable {σ : Type} (a : AddressSpace σ)

/-! ## What a dispatch is -/

def InService (source : InterruptSource) (cpu : CpuCore) : Prop :=
  ∃ step t, cpu.executionState = .serviceInterrupt source step t

/-- The push of the high byte has gone to IE, and `source` is back in IF. -/
def PutBack (source : InterruptSource) (sp₀ : U16) (m : CpuSide σ) : Prop :=
  sp₀ = 0 ∧ m.interrupts.interruptFlags &&& source.mask ≠ 0

/-- The run `cs` takes the last four T-cycles of a service of `target`: the low byte is
pushed, nothing else is accepted, and at the end, not before, `PC` is the vector. -/
def Completes (target : InterruptSource) (pc₀ sp₀ : U16) (cs : List (CycleInput σ))
    (m : CpuSide σ) : Prop :=
  acceptedIn a cs m = [] ∧ activityIn a cs m = [⟨.dataWrite, sp₀ - 1 - 1, pc₀.low⟩] ∧
  Serviced target.vector (sp₀ - 1 - 1) (run a cs m).cpu ∧
  ∀ ds, ds <+: cs → cpuTCycles ds < 4 → InService target (run a ds m).cpu

/-- `source` was accepted `k` T-cycles of the core ago, with `pc₀` and `sp₀` in the
registers.  No further interrupt is accepted before its service ends, and twenty T-cycles
after its acceptance both bytes of `pc₀` are on the stack, interrupts are disabled, and `PC`
is its vector; unless the high byte went to IE and changed or cancelled the service after
sixteen, with `source` back in IF. -/
def Dispatches (source : InterruptSource) (pc₀ sp₀ : U16) (k : Nat) (m : CpuSide σ) : Prop :=
  (∀ cs, cpuTCycles cs + k < 16 →
    acceptedIn a cs m = [] ∧ InService source (run a cs m).cpu) ∧
  ∀ cs, cpuTCycles cs + k = 20 → ∃ cs₁ cs₂, cs = cs₁ ++ cs₂ ∧ cpuTCycles cs₁ + k = 16 ∧
    acceptedIn a cs₁ m = [] ∧ activityIn a cs₁ m = [⟨.dataWrite, sp₀ - 1, pc₀.high⟩] ∧
    ((∃ target, (target = source ∨ PutBack source sp₀ (run a cs₁ m)) ∧
        Completes a target pc₀ sp₀ cs₂ (run a cs₁ m)) ∨
      PutBack source sp₀ (run a cs₁ m) ∧ Serviced 0x0000 (sp₀ - 1) (run a cs₁ m).cpu)

/-- The service of a wake-up from STOP: twenty T-cycles, both bytes of `pc₀` to one
address, and `PC` is zero. -/
def DispatchesStopWake (pc₀ sp₀ : U16) (m : CpuSide σ) : Prop :=
  ∀ cs, cpuTCycles cs = 20 → acceptedIn a cs m = [] ∧
    activityIn a cs m = [⟨.dataWrite, sp₀ - 1, pc₀.high⟩, ⟨.dataWrite, sp₀ - 1, pc₀.low⟩] ∧
    Serviced 0x0000 (sp₀ - 1) (run a cs m).cpu

/-! ## A service runs to its end -/

theorem inService_of_servicing {source : InterruptSource} {pc₀ sp₀ : U16} {pos : Nat}
    {cpu : CpuCore} (h : Servicing (.vectored source) pc₀ sp₀ pos cpu) :
    InService source cpu :=
  ⟨_, _, h.state⟩

theorem completes_of_servicing {target : InterruptSource} {pc₀ sp₀ : U16} {m : CpuSide σ}
    (h : Servicing (.vectored target) pc₀ sp₀ 16 m.cpu) {cs : List (CycleInput σ)}
    (hcs : cpuTCycles cs = 4) : Completes a target pc₀ sp₀ cs m := by
  obtain ⟨cs₁, c, cs₂, rfl, hcs₁, hstall, hcs₂⟩ := exists_cut cs 3 (by omega)
  obtain ⟨ha₁, hb₁, hs₁⟩ := servicing_run a cs₁ h (.inr (by omega))
  rw [hcs₁] at hs₁
  obtain ⟨ha₂, hb₂, hs₂⟩ := vector_cycle a c hs₁ hstall
  obtain ⟨ha₃, hb₃, hs₃⟩ := serviced_run a cs₂ hs₂ (by omega)
  refine ⟨?_, ?_, ?_, ?_⟩
  · rw [acceptedIn_append, acceptedIn, ha₁, ha₂, ha₃]; rfl
  · rw [activityIn_append, activityIn, hb₁, hb₂, hb₃]; rfl
  · rw [run_append]; exact hs₃
  · intro ds _ hds
    exact inService_of_servicing (servicing_run a ds h (.inr (by omega))).2.2

theorem dispatches_of_servicing {source : InterruptSource} {pc₀ sp₀ : U16} {k : Nat}
    {m : CpuSide σ} (h : Servicing (.vectored source) pc₀ sp₀ k m.cpu) (hk : k ≤ 15) :
    Dispatches a source pc₀ sp₀ k m := by
  refine ⟨fun cs hcs => ?_, fun cs hcs => ?_⟩
  · obtain ⟨ha, _, hs⟩ := servicing_run a cs h (.inl (by omega))
    exact ⟨ha, inService_of_servicing hs⟩
  · obtain ⟨cs₁, c, cs₂, rfl, hcs₁, hstall, hcs₂⟩ :=
      exists_cut cs (15 - k) (by omega)
    obtain ⟨ha₁, hb₁, hs₁⟩ := servicing_run a cs₁ h (.inl (by omega))
    rw [hcs₁, Nat.add_sub_cancel' hk] at hs₁
    obtain ⟨ha₂, hb₂, hs₂⟩ := pushHigh_cycle a c hs₁ hstall
    have hrun : run a (cs₁ ++ [c]) m = cycle a c (run a cs₁ m) := run_append a cs₁ [c] m
    have hcount : cpuTCycles (cs₁ ++ [c]) + k = 16 := by
      rw [cpuTCycles, List.countP_append, ← cpuTCycles, hcs₁, List.countP_singleton, hstall]
      simp only [Bool.not_false, if_true]
      omega
    refine ⟨cs₁ ++ [c], cs₂, by simp, hcount, ?_, ?_, ?_⟩
    · rw [acceptedIn_append, acceptedIn, acceptedIn, ha₁, ha₂]; rfl
    · rw [activityIn_append, activityIn, activityIn, hb₁, hb₂]; rfl
    · rw [hrun]
      rcases hs₂ with hs₂ | ⟨hsp, hbit, hs₂ | ⟨target, hs₂⟩⟩
      · exact .inl ⟨source, .inl rfl, completes_of_servicing a hs₂ (by omega)⟩
      · exact .inr ⟨⟨hsp, hbit⟩, hs₂⟩
      · exact .inl ⟨target, .inr ⟨hsp, hbit⟩, completes_of_servicing a hs₂ (by omega)⟩

theorem dispatchesStopWake_of_servicing {pc₀ sp₀ : U16} {m : CpuSide σ}
    (h : Servicing .stopWake pc₀ sp₀ 0 m.cpu) : DispatchesStopWake a pc₀ sp₀ m := by
  intro cs hcs
  obtain ⟨cs₁, c, cs', rfl, hcs₁, hstall, hcs'⟩ := exists_cut cs 15 (by omega)
  obtain ⟨cs₂, d, cs₃, rfl, hcs₂, hstall', hcs₃⟩ := exists_cut cs' 3 (by omega)
  obtain ⟨ha₁, hb₁, hs₁⟩ := servicing_run a cs₁ h (.inl (by omega))
  rw [hcs₁] at hs₁
  obtain ⟨ha₂, hb₂, hs₂⟩ := stopWakePush_cycle a c hs₁ hstall
  obtain ⟨ha₃, hb₃, hs₃⟩ := servicing_run a cs₂ hs₂ (.inr (by omega))
  rw [hcs₂] at hs₃
  obtain ⟨ha₄, hb₄, hs₄⟩ := stopWakeVector_cycle a d hs₃ hstall'
  obtain ⟨ha₅, hb₅, hs₅⟩ := serviced_run a cs₃ hs₄ (by omega)
  refine ⟨?_, ?_, ?_⟩
  · rw [acceptedIn_append, acceptedIn, acceptedIn_append, acceptedIn, ha₁, ha₂, ha₃, ha₄, ha₅]
    rfl
  · rw [activityIn_append, activityIn, activityIn_append, activityIn, hb₁, hb₂, hb₃, hb₄, hb₅]
    rfl
  · rw [run_append, run, List.foldl_cons, ← run, run_append, run, List.foldl_cons, ← run]
    exact hs₅

end CpuSide

/-! ## Acceptance begins a service -/

namespace CpuCore

theorem servicing_beginInterruptService {cpu : CpuCore} (h : cpu.haltRequestPending = false)
    (source : InterruptSource) :
    Servicing (.vectored source) cpu.registers.pc cpu.registers.sp 0
      (cpu.beginInterruptService source) :=
  ⟨rfl, rfl, rfl, fun h => absurd h (by decide), rfl, h⟩

theorem servicing_beginStopWake {cpu : CpuCore} (h : cpu.haltRequestPending = false) :
    Servicing .stopWake cpu.registers.pc cpu.registers.sp 0
      cpu.beginStopWakeBuggedInterruptService :=
  ⟨rfl, rfl, rfl, fun h => absurd h (by decide), rfl, h⟩

theorem takeHaltRequest_not_pending (cpu : CpuCore) :
    cpu.takeHaltRequest.2.haltRequestPending = false := by
  rcases cpu with ⟨m, su, r, state, fl, ime, halt, ba, ae, div, sw⟩
  cases halt <;> rfl

/-- What `accept_pending_interrupt` does where something is pending. -/
def Accepts (interrupts : InterruptController)
    (x : CpuCore × InterruptController) : Prop :=
  ∃ source, interrupts.pendingMask &&& source.mask ≠ 0 ∧ x.2 = interrupts.clear source ∧
    Servicing (.vectored source) x.1.registers.pc x.1.registers.sp 0 x.1

theorem accepts_acceptPendingInterrupt {cpu : CpuCore} (h : cpu.haltRequestPending = false)
    (interrupts : InterruptController) :
    cpu.acceptPendingInterrupt interrupts = (cpu, interrupts) ∨
      Accepts interrupts (cpu.acceptPendingInterrupt interrupts) := by
  cases hs : interrupts.highestPending with
  | none => exact .inl (by simp only [acceptPendingInterrupt, hs])
  | some source =>
      have hbit := InterruptSource.mask_of_highestPriorityFromMask hs
      have heq : cpu.acceptPendingInterrupt interrupts =
          (cpu.beginInterruptService source, interrupts.clear source) := by
        simp only [acceptPendingInterrupt, hs]
      rw [heq]
      exact .inr ⟨source, hbit, rfl, servicing_beginInterruptService h source⟩

/-- The wake-up phase either leaves the controller alone, or accepts a pending source, or
wakes a stopped core up into the service that ends at address zero. -/
theorem evaluateWake_cases (cpu : CpuCore) (interrupts : InterruptController)
    (joypad : Joypad) :
    let x := cpu.evaluateWakeAndInterrupts interrupts joypad
    x.2.1 = interrupts ∨ Accepts interrupts (x.1, x.2.1) ∨
    (cpu.executionState = .stopped ∧ cpu.ime = true ∧
      interrupts.pendingMask &&& InterruptSource.joypad.mask ≠ 0 ∧
      x.1 = cpu.beginStopWakeBuggedInterruptService ∧ x.2.1 = interrupts.clear .joypad) := by
  have haccept (cpu' : CpuCore) (h : cpu'.haltRequestPending = false) :
      (cpu'.acceptPendingInterrupt interrupts).2 = interrupts ∨
        Accepts interrupts (cpu'.acceptPendingInterrupt interrupts) :=
    (accepts_acceptPendingInterrupt h interrupts).imp (fun heq => by rw [heq]) id
  have htake := takeHaltRequest_not_pending cpu
  simp only [evaluateWakeAndInterrupts]
  split
  · exact .inl rfl
  · split
    · split
      · split
        · next hstop =>
            simp only [Bool.and_eq_true, beq_iff_eq, bne_iff_ne] at hstop
            exact .inr (.inr ⟨hstop.1.1, hstop.1.2, hstop.2, rfl, rfl⟩)
        · exact .inl rfl
      · exact .inl rfl
    · split
      · exact .inl rfl
      · split
        · next haltRequest cpu' heq =>
            rw [heq] at htake
            split
            · split
              · exact (haccept (cpu'.setPc (cpu'.registers.pc - 1)) htake).imp id .inl
              · exact .inl rfl
            · split
              · exact (haccept _ htake).imp id .inl
              · exact .inl rfl
        · next heq =>
            rw [heq] at htake
            split
            · split
              · exact .inl rfl
              · split
                · exact (haccept _ htake).imp id .inl
                · exact .inl rfl
            · split
              · exact .inl rfl
              · exact (haccept _ htake).imp id .inl

theorem evaluateCurrentCycle_cases (cpu : CpuCore) (interrupts : InterruptController)
    (mask : U8) :
    cpu.evaluateCurrentCycleInterruptRequests interrupts mask = (none, cpu, interrupts) ∨
    ∃ source, cpu.evaluateCurrentCycleInterruptRequests interrupts mask =
      (some source, cpu.beginInterruptService source, interrupts.clear source) := by
  simp only [evaluateCurrentCycleInterruptRequests]
  split
  · exact .inl rfl
  · split
    · exact .inl rfl
    · exact .inr ⟨_, rfl⟩

end CpuCore

namespace CpuSide

open CpuCore

variable {σ : Type} (a : AddressSpace σ) (c : CycleInput σ) (m : CpuSide σ)

theorem entered_cases :
    entered c m = (none, ingress c m) ∨
    ∃ source, c.cpuStalled = false ∧ entered c m =
      (some source, { ingress c m with
        cpu := m.cpu.beginInterruptService source
        interrupts := m.interrupts.clear source }) := by
  simp only [entered, evaluateRequests]
  split
  · exact .inl rfl
  · next hstall =>
      rcases evaluateCurrentCycle_cases (ingress c m).cpu (ingress c m).interrupts
        (currentCycleRequestMask c.requests &&& InterruptSource.timer.mask) with heq | ⟨source, heq⟩
      · rw [heq]
        exact .inl rfl
      · rw [heq]
        exact .inr ⟨source, by simpa using hstall, rfl⟩

/-- The wake-up from STOP that does not end at the joypad's vector. -/
def WakesFromStop (before after : CpuSide σ) : Prop :=
  before.cpu.executionState = .stopped ∧ before.cpu.ime = true ∧
  before.interrupts.pendingMask &&& InterruptSource.joypad.mask ≠ 0 ∧
  after.cpu = before.cpu.beginStopWakeBuggedInterruptService ∧
  after.interrupts = before.interrupts.clear .joypad

theorem wake_cases (x : CpuSide σ) :
    (wake c x).interrupts = x.interrupts ∨
    Accepts x.interrupts ((wake c x).cpu, (wake c x).interrupts) ∨
    WakesFromStop x (wake c x) := by
  simp only [wake]
  split
  · exact .inl rfl
  · split
    · exact .inl rfl
    · exact evaluateWake_cases x.cpu x.interrupts x.joypad

/-- An interrupt accepted in the wake-up phase has its bit cleared and is dispatched. -/
theorem dispatches_of_wakeAccepted {source : InterruptSource}
    (h : wakeAccepted a c m = some source) :
    (toWake a c m).interrupts.pendingMask &&& source.mask ≠ 0 ∧
    (cycle a c m).interrupts = (toWake a c m).interrupts.clear source ∧
    Dispatches a source (cycle a c m).cpu.registers.pc (cycle a c m).cpu.registers.sp 0
      (cycle a c m) := by
  have hstate : (cycle a c m).interrupts ≠ (toWake a c m).interrupts ∧
      ∃ step t, (cycle a c m).cpu.executionState = .serviceInterrupt source step t := by
    simp only [wakeAccepted] at h
    split at h
    · cases h
    · next hne =>
        split at h
        · next step t heq =>
            cases h
            exact ⟨hne, step, t, heq⟩
        · cases h
  obtain ⟨hne, step, t, hstate⟩ := hstate
  rcases wake_cases c (toWake a c m) with heq | ⟨other, hbit, hclear, hserv⟩ | hstop
  · exact absurd heq hne
  · have hsource : other = source := by
      have hserv' := hserv.state
      have hcycle : (cycle a c m).cpu.executionState =
          (Service.vectored other).state (0 / 4) (0 % 4) := hserv'
      rw [hstate] at hcycle
      cases hcycle
      rfl
    subst hsource
    exact ⟨hbit, hclear, dispatches_of_servicing a hserv (by decide)⟩
  · have hcycle : (cycle a c m).cpu = _ := hstop.2.2.2.1
    rw [hcycle] at hstate
    cases hstate

/-- An interrupt accepted in the CPU's phase has its bit cleared, and is dispatched if no
HALT was waiting to be resolved. -/
theorem dispatches_of_entered {source : InterruptSource} (h : (entered c m).1 = some source)
    (hhalt : m.cpu.haltRequestPending = false) :
    accepted a c m = [source] ∧ activity a c m = [] ∧
    Dispatches a source m.cpu.registers.pc m.cpu.registers.sp 1 (cycle a c m) := by
  rcases entered_cases c m with heq | ⟨other, hstall, heq⟩
  · rw [heq] at h
    cases h
  · rw [heq] at h
    cases h
    -- The core is one T-cycle into the service when the wake-up phase finds it.
    have hserv := servicing_beginInterruptService hhalt source
    have hentered : (entered c m).2.cpu = m.cpu.beginInterruptService source := by rw [heq]
    rw [← hentered] at hserv
    obtain ⟨cpu', htick, hserv', hact⟩ := hserv.tick a.callback
      ((entered c m).2.interrupts, (entered c m).2.joypad, (entered c m).2.env) (by decide)
      (by decide)
    have hcpu := (cpuTick_eq a c (m := (entered c m).2) hstall).1
    rw [htick] at hcpu
    have hbefore : Servicing (.vectored source) m.cpu.registers.pc m.cpu.registers.sp 1
        (toWake a c m).cpu := by
      show Servicing _ _ _ _ (cpuTick a c (entered c m).2).cpu
      rw [hcpu]
      exact hserv'.finalize
    obtain ⟨hinterrupts, hwake⟩ := wake_of_undisturbed c hbefore.undisturbed
    refine ⟨?_, ?_, dispatches_of_servicing a (hbefore.carry hwake) (by decide)⟩
    · have hnone : wakeAccepted a c m = none := if_pos hinterrupts
      rw [accepted, hnone, heq]
      rfl
    · rw [activity, hcpu]
      exact congrArg Option.toList hact

/-- The wake-up from STOP runs its own service to its end. -/
theorem dispatchesStopWake_of_wakesFromStop (h : WakesFromStop (toWake a c m) (cycle a c m))
    (hhalt : (toWake a c m).cpu.haltRequestPending = false) :
    DispatchesStopWake a (toWake a c m).cpu.registers.pc (toWake a c m).cpu.registers.sp
      (cycle a c m) := by
  have hserv := servicing_beginStopWake hhalt
  rw [← h.2.2.2.1] at hserv
  exact dispatchesStopWake_of_servicing a hserv

theorem clear_ne {i : InterruptController} {source : InterruptSource}
    (h : i.pendingMask &&& source.mask ≠ 0) : i.clear source ≠ i := by
  intro heq
  have hcleared : i.interruptFlags &&& ~~~ source.mask = i.interruptFlags :=
    congrArg InterruptController.interruptFlags heq
  have hflags : i.interruptFlags &&& source.mask = 0 := by
    rw [← hcleared]
    exact U8.and_not_and_self i.interruptFlags source.mask
  rw [InterruptController.pendingMask, BitVec.and_assoc, hflags] at h
  exact h BitVec.and_zero

/-- A wake-up phase that accepts nothing leaves IF alone, unless it wakes the core up from
STOP. -/
theorem wake_of_not_accepted (h : wakeAccepted a c m = none) :
    (cycle a c m).interrupts = (toWake a c m).interrupts ∨
      WakesFromStop (toWake a c m) (cycle a c m) := by
  rcases wake_cases c (toWake a c m) with heq | ⟨source, hbit, hclear, hserv⟩ | hstop
  · exact .inl heq
  · have hne : (cycle a c m).interrupts ≠ (toWake a c m).interrupts := by
      show (wake c (toWake a c m)).interrupts ≠ _
      rw [show (wake c (toWake a c m)).interrupts = _ from hclear]
      exact clear_ne hbit
    have hstate : (cycle a c m).cpu.executionState = .serviceInterrupt source 0 0 := hserv.state
    simp only [wakeAccepted] at h
    rw [if_neg hne, hstate] at h
    cases h
  · exact .inr hstop

/-! ## No interrupt is lost -/

/-- In every state, and so in every state of every run, and for every cycle:

* an interrupt accepted in the CPU's phase has its IF bit cleared and, if no HALT was
  waiting to be resolved, is dispatched (it is one T-cycle on when the cycle ends);
* an interrupt accepted in the wake-up phase was pending, has its IF bit cleared, and is
  dispatched;
* an evaluation that accepts nothing leaves IF alone, except that a wake-up from STOP with
  the joypad's interrupt pending clears that bit and runs its own service to address zero. -/
theorem accepted_interrupt_dispatched (c : CycleInput σ) (m : CpuSide σ) :
    (∀ source, (entered c m).1 = some source →
      (entered c m).2.interrupts = m.interrupts.clear source ∧
      (m.cpu.haltRequestPending = false →
        accepted a c m = [source] ∧ activity a c m = [] ∧
        Dispatches a source m.cpu.registers.pc m.cpu.registers.sp 1 (cycle a c m))) ∧
    (∀ source, wakeAccepted a c m = some source →
      (toWake a c m).interrupts.pendingMask &&& source.mask ≠ 0 ∧
      (cycle a c m).interrupts = (toWake a c m).interrupts.clear source ∧
      Dispatches a source (cycle a c m).cpu.registers.pc (cycle a c m).cpu.registers.sp 0
        (cycle a c m)) ∧
    ((entered c m).1 = none → (entered c m).2.interrupts = m.interrupts) ∧
    (wakeAccepted a c m = none →
      (cycle a c m).interrupts = (toWake a c m).interrupts ∨
      WakesFromStop (toWake a c m) (cycle a c m) ∧
        ((toWake a c m).cpu.haltRequestPending = false →
          DispatchesStopWake a (toWake a c m).cpu.registers.pc
            (toWake a c m).cpu.registers.sp (cycle a c m))) := by
  refine ⟨fun source h => ⟨?_, dispatches_of_entered a c m h⟩,
    fun source => dispatches_of_wakeAccepted a c m, fun h => ?_, fun h => ?_⟩
  · rcases entered_cases c m with heq | ⟨other, _, heq⟩
    · rw [heq] at h
      cases h
    · rw [heq] at h ⊢
      cases h
      rfl
  · rcases entered_cases c m with heq | ⟨other, _, heq⟩
    · rw [heq]
      rfl
    · rw [heq] at h
      cases h
  · rcases wake_of_not_accepted a c m h with heq | hstop
    · exact .inl heq
    · exact .inr ⟨hstop, dispatchesStopWake_of_wakesFromStop a c m hstop⟩

/-! ## Two concrete runs -/

/-- The interrupt and joypad registers, a program from `0x0100` on, and no memory. -/
def programSpace (program : List U8) : AddressSpace Unit where
  read address s :=
    (if address = 0xFF00 then s.2.1.readP1
      else if address = 0xFF0F then s.1.readIf
      else if address = 0xFFFF then s.1.readIe
      else program.getD (address.toNat - 0x0100) 0, s)
  write address value s :=
    if address = 0xFF00 then (s.1, s.2.1.writeP1 value, s.2.2)
    else if address = 0xFF0F then (s.1.writeIf value, s.2)
    else if address = 0xFFFF then (s.1.writeIe value, s.2)
    else s
  switchArmed _ := false
  finalize _ s := s

/-- A DMG as its boot ROM leaves it. -/
def started : CpuSide Unit where
  cpu := (CpuCore.new .gameBoy).applyStartupState
    { a := 0x01, f := 0xB0, b := 0x00, c := 0x13, d := 0x00, e := 0xD8, h := 0x01, l := 0x4D,
      sp := 0xFFFE, pc := 0x0100 }
  interrupts := { consoleModel := .gameBoy, interruptFlags := 0, interruptEnable := 0 }
  joypad := Joypad.new .gameBoy
  env := ()

/-- A cycle in which nothing happens but the core's own T-cycle. -/
def quiet : CycleInput Unit where
  joypad := id
  env := id
  requests := []
  cpuStalled := false
  ppuRequestMask := 0
  wakeStalled := false
  serviceDeferred := false
  haltWakeDeferred := false

/-- The joypad is selected and enabled in IE, then `EI; NOP; STOP`. -/
def stopProgram : List U8 :=
  [0x3E, 0x10, 0xE0, 0xFF, 0xE0, 0x00, 0xFB, 0x00, 0x10, 0x00]

/-- VBlank, STAT and timer are enabled in IE, then `EI; NOP; HALT`. -/
def haltProgram : List U8 := [0x3E, 0x07, 0xE0, 0xFF, 0xFB, 0x00, 0x76, 0x00]

/-- The joypad's `A` is pressed. -/
def pressA : CycleInput Unit := { quiet with joypad := fun j => j.setButtonPressed .a true }

/-- The PPU requests STAT and puts off the wake-up phase for it. -/
def deferredStat : CycleInput Unit :=
  { quiet with ppuRequestMask := 0x02, serviceDeferred := true }

def timerOverflow : CycleInput Unit := { quiet with requests := [.timer] }

/-- The stopped core of `stopProgram`. -/
def stopped : CpuSide Unit := run (programSpace stopProgram) (List.replicate 48 quiet) started

/-- The core of `haltProgram` with its HALT still to be resolved. -/
def halting : CpuSide Unit :=
  run (programSpace haltProgram) (List.replicate 31 quiet ++ [deferredStat]) started

/-- Two runs in which an accepted interrupt does not reach its vector.  A key press wakes the
core up from STOP and its IF bit goes, but `PC` is zero twenty T-cycles later.  A timer
overflow lets the CPU's phase accept the STAT interrupt while a HALT waits to be resolved;
the wake-up phase of the same cycle accepts the timer's as well, and the STAT interrupt is
neither dispatched nor pending any more. -/
theorem accepted_interrupt_not_dispatched :
    (let p := programSpace stopProgram
     let woken := cycle p pressA stopped
     let done := run p (List.replicate 20 quiet) woken
     (toWake p pressA stopped).interrupts.interruptFlags = InterruptSource.joypad.mask ∧
     woken.interrupts.interruptFlags = 0 ∧
     done.cpu.executionState = .fetch ∧ done.cpu.registers.pc = 0x0000 ∧
     done.cpu.registers.pc ≠ InterruptSource.joypad.vector ∧
     done.interrupts.interruptFlags = 0) ∧
    (let p := programSpace haltProgram
     let after := cycle p timerOverflow halting
     let done := run p (List.replicate 20 quiet) after
     halting.interrupts.interruptFlags = InterruptSource.lcdStat.mask ∧
     accepted p timerOverflow halting = [.lcdStat, .timer] ∧
     after.cpu.executionState = .serviceInterrupt .timer 0 0 ∧
     done.cpu.executionState = .fetch ∧
     done.cpu.registers.pc = InterruptSource.timer.vector ∧
     done.interrupts.interruptFlags = 0) := by
  decide +kernel

/-- The timer's interrupt in the second run is dispatched, as every one the wake-up phase
accepts. -/
theorem accepted_interrupt_dispatched_timer :
    Dispatches (programSpace haltProgram) .timer 0x0107 0xFFFE 0
      (cycle (programSpace haltProgram) timerOverflow halting) := by
  have h := (accepted_interrupt_dispatched (programSpace haltProgram) timerOverflow halting).2.1
    .timer (by decide +kernel)
  have hpc : (cycle (programSpace haltProgram) timerOverflow halting).cpu.registers.pc = 0x0107 := by
    decide +kernel
  have hsp : (cycle (programSpace haltProgram) timerOverflow halting).cpu.registers.sp = 0xFFFE := by
    decide +kernel
  rw [hpc, hsp] at h
  exact h.2.2

end CpuSide

end GbCycle
