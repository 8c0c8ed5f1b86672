import GbCycle.Cpu.InstructionBoundary
import GbCycle.Cpu.InterruptAcceptance

/-!
# The order of EI, DI, RETI, HALT and the interrupts

A run of T-cycles is read as the events a programmer would list: an instruction has ended, an
interrupt was accepted, a stopped core was woken up into its own service.  `ImeStatus.next` says
what each event does to `IME`, and the run of the core agrees with it.  What an unresolved HALT
turns into, and when a halted core goes on, is said of the wake-up phase in which it happens.

The PPU can put a wake-up phase off.  A HALT that is still unresolved when the core takes its
next T-cycle is left out here: the instruction after the HALT may then be fetched first.
-/

namespace GbCycle

open CpuCore (ImeStatus)

/-! ## Events -/

inductive ImeEvent where
  | retired (opcode : U8)
  | accepted (source : InterruptSource)
  | stopWake
  deriving Repr, DecidableEq

def CpuCore.ImeStatus.next (status : ImeStatus) : ImeEvent → ImeStatus
  | .retired opcode => status.retire opcode
  | .accepted _ | .stopWake => ⟨false, false⟩

namespace CpuSide

open CpuCore

variable {σ : Type} (a : AddressSpace σ) (c : CycleInput σ) (m : CpuSide σ)

/-- The instruction that the core's T-cycle of the cycle ends. -/
def retiredIn : Option U8 :=
  if c.cpuStalled then none
  else
    let x := (entered c m).2
    retired a.callback x.cpu (x.interrupts, x.joypad, x.env)

/-- The wake-up phase starts the service of a wake-up from STOP. -/
def stopWoken : Bool :=
  (toWake a c m).cpu.executionState == .stopped &&
    (cycle a c m).cpu.executionState == .serviceStopWakeBuggedInterrupt 0 0

/-- What happens in a cycle, in order. -/
def events : List ImeEvent :=
  (entered c m).1.toList.map .accepted ++ (retiredIn a c m).toList.map .retired ++
    (wakeAccepted a c m).toList.map .accepted ++ if stopWoken a c m then [.stopWake] else []

def eventsIn : List (CycleInput σ) → CpuSide σ → List ImeEvent
  | [], _ => []
  | c :: cs, m => events a c m ++ eventsIn cs (cycle a c m)

/-- The core takes no T-cycle with a HALT still to be resolved. -/
def HaltInTime : List (CycleInput σ) → CpuSide σ → Prop
  | [], _ => True
  | c :: cs, m => (m.cpu.haltRequestPending = true → c.cpuStalled = true) ∧
      HaltInTime cs (cycle a c m)

instance decidableHaltInTime :
    (cs : List (CycleInput σ)) → (m : CpuSide σ) → Decidable (HaltInTime a cs m)
  | [], _ => .isTrue trivial
  | c :: cs, m =>
      have : Decidable (HaltInTime a cs (cycle a c m)) := decidableHaltInTime cs (cycle a c m)
      inferInstanceAs (Decidable (_ ∧ _))

/-- The wake-up phase of the cycle looks at the core. -/
def Evaluates (x : CpuSide σ) : Prop := c.wakeStalled = false ∧ wakeDeferred c x = false

end CpuSide

namespace CpuCore

/-- The core waits for an opcode that it has not read yet, or for a request. -/
def AtBoundary (cpu : CpuCore) : Prop :=
  (∃ t, cpu.executionState = .fetchOpcode t) ∧ cpu.inFlight.opcode = none ∨
  cpu.executionState = .halted

/-! ## The wake-up phase of a settled core -/

theorem pendingMask_of_highestPending {i : InterruptController} {source : InterruptSource}
    (h : i.highestPending = some source) : i.pendingMask ≠ 0 := by
  intro hzero
  have hbit := InterruptSource.mask_of_highestPriorityFromMask h
  rw [hzero] at hbit
  exact hbit BitVec.zero_and

theorem settled_beginInterruptService {cpu : CpuCore} (h : cpu.haltControl = .idle)
    (source : InterruptSource) : (cpu.beginInterruptService source).Settled :=
  settled_of_idle h ⟨h, rfl⟩ (.inl rfl)

/-- What the wake-up phase does to a settled core: nothing to `IME`, or an acceptance at a
boundary with `IME` set, or the service of a wake-up from STOP. -/
inductive WakeResult (cpu : CpuCore) (interrupts : InterruptController) (y : CpuCore)
    (interrupts' : InterruptController) : Prop
  | keeps (hinterrupts : interrupts' = interrupts) (hsettled : y.Settled)
      (hstatus : y.imeStatus = cpu.imeStatus)
      (hstate : ¬ (cpu.executionState = .stopped ∧
        y.executionState = .serviceStopWakeBuggedInterrupt 0 0))
  | accepts (source : InterruptSource) (hpending : interrupts.highestPending = some source)
      (hime : cpu.ime = true) (hboundary : cpu.AtBoundary)
      (hinterrupts : interrupts' = interrupts.clear source) (hsettled : y.Settled)
      (hstatus : y.imeStatus = ⟨false, false⟩)
      (hstate : y.executionState = .serviceInterrupt source 0 0)
  | stopWake (hstopped : cpu.executionState = .stopped)
      (hpending : interrupts.pendingMask &&& InterruptSource.joypad.mask ≠ 0)
      (hinterrupts : interrupts' = interrupts.clear .joypad) (hsettled : y.Settled)
      (hstatus : y.imeStatus = ⟨false, false⟩)
      (hstate : y.executionState = .serviceStopWakeBuggedInterrupt 0 0)

theorem wakeResult_accept {cpu cpu' : CpuCore} {interrupts : InterruptController}
    (hime : cpu.ime = true) (hboundary : cpu.AtBoundary) (hidle : cpu'.haltControl = .idle)
    (hsettled : cpu'.Settled) (hstatus : cpu'.imeStatus = cpu.imeStatus)
    (hnot : cpu.executionState ≠ .stopped) :
    WakeResult cpu interrupts (cpu'.acceptPendingInterrupt interrupts).1
      (cpu'.acceptPendingInterrupt interrupts).2 := by
  unfold acceptPendingInterrupt
  split
  · exact .keeps rfl hsettled hstatus fun hstop => hnot hstop.1
  · next source hsource =>
      exact .accepts source hsource hime hboundary rfl (settled_beginInterruptService hidle source)
        rfl rfl

theorem Settled.halt_idle {cpu : CpuCore} (h : cpu.Settled)
    (hstate : ∀ t, cpu.executionState ≠ .fetchOpcode t) : cpu.haltControl = .idle := by
  have hflight := h.flight
  unfold FlightSettled at hflight
  split at hflight
  · exact hflight.2.1
  · exact hflight
  · next t ht => exact absurd ht (hstate t)
  · exact hflight.1

/-- With `IME` set there is no halt bug to come. -/
theorem Settled.idle_of_ime {cpu : CpuCore} (h : cpu.Settled)
    (hhalt : cpu.haltRequestPending = false) (hime : cpu.ime = true) : cpu.haltControl = .idle := by
  cases hcontrol : cpu.haltControl with
  | idle => rfl
  | pendingRequest r =>
      rw [haltRequestPending, hcontrol] at hhalt
      cases hhalt
  | haltBugPending =>
      rw [CpuCore.ime, h.bug hcontrol] at hime
      cases hime

/-- A HALT is resolved: the halt bug, an acceptance, or the halted state. -/
theorem evaluateWake_request {cpu : CpuCore} {r : HaltRequestContext}
    (hr : cpu.haltControl = .pendingRequest r) (hstate : cpu.executionState = .fetch)
    (interrupts : InterruptController) (joypad : Joypad) :
    ((cpu.evaluateWakeAndInterrupts interrupts joypad).1,
      (cpu.evaluateWakeAndInterrupts interrupts joypad).2.1) =
      if !r.imeEnabled && interrupts.pendingMask != 0 then
        if r.hadPendingEi && cpu.ime then
          (({ cpu with haltControl := .idle } : CpuCore).setPc
            (cpu.registers.pc - 1)).acceptPendingInterrupt interrupts
        else ({ cpu with haltControl := .haltBugPending }, interrupts)
      else if interrupts.pendingMask != 0 then
        ({ cpu with haltControl := .idle } : CpuCore).acceptPendingInterrupt interrupts
      else ({ cpu with haltControl := .idle, executionState := .halted }, interrupts) := by
  rcases cpu with ⟨m, su, regs, state, fl, ime, halt, ba, ae, div, sw⟩
  cases hr
  cases hstate
  cases hpending : interrupts.pendingMask != 0 with
  | false =>
      simp only [evaluateWakeAndInterrupts, isStopSleepState, isDiagnosticTrap, haltRequestPending,
        takeHaltRequest, hpending, Bool.or_true, Bool.true_or, Bool.not_true, Bool.and_false,
        Bool.false_eq_true, if_false]
  | true =>
      cases hclear : r.imeEnabled with
      | true =>
          simp only [evaluateWakeAndInterrupts, isStopSleepState, isDiagnosticTrap,
            haltRequestPending, takeHaltRequest, hpending, hclear, Bool.or_true, Bool.true_or,
            Bool.not_true, Bool.false_and, Bool.false_eq_true, if_false, if_true]
      | false =>
          simp only [evaluateWakeAndInterrupts, isStopSleepState, isDiagnosticTrap,
            haltRequestPending, takeHaltRequest, hpending, hclear, Bool.or_true, Bool.true_or,
            Bool.not_true, Bool.not_false, Bool.and_true, Bool.false_eq_true, if_false, if_true]
          cases hei : r.hadPendingEi && ime.imeEnabled with
          | false =>
              simp only [CpuCore.ime, hei, Bool.false_eq_true, if_false]
              rfl
          | true => simp only [CpuCore.ime, hei, if_true]

/-- A halted core goes on as soon as a request is enabled and pending. -/
theorem evaluateWake_halted {cpu : CpuCore} (hhalt : cpu.haltControl = .idle)
    (hstate : cpu.executionState = .halted) (interrupts : InterruptController) (joypad : Joypad) :
    ((cpu.evaluateWakeAndInterrupts interrupts joypad).1,
      (cpu.evaluateWakeAndInterrupts interrupts joypad).2.1) =
      if interrupts.pendingMask != 0 then
        if cpu.ime then cpu.acceptPendingInterrupt interrupts
        else ({ cpu with executionState := .fetch }, interrupts)
      else (cpu, interrupts) := by
  rcases cpu with ⟨m, su, regs, state, fl, ime, halt, ba, ae, div, sw⟩
  cases hhalt
  cases hstate
  cases hpending : interrupts.pendingMask != 0 with
  | true =>
      simp only [evaluateWakeAndInterrupts, isStopSleepState, isDiagnosticTrap, takeHaltRequest,
        hpending, BEq.rfl, Bool.or_true, Bool.true_or, Bool.not_true, Bool.false_eq_true, if_false,
        if_true]
      split
      · rfl
      · rfl
  | false =>
      simp only [evaluateWakeAndInterrupts, isStopSleepState, isDiagnosticTrap, takeHaltRequest,
        hpending, BEq.rfl, Bool.or_true, Bool.true_or, Bool.not_true, Bool.false_eq_true, if_false,
        Bool.not_false, if_true]

/-- In the other states of an unstopped core the wake-up phase accepts what it can. -/
theorem evaluateWake_running {cpu : CpuCore} (hhalt : cpu.haltRequestPending = false)
    (hnot : cpu.executionState ≠ .halted) (hsleep : cpu.isStopSleepState = false)
    (interrupts : InterruptController) (joypad : Joypad) :
    ((cpu.evaluateWakeAndInterrupts interrupts joypad).1,
      (cpu.evaluateWakeAndInterrupts interrupts joypad).2.1) =
      if cpu.ime && cpu.canAcceptInterrupt then cpu.acceptPendingInterrupt interrupts
      else (cpu, interrupts) := by
  have htake : cpu.takeHaltRequest = (none, cpu) := takeHaltRequest_of_not_pending hhalt
  have htrap : cpu.isDiagnosticTrap = true → cpu.canAcceptInterrupt = false := by
    unfold isDiagnosticTrap canAcceptInterrupt
    split
    · next heq => rw [heq]; exact fun _ => rfl
    · exact fun h => nomatch h
  simp only [evaluateWakeAndInterrupts, hsleep, htake, if_neg hnot, Bool.false_eq_true, if_false]
  split
  · next hquiet =>
      simp only [Bool.false_or, Bool.not_eq_true', Bool.or_eq_false_iff] at hquiet
      rw [hquiet.2]
      rfl
  · cases hd : cpu.isDiagnosticTrap with
    | true =>
        rw [htrap hd, Bool.and_false]
        rfl
    | false =>
        cases himeval : cpu.ime <;> cases hcan : cpu.canAcceptInterrupt <;> rfl

theorem evaluateWake_stopped {cpu : CpuCore} (hsleep : cpu.isStopSleepState = true)
    (interrupts : InterruptController) (joypad : Joypad) :
    ((cpu.evaluateWakeAndInterrupts interrupts joypad).1,
      (cpu.evaluateWakeAndInterrupts interrupts joypad).2.1) =
      if joypad.stopWakePending then
        if cpu.executionState == .stopped && cpu.ime
            && interrupts.pendingMask &&& InterruptSource.joypad.mask != 0 then
          (cpu.beginStopWakeBuggedInterruptService, interrupts.clear .joypad)
        else ({ cpu with executionState := .fetch }, interrupts)
      else (cpu, interrupts) := by
  rcases joypad with ⟨model, selection, pressed, visible, request, stopWake⟩
  simp only [evaluateWakeAndInterrupts, hsleep, Joypad.consumeStopWakeEvent, Bool.true_or,
    Bool.not_true, Bool.false_eq_true, if_false, if_true]
  cases stopWake with
  | false => rfl
  | true =>
      simp only [if_true]
      split
      · rfl
      · rfl

theorem settled_fetch {cpu : CpuCore} (h : cpu.Settled) (hhalt : cpu.haltControl = .idle)
    (hopcode : cpu.inFlight.opcode = none) :
    ({ cpu with executionState := .fetch } : CpuCore).Settled :=
  settled_of_idle hhalt ⟨Nat.zero_le _, hopcode⟩ h.ime

theorem atBoundary_of_canAccept {cpu : CpuCore} (h : cpu.canAcceptInterrupt = true) :
    cpu.AtBoundary := by
  unfold canAcceptInterrupt at h
  rw [Bool.and_eq_true, Option.isNone_iff_eq_none] at h
  refine .inl ⟨?_, h.2⟩
  cases hstate : cpu.executionState with
  | fetchOpcode t => exact ⟨t, rfl⟩
  | _ =>
      rw [hstate] at h
      cases h.1

/-- The wake-up phase in which a HALT is resolved. -/
theorem wakeResult_request {cpu : CpuCore} (h : cpu.Settled) {r : HaltRequestContext}
    (hr : cpu.haltControl = .pendingRequest r) (interrupts : InterruptController)
    (joypad : Joypad) :
    WakeResult cpu interrupts (cpu.evaluateWakeAndInterrupts interrupts joypad).1
      (cpu.evaluateWakeAndInterrupts interrupts joypad).2.1 := by
  obtain ⟨hstate, hime⟩ := h.request r hr
  have hopcode : cpu.inFlight.opcode = none := by
    have hflight := h.flight
    unfold FlightSettled at hflight
    rw [hstate] at hflight
    exact hflight.2
  have hboundary : cpu.AtBoundary := .inl ⟨⟨0, hstate⟩, hopcode⟩
  have hnot : cpu.executionState ≠ .stopped := by
    rw [hstate]
    exact fun heq => nomatch heq
  have hsettled : ∀ cpu' : CpuCore, cpu'.haltControl = .idle → cpu'.imeState = cpu.imeState →
      cpu'.executionState = .fetch → cpu'.inFlight = cpu.inFlight → cpu'.Settled := by
    intro cpu' hidle hime' hstate' hflight'
    refine settled_of_idle hidle ?_ (by rw [hime']; exact h.ime)
    unfold FlightSettled
    rw [hstate', hflight']
    exact ⟨Nat.zero_le _, hopcode⟩
  obtain ⟨hcpu, hint⟩ := Prod.ext_iff.mp (evaluateWake_request hr hstate interrupts joypad)
  rw [show (cpu.evaluateWakeAndInterrupts interrupts joypad).1 = _ from hcpu,
    show (cpu.evaluateWakeAndInterrupts interrupts joypad).2.1 = _ from hint]
  split
  · next hbug =>
      rw [Bool.and_eq_true, Bool.not_eq_true'] at hbug
      rw [hbug.1, Bool.false_or] at hime
      split
      · next hei =>
          rw [Bool.and_eq_true] at hei
          exact wakeResult_accept hei.2 hboundary rfl (hsettled _ rfl rfl hstate rfl) rfl hnot
      · next hei =>
          refine .keeps rfl ⟨?_, h.ime, (fun r' hr' => nomatch hr'), fun _ => ?_⟩ rfl
            fun hstop => hnot hstop.1
          · unfold FlightSettled
            rw [show ({ cpu with haltControl := .haltBugPending } : CpuCore).executionState = .fetch
              from hstate]
            exact ⟨Nat.zero_le _, hopcode⟩
          · show cpu.imeState = .disabled
            cases hpending : r.hadPendingEi with
            | false => rw [hime, hpending]; rfl
            | true =>
                rw [hpending] at hime hei
                rw [CpuCore.ime, hime] at hei
                exact absurd rfl hei
  · next hbug =>
      split
      · next hpending =>
          have himeEnabled : r.imeEnabled = true := by
            cases hclear : r.imeEnabled with
            | true => rfl
            | false =>
                rw [hclear, hpending] at hbug
                exact absurd rfl hbug
          rw [himeEnabled, Bool.true_or] at hime
          refine wakeResult_accept ?_ hboundary rfl (hsettled _ rfl rfl hstate rfl) rfl hnot
          rw [CpuCore.ime, hime]
          rfl
      · exact .keeps rfl (settled_of_idle rfl ⟨rfl, hopcode⟩ h.ime) rfl fun hstop => hnot hstop.1

theorem wakeResult_evaluate {cpu : CpuCore} (h : cpu.Settled) (interrupts : InterruptController)
    (joypad : Joypad) :
    WakeResult cpu interrupts (cpu.evaluateWakeAndInterrupts interrupts joypad).1
      (cpu.evaluateWakeAndInterrupts interrupts joypad).2.1 := by
  cases hhalt : cpu.haltRequestPending with
  | true =>
      unfold haltRequestPending at hhalt
      split at hhalt
      · next r hr => exact wakeResult_request h hr interrupts joypad
      · cases hhalt
      · cases hhalt
  | false =>
      cases hsleep : cpu.isStopSleepState with
      | true =>
          have hflight := h.flight
          unfold FlightSettled at hflight
          have hidle : cpu.haltControl = .idle ∧ cpu.inFlight.opcode = none := by
            unfold isStopSleepState at hsleep
            split at hsleep
            · next hstate => rwa [hstate] at hflight
            · next hstate => rwa [hstate] at hflight
            · cases hsleep
          obtain ⟨hcpu, hint⟩ := Prod.ext_iff.mp (evaluateWake_stopped hsleep interrupts joypad)
          rw [show (cpu.evaluateWakeAndInterrupts interrupts joypad).1 = _ from hcpu,
            show (cpu.evaluateWakeAndInterrupts interrupts joypad).2.1 = _ from hint]
          split
          · split
            · next hstop =>
                simp only [Bool.and_eq_true, beq_iff_eq, bne_iff_ne] at hstop
                exact .stopWake hstop.1.1 hstop.2 rfl
                  (settled_of_idle hidle.1 ⟨hidle.1, rfl⟩ (.inl rfl)) rfl rfl
            · exact .keeps rfl (settled_fetch h hidle.1 hidle.2) rfl fun hstop => nomatch hstop.2
          · refine .keeps rfl h rfl fun hstop => ?_
            rw [hstop.1] at hstop
            exact nomatch hstop.2
      | false =>
          have hnot : cpu.executionState ≠ .stopped := by
            intro hstop
            rw [isStopSleepState, hstop] at hsleep
            cases hsleep
          by_cases hhalted : cpu.executionState = .halted
          · have hflight := h.flight
            unfold FlightSettled at hflight
            rw [hhalted] at hflight
            obtain ⟨hcpu, hint⟩ :=
              Prod.ext_iff.mp (evaluateWake_halted hflight.1 hhalted interrupts joypad)
            rw [show (cpu.evaluateWakeAndInterrupts interrupts joypad).1 = _ from hcpu,
              show (cpu.evaluateWakeAndInterrupts interrupts joypad).2.1 = _ from hint]
            split
            · split
              · next hime => exact wakeResult_accept hime (.inr hhalted) hflight.1 h rfl hnot
              · exact .keeps rfl (settled_fetch h hflight.1 hflight.2) rfl fun hstop =>
                  hnot hstop.1
            · exact .keeps rfl h rfl fun hstop => hnot hstop.1
          · obtain ⟨hcpu, hint⟩ :=
              Prod.ext_iff.mp (evaluateWake_running hhalt hhalted hsleep interrupts joypad)
            rw [show (cpu.evaluateWakeAndInterrupts interrupts joypad).1 = _ from hcpu,
              show (cpu.evaluateWakeAndInterrupts interrupts joypad).2.1 = _ from hint]
            split
            · next hcan =>
                rw [Bool.and_eq_true] at hcan
                exact wakeResult_accept hcan.1 (atBoundary_of_canAccept hcan.2)
                  (h.idle_of_ime hhalt hcan.1) h rfl hnot
            · exact .keeps rfl h rfl fun hstop => hnot hstop.1

end CpuCore

/-! ## One cycle -/

/-- No interrupt is accepted among `events` with `IME` clear, `status` being the one before. -/
def ImeEvent.Allowed (status : ImeStatus) : List ImeEvent → Prop
  | [] => True
  | event :: events => (∀ source, event = .accepted source → status.ime = true) ∧
      Allowed (status.next event) events

theorem ImeEvent.allowed_append {status : ImeStatus} {es fs : List ImeEvent} :
    Allowed status (es ++ fs) ↔
      Allowed status es ∧ Allowed (es.foldl CpuCore.ImeStatus.next status) fs := by
  induction es generalizing status with
  | nil => simp [Allowed]
  | cons e es ih => simp only [List.cons_append, Allowed, List.foldl_cons, ih, and_assoc]

/-- `events` take `before` to `after`, and let nothing in with `IME` clear. -/
def ImeEvent.Leads (events : List ImeEvent) (before after : ImeStatus) : Prop :=
  after = events.foldl CpuCore.ImeStatus.next before ∧ Allowed before events

theorem ImeEvent.Leads.append {es fs : List ImeEvent} {x y z : ImeStatus} (h₁ : Leads es x y)
    (h₂ : Leads fs y z) : Leads (es ++ fs) x z := by
  obtain ⟨rfl, hallowed⟩ := h₁
  refine ⟨?_, allowed_append.mpr ⟨hallowed, h₂.2⟩⟩
  rw [List.foldl_append]
  exact h₂.1

namespace CpuSide

open CpuCore ImeEvent

variable {σ : Type} (a : AddressSpace σ) (c : CycleInput σ) (m : CpuSide σ)

/-- An acceptance in the CPU's phase is at a boundary with `IME` set. -/
theorem entered_accepts {source : InterruptSource} (h : (entered c m).1 = some source) :
    m.cpu.ime = true ∧ m.cpu.AtBoundary ∧ c.cpuStalled = false ∧
    (entered c m).2.cpu = m.cpu.beginInterruptService source := by
  cases hstall : c.cpuStalled with
  | true =>
      simp only [entered, evaluateRequests, hstall, if_true] at h
      cases h
  | false =>
      simp only [entered, evaluateRequests, hstall, Bool.false_eq_true, if_false,
        evaluateCurrentCycleInterruptRequests] at h ⊢
      split at h
      · cases h
      · next hcan =>
          rw [if_neg hcan]
          simp only [Bool.or_eq_true, Bool.not_eq_true', not_or, Bool.not_eq_false] at hcan
          refine ⟨hcan.1.2, atBoundary_of_canAccept hcan.2, trivial, ?_⟩
          split at h
          · cases h
          · cases h
            rfl

/-- What the CPU's phase accepts is let in by `IME`. -/
theorem entered_leads (h : m.cpu.Settled)
    (hhalt : m.cpu.haltRequestPending = true → c.cpuStalled = true) :
    (entered c m).2.cpu.Settled ∧
    ((entered c m).2.cpu.haltRequestPending = true → c.cpuStalled = true) ∧
    Leads ((entered c m).1.toList.map .accepted) m.cpu.imeStatus (entered c m).2.cpu.imeStatus := by
  cases haccepted : (entered c m).1 with
  | none =>
      have hcpu : (entered c m).2.cpu = m.cpu := by
        rcases entered_cases c m with heq | ⟨source, -, heq⟩
        · rw [heq]
          rfl
        · rw [heq] at haccepted
          cases haccepted
      rw [hcpu]
      exact ⟨h, hhalt, rfl, trivial⟩
  | some source =>
      obtain ⟨hime, -, hstall, hcpu⟩ := entered_accepts c m haccepted
      have hpending : m.cpu.haltRequestPending = false := by
        cases hp : m.cpu.haltRequestPending with
        | false => rfl
        | true => exact absurd (hhalt hp) (by rw [hstall]; exact Bool.false_ne_true)
      have hidle := h.idle_of_ime hpending hime
      rw [hcpu]
      refine ⟨settled_beginInterruptService hidle source, fun hp => ?_, rfl, fun _ _ => hime, trivial⟩
      rw [haltRequestPending, show (m.cpu.beginInterruptService source).haltControl = .idle
        from hidle] at hp
      cases hp

/-- The core's own T-cycle. -/
theorem cpuTick_leads (h : (entered c m).2.cpu.Settled)
    (hhalt : (entered c m).2.cpu.haltRequestPending = true → c.cpuStalled = true) :
    (toWake a c m).cpu.Settled ∧
    Leads ((retiredIn a c m).toList.map .retired) (entered c m).2.cpu.imeStatus
      (toWake a c m).cpu.imeStatus := by
  have hcpu : (toWake a c m).cpu = (cpuTick a c (entered c m).2).cpu := rfl
  rw [hcpu, retiredIn]
  cases hstall : c.cpuStalled with
  | true =>
      rw [cpuTick_stalled a c (m := (entered c m).2) hstall, if_pos rfl]
      exact ⟨settled_tickDmaStallTCycle h, rfl, trivial⟩
  | false =>
      have hpending : (entered c m).2.cpu.haltRequestPending = false := by
        cases hp : (entered c m).2.cpu.haltRequestPending with
        | false => rfl
        | true => exact absurd (hhalt hp) (by rw [hstall]; exact Bool.false_ne_true)
      rw [(cpuTick_eq a c (m := (entered c m).2) hstall).1, if_neg Bool.false_ne_true]
      have hresult := tickResult_tickTCycle a.callback h hpending
        ((entered c m).2.interrupts, (entered c m).2.joypad, (entered c m).2.env)
      refine ⟨⟨hresult.settled.flight, hresult.settled.ime, hresult.settled.request,
        hresult.settled.bug⟩, hresult.status.trans ?_, ?_⟩
      · cases retired a.callback (entered c m).2.cpu
          ((entered c m).2.interrupts, (entered c m).2.joypad, (entered c m).2.env) with
        | none => rfl
        | some opcode => rfl
      · cases retired a.callback (entered c m).2.cpu
          ((entered c m).2.interrupts, (entered c m).2.joypad, (entered c m).2.env) with
        | none => trivial
        | some opcode => exact ⟨(fun _ heq => nomatch heq), trivial⟩

/-- The wake-up phase of a settled core. -/
theorem wakeResult_wake {x : CpuSide σ} (h : x.cpu.Settled) :
    WakeResult x.cpu x.interrupts (wake c x).cpu (wake c x).interrupts := by
  have hkeeps : ∀ y : CpuCore, y.executionState = x.cpu.executionState →
      ¬ (x.cpu.executionState = .stopped ∧
        y.executionState = .serviceStopWakeBuggedInterrupt 0 0) := by
    intro y hy hstop
    rw [hy, hstop.1] at hstop
    exact nomatch hstop.2
  unfold wake
  split
  · exact .keeps rfl (settled_tickDmaStallTCycle h) rfl (hkeeps _ rfl)
  · split
    · exact .keeps rfl h rfl (hkeeps _ rfl)
    · exact wakeResult_evaluate h x.interrupts x.joypad

theorem wake_leads (h : (toWake a c m).cpu.Settled) :
    (cycle a c m).cpu.Settled ∧
    Leads ((wakeAccepted a c m).toList.map .accepted ++
      if stopWoken a c m then [.stopWake] else []) (toWake a c m).cpu.imeStatus
      (cycle a c m).cpu.imeStatus := by
  have hwake := wakeResult_wake c h
  rw [← cycle] at hwake
  unfold wakeAccepted stopWoken
  cases hwake with
  | keeps hinterrupts hsettled hstatus hstate =>
      rw [if_pos hinterrupts, hstatus]
      refine ⟨hsettled, ?_⟩
      split
      · next hstop =>
          rw [Bool.and_eq_true, beq_iff_eq, beq_iff_eq] at hstop
          exact absurd hstop hstate
      · exact ⟨rfl, trivial⟩
  | accepts source hpending hime hboundary hinterrupts hsettled hstatus hstate =>
      have hbit := InterruptSource.mask_of_highestPriorityFromMask hpending
      rw [if_neg (by rw [hinterrupts]; exact clear_ne hbit), hstate, hstatus]
      refine ⟨hsettled, ?_⟩
      rw [if_neg (by
        rw [Bool.and_eq_true, beq_iff_eq, beq_iff_eq]
        rintro ⟨-, hs⟩
        cases hs)]
      exact ⟨rfl, fun _ _ => hime, trivial⟩
  | stopWake hstopped hpending hinterrupts hsettled hstatus hstate =>
      rw [if_neg (by rw [hinterrupts]; exact clear_ne hpending), hstate, hstopped, hstatus]
      refine ⟨hsettled, rfl, ?_, trivial⟩
      intro _ heq
      cases heq

/-- One cycle: the core stays settled, and `IME` moves with the events of the cycle. -/
theorem cycle_leads (h : m.cpu.Settled)
    (hhalt : m.cpu.haltRequestPending = true → c.cpuStalled = true) :
    (cycle a c m).cpu.Settled ∧
    Leads (events a c m) m.cpu.imeStatus (cycle a c m).cpu.imeStatus := by
  obtain ⟨hentered, hpending, hleads₁⟩ := entered_leads c m h hhalt
  obtain ⟨htoWake, hleads₂⟩ := cpuTick_leads a c m hentered hpending
  obtain ⟨hcycle, hleads₃⟩ := wake_leads a c m htoWake
  refine ⟨hcycle, ?_⟩
  rw [events, List.append_assoc]
  exact (hleads₁.append hleads₂).append hleads₃

/-! ## Runs -/

theorem run_leads (cs : List (CycleInput σ)) {m : CpuSide σ} (h : m.cpu.Settled)
    (hhalt : HaltInTime a cs m) :
    (run a cs m).cpu.Settled ∧
    Leads (eventsIn a cs m) m.cpu.imeStatus (run a cs m).cpu.imeStatus := by
  induction cs generalizing m with
  | nil => exact ⟨h, rfl, trivial⟩
  | cons c cs ih =>
      obtain ⟨hcycle, hleads⟩ := cycle_leads a c m h hhalt.1
      obtain ⟨hrun, hleads'⟩ := ih hcycle hhalt.2
      exact ⟨hrun, hleads.append hleads'⟩

end CpuSide

end GbCycle
