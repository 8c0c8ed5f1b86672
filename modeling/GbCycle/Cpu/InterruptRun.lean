import GbCycle.Cpu.Cycle

/-!
# T-cycles of the machine, as the CPU lives them

A T-cycle touches the core four times.  Before its own T-cycle the core may accept an
interrupt that a peripheral has queued in the same cycle; then it ticks; then the cycle's
requests become IF bits; and last it resolves HALT, wakes up, or accepts what is pending.
DMA takes the second and fourth of these away from the core, and the PPU can put the fourth
off.

What the rest of the machine does in a cycle is a `CycleInput`.  It is arbitrary, as is the
program, which is the memory behind the `AddressSpace`.
-/

namespace GbCycle

/-- The interrupt controller and the joypad, and `σ` for the rest of the machine. -/
abbrev Behind (σ : Type) := InterruptController × Joypad × σ

/-- The CPU's address space over the machine behind it.  `finalize` is what the rest of the
machine does with the core's T-cycle once it is over. -/
structure AddressSpace (σ : Type) where
  read : U16 → Behind σ → U8 × Behind σ
  write : U16 → U8 → Behind σ → Behind σ
  switchArmed : σ → Bool
  finalize : CpuCore → σ → σ

/-- The callback of `step_cpu_micro_operation`. -/
def AddressSpace.callback {σ : Type} (a : AddressSpace σ) : CpuExternalCallback (Behind σ) where
  call operation s :=
    match operation with
    | .bus (.read address) => (some (a.read address s).1, (a.read address s).2)
    | .bus (.write address value) => (none, a.write address value s)
    | .pendingInterruptMask => (some s.1.pendingMask, s)
    | .interruptEnableMask => (some s.1.readIe, s)
    | .stopWakeLineAsserted => (some (if s.2.1.stopWakeLineAsserted then 1 else 0), s)
    | .cgbSpeedSwitchPrepared => (some (if a.switchArmed s.2.2 then 1 else 0), s)
    | .acknowledgeInterrupt source => (none, (s.1.clear source, s.2))
    | .requestInterrupt source => (none, (s.1.request source, s.2))
  read_isSome _ _ := rfl

/-- The core with the machine it sees. -/
structure CpuSide (σ : Type) where
  cpu : CpuCore
  interrupts : InterruptController
  joypad : Joypad
  env : σ

/-- What the rest of the machine brings into a T-cycle: what the earlier phases do to the
joypad and to the machine, the requests they queue, the PPU's own requests, whether DMA
holds the core in either of its phases, and the PPU's reasons to put off acceptance. -/
structure CycleInput (σ : Type) where
  joypad : Joypad → Joypad
  env : σ → σ
  requests : List InterruptSource
  cpuStalled : Bool
  ppuRequestMask : U8
  wakeStalled : Bool
  serviceDeferred : Bool
  haltWakeDeferred : Bool

namespace CpuSide

variable {σ : Type} (a : AddressSpace σ) (c : CycleInput σ) (m : CpuSide σ)

/-! ## The phases -/

def ingress : CpuSide σ := { m with joypad := c.joypad m.joypad, env := c.env m.env }

def currentCycleRequestMask (requests : List InterruptSource) : U8 :=
  requests.foldl (fun mask source => mask ||| source.mask) 0

/-- Acceptance in the CPU's phase, with the source it accepted. -/
def evaluateRequests : Option InterruptSource × CpuSide σ :=
  if c.cpuStalled then (none, m)
  else
    let (accepted, cpu, interrupts) := m.cpu.evaluateCurrentCycleInterruptRequests m.interrupts
      (currentCycleRequestMask c.requests &&& InterruptSource.timer.mask)
    (accepted, { m with cpu := cpu, interrupts := interrupts })

/-- The requests of the cycle that are still queued after the CPU's phase. -/
def remainingRequests (accepted : Option InterruptSource) : List InterruptSource :=
  match accepted with
  | none => c.requests
  | some source => c.requests.erase source

def finalizeCpuMicroOperation (cpu : CpuCore) : CpuCore :=
  { cpu with stopDivResetRequested := false, cgbSpeedSwitchRequested := false }

def cpuTick : CpuSide σ :=
  if c.cpuStalled then { m with cpu := m.cpu.tickDmaStallTCycle }
  else
    let (cpu, interrupts, joypad, env) :=
      m.cpu.tickTCycle a.callback (m.interrupts, m.joypad, m.env)
    { cpu := finalizeCpuMicroOperation cpu, interrupts := interrupts, joypad := joypad,
      env := a.finalize cpu env }

/-- The cycle's requests become IF bits. -/
def aggregate (accepted : Option InterruptSource) : CpuSide σ :=
  let interrupts := (remainingRequests c accepted).foldl .request m.interrupts
  let interrupts := if c.ppuRequestMask &&& 0x01 != 0 then interrupts.request .vBlank
    else interrupts
  let interrupts := if c.ppuRequestMask &&& 0x02 != 0 then interrupts.request .lcdStat
    else interrupts
  let (requested, joypad) := m.joypad.consumeInterruptRequest
  let interrupts := if requested then interrupts.request .joypad else interrupts
  { m with interrupts := interrupts, joypad := joypad }

/-- The PPU puts the core's wake-up phase off. -/
def wakeDeferred : Bool :=
  m.interrupts.highestPending == some .lcdStat &&
    (m.interrupts.readIe &&& InterruptSource.vBlank.mask != 0 && c.serviceDeferred
      || m.cpu.executionState == .halted && c.haltWakeDeferred)

def wake : CpuSide σ :=
  if c.wakeStalled then { m with cpu := m.cpu.tickDmaStallTCycle }
  else if wakeDeferred c m then m
  else
    let (cpu, interrupts, joypad) := m.cpu.evaluateWakeAndInterrupts m.interrupts m.joypad
    { m with cpu := cpu, interrupts := interrupts, joypad := joypad }

/-! ## Whole cycles -/

/-- A cycle up to its wake-up phase, from the core's own T-cycle on. -/
def beforeWake (accepted : Option InterruptSource) : CpuSide σ :=
  aggregate c (cpuTick a c m) accepted

/-- What the CPU's phase of the cycle accepts, and the core that it then ticks. -/
def entered : Option InterruptSource × CpuSide σ := evaluateRequests c (ingress c m)

/-- The cycle as its wake-up phase finds it. -/
def toWake : CpuSide σ := beforeWake a c (entered c m).2 (entered c m).1

def cycle : CpuSide σ := wake c (toWake a c m)

def run (cs : List (CycleInput σ)) (m : CpuSide σ) : CpuSide σ :=
  cs.foldl (fun m c => cycle a c m) m

/-! ## What an observer sees -/

/-- The source the wake-up phase of the cycle accepts: its IF bit goes, and its service
begins. -/
def wakeAccepted : Option InterruptSource :=
  if (cycle a c m).interrupts = (toWake a c m).interrupts then none
  else
    match (cycle a c m).cpu.executionState with
    | .serviceInterrupt source _ _ => some source
    | _ => none

/-- The sources accepted in a cycle. -/
def accepted : List InterruptSource := (entered c m).1.toList ++ (wakeAccepted a c m).toList

/-- The bus activity of a cycle. -/
def activity : List CpuBusActivity :=
  (cpuTick a c (entered c m).2).cpu.lastBusActivity.toList

/-- The sources accepted in a run. -/
def acceptedIn : List (CycleInput σ) → CpuSide σ → List InterruptSource
  | [], _ => []
  | c :: cs, m => accepted a c m ++ acceptedIn cs (cycle a c m)

/-- The bus activity of a run. -/
def activityIn : List (CycleInput σ) → CpuSide σ → List CpuBusActivity
  | [], _ => []
  | c :: cs, m => activity a c m ++ activityIn cs (cycle a c m)

/-- The T-cycles of a run that are the core's own. -/
def cpuTCycles (cs : List (CycleInput σ)) : Nat := cs.countP fun c => !c.cpuStalled

end CpuSide

end GbCycle
