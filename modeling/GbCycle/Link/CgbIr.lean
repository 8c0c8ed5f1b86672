import GbCycle.Infrared
import GbCycle.Wire.DelayLine

/-!
# Two infrared ports facing each other

A linked pair carries the light of each machine's emitter to the other one's sensor, through
two delay lines that share a cursor.  The exchange happens once in a cycle, before the machines
do anything in it; what a machine does then is a list of writes to its register, ticks of its
sensor and changes of its operating mode.
-/

namespace GbCycle

def minCgbIrOpticalPropagationDelayTCycles : Nat := 1
def maxCgbIrOpticalPropagationDelayTCycles : Nat := 256

structure CgbInfraredPair where
  opticalPropagationDelayTCycles : Nat
  leftToRightDelayLine : Vector Bool 256
  rightToLeftDelayLine : Vector Bool 256
  delayCursor : Nat
  delay_pos : 0 < opticalPropagationDelayTCycles
  delay_le : opticalPropagationDelayTCycles ≤ maxCgbIrOpticalPropagationDelayTCycles
  delayCursor_lt : delayCursor < opticalPropagationDelayTCycles

namespace CgbInfraredPair

def withOpticalPropagationDelayTCycles (opticalPropagationDelayTCycles : Nat)
    (delay_pos : 0 < opticalPropagationDelayTCycles)
    (delay_le : opticalPropagationDelayTCycles ≤ maxCgbIrOpticalPropagationDelayTCycles) :
    CgbInfraredPair where
  opticalPropagationDelayTCycles
  leftToRightDelayLine := Vector.replicate 256 false
  rightToLeftDelayLine := Vector.replicate 256 false
  delayCursor := 0
  delay_pos
  delay_le
  delayCursor_lt := delay_pos

theorem delayCursor_inBounds (p : CgbInfraredPair) : p.delayCursor < 256 :=
  Nat.lt_of_lt_of_le p.delayCursor_lt p.delay_le

/-- What the pair does in `prepare_phase`: the light that arrives at the left and at the right
machine, and the pair with the light that leaves them. -/
def exchange (p : CgbInfraredPair) (leftEmitterOn rightEmitterOn : Bool) :
    Bool × Bool × CgbInfraredPair :=
  let delayedLeftEmitter := p.leftToRightDelayLine.get ⟨p.delayCursor, p.delayCursor_inBounds⟩
  let delayedRightEmitter := p.rightToLeftDelayLine.get ⟨p.delayCursor, p.delayCursor_inBounds⟩
  (delayedRightEmitter, delayedLeftEmitter,
    { p with
      leftToRightDelayLine :=
        p.leftToRightDelayLine.set p.delayCursor leftEmitterOn p.delayCursor_inBounds
      rightToLeftDelayLine :=
        p.rightToLeftDelayLine.set p.delayCursor rightEmitterOn p.delayCursor_inBounds
      delayCursor := (p.delayCursor + 1) % p.opticalPropagationDelayTCycles
      delayCursor_lt := Nat.mod_lt _ p.delay_pos })

/-- One of the two lines of the pair. -/
def line (p : CgbInfraredPair) (cells : Vector Bool 256) : Wire.DelayLine Bool where
  delay := p.opticalPropagationDelayTCycles
  cells i := cells[i]?.getD false
  cursor := p.delayCursor

end CgbInfraredPair

/-! ## The machines -/

/-- What the bus of a machine has to do with infrared light. -/
structure InfraredBus where
  consoleModel : ConsoleModel
  operatingMode : OperatingMode
  infrared : CgbInfraredState

namespace InfraredBus

def cgbInfraredRegisterEnabled (b : InfraredBus) : Bool :=
  b.consoleModel.hasCgbInfraredPort && b.operatingMode.enablesCgbInfraredRegister

def tickCgbInfraredTCycle (b : InfraredBus) : InfraredBus :=
  if b.cgbInfraredRegisterEnabled then { b with infrared := b.infrared.tickTCycle } else b

def setCgbInfraredExternalInput (b : InfraredBus) (active : Bool) : InfraredBus :=
  { b with
    infrared := b.infrared.setExternalOpticalInput (b.cgbInfraredRegisterEnabled && active) }

def cgbInfraredEmitterOn (b : InfraredBus) : Bool :=
  b.cgbInfraredRegisterEnabled && b.infrared.emitterOn

end InfraredBus

/-- What a machine does to its port within a cycle. -/
inductive InfraredActivity where
  | writeRp (value : U8)
  | setOperatingMode (operatingMode : OperatingMode)
  | tick
  deriving Repr, DecidableEq

namespace InfraredBus

def act (b : InfraredBus) : InfraredActivity → InfraredBus
  | .writeRp value => { b with infrared := b.infrared.writeRp value }
  | .setOperatingMode operatingMode => { b with operatingMode }
  | .tick => b.tickCgbInfraredTCycle

end InfraredBus

structure InfraredLink where
  left : InfraredBus
  right : InfraredBus
  pair : CgbInfraredPair

/-- What can be seen of the two ports right after an exchange. -/
structure InfraredView where
  leftEmitter : Bool
  rightEmitter : Bool
  left : InfraredBus
  right : InfraredBus

namespace InfraredLink

/-- `attach_cgb_infrared_pair_with_optical_propagation_delay`, for two machines. -/
def attach (left right : InfraredBus) (opticalPropagationDelayTCycles : Nat) :
    Option InfraredLink :=
  if hvalid : minCgbIrOpticalPropagationDelayTCycles ≤ opticalPropagationDelayTCycles ∧
      opticalPropagationDelayTCycles ≤ maxCgbIrOpticalPropagationDelayTCycles then
    some
      { left := left.setCgbInfraredExternalInput false
        right := right.setCgbInfraredExternalInput false
        pair := .withOpticalPropagationDelayTCycles opticalPropagationDelayTCycles hvalid.1
          hvalid.2 }
  else none

def preparePhase (l : InfraredLink) : InfraredLink :=
  let exchanged := l.pair.exchange l.left.cgbInfraredEmitterOn l.right.cgbInfraredEmitterOn
  { left := l.left.setCgbInfraredExternalInput exchanged.1
    right := l.right.setCgbInfraredExternalInput exchanged.2.1
    pair := exchanged.2.2 }

/-- The machines' own part of a cycle. -/
def act (l : InfraredLink) (activity : List InfraredActivity × List InfraredActivity) :
    InfraredLink :=
  { l with
    left := activity.1.foldl InfraredBus.act l.left
    right := activity.2.foldl InfraredBus.act l.right }

/-- What is seen in each cycle of a run. -/
def run (l : InfraredLink) :
    List (List InfraredActivity × List InfraredActivity) → List InfraredView
  | [] => []
  | activity :: later =>
      { leftEmitter := l.left.cgbInfraredEmitterOn
        rightEmitter := l.right.cgbInfraredEmitterOn
        left := l.preparePhase.left
        right := l.preparePhase.right } ::
      (l.preparePhase.act activity).run later

end InfraredLink

/-! ## The delay -/

namespace CgbInfraredPair

/-- An exchange pushes the light that leaves into each line. -/
theorem push_line (p : CgbInfraredPair) (cells : Vector Bool 256) (light : Bool) :
    (p.line cells).push light =
      (cells.get ⟨p.delayCursor, p.delayCursor_inBounds⟩,
        { delay := p.opticalPropagationDelayTCycles
          cells := fun i =>
            (cells.set p.delayCursor light p.delayCursor_inBounds)[i]?.getD false
          cursor := (p.delayCursor + 1) % p.opticalPropagationDelayTCycles }) := by
  have hbound := p.delayCursor_inBounds
  have hread : cells[p.delayCursor]?.getD false =
      cells.get ⟨p.delayCursor, p.delayCursor_inBounds⟩ := by
    rw [Vector.getElem?_eq_getElem hbound]
    rfl
  have hcells : (fun i => if i = p.delayCursor then light else cells[i]?.getD false) =
      fun i => (cells.set p.delayCursor light p.delayCursor_inBounds)[i]?.getD false := by
    funext i
    rw [Vector.getElem?_set]
    by_cases hi : p.delayCursor = i
    · rw [if_pos hi, if_pos hi.symm]
      rfl
    · rw [if_neg hi, if_neg (Ne.symm hi)]
  unfold Wire.DelayLine.push line
  simp only [hread, hcells]

/-- A new pair is dark: nothing is on its way but as many dark cycles as the delay has. -/
theorem pending_new {delay : Nat} (delay_pos : 0 < delay)
    (delay_le : delay ≤ maxCgbIrOpticalPropagationDelayTCycles) :
    ((withOpticalPropagationDelayTCycles delay delay_pos delay_le).line
      (Vector.replicate 256 false)).Pending (List.replicate delay false) := by
  refine Wire.DelayLine.pending_replicate (a := false) delay_pos rfl fun i hi => ?_
  show (Vector.replicate 256 false)[i]?.getD false = false
  rw [Vector.getElem?_replicate]
  split <;> rfl

end CgbInfraredPair

namespace InfraredLink

/-- The light that arrives in each cycle is what leaves the lines, as far as the register of
the machine is enabled. -/
theorem run_outputs (l : InfraredLink)
    (cycles : List (List InfraredActivity × List InfraredActivity)) {n : Nat} {v : InfraredView}
    (hview : (l.run cycles)[n]? = some v) :
    (∃ light, ((l.pair.line l.pair.rightToLeftDelayLine).outputs
        ((l.run cycles).map InfraredView.rightEmitter))[n]? = some light ∧
      v.left.infrared.externalOpticalInput = (v.left.cgbInfraredRegisterEnabled && light)) ∧
    ∃ light, ((l.pair.line l.pair.leftToRightDelayLine).outputs
        ((l.run cycles).map InfraredView.leftEmitter))[n]? = some light ∧
      v.right.infrared.externalOpticalInput = (v.right.cgbInfraredRegisterEnabled && light) := by
  induction cycles generalizing l n with
  | nil => cases hview
  | cons activity cycles ih =>
      rw [run, List.map_cons, List.map_cons, Wire.DelayLine.outputs, Wire.DelayLine.outputs,
        CgbInfraredPair.push_line, CgbInfraredPair.push_line]
      cases n with
      | zero =>
          obtain rfl := Option.some.inj hview
          exact ⟨⟨_, rfl, rfl⟩, _, rfl, rfl⟩
      | succ n => exact ih (l.preparePhase.act activity) hview

/-- Each machine sees the other one's emitter as it was a delay ago, and the dark before. -/
theorem run_delays {left right : InfraredBus} {delay : Nat} {l : InfraredLink}
    (hattach : attach left right delay = some l)
    (cycles : List (List InfraredActivity × List InfraredActivity)) {n : Nat} {v : InfraredView}
    (hview : (l.run cycles)[n]? = some v) :
    v.left.infrared.externalOpticalInput = (v.left.cgbInfraredRegisterEnabled &&
      if n < delay then false
      else (((l.run cycles)[n - delay]?).map InfraredView.rightEmitter).getD false) ∧
    v.right.infrared.externalOpticalInput = (v.right.cgbInfraredRegisterEnabled &&
      if n < delay then false
      else (((l.run cycles)[n - delay]?).map InfraredView.leftEmitter).getD false) := by
  have hlight {line : Wire.DelayLine Bool} (hpending : line.Pending (List.replicate delay false))
      (emitter : InfraredView → Bool) {light : Bool}
      (hout : (line.outputs ((l.run cycles).map emitter))[n]? = some light) :
      light = if n < delay then false
        else (((l.run cycles)[n - delay]?).map emitter).getD false := by
    have hlt : n < (l.run cycles).length := (List.getElem?_eq_some_iff.mp hview).1
    rw [hpending.outputs_eq, List.getElem?_take_of_lt (by rw [List.length_map]; exact hlt)] at hout
    by_cases hearly : n < delay
    · rw [List.getElem?_append_left (by rw [List.length_replicate]; exact hearly),
        List.getElem?_replicate_of_lt hearly] at hout
      rw [if_pos hearly]
      exact (Option.some.inj hout).symm
    · rw [List.getElem?_append_right (by rw [List.length_replicate]; omega),
        List.length_replicate, List.getElem?_map] at hout
      rw [if_neg hearly, hout]
      rfl
  unfold attach at hattach
  split at hattach
  · next hvalid =>
      obtain ⟨⟨lightLeft, houtLeft, hleft⟩, lightRight, houtRight, hright⟩ :=
        l.run_outputs cycles hview
      cases hattach
      have hpending := CgbInfraredPair.pending_new hvalid.1 hvalid.2
      exact ⟨by rw [hleft, ← hlight hpending _ houtLeft],
        by rw [hright, ← hlight hpending _ houtRight]⟩
  · cases hattach

theorem attach_isSome (left right : InfraredBus) (delay : Nat) :
    (attach left right delay).isSome ↔ 1 ≤ delay ∧ delay ≤ 256 := by
  unfold attach minCgbIrOpticalPropagationDelayTCycles maxCgbIrOpticalPropagationDelayTCycles
  split
  · next hvalid => exact ⟨fun _ => hvalid, fun _ => rfl⟩
  · next hinvalid => exact ⟨nofun, fun hvalid => absurd hvalid hinvalid⟩

/-- The counter of the sensor stays within its maximum.  A sensor at rest reports exactly the
light of a schedule whose lit runs are within the adaptation limit and followed by as much
dark, also where the schedule is cut off, and no sensor reports a signal in the dark.  A linked
pair delays the light by its number of cycles, for every number that it can be attached with. -/
theorem cgbInfrared_sensesAndDelays :
    (∀ es, (CgbInfraredState.new.run es).sensorCounter ≤ CgbInfraredState.irMaxTCycles) ∧
    (∀ s : CgbInfraredState, s.Adapted → ∀ lead runs,
      (∀ run ∈ runs, run.1 ≤ CgbInfraredState.irDecayTCycles ∧ run.1 ≤ run.2) →
      ∀ lights, lights <+: CgbInfraredState.lightSchedule lead runs → s.watch lights = lights) ∧
    (∀ s : CgbInfraredState, s.emitterOn = false → ∀ (lights : List Bool) (i : Nat),
      lights[i]? = some false → (s.watch lights)[i]? = some false) ∧
    ∀ left right delay, (1 ≤ delay ∧ delay ≤ 256 ↔ ∃ l, attach left right delay = some l) ∧
      ∀ l, attach left right delay = some l → ∀ cycles (n : Nat) v, (l.run cycles)[n]? = some v →
        v.left.infrared.externalOpticalInput = (v.left.cgbInfraredRegisterEnabled &&
          if n < delay then false
          else (((l.run cycles)[n - delay]?).map InfraredView.rightEmitter).getD false) ∧
        v.right.infrared.externalOpticalInput = (v.right.cgbInfraredRegisterEnabled &&
          if n < delay then false
          else (((l.run cycles)[n - delay]?).map InfraredView.leftEmitter).getD false) := by
  refine ⟨fun es => CgbInfraredState.run_le (Nat.zero_le _) es,
    fun s hadapted lead runs hruns lights hcut => ?_,
    fun s hemitter lights i => CgbInfraredState.watch_dark_unseen hemitter lights,
    fun left right delay => ⟨?_, fun l hattach cycles n v => run_delays hattach cycles⟩⟩
  · rw [List.prefix_iff_eq_take.mp hcut, CgbInfraredState.watch_take,
      CgbInfraredState.watch_schedule hadapted lead hruns]
  · rw [← attach_isSome left right, Option.isSome_iff_exists]

/-- A sensor at rest, with reading enabled. -/
def restingSensor : CgbInfraredState where
  rpLatch := 0xC0
  externalOpticalInput := false
  sensorCounter := CgbInfraredState.irWarmupTCycles
  effectiveSignalDetected := false
  rpLatch_masked := rfl

/-- Three lit cycles and four dark ones. -/
theorem cgbInfrared_sensesAndDelays_burst :
    restingSensor.watch [false, true, true, true, false, false, false, false] =
      [false, true, true, true, false, false, false, false] :=
  cgbInfrared_sensesAndDelays.2.1 restingSensor ⟨⟨rfl, rfl⟩, rfl⟩ 1 [(3, 4)]
    (fun run hrun => by
      obtain rfl := List.mem_singleton.mp hrun
      exact ⟨by decide, by decide⟩) _ (List.prefix_refl _)

end InfraredLink

end GbCycle
