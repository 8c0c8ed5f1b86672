import GbCycle.Model
import GbCycle.Word

/-!
# The infrared port

The photo-sensor of the port is a counter.  With reading enabled it rests at the warm-up value,
climbs above it in light and sinks back in the dark; a signal is reported in a lit cycle whose
count lies between the warm-up value and the one where the sensor has adapted to the light.

A lit run that starts at rest is therefore seen as long as it is no longer than the adaptation
takes, and a dark run of the same length brings the sensor back to rest.
-/

namespace GbCycle

/-- `OperatingMode::enables_cgb_infrared_register`. -/
def OperatingMode.enablesCgbInfraredRegister : OperatingMode → Bool
  | .cgb | .cgbDmgExt => true
  | .dmg | .gbCompatible => false

structure CgbInfraredState where
  rpLatch : U8
  externalOpticalInput : Bool
  sensorCounter : Nat
  effectiveSignalDetected : Bool
  rpLatch_masked : rpLatch &&& 0x3E = 0
  deriving DecidableEq

namespace CgbInfraredState

def rpEmitterBit : U8 := 0x01
def rpSignalBit : U8 := 0x02
def rpWritableMask : U8 := 0xC1
def rpReadEnableMask : U8 := 0xC0
def rpUnusedReadMask : U8 := 0x3C
def irWarmupTCycles : Nat := 19900
def irThresholdTCycles : Nat := 0
def irDecayTCycles : Nat := 31500
def irMaxTCycles : Nat := irWarmupTCycles + irThresholdTCycles * 2 + irDecayTCycles + 268

theorem and_C1_and_3E (value : U8) : value &&& rpWritableMask &&& 0x3E = 0 := by
  rw [BitVec.and_assoc]
  exact BitVec.and_zero

def new : CgbInfraredState where
  rpLatch := 0
  externalOpticalInput := false
  sensorCounter := 0
  effectiveSignalDetected := false
  rpLatch_masked := rfl

def emitterOn (s : CgbInfraredState) : Bool := s.rpLatch &&& rpEmitterBit != 0

def readEnabled (s : CgbInfraredState) : Bool :=
  s.rpLatch &&& rpReadEnableMask == rpReadEnableMask

def opticalInputActive (s : CgbInfraredState) : Bool := s.externalOpticalInput || s.emitterOn

def signalVisibleToRp (s : CgbInfraredState) : Bool := s.readEnabled && s.effectiveSignalDetected

def readRp (s : CgbInfraredState) : U8 :=
  rpUnusedReadMask ||| (if s.signalVisibleToRp then 0 else rpSignalBit) ||| s.rpLatch

def writeRp (s : CgbInfraredState) (value : U8) : CgbInfraredState :=
  { s with rpLatch := value &&& rpWritableMask, rpLatch_masked := and_C1_and_3E value }

def setExternalOpticalInput (s : CgbInfraredState) (active : Bool) : CgbInfraredState :=
  { s with externalOpticalInput := active }

/-- How the counter moves towards a target without light. -/
def settle (sensorCounter target : Nat) : Nat :=
  if sensorCounter < target then min (saturatingAdd 32 sensorCounter 1) target
  else if sensorCounter = target then target
  else max (sensorCounter - 1) target

def tickTCycle (s : CgbInfraredState) : CgbInfraredState :=
  if s.readEnabled && s.opticalInputActive then
    let sensorCounter := min (saturatingAdd 32 s.sensorCounter 1) irMaxTCycles
    { s with
      sensorCounter
      effectiveSignalDetected :=
        irWarmupTCycles + irThresholdTCycles ≤ sensorCounter &&
          sensorCounter ≤ irWarmupTCycles + irThresholdTCycles + irDecayTCycles }
  else
    { s with
      sensorCounter := settle s.sensorCounter (if s.readEnabled then irWarmupTCycles else 0)
      effectiveSignalDetected := false }

end CgbInfraredState

/-! ## Histories -/

inductive CgbInfraredEvent where
  | writeRp (value : U8)
  | setExternalOpticalInput (active : Bool)
  | tick
  deriving Repr, DecidableEq

namespace CgbInfraredState

def event (s : CgbInfraredState) : CgbInfraredEvent → CgbInfraredState
  | .writeRp value => s.writeRp value
  | .setExternalOpticalInput active => s.setExternalOpticalInput active
  | .tick => s.tickTCycle

def run (s : CgbInfraredState) (es : List CgbInfraredEvent) : CgbInfraredState := es.foldl event s

theorem settle_le {sensorCounter target limit : Nat} (hcounter : sensorCounter ≤ limit)
    (htarget : target ≤ limit) : settle sensorCounter target ≤ limit := by
  unfold settle
  split
  · exact Nat.le_trans (Nat.min_le_right _ _) htarget
  · split
    · exact htarget
    · exact Nat.max_le.mpr ⟨Nat.le_trans (Nat.sub_le _ _) hcounter, htarget⟩

theorem tickTCycle_le {s : CgbInfraredState} (h : s.sensorCounter ≤ irMaxTCycles) :
    s.tickTCycle.sensorCounter ≤ irMaxTCycles := by
  have htarget : (if s.readEnabled then irWarmupTCycles else 0) ≤ irMaxTCycles := by
    split <;> decide
  unfold tickTCycle
  split
  · exact Nat.min_le_right _ _
  · exact settle_le h htarget

theorem event_le {s : CgbInfraredState} (h : s.sensorCounter ≤ irMaxTCycles)
    (e : CgbInfraredEvent) : (s.event e).sensorCounter ≤ irMaxTCycles := by
  cases e with
  | writeRp value => exact h
  | setExternalOpticalInput active => exact h
  | tick => exact tickTCycle_le h

theorem run_le {s : CgbInfraredState} (h : s.sensorCounter ≤ irMaxTCycles)
    (es : List CgbInfraredEvent) : (s.run es).sensorCounter ≤ irMaxTCycles := by
  induction es generalizing s with
  | nil => exact h
  | cons e es ih => exact ih (event_le h e)

/-! ## Light schedules -/

/-- One cycle of light or dark, as the program can observe it. -/
def sense (s : CgbInfraredState) (light : Bool) : CgbInfraredState :=
  (s.setExternalOpticalInput light).tickTCycle

/-- What the sensor reports in each cycle of a schedule. -/
def watch (s : CgbInfraredState) : List Bool → List Bool
  | [] => []
  | light :: lights => (s.sense light).signalVisibleToRp :: (s.sense light).watch lights

/-- Reading is enabled and the own emitter is off. -/
def Listening (s : CgbInfraredState) : Prop := s.readEnabled = true ∧ s.emitterOn = false

/-- A listening sensor that is at rest. -/
structure Adapted (s : CgbInfraredState) : Prop where
  listening : s.Listening
  counter : s.sensorCounter = irWarmupTCycles

/-- A dark lead, and runs of light that are followed by runs of dark. -/
def lightSchedule (lead : Nat) (runs : List (Nat × Nat)) : List Bool :=
  List.replicate lead false ++
    runs.flatMap fun run => List.replicate run.1 true ++ List.replicate run.2 false

variable {s : CgbInfraredState}

theorem watch_append (s : CgbInfraredState) (lights more : List Bool) :
    s.watch (lights ++ more) = s.watch lights ++ (lights.foldl sense s).watch more := by
  induction lights generalizing s with
  | nil => rfl
  | cons light lights ih => exact congrArg (List.cons _) (ih _)

theorem watch_take (s : CgbInfraredState) (lights : List Bool) (k : Nat) :
    s.watch (lights.take k) = (s.watch lights).take k := by
  induction lights generalizing s k with
  | nil => rw [List.take_nil, watch, List.take_nil]
  | cons light lights ih =>
      cases k with
      | zero => rfl
      | succ k => exact congrArg (List.cons _) (ih _ k)

theorem sense_rpLatch (s : CgbInfraredState) (light : Bool) :
    (s.sense light).rpLatch = s.rpLatch := by
  unfold CgbInfraredState.sense tickTCycle
  split <;> rfl

theorem Listening.sense (h : s.Listening) (light : Bool) : (s.sense light).Listening := by
  unfold Listening readEnabled emitterOn
  rw [sense_rpLatch]
  exact h

/-- In the dark nothing is reported, whatever the counter and whether reading is enabled. -/
theorem sense_dark (hemitter : s.emitterOn = false) :
    (s.sense false).signalVisibleToRp = false ∧
    (s.sense false).sensorCounter =
      settle s.sensorCounter (if s.readEnabled then irWarmupTCycles else 0) := by
  have hinput : (s.setExternalOpticalInput false).opticalInputActive = false := hemitter
  unfold sense tickTCycle
  rw [hinput, Bool.and_false]
  exact ⟨Bool.and_false _, rfl⟩

/-- In light the counter climbs, and a signal is reported until it has climbed too far. -/
theorem sense_lit (h : s.Listening) {k : Nat} (hcounter : s.sensorCounter = irWarmupTCycles + k)
    (hk : k < irDecayTCycles) :
    (s.sense true).signalVisibleToRp = true ∧
    (s.sense true).sensorCounter = irWarmupTCycles + (k + 1) := by
  have henabled : (s.setExternalOpticalInput true).readEnabled = true := h.1
  have hinput : (s.setExternalOpticalInput true).opticalInputActive = true := rfl
  have hnext : min (saturatingAdd 32 (s.setExternalOpticalInput true).sensorCounter 1)
      irMaxTCycles = irWarmupTCycles + (k + 1) := by
    rw [show (s.setExternalOpticalInput true).sensorCounter = _ from hcounter]
    unfold saturatingAdd irMaxTCycles irThresholdTCycles irWarmupTCycles
    unfold irDecayTCycles at hk ⊢
    omega
  have hsense : s.sense true =
      { s.setExternalOpticalInput true with
        sensorCounter := irWarmupTCycles + (k + 1)
        effectiveSignalDetected :=
          irWarmupTCycles + irThresholdTCycles ≤ irWarmupTCycles + (k + 1) &&
            irWarmupTCycles + (k + 1) ≤ irWarmupTCycles + irThresholdTCycles + irDecayTCycles } := by
    unfold sense tickTCycle
    rw [henabled, hinput]
    simp only [hnext]
    exact if_pos rfl
  rw [hsense]
  refine ⟨?_, rfl⟩
  have hseen : (decide (irWarmupTCycles + irThresholdTCycles ≤ irWarmupTCycles + (k + 1)) &&
      decide (irWarmupTCycles + (k + 1) ≤ irWarmupTCycles + irThresholdTCycles + irDecayTCycles)) =
      true := by
    rw [Bool.and_eq_true, decide_eq_true_eq, decide_eq_true_eq]
    unfold irThresholdTCycles
    omega
  show (s.readEnabled && _) = true
  rw [h.1, Bool.true_and]
  exact hseen

/-- A lit run within the limit is seen from its first cycle to its last. -/
theorem watch_lit (h : s.Listening) {k n : Nat} (hcounter : s.sensorCounter = irWarmupTCycles + k)
    (hlimit : k + n ≤ irDecayTCycles) :
    s.watch (List.replicate n true) = List.replicate n true ∧
    ((List.replicate n true).foldl sense s).Listening ∧
    ((List.replicate n true).foldl sense s).sensorCounter = irWarmupTCycles + (k + n) := by
  induction n generalizing s k with
  | zero => exact ⟨rfl, h, hcounter⟩
  | succ n ih =>
      obtain ⟨hvisible, hnext⟩ := sense_lit h hcounter (by omega)
      obtain ⟨hwatch, hlistening, hend⟩ := ih (h.sense true) hnext (by omega)
      rw [List.replicate_succ]
      refine ⟨?_, hlistening, hend.trans (by omega)⟩
      rw [watch, hvisible, hwatch]

/-- A dark run is seen as dark and brings the counter back. -/
theorem watch_dark (h : s.Listening) {k : Nat} (n : Nat)
    (hcounter : s.sensorCounter = irWarmupTCycles + k) :
    s.watch (List.replicate n false) = List.replicate n false ∧
    ((List.replicate n false).foldl sense s).Listening ∧
    ((List.replicate n false).foldl sense s).sensorCounter = irWarmupTCycles + (k - n) := by
  induction n generalizing s k with
  | zero => exact ⟨rfl, h, hcounter⟩
  | succ n ih =>
      obtain ⟨hvisible, hnext⟩ := sense_dark h.2
      rw [h.1] at hnext
      have hsettle : settle s.sensorCounter irWarmupTCycles = irWarmupTCycles + (k - 1) := by
        unfold settle
        rw [if_neg (by omega)]
        split <;> omega
      obtain ⟨hwatch, hlistening, hend⟩ := ih (h.sense false) (hnext.trans hsettle)
      rw [List.replicate_succ]
      refine ⟨?_, hlistening, hend.trans (by omega)⟩
      rw [watch, hvisible, hwatch]

/-- An adapted sensor reports exactly the light, and is adapted again afterwards. -/
theorem watch_schedule (h : s.Adapted) (lead : Nat) {runs : List (Nat × Nat)}
    (hruns : ∀ run ∈ runs, run.1 ≤ irDecayTCycles ∧ run.1 ≤ run.2) :
    s.watch (lightSchedule lead runs) = lightSchedule lead runs := by
  have hbursts {s : CgbInfraredState} (h : s.Adapted) {runs : List (Nat × Nat)}
      (hruns : ∀ run ∈ runs, run.1 ≤ irDecayTCycles ∧ run.1 ≤ run.2) :
      s.watch (lightSchedule 0 runs) = lightSchedule 0 runs := by
    induction runs generalizing s with
    | nil => rfl
    | cons run runs ih =>
        obtain ⟨hlimit, hlonger⟩ := hruns run (List.mem_cons_self ..)
        obtain ⟨hlit, hlistening, hclimbed⟩ := watch_lit h.listening (k := 0) h.counter
          (by omega : 0 + run.1 ≤ irDecayTCycles)
        obtain ⟨hdark, hlistening', hback⟩ := watch_dark hlistening run.2 hclimbed
        have hadapted : ((List.replicate run.2 false).foldl sense
            ((List.replicate run.1 true).foldl sense s)).Adapted :=
          ⟨hlistening', hback.trans (by omega)⟩
        have hrest := ih hadapted fun r hr => hruns r (List.mem_cons_of_mem _ hr)
        have hsplit : lightSchedule 0 (run :: runs) =
            List.replicate run.1 true ++ (List.replicate run.2 false ++ lightSchedule 0 runs) := by
          simp only [lightSchedule, List.replicate_zero, List.nil_append, List.flatMap_cons,
            List.append_assoc]
        rw [hsplit, watch_append, watch_append, hlit, hdark, hrest]
  obtain ⟨hdark, hlistening, hback⟩ := watch_dark h.listening (k := 0) lead h.counter
  have hadapted : ((List.replicate lead false).foldl sense s).Adapted :=
    ⟨hlistening, hback.trans (by omega)⟩
  have hsplit : lightSchedule lead runs = List.replicate lead false ++ lightSchedule 0 runs := by
    simp only [lightSchedule, List.replicate_zero, List.nil_append]
  rw [hsplit, watch_append, hdark, hbursts hadapted hruns]

/-- No schedule makes a sensor with its emitter off report a signal in the dark. -/
theorem watch_dark_unseen (hemitter : s.emitterOn = false) (lights : List Bool) {i : Nat}
    (hdark : lights[i]? = some false) : (s.watch lights)[i]? = some false := by
  induction lights generalizing s i with
  | nil => cases hdark
  | cons light lights ih =>
      cases i with
      | zero =>
          obtain rfl : light = false := Option.some.inj hdark
          exact congrArg some (sense_dark hemitter).1
      | succ i =>
          have hemitter' : (s.sense light).emitterOn = false := by
            unfold emitterOn
            rw [sense_rpLatch]
            exact hemitter
          exact ih hemitter' hdark

end CgbInfraredState

end GbCycle
