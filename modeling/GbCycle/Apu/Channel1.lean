import GbCycle.Apu.Pulse

/-!
# Channel 1

Channel 1 is a pulse channel with a frequency sweep.  At every boundary of the sweep's phase a
candidate for the next period is computed from a shadow of the period.  A CGB writes it back at
once and looks one candidate ahead; the check that may stop the channel comes some generation
clocks later, unless another calculation takes its place.  A DMG runs a recalculation of its own.
-/

namespace GbCycle

def sweepPaceMask : U8 := 0x70
def sweepPaceShift : Nat := 4
def sweepDirectionBit : U8 := 0x08
def sweepShiftMask : U8 := 0x07
def sweepPhaseMask : U8 := 0x07
def sweepPhaseBoundary : U8 := 7
def sweepTimerReload : U8 := 8
def cgbSweepDelayedCalculationMinTCycles : Nat := 8
def cgbSweepUnshiftedDelayedCalculationTCycles : Nat := 4
def cgbSweepDelayedCalculationTCyclesPerShiftStep : Nat := 4
def cgbSweepTriggerDelayedCalculationExtraTCycles : Nat := 4
def dmgSweepRestartDelayTCycles : Nat := 5
def dmgSweepTriggerTargetCounterBase : Nat := 2
def nr10WritableMask : U8 := 0x7F

/-- Every revision holds a restart for as long. -/
def cgbCh1SweepRestartHoldTCycles : HardwareRevision → Nat
  | _ => 9

def sweepPaceFromNr10 (nr10 : U8) : U8 := (nr10 &&& sweepPaceMask) >>> sweepPaceShift
def sweepDecreasesFromNr10 (nr10 : U8) : Bool := nr10 &&& sweepDirectionBit ≠ 0
def sweepShiftFromNr10 (nr10 : U8) : U8 := nr10 &&& sweepShiftMask

inductive Channel1Register where
  | nr10
  | nr11
  | nr12
  | nr13
  | nr14
  deriving Repr, DecidableEq

structure SweepCalculation where
  candidateSum : U16
  addend : U16
  decreases : Bool
  deriving Repr, DecidableEq

structure Ch1SweepRecalculation where
  countdown : Nat
  targetTriggerCounter : Nat
  triggerCounter : Nat
  instant : Bool
  increment : U16
  fromTrigger : Bool
  reloadCountdown : Nat
  reloadPeriodReloaded : Bool
  reloadPeriodPending : Bool
  deriving Repr, DecidableEq

def Ch1SweepRecalculation.default : Ch1SweepRecalculation :=
  ⟨0, 0, 0, false, 0, false, 0, false, false⟩

structure Channel1SweepState where
  timer : U8
  phase : U8
  enabled : Bool
  shadowPeriod : U16
  completedAddend : U16
  negateCalculatedSinceTrigger : Bool
  delayedCalculationTCycles : Nat
  delayedCalculationShadowPeriod : U16
  delayedCalculationAddend : U16
  delayedCalculationDecreases : Bool
  restartHoldTCycles : Nat
  recalculation : Ch1SweepRecalculation
  restartCountdownTCycles : Nat
  periodIncrement : U16
  deriving Repr, DecidableEq

namespace Channel1SweepState

def default : Channel1SweepState :=
  { timer := 0, phase := 0, enabled := false, shadowPeriod := 0, completedAddend := 0
    negateCalculatedSinceTrigger := false, delayedCalculationTCycles := 0
    delayedCalculationShadowPeriod := 0, delayedCalculationAddend := 0
    delayedCalculationDecreases := false, restartHoldTCycles := 0, recalculation := .default
    restartCountdownTCycles := 0, periodIncrement := 0 }

def phaseFromPace (pace : U8) : U8 := pace ^^^ sweepPhaseMask

def timerFromPhase (phase : U8) : U8 :=
  if phase = sweepPhaseBoundary then sweepTimerReload
  else sweepPhaseBoundary - (phase &&& sweepPhaseMask)

def setPhase (s : Channel1SweepState) (phase : U8) : Channel1SweepState :=
  { s with phase, timer := timerFromPhase phase }

def applyPoweredStartup (nr10 : U8) (periodValue : U16) (active : Bool) : Channel1SweepState :=
  let pace := sweepPaceFromNr10 nr10
  { default with
    shadowPeriod := periodValue
    enabled := active && (pace ≠ 0 || sweepShiftFromNr10 nr10 ≠ 0) }.setPhase (phaseFromPace pace)

/-! ## Calculations -/

/-- The subtraction adds the complement and one. -/
def calculateCandidateSum (nr10 : U8) (shadowPeriod : U16) (allowShiftZero : Bool) :
    Option SweepCalculation :=
  let shift := sweepShiftFromNr10 nr10
  if shift = 0 ∧ allowShiftZero = false then none
  else
    let delta := shadowPeriod >>> shift.toNat
    let decreases := sweepDecreasesFromNr10 nr10
    let addend := if decreases then ~~~delta &&& pulsePeriodMax else delta
    some
      { candidateSum := shadowPeriod + addend + (if decreases then 1 else 0), addend, decreases }

def observeCalculation (s : Channel1SweepState) (calculation : SweepCalculation) :
    Channel1SweepState :=
  { s with
    completedAddend := calculation.addend
    negateCalculatedSinceTrigger := s.negateCalculatedSinceTrigger || calculation.decreases }

def scheduledDelay (shift : U8) (extraTCycles : Nat) : Nat :=
  let shiftDelay :=
    if shift = 0 then cgbSweepUnshiftedDelayedCalculationTCycles
    else
      max ((shift.toNat + 1) * cgbSweepDelayedCalculationTCyclesPerShiftStep)
        cgbSweepDelayedCalculationMinTCycles
  shiftDelay + extraTCycles

def scheduleDelayedCalculation (s : Channel1SweepState) (nr10 : U8) (shadowPeriod : U16)
    (calculation : SweepCalculation) (extraTCycles : Nat) : Channel1SweepState :=
  { s with
    delayedCalculationTCycles := scheduledDelay (sweepShiftFromNr10 nr10) extraTCycles
    delayedCalculationShadowPeriod := shadowPeriod
    delayedCalculationAddend := calculation.addend
    delayedCalculationDecreases := calculation.decreases }

def clearDelayedCalculation (s : Channel1SweepState) : Channel1SweepState :=
  { s with
    delayedCalculationTCycles := 0, delayedCalculationShadowPeriod := 0
    delayedCalculationAddend := 0, delayedCalculationDecreases := false }

/-! ## The trigger -/

def dmgApplyTriggerRecalculation (s : Channel1SweepState) (nr10 : U8) : Channel1SweepState :=
  let step := sweepShiftFromNr10 nr10
  let r := s.recalculation
  let s := { s with
    recalculation := { r with fromTrigger := true, increment := 0, instant := false }
    periodIncrement := 0
    restartCountdownTCycles :=
      if r.targetTriggerCounter = 0 ∨ r.triggerCounter = r.targetTriggerCounter then
        dmgSweepRestartDelayTCycles
      else s.restartCountdownTCycles }
  if step = 0 then s
  else
    let counters :=
      if 0 < r.targetTriggerCounter ∧ r.triggerCounter < 2 then s.recalculation
      else
        { s.recalculation with
          triggerCounter := 0
          targetTriggerCounter :=
            dmgSweepTriggerTargetCounterBase + (if r.countdown < 2 then 1 else 0) +
              (if r.triggerCounter = 2 ∧ r.countdown = step.toNat then 1 else 0) }
    { s with
      periodIncrement := s.shadowPeriod >>> step.toNat
      recalculation := { counters with countdown := step.toNat } }

def trigger (s : Channel1SweepState) (consoleModel : ConsoleModel) (revision : HardwareRevision)
    (nr10 : U8) (periodValue : U16) : Channel1SweepState :=
  let pace := sweepPaceFromNr10 nr10
  let s := { s with
    shadowPeriod := periodValue
    enabled := pace ≠ 0 || sweepShiftFromNr10 nr10 ≠ 0
    completedAddend := 0
    negateCalculatedSinceTrigger := false
    restartHoldTCycles :=
      if consoleModel.isCgbFamily then cgbCh1SweepRestartHoldTCycles revision else 0 }
  let s := (s.setPhase (phaseFromPace pace)).clearDelayedCalculation
  if consoleModel.isDmgFamily then
    { s.dmgApplyTriggerRecalculation nr10 with shadowPeriod := 0 }
  else
    match calculateCandidateSum nr10 s.shadowPeriod false with
    | none => s
    | some calculation =>
      (s.observeCalculation calculation).scheduleDelayedCalculation nr10 s.shadowPeriod
        calculation cgbSweepTriggerDelayedCalculationExtraTCycles

end Channel1SweepState

structure Channel1State where
  nr10 : U8
  nr11 : U8
  nr12 : U8
  nr13 : U8
  nr14 : U8
  pulse : PulseChannelState
  sweep : Channel1SweepState
  deriving Repr, DecidableEq

namespace Channel1State

def default : Channel1State := ⟨0, 0, 0, 0, 0, .default, .default⟩

def derivedDacEnabled (c : Channel1State) : Bool := c.nr12 &&& dacEnableRegisterMask ≠ 0
def periodValue (c : Channel1State) : U16 := pulsePeriodFromRegisters c.nr13 c.nr14

/-- The sweep's check has failed. -/
def stop (c : Channel1State) : Channel1State :=
  { c with pulse := { c.pulse with runtime := { c.pulse.runtime with active := false } } }

/-- `*nr13 = …; *nr14 = …`, and the shadow period. -/
def writeBackPeriod (c : Channel1State) (candidate : U16) : Channel1State :=
  { c with
    sweep := { c.sweep with shadowPeriod := candidate }
    nr13 := candidate.low
    nr14 := (c.nr14 &&& ~~~periodHighMask) ||| (candidate.high &&& periodHighMask) }

/-! ## The sweep of a DMG -/

def signedIncrement (decreases : Bool) (rawIncrement : U16) : U16 :=
  if decreases then ~~~rawIncrement &&& pulsePeriodMax else rawIncrement

/-- `period_sweep_recalculation_done`. -/
def periodSweepRecalculationDone (c : Channel1State) : Channel1State :=
  let decreases := sweepDecreasesFromNr10 c.nr10
  let increment := signedIncrement decreases c.sweep.periodIncrement
  let complementBit : U16 := if c.sweep.recalculation.fromTrigger then 0 else 1
  let overflows : Bool := !decreases && pulsePeriodMax < c.periodValue + increment + complementBit
  let c := { c with
    sweep := { c.sweep with
      shadowPeriod := c.periodValue
      recalculation := { c.sweep.recalculation with increment, fromTrigger := false }
      negateCalculatedSinceTrigger := c.sweep.negateCalculatedSinceTrigger || decreases } }
  if overflows then c.stop else c

def periodSweepReloadDone (c : Channel1State) : Channel1State :=
  let step := sweepShiftFromNr10 c.nr10
  let rawIncrement := c.periodValue >>> step.toNat
  let r := { c.sweep.recalculation with
    increment := signedIncrement (sweepDecreasesFromNr10 c.nr10) rawIncrement }
  let r :=
    if c.sweep.restartCountdownTCycles ≠ 0 then r
    else if step = 0 then { r with instant := true, countdown := 0 }
    else { r with countdown := step.toNat }
  { c with
    sweep := { c.sweep with
      periodIncrement := rawIncrement
      recalculation := { r with reloadPeriodReloaded := false, reloadPeriodPending := false } } }

def setRecalculation (c : Channel1State) (r : Ch1SweepRecalculation) : Channel1State :=
  { c with sweep := { c.sweep with recalculation := r } }

def tickPeriodSweepRecalculation (c : Channel1State) (apuClock : Nat) : Channel1State :=
  let r := c.sweep.recalculation
  if r.instant then (c.setRecalculation { r with instant := false }).periodSweepRecalculationDone
  else if apuClock % 2 = 0 then c
  else if r.triggerCounter < r.targetTriggerCounter then
    c.setRecalculation { r with triggerCounter := r.triggerCounter + 1 }
  else if r.countdown = 0 then c
  else if sweepShiftFromNr10 c.nr10 = 0 then c
  else
    let c := c.setRecalculation { r with countdown := r.countdown - 1 }
    if r.countdown - 1 = 0 then c.periodSweepRecalculationDone else c

def tickPeriodSweepReload (c : Channel1State) : Channel1State :=
  let c := { c with
    sweep := { c.sweep with restartCountdownTCycles := c.sweep.restartCountdownTCycles - 1 } }
  let r := c.sweep.recalculation
  if r.reloadCountdown = 0 then c
  else
    let c := c.setRecalculation { r with reloadCountdown := r.reloadCountdown - 1 }
    if r.reloadCountdown - 1 = 0 then c.periodSweepReloadDone else c

def tickRecalculation (c : Channel1State) (apuClock tCyclePhase : Nat) : Channel1State :=
  if tCyclePhase % 2 ≠ 1 then c
  else (c.tickPeriodSweepRecalculation apuClock).tickPeriodSweepReload

def dmgScheduleRecalculationPostWriteback (c : Channel1State) : Channel1State :=
  let c :=
    if 0 < c.sweep.recalculation.countdown then
      { c with
        sweep := { c.sweep with
          recalculation := { c.sweep.recalculation with increment := 0 }
          periodIncrement := 0 } }
    else c
  c.setRecalculation { c.sweep.recalculation with
    reloadCountdown := 2
    reloadPeriodReloaded := sweepShiftFromNr10 c.nr10 ≠ 0
    reloadPeriodPending := true }

/-! ## The boundary of the phase -/

/-- `maybe_fire_sweep_boundary` on a DMG, past its guards. -/
def fireDmgSweepBoundary (c : Channel1State) : Channel1State :=
  let decreases := sweepDecreasesFromNr10 c.nr10
  let addend := signedIncrement decreases c.sweep.periodIncrement
  let candidateSum := c.sweep.shadowPeriod + addend + (if decreases then 1 else 0)
  let c := { c with sweep := c.sweep.observeCalculation ⟨candidateSum, addend, decreases⟩ }
  if sweepShiftFromNr10 c.nr10 = 0 then
    c.setRecalculation { c.sweep.recalculation with
      reloadCountdown := 2, reloadPeriodReloaded := false, reloadPeriodPending := true }
  else (c.writeBackPeriod (candidateSum &&& pulsePeriodMax)).dmgScheduleRecalculationPostWriteback

/-- `maybe_fire_sweep_boundary` on a CGB, with the calculation it makes. -/
def fireCgbSweepBoundary (c : Channel1State) (calculation : SweepCalculation) : Channel1State :=
  let shadowPeriod := c.sweep.shadowPeriod
  let c := { c with sweep := c.sweep.observeCalculation calculation }
  if (!calculation.decreases ∧ pulsePeriodMax < calculation.candidateSum) ∨
      sweepShiftFromNr10 c.nr10 = 0 then
    { c with sweep := c.sweep.scheduleDelayedCalculation c.nr10 shadowPeriod calculation 0 }
  else
    let candidate := calculation.candidateSum &&& pulsePeriodMax
    let c := c.writeBackPeriod candidate
    match Channel1SweepState.calculateCandidateSum c.nr10 candidate true with
    | none => c
    | some next =>
      { c with
        sweep := (c.sweep.observeCalculation next).scheduleDelayedCalculation c.nr10 candidate
          next 0 }

def maybeFireSweepBoundary (c : Channel1State) (consoleModel : ConsoleModel) : Channel1State :=
  let pace := sweepPaceFromNr10 c.nr10
  if c.sweep.phase ≠ sweepPhaseBoundary ∨ pace = 0 ∨ c.sweep.enabled = false then c
  else
    let c := { c with sweep := c.sweep.setPhase (Channel1SweepState.phaseFromPace pace) }
    if sweepShiftFromNr10 c.nr10 = 0 ∧ consoleModel.isCgbFamily ∧
        0 < c.sweep.restartHoldTCycles then c
    else
      match Channel1SweepState.calculateCandidateSum c.nr10 c.sweep.shadowPeriod true with
      | none => c
      | some calculation =>
        if consoleModel.isCgbFamily then c.fireCgbSweepBoundary calculation
        else c.fireDmgSweepBoundary

/-- `Channel1SweepState::clock`. -/
def clockSweep (c : Channel1State) (consoleModel : ConsoleModel) : Channel1State :=
  let phase := (c.sweep.phase + 1) &&& sweepPhaseMask
  let c := { c with sweep := c.sweep.setPhase phase }
  if phase ≠ sweepPhaseBoundary ∨ c.sweep.enabled = false then c
  else c.maybeFireSweepBoundary consoleModel

/-! ## The registers -/

/-- The check that a write of NR10 makes on a DMG. -/
def checkDmgNr10Candidate (c : Channel1State) : Channel1State :=
  let r := c.sweep.recalculation
  let complementBit : U16 := if r.fromTrigger then 0 else 1
  if !sweepDecreasesFromNr10 c.nr10 ∧
      pulsePeriodMax < c.sweep.shadowPeriod + r.increment + complementBit then c.stop
  else c

/-- What a write of NR10 does to a recalculation that is under way. -/
def restartDmgNr10Countdown (c : Channel1State) (oldNr10 : U8) : Channel1State :=
  let newStep := sweepShiftFromNr10 c.nr10
  let r := c.sweep.recalculation
  if 0 < r.targetTriggerCounter ∧ r.triggerCounter < 2 then
    c.setRecalculation
      (if newStep = 0 then
        { r with countdown := 0, triggerCounter := 0, targetTriggerCounter := 0 }
      else { r with countdown := newStep.toNat })
  else if 0 < r.countdown ∧ sweepShiftFromNr10 oldNr10 = 0 ∧ newStep ≠ 0 then
    let c := c.setRecalculation { r with countdown := r.countdown - 1 }
    if r.countdown - 1 = 0 then c.periodSweepRecalculationDone else c
  else c

def applyDmgNr10Glitches (c : Channel1State) (oldNr10 : U8) : Channel1State :=
  let c := c.checkDmgNr10Candidate
  if !c.pulse.runtime.active then c
  else
    let c := c.restartDmgNr10Countdown oldNr10
    if c.sweep.enabled ∧ c.sweep.phase = sweepPhaseBoundary then c.maybeFireSweepBoundary .gameBoy
    else c

def writeNr10 (c : Channel1State) (value : U8) (consoleModel : ConsoleModel) : Channel1State :=
  let oldNr10 := c.nr10
  let c := { c with nr10 := value &&& nr10WritableMask }
  let pacedOrShifted : Bool := sweepPaceFromNr10 c.nr10 ≠ 0 || sweepShiftFromNr10 c.nr10 ≠ 0
  let c :=
    if consoleModel.isCgbFamily ∧ pacedOrShifted = false then
      { c with sweep := c.sweep.clearDelayedCalculation }
    else c
  let c :=
    if sweepDecreasesFromNr10 oldNr10 ∧ !sweepDecreasesFromNr10 c.nr10 ∧
        c.sweep.negateCalculatedSinceTrigger then c.stop
    else c
  let c :=
    if consoleModel.isDmgFamily ∧ c.pulse.runtime.active then
      { c with sweep := { c.sweep with enabled := pacedOrShifted } }.applyDmgNr10Glitches oldNr10
    else c
  c.maybeFireSweepBoundary consoleModel

def writeNr11 (c : Channel1State) (value : U8) : Channel1State :=
  { c with nr11 := value, pulse := c.pulse.applyLengthDutyWrite value }

def writeNr12 (c : Channel1State) (value : U8) (consoleModel : ConsoleModel) : Channel1State :=
  let c := { c with
    nr12 := value, pulse := c.pulse.applyLiveEnvelopeWriteEffect consoleModel value }
  { c with pulse := c.pulse.applyDacEnabled c.derivedDacEnabled }

/-- In the first half of a reload window of the sweep the period is not written. -/
def reloadIgnoresPeriod (c : Channel1State) : Bool :=
  c.sweep.recalculation.reloadCountdown = 2 && c.sweep.recalculation.reloadPeriodReloaded

def clearReloadPeriodPending (c : Channel1State) : Channel1State :=
  c.setRecalculation { c.sweep.recalculation with reloadPeriodPending := false }

def reloadPeriodIfJustSampled (c : Channel1State) (consoleModel : ConsoleModel) :
    Channel1State :=
  if consoleModel.isCgbFamily then
    { c with pulse := c.pulse.reloadPeriodAfterWriteIfJustSampled c.periodValue }
  else c

def writeNr13 (c : Channel1State) (value : U8) (consoleModel : ConsoleModel) : Channel1State :=
  if c.reloadIgnoresPeriod then c.clearReloadPeriodPending
  else ({ c with nr13 := value }.clearReloadPeriodPending).reloadPeriodIfJustSampled consoleModel

/-- `trigger`, with whether it reloaded a length counter at zero. -/
def trigger (c : Channel1State) (consoleModel : ConsoleModel) (revision : HardwareRevision)
    (speedMode : CgbSpeedMode) (nextStepClocksEnvelope : Bool) : Channel1State × Bool :=
  let (pulse, reloaded) :=
    c.pulse.trigger consoleModel speedMode c.periodValue c.nr12 nextStepClocksEnvelope
  ({ c with
     pulse
     sweep := c.sweep.trigger consoleModel revision c.nr10 c.periodValue }, reloaded)

def dmgReloadIncrement (c : Channel1State) (consoleModel : ConsoleModel) : Channel1State :=
  let r := c.sweep.recalculation
  if consoleModel.isDmgFamily ∧ 0 < r.reloadCountdown ∧ r.reloadPeriodReloaded then
    let step := sweepShiftFromNr10 c.nr10
    let rawIncrement := if step = 0 then 0 else c.periodValue >>> step.toNat
    c.setRecalculation
      { r with increment := signedIncrement (sweepDecreasesFromNr10 c.nr10) rawIncrement }
  else c

def writeNr14 (c : Channel1State) (value : U8) (consoleModel : ConsoleModel)
    (revision : HardwareRevision) (speedMode : CgbSpeedMode) (nextFrameSequencerStep : U8) :
    Channel1State :=
  let effectiveValue :=
    if c.reloadIgnoresPeriod then (value &&& ~~~periodHighMask) ||| (c.nr14 &&& periodHighMask)
    else value
  let context := nrx4WriteContext effectiveValue nextFrameSequencerStep
  let wasLengthEnabled := c.pulse.lengthEnabled
  let c := { c with nr14 := effectiveValue &&& nrx4WritableMask }
  let (c, wasLengthEnabled, reloaded) :=
    if context.trigger then
      let (c, reloaded) := c.trigger consoleModel revision speedMode context.nextStepClocksEnvelope
      (c, c.pulse.lengthEnabled, reloaded)
    else
      ((c.dmgReloadIncrement consoleModel).reloadPeriodIfJustSampled consoleModel,
        wasLengthEnabled, false)
  let c := c.clearReloadPeriodPending
  { c with pulse := c.pulse.finishNrx4Write context wasLengthEnabled reloaded }

theorem effective_and (value nr14 mask : U8) (h : mask &&& periodHighMask = 0) :
    ((value &&& ~~~periodHighMask) ||| (nr14 &&& periodHighMask)) &&& mask = value &&& mask := by
  ext i hi
  have hbit := congrArg (fun v : U8 => v[i]) h
  simp only [BitVec.getElem_and, BitVec.getElem_or, BitVec.getElem_not] at hbit ⊢
  cases hm : mask[i] with
  | false => simp
  | true =>
      rw [hm, Bool.true_and] at hbit
      rw [hbit]
      simp

/-- The reload window of the sweep keeps the period only: a write of NR14 does the rest of what it
does. -/
theorem nrx4WriteContext_effective (c : Channel1State) (value nextFrameSequencerStep : U8) :
    nrx4WriteContext
      (if c.reloadIgnoresPeriod then (value &&& ~~~periodHighMask) ||| (c.nr14 &&& periodHighMask)
        else value) nextFrameSequencerStep = nrx4WriteContext value nextFrameSequencerStep := by
  split
  · unfold nrx4WriteContext
    rw [effective_and _ _ channelTriggerBit (by decide),
      effective_and _ _ lengthEnableBit (by decide)]
  · rfl

def writeRegister (c : Channel1State) (register : Channel1Register) (value : U8)
    (consoleModel : ConsoleModel) (revision : HardwareRevision) (speedMode : CgbSpeedMode)
    (nextFrameSequencerStep : U8) : Channel1State :=
  match register with
  | .nr10 => c.writeNr10 value consoleModel
  | .nr11 => c.writeNr11 value
  | .nr12 => c.writeNr12 value consoleModel
  | .nr13 => c.writeNr13 value consoleModel
  | .nr14 => c.writeNr14 value consoleModel revision speedMode nextFrameSequencerStep

/-! ## The clocks -/

/-- `Channel1SweepState::tick_delayed_calculation`. -/
def tickDelayedCalculation (c : Channel1State) (clockGenerationTimer : Bool) : Channel1State :=
  if !clockGenerationTimer then c
  else
    let c := { c with
      sweep := { c.sweep with restartHoldTCycles := c.sweep.restartHoldTCycles - 1 } }
    let remaining := c.sweep.delayedCalculationTCycles
    if remaining = 0 then c
    else if remaining - 1 ≠ 0 then
      { c with sweep := { c.sweep with delayedCalculationTCycles := remaining - 1 } }
    else
      let overflows : Bool := !c.sweep.delayedCalculationDecreases &&
        pulsePeriodMax < c.sweep.delayedCalculationShadowPeriod + c.sweep.delayedCalculationAddend
      let c := if overflows then c.stop else c
      { c with
        sweep := { c.sweep with
          completedAddend := c.sweep.delayedCalculationAddend }.clearDelayedCalculation }

def tickFastTimerWithClockGate (c : Channel1State) (consoleModel : ConsoleModel)
    (clockPeriodTimer : Bool) (apuClock tCyclePhase : Nat) : Channel1State :=
  let c := c.tickDelayedCalculation clockPeriodTimer
  let c :=
    if clockPeriodTimer ∧ consoleModel.isDmgFamily then c.tickRecalculation apuClock tCyclePhase
    else c
  { c with pulse := c.pulse.tickFastTimerWithClockGate c.periodValue clockPeriodTimer }

def clockLength (c : Channel1State) : Channel1State := { c with pulse := c.pulse.clockLength }
def clockEnvelope (c : Channel1State) : Channel1State := { c with pulse := c.pulse.clockEnvelope }

def clockCgbLiveWritePendingEvenEnvelopeTick (c : Channel1State) : Channel1State :=
  { c with pulse := c.pulse.clockCgbLiveWritePendingEvenEnvelopeTick }

end Channel1State

end GbCycle
