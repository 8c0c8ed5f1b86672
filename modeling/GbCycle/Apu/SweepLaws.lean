import GbCycle.Apu.SweepReference
import GbCycle.Apu.GeneratorLaws
import Mathlib.Tactic.IntervalCases

/-!
# The sweep of a CGB

On a CGB channel 1 refines the sweep as its reader sees it: from the trigger on, its shadow period,
its period register, its phase, the count of its delayed calculation and its activity are the
reference's, whatever else happens to the channel while nothing is written.
-/

namespace GbCycle

/-! ## Words of a period -/

theorem and_pulsePeriodMax (v : U16) : (v &&& pulsePeriodMax).toNat = v.toNat % 2048 := by
  rw [BitVec.toNat_and]
  exact Nat.and_two_pow_sub_one_eq_mod _ 11

theorem complement_and_pulsePeriodMax {v : U16} (h : v.toNat ≤ 2047) :
    (~~~v &&& pulsePeriodMax).toNat = 2047 - v.toNat := by
  rw [and_pulsePeriodMax, BitVec.toNat_not]
  omega

theorem pulsePeriodFromRegisters_le (low high : U8) :
    (pulsePeriodFromRegisters low high).toNat ≤ SweepSetting.periodMax := by
  rw [← pulsePeriodFromRegisters_masked, and_pulsePeriodMax]
  have hlt := Nat.mod_lt (pulsePeriodFromRegisters low high).toNat (show 0 < 2048 by decide)
  exact Nat.le_of_lt_succ hlt

/-- The registers read back the period that was written back. -/
theorem pulsePeriodFromRegisters_writeBack {candidate : U16} (nr14 : U8)
    (h : candidate.toNat ≤ SweepSetting.periodMax) :
    pulsePeriodFromRegisters candidate.low
      ((nr14 &&& ~~~periodHighMask) ||| (candidate.high &&& periodHighMask)) = candidate := by
  have hmasked : candidate = candidate &&& pulsePeriodMax := by
    apply BitVec.eq_of_toNat_eq
    rw [and_pulsePeriodMax]
    exact (Nat.mod_eq_of_lt (Nat.lt_succ_of_le h)).symm
  have hhigh : ((nr14 &&& ~~~periodHighMask) ||| (candidate.high &&& periodHighMask)) &&&
      periodHighMask = candidate.high &&& periodHighMask := by
    ext i hi
    simp only [BitVec.getElem_and, BitVec.getElem_or, BitVec.getElem_not]
    cases periodHighMask[i] <;> simp
  unfold pulsePeriodFromRegisters
  rw [hhigh]
  conv_rhs => rw [hmasked]
  ext i hi
  simp only [U16.low, U16.high, U16.ofByte, periodHighMask, pulsePeriodMax, BitVec.getElem_and,
    BitVec.getElem_or]
  interval_cases i <;> simp

theorem isDmgFamily_of_isCgbFamily {consoleModel : ConsoleModel}
    (h : consoleModel.isCgbFamily = true) : consoleModel.isDmgFamily = false := by
  cases consoleModel with
  | gameBoy => exact absurd h (by decide)
  | gameBoyPocket => exact absurd h (by decide)
  | gameBoyLight => exact absurd h (by decide)
  | gameBoyColor => rfl
  | gameBoyAdvance => rfl

/-! ## The setting of NR10 -/

def sweepSettingFromNr10 (nr10 : U8) : SweepSetting :=
  { pace := (sweepPaceFromNr10 nr10).toNat
    shift := (sweepShiftFromNr10 nr10).toNat
    decreases := sweepDecreasesFromNr10 nr10 }

theorem sweepPaceFromNr10_le (nr10 : U8) : (sweepPaceFromNr10 nr10).toNat ≤ 7 := by
  unfold sweepPaceFromNr10 sweepPaceMask sweepPaceShift
  rw [BitVec.toNat_ushiftRight, BitVec.toNat_and]
  have hle : nr10.toNat &&& (0x70 : U8).toNat ≤ 0x70 := Nat.and_le_right
  rw [Nat.shiftRight_eq_div_pow]
  exact Nat.div_le_of_le_mul (Nat.le_trans hle (by decide))

theorem PulseChannelState.tick_keeps (p : PulseChannelState) (periodValue : U16)
    (clocked : Bool) :
    (p.tickFastTimerWithClockGate periodValue clocked).runtime = p.runtime ∧
      (p.tickFastTimerWithClockGate periodValue clocked).lengthEnabled = p.lengthEnabled ∧
      (p.tickFastTimerWithClockGate periodValue clocked).lengthCounter = p.lengthCounter := by
  have hwindow : ∀ q : PulseChannelState, q.closeSampleWindow.runtime = q.runtime ∧
      q.closeSampleWindow.lengthEnabled = q.lengthEnabled ∧
      q.closeSampleWindow.lengthCounter = q.lengthCounter := by
    intro q
    unfold closeSampleWindow
    split <;> exact ⟨rfl, rfl, rfl⟩
  have hgated : (if clocked then p.closeSampleWindow else p).runtime = p.runtime ∧
      (if clocked then p.closeSampleWindow else p).lengthEnabled = p.lengthEnabled ∧
      (if clocked then p.closeSampleWindow else p).lengthCounter = p.lengthCounter := by
    split
    · exact hwindow p
    · exact ⟨rfl, rfl, rfl⟩
  unfold tickFastTimerWithClockGate
  generalize (if clocked then p.closeSampleWindow else p) = q at hgated
  dsimp only
  split
  · exact hgated
  · split
    · exact hgated
    · split
      · exact hgated
      · split
        · exact hgated
        · split <;> exact hgated

/-- A write that leaves the length off clocks no length. -/
theorem PulseChannelState.finishNrx4Write_off (p : PulseChannelState) {context : Nrx4WriteContext}
    (hoff : context.lengthEnabled = false) (wasLengthEnabled reloaded : Bool) :
    (p.finishNrx4Write context wasLengthEnabled reloaded).runtime.active = p.runtime.active := by
  unfold finishNrx4Write applyExtraLengthClocking shouldApplyExtraLengthClockingOnEnable
  simp [hoff, setLength, length]

theorem PulseChannelState.trigger_active {p : PulseChannelState}
    (hdac : p.runtime.dacEnabled = true) {consoleModel : ConsoleModel} {speedMode : CgbSpeedMode}
    {periodValue : U16} {envelopeValue : U8} {nextStepClocksEnvelope : Bool} :
    (p.trigger consoleModel speedMode periodValue envelopeValue
      nextStepClocksEnvelope).1.runtime.active = true := by
  unfold trigger
  dsimp only
  split <;> simp [ChannelRuntimeState.trigger, hdac]

namespace Channel1SweepState

variable {nr10 : U8} {shadowPeriod : U16}

/-- What a calculation with a shift computes. -/
theorem calculateCandidateSum_shifted (hshift : sweepShiftFromNr10 nr10 ≠ 0)
    (hle : shadowPeriod.toNat ≤ SweepSetting.periodMax) (allowShiftZero : Bool) :
    ∃ calculation, calculateCandidateSum nr10 shadowPeriod allowShiftZero = some calculation ∧
      calculation.decreases = sweepDecreasesFromNr10 nr10 ∧
      (calculation.candidateSum &&& pulsePeriodMax).toNat =
        (sweepSettingFromNr10 nr10).candidate shadowPeriod.toNat % 2048 ∧
      (calculation.decreases = false →
        calculation.candidateSum.toNat =
          (sweepSettingFromNr10 nr10).candidate shadowPeriod.toNat ∧
        (shadowPeriod + calculation.addend).toNat =
          (sweepSettingFromNr10 nr10).candidate shadowPeriod.toNat) := by
  unfold SweepSetting.periodMax at hle
  refine ⟨_, if_neg (fun hzero => hshift hzero.1), rfl, ?_⟩
  have hdelta : (shadowPeriod >>> (sweepShiftFromNr10 nr10).toNat).toNat =
      shadowPeriod.toNat / 2 ^ (sweepShiftFromNr10 nr10).toNat := by
    rw [BitVec.toNat_ushiftRight, Nat.shiftRight_eq_div_pow]
  have hdelta_le := Nat.div_le_self shadowPeriod.toNat (2 ^ (sweepShiftFromNr10 nr10).toNat)
  unfold SweepSetting.candidate sweepSettingFromNr10
  dsimp only
  rw [← hdelta] at hdelta_le ⊢
  generalize shadowPeriod >>> (sweepShiftFromNr10 nr10).toNat = delta at hdelta_le ⊢
  cases hdecreases : sweepDecreasesFromNr10 nr10 with
  | true =>
      refine ⟨?_, fun habsurd => absurd habsurd (by decide)⟩
      have hcomplement := complement_and_pulsePeriodMax (v := delta) (by omega)
      rw [and_pulsePeriodMax, if_pos rfl, if_pos rfl, if_pos rfl, BitVec.toNat_add,
        BitVec.toNat_add, hcomplement, show (1 : U16).toNat = 1 from rfl]
      omega
  | false =>
      have hsum : (shadowPeriod + delta).toNat = shadowPeriod.toNat + delta.toNat := by
        rw [BitVec.toNat_add]
        omega
      rw [and_pulsePeriodMax, if_neg Bool.false_ne_true, if_neg Bool.false_ne_true,
        if_neg Bool.false_ne_true]
      have hzero : shadowPeriod + delta + 0 = shadowPeriod + delta := BitVec.add_zero _
      rw [hzero, hsum]
      exact ⟨rfl, fun _ => ⟨rfl, rfl⟩⟩

/-- The check that a calculation of a period is waiting for. -/
structure Awaits (s : Channel1SweepState) (w : SweepSetting) (period : Nat) : Prop where
  decreases : s.delayedCalculationDecreases = w.decreases
  candidate : w.decreases = false →
    (s.delayedCalculationShadowPeriod + s.delayedCalculationAddend).toNat = w.candidate period

theorem scheduledDelay_shifted (hshift : sweepShiftFromNr10 nr10 ≠ 0) (extraTCycles : Nat) :
    scheduledDelay (sweepShiftFromNr10 nr10) extraTCycles =
      (sweepSettingFromNr10 nr10).checkDelay + extraTCycles := by
  have hpositive : (sweepShiftFromNr10 nr10).toNat ≠ 0 := fun hzero =>
    hshift (BitVec.eq_of_toNat_eq hzero)
  unfold scheduledDelay SweepSetting.checkDelay sweepSettingFromNr10
    cgbSweepDelayedCalculationTCyclesPerShiftStep cgbSweepDelayedCalculationMinTCycles
  dsimp only
  rw [if_neg hshift]
  omega

/-- A trigger starts the phase over and calculates at once. -/
theorem trigger_awaits {consoleModel : ConsoleModel} (s : Channel1SweepState)
    (revision : HardwareRevision) (hcgb : consoleModel.isCgbFamily = true)
    (hshift : sweepShiftFromNr10 nr10 ≠ 0)
    (hle : shadowPeriod.toNat ≤ SweepSetting.periodMax) :
    (s.trigger consoleModel revision nr10 shadowPeriod).enabled = true ∧
      (s.trigger consoleModel revision nr10 shadowPeriod).phase =
        phaseFromPace (sweepPaceFromNr10 nr10) ∧
      (s.trigger consoleModel revision nr10 shadowPeriod).shadowPeriod = shadowPeriod ∧
      (s.trigger consoleModel revision nr10 shadowPeriod).delayedCalculationTCycles =
        (sweepSettingFromNr10 nr10).checkDelay + 4 ∧
      (s.trigger consoleModel revision nr10 shadowPeriod).Awaits (sweepSettingFromNr10 nr10)
        shadowPeriod.toNat := by
  obtain ⟨calculation, hcalculation, hdecreases, -, hsum⟩ :=
    calculateCandidateSum_shifted hshift hle false
  have hdelay := scheduledDelay_shifted hshift cgbSweepTriggerDelayedCalculationExtraTCycles
  unfold trigger
  dsimp only
  rw [isDmgFamily_of_isCgbFamily hcgb, if_neg Bool.false_ne_true]
  have hfound : ∀ t : Channel1SweepState, t.shadowPeriod = shadowPeriod →
      calculateCandidateSum nr10 t.shadowPeriod false = some calculation := by
    rintro t rfl
    exact hcalculation
  rw [hfound]
  · refine ⟨?_, rfl, rfl, hdelay, hdecreases, fun hup => (hsum (hdecreases.trans hup)).2⟩
    show (decide (sweepPaceFromNr10 nr10 ≠ 0) || decide (sweepShiftFromNr10 nr10 ≠ 0)) = true
    rw [decide_eq_true hshift, Bool.or_true]
  · rfl

end Channel1SweepState

namespace Channel1State

/-- The state of the sweep after a calculation that was scheduled. -/
structure Scheduled (w : SweepSetting) (period remaining : Nat) (c : Channel1State) : Prop where
  shadow : c.sweep.shadowPeriod.toNat = period
  register : c.periodValue = c.sweep.shadowPeriod
  remaining : c.sweep.delayedCalculationTCycles = remaining
  awaits : c.sweep.Awaits w period

theorem fireCgbSweepBoundary_scheduled {c : Channel1State} {calculation : SweepCalculation}
    (hshift : sweepShiftFromNr10 c.nr10 ≠ 0)
    (hle : c.sweep.shadowPeriod.toNat ≤ SweepSetting.periodMax)
    (hregister : c.periodValue = c.sweep.shadowPeriod)
    (hcalculation : Channel1SweepState.calculateCandidateSum c.nr10 c.sweep.shadowPeriod true =
      some calculation) :
    (c.fireCgbSweepBoundary calculation).Scheduled (sweepSettingFromNr10 c.nr10)
      ((sweepSettingFromNr10 c.nr10).next c.sweep.shadowPeriod.toNat)
      (sweepSettingFromNr10 c.nr10).checkDelay := by
  obtain ⟨found, hfound, hdecreases, hmasked, hsum⟩ :=
    Channel1SweepState.calculateCandidateSum_shifted hshift hle true
  obtain rfl : found = calculation := Option.some.inj (hfound.symm.trans hcalculation)
  have hdelay := Channel1SweepState.scheduledDelay_shifted hshift 0
  unfold fireCgbSweepBoundary
  dsimp only
  by_cases hover : (!found.decreases) = true ∧ pulsePeriodMax < found.candidateSum
  · rw [if_pos (.inl hover)]
    have hup : found.decreases = false := by simpa using hover.1
    obtain ⟨hcandidate, hcheck⟩ := hsum hup
    have hlt : SweepSetting.periodMax <
        (sweepSettingFromNr10 c.nr10).candidate c.sweep.shadowPeriod.toNat := by
      rw [← hcandidate]
      exact BitVec.lt_def.mp hover.2
    rw [SweepSetting.next_of_overflow hlt]
    exact ⟨rfl, hregister, hdelay, hdecreases, fun _ => hcheck⟩
  · rw [if_neg (by rintro (habsurd | habsurd); exacts [hover habsurd, hshift habsurd])]
    have hin : (sweepSettingFromNr10 c.nr10).candidate c.sweep.shadowPeriod.toNat ≤
        SweepSetting.periodMax := by
      cases hdirection : found.decreases with
      | true => exact SweepSetting.candidate_decreasing (hdecreases.symm.trans hdirection) hle
      | false =>
          rw [← (hsum hdirection).1]
          refine Nat.le_of_not_lt fun hlt => hover ⟨by rw [hdirection]; rfl, BitVec.lt_def.mpr hlt⟩
    have hcandidate : (found.candidateSum &&& pulsePeriodMax).toNat =
        (sweepSettingFromNr10 c.nr10).next c.sweep.shadowPeriod.toNat := by
      rw [hmasked, SweepSetting.next, if_pos hin]
      exact Nat.mod_eq_of_lt (Nat.lt_succ_of_le hin)
    have hle' : (found.candidateSum &&& pulsePeriodMax).toNat ≤ SweepSetting.periodMax := by
      rw [hcandidate]
      exact SweepSetting.next_le hle
    obtain ⟨next, hnext, hdecreases', -, hsum'⟩ :=
      Channel1SweepState.calculateCandidateSum_shifted hshift hle' true
    have hahead : Channel1SweepState.calculateCandidateSum
        ({ c with sweep := c.sweep.observeCalculation found } : Channel1State).nr10
        (found.candidateSum &&& pulsePeriodMax) true = some next := hnext
    unfold writeBackPeriod
    rw [hahead]
    refine ⟨hcandidate, pulsePeriodFromRegisters_writeBack c.nr14 hle', hdelay, hdecreases', ?_⟩
    intro hup
    rw [← hcandidate]
    exact (hsum' (hdecreases'.trans hup)).2

/-- The channel's sweep and the reference's. -/
structure RefinesSweep (nr10 : U8) (c : Channel1State) (r : SweepReference) : Prop where
  setting : c.nr10 = nr10
  enabled : c.sweep.enabled = true
  phase : c.sweep.phase.toNat + (sweepSettingFromNr10 nr10).pace = 7 + r.phase
  shadow : c.sweep.shadowPeriod.toNat = r.period
  register : c.periodValue = c.sweep.shadowPeriod
  remaining : c.sweep.delayedCalculationTCycles = r.remaining
  awaits : 0 < r.remaining → c.sweep.Awaits (sweepSettingFromNr10 nr10) r.period
  lengthOff : c.pulse.lengthEnabled = false
  active : c.pulse.runtime.active = !r.stopped

theorem fireCgbSweepBoundary_keeps (c : Channel1State) (calculation : SweepCalculation) :
    (c.fireCgbSweepBoundary calculation).nr10 = c.nr10 ∧
      (c.fireCgbSweepBoundary calculation).sweep.enabled = c.sweep.enabled ∧
      (c.fireCgbSweepBoundary calculation).sweep.phase = c.sweep.phase := by
  unfold fireCgbSweepBoundary
  dsimp only
  split
  · exact ⟨rfl, rfl, rfl⟩
  · split <;> exact ⟨rfl, rfl, rfl⟩

theorem phaseFromPace_toNat {pace : U8} (h : pace.toNat ≤ 7) :
    (Channel1SweepState.phaseFromPace pace).toNat = 7 - pace.toNat := by
  unfold Channel1SweepState.phaseFromPace sweepPhaseMask
  rw [BitVec.toNat_xor]
  generalize pace.toNat = n at h
  interval_cases n <;> rfl

theorem nextPhase_toNat {phase : U8} (h : phase.toNat ≤ 6) :
    ((phase + 1) &&& sweepPhaseMask).toNat = phase.toNat + 1 := by
  unfold sweepPhaseMask
  rw [BitVec.toNat_and, show (7 : U8).toNat = 2 ^ 3 - 1 from rfl, Nat.and_two_pow_sub_one_eq_mod,
    BitVec.toNat_add, show (1 : U8).toNat = 1 from rfl]
  omega

def setSweepPhase (c : Channel1State) (phase : U8) : Channel1State :=
  { c with sweep := c.sweep.setPhase phase }

/-- What happens to a sweep with a pace and a shift at the boundary of its phase. -/
theorem maybeFireSweepBoundary_fires {consoleModel : ConsoleModel} {c : Channel1State}
    {calculation : SweepCalculation} (hphase : c.sweep.phase = sweepPhaseBoundary)
    (henabled : c.sweep.enabled = true) (hcgb : consoleModel.isCgbFamily = true)
    (hpace : sweepPaceFromNr10 c.nr10 ≠ 0) (hshift : sweepShiftFromNr10 c.nr10 ≠ 0)
    (hcalculation : Channel1SweepState.calculateCandidateSum c.nr10 c.sweep.shadowPeriod true =
      some calculation) :
    c.maybeFireSweepBoundary consoleModel =
      (c.setSweepPhase (Channel1SweepState.phaseFromPace (sweepPaceFromNr10
        c.nr10))).fireCgbSweepBoundary calculation := by
  unfold maybeFireSweepBoundary
  dsimp only
  have hguard : ¬ (c.sweep.phase ≠ sweepPhaseBoundary ∨ sweepPaceFromNr10 c.nr10 = 0 ∨
      c.sweep.enabled = false) := by
    rintro (habsurd | habsurd | habsurd)
    · exact habsurd hphase
    · exact hpace habsurd
    · exact Bool.false_ne_true (habsurd.symm.trans henabled)
  rw [if_neg hguard, if_neg (fun habsurd => hshift habsurd.1)]
  have hsame : Channel1SweepState.calculateCandidateSum c.nr10 (c.sweep.setPhase
      (Channel1SweepState.phaseFromPace (sweepPaceFromNr10 c.nr10))).shadowPeriod true =
      some calculation := hcalculation
  rw [hsame]
  exact if_pos hcgb

section Refinement

variable {m : ApuModel} {nr10 : U8} {c : Channel1State} {r : SweepReference}

theorem RefinesSweep.endBlock (h : RefinesSweep nr10 c r)
    (hsound : SweepReference.Sound (sweepSettingFromNr10 nr10) r)
    (hcgb : m.consoleModel.isCgbFamily = true) (hshift : sweepShiftFromNr10 nr10 ≠ 0) :
    RefinesSweep nr10 ((c.setSweepPhase sweepPhaseBoundary).maybeFireSweepBoundary m.consoleModel)
      { r with
        phase := 0
        period := (sweepSettingFromNr10 nr10).next r.period
        remaining := (sweepSettingFromNr10 nr10).checkDelay } := by
  obtain rfl := h.setting
  have hin := hsound.inBlock
  have hpace_le := sweepPaceFromNr10_le c.nr10
  have hpace : (sweepPaceFromNr10 c.nr10).toNat = (sweepSettingFromNr10 c.nr10).pace := rfl
  have hnonzero : sweepPaceFromNr10 c.nr10 ≠ 0 := by
    intro hzero
    have hzero' := congrArg BitVec.toNat hzero
    rw [hpace, show (0 : U8).toNat = 0 from rfl] at hzero'
    omega
  have hle : c.sweep.shadowPeriod.toNat ≤ SweepSetting.periodMax := by
    rw [h.shadow]
    exact hsound.inRange
  obtain ⟨calculation, hcalculation, -⟩ :=
    Channel1SweepState.calculateCandidateSum_shifted hshift hle true
  rw [maybeFireSweepBoundary_fires (c := c.setSweepPhase sweepPhaseBoundary) rfl h.enabled hcgb
    hnonzero hshift hcalculation]
  generalize hd : (c.setSweepPhase sweepPhaseBoundary).setSweepPhase _ = d
  have hsetting : d.nr10 = c.nr10 := by
    rw [← hd]
    rfl
  have hshadow : d.sweep.shadowPeriod = c.sweep.shadowPeriod := by
    rw [← hd]
    rfl
  have hregister : d.periodValue = c.periodValue := by
    rw [← hd]
    rfl
  have hpulse : (d.fireCgbSweepBoundary calculation).pulse = c.pulse := by
    rw [fireCgbSweepBoundary_pulse, ← hd]
    rfl
  have hfound : Channel1SweepState.calculateCandidateSum d.nr10 d.sweep.shadowPeriod true =
      some calculation := by
    rw [hsetting, hshadow]
    exact hcalculation
  have hscheduled := fireCgbSweepBoundary_scheduled
    (by rw [hsetting]; exact hshift) (by rw [hshadow]; exact hle)
    (by rw [hregister, hshadow]; exact h.register) hfound
  rw [hsetting, hshadow, h.shadow] at hscheduled
  obtain ⟨hkeeps, henabled, hkept⟩ := fireCgbSweepBoundary_keeps d calculation
  refine ⟨hkeeps.trans hsetting, ?_, ?_, hscheduled.shadow, hscheduled.register,
    hscheduled.remaining, fun _ => hscheduled.awaits, ?_, ?_⟩
  · rw [henabled, ← hd]
    exact h.enabled
  · rw [hkept, ← hd]
    show (Channel1SweepState.phaseFromPace (sweepPaceFromNr10 c.nr10)).toNat + _ = 7 + 0
    rw [phaseFromPace_toNat hpace_le]
    omega
  · rw [hpulse]
    exact h.lengthOff
  · rw [hpulse]
    exact h.active

theorem RefinesSweep.clockSweep (h : RefinesSweep nr10 c r)
    (hsound : SweepReference.Sound (sweepSettingFromNr10 nr10) r)
    (hcgb : m.consoleModel.isCgbFamily = true) (hshift : sweepShiftFromNr10 nr10 ≠ 0) :
    RefinesSweep nr10 (c.clockSweep m.consoleModel)
      (r.clockSweep (sweepSettingFromNr10 nr10)) := by
  have hphase := h.phase
  have hin := hsound.inBlock
  have hinPhase : c.sweep.phase.toNat ≤ 6 := by omega
  have hnext := nextPhase_toNat hinPhase
  unfold Channel1State.clockSweep SweepReference.clockSweep
  dsimp only
  by_cases hlast : r.phase + 1 = (sweepSettingFromNr10 nr10).pace
  · have hboundary : (c.sweep.phase + 1) &&& sweepPhaseMask = sweepPhaseBoundary :=
      BitVec.eq_of_toNat_eq (by rw [hnext]; show _ = 7; omega)
    rw [hboundary, if_pos hlast, if_neg]
    · exact h.endBlock hsound hcgb hshift
    · rintro (habsurd | habsurd)
      · exact habsurd rfl
      · exact Bool.false_ne_true (habsurd.symm.trans h.enabled)
  · have hinside : (c.sweep.phase + 1) &&& sweepPhaseMask ≠ sweepPhaseBoundary := by
      intro habsurd
      rw [habsurd, show sweepPhaseBoundary.toNat = 7 from rfl] at hnext
      omega
    rw [if_pos (.inl hinside), if_neg hlast]
    refine ⟨h.setting, h.enabled, ?_, h.shadow, h.register, h.remaining,
      fun hwaits => ⟨(h.awaits hwaits).decreases, (h.awaits hwaits).candidate⟩, h.lengthOff,
      h.active⟩
    show ((c.sweep.phase + 1) &&& sweepPhaseMask).toNat + _ = 7 + (r.phase + 1)
    rw [hnext]
    omega

theorem RefinesSweep.tickDelayedCalculation (h : RefinesSweep nr10 c r)
    (hsound : SweepReference.Sound (sweepSettingFromNr10 nr10) r) :
    RefinesSweep nr10 (c.tickDelayedCalculation true)
      (r.clockCheck (sweepSettingFromNr10 nr10)) := by
  unfold Channel1State.tickDelayedCalculation SweepReference.clockCheck
  dsimp only
  rw [h.remaining, if_neg (by decide)]
  by_cases hdone : r.remaining = 0
  · rw [if_pos hdone, if_pos hdone]
    exact ⟨h.setting, h.enabled, h.phase, h.shadow, h.register, rfl,
      fun hwaits => absurd hdone (Nat.pos_iff_ne_zero.mp hwaits), h.lengthOff, h.active⟩
  · rw [if_neg hdone, if_neg hdone]
    have hawaits := h.awaits (Nat.pos_of_ne_zero hdone)
    by_cases hmore : r.remaining - 1 ≠ 0
    · rw [if_pos hmore]
      refine ⟨h.setting, h.enabled, h.phase, h.shadow, h.register, rfl,
        fun _ => ⟨hawaits.decreases, hawaits.candidate⟩, h.lengthOff, ?_⟩
      have hnot : ¬ r.remaining = 1 := by omega
      show c.pulse.runtime.active = !(r.stopped || _)
      rw [decide_eq_false hnot, Bool.false_and, Bool.or_false]
      exact h.active
    · rw [if_neg hmore]
      have hone : r.remaining = 1 := by omega
      have hoverflows : (!c.sweep.delayedCalculationDecreases && decide (pulsePeriodMax <
          c.sweep.delayedCalculationShadowPeriod + c.sweep.delayedCalculationAddend)) =
          decide (SweepSetting.periodMax <
            (sweepSettingFromNr10 nr10).candidate r.period) := by
        rw [hawaits.decreases]
        cases hdirection : (sweepSettingFromNr10 nr10).decreases with
        | true =>
            rw [decide_eq_false (Nat.not_lt.mpr
              (SweepSetting.candidate_decreasing hdirection hsound.inRange))]
            rfl
        | false =>
            rw [← hawaits.candidate hdirection]
            exact Bool.true_and _
      rw [hoverflows, decide_eq_true hone, Bool.true_and, hone]
      by_cases hover : SweepSetting.periodMax < (sweepSettingFromNr10 nr10).candidate r.period
      · rw [decide_eq_true hover, if_pos rfl]
        refine ⟨h.setting, h.enabled, h.phase, h.shadow, h.register, rfl,
          fun hwaits => absurd hwaits (Nat.lt_irrefl 0), h.lengthOff, ?_⟩
        rw [Bool.or_true]
        rfl
      · rw [decide_eq_false hover, if_neg Bool.false_ne_true]
        refine ⟨h.setting, h.enabled, h.phase, h.shadow, h.register, rfl,
          fun hwaits => absurd hwaits (Nat.lt_irrefl 0), h.lengthOff, ?_⟩
        rw [Bool.or_false]
        exact h.active

/-- What is not the sweep's or its channel's activity. -/
theorem RefinesSweep.setPulse (h : RefinesSweep nr10 c r) {p : PulseChannelState}
    (hruntime : p.runtime = c.pulse.runtime) (hlength : p.lengthEnabled = c.pulse.lengthEnabled) :
    RefinesSweep nr10 { c with pulse := p } r :=
  ⟨h.setting, h.enabled, h.phase, h.shadow, h.register, h.remaining, h.awaits,
    hlength.trans h.lengthOff, by rw [← h.active, ← hruntime]⟩

theorem RefinesSweep.step (h : RefinesSweep nr10 c r)
    (hsound : SweepReference.Sound (sweepSettingFromNr10 nr10) r)
    (hcgb : m.consoleModel.isCgbFamily = true) (hshift : sweepShiftFromNr10 nr10 ≠ 0)
    {e : ChannelEvent Channel1Register} (hquiet : e.isWrite = false) :
    RefinesSweep nr10 (Channel1State.step m c e)
      (r.step (sweepSettingFromNr10 nr10) e) := by
  have hdmg := isDmgFamily_of_isCgbFamily hcgb
  cases e with
  | tCycle clocked apuClock tCyclePhase =>
      show RefinesSweep nr10
        (c.tickFastTimerWithClockGate m.consoleModel clocked apuClock tCyclePhase) _
      unfold tickFastTimerWithClockGate
      dsimp only
      rw [if_neg (by rw [hdmg]; exact fun habsurd => Bool.false_ne_true habsurd.2)]
      cases clocked with
      | true =>
          have hchecked := h.tickDelayedCalculation hsound
          obtain ⟨hruntime, hlength, -⟩ := (c.tickDelayedCalculation true).pulse.tick_keeps
            (c.tickDelayedCalculation true).periodValue true
          exact hchecked.setPulse hruntime hlength
      | false =>
          obtain ⟨hruntime, hlength, -⟩ := c.pulse.tick_keeps c.periodValue false
          exact h.setPulse hruntime hlength
  | clockLength =>
      refine h.setPulse (p := c.pulse.clockLength) ?_ rfl
      unfold PulseChannelState.clockLength clockLengthCounter
      rw [h.lengthOff, if_pos (.inl rfl)]
      rfl
  | clockSweep => exact h.clockSweep hsound hcgb hshift
  | clockEnvelope => exact h.setPulse (p := c.pulse.clockEnvelope) rfl rfl
  | clockPendingEvenEnvelope =>
      exact h.setPulse (p := c.pulse.clockCgbLiveWritePendingEvenEnvelopeTick) rfl rfl
  | write register value speedMode nextStep => exact absurd hquiet.symm Bool.false_ne_true

theorem RefinesSweep.run (h : RefinesSweep nr10 c r)
    (hsound : SweepReference.Sound (sweepSettingFromNr10 nr10) r)
    (hcgb : m.consoleModel.isCgbFamily = true) (hshift : sweepShiftFromNr10 nr10 ≠ 0)
    {es : List (ChannelEvent Channel1Register)} (hquiet : ∀ e ∈ es, e.isWrite = false) :
    RefinesSweep nr10 (Channel1State.run m c es)
      (es.foldl (SweepReference.step (sweepSettingFromNr10 nr10)) r) := by
  induction es generalizing c r with
  | nil => exact h
  | cons e es ih =>
      have hstep := h.step hsound hcgb hshift (hquiet e (List.mem_cons_self ..))
      exact ih hstep (hsound.step e) fun e' he' => hquiet e' (List.mem_cons_of_mem _ he')

/-- A trigger with the length counter off starts the reference. -/
theorem RefinesSweep.start {c : Channel1State} {value : U8} {speedMode : CgbSpeedMode}
    {nextStep : U8} (hcgb : m.consoleModel.isCgbFamily = true)
    (hshift : sweepShiftFromNr10 c.nr10 ≠ 0) (hdac : c.pulse.runtime.dacEnabled = true)
    (htrigger : value &&& channelTriggerBit ≠ 0) (hlength : value &&& lengthEnableBit = 0) :
    RefinesSweep c.nr10
      (c.writeNr14 value m.consoleModel m.revision speedMode nextStep)
      (SweepReference.start (sweepSettingFromNr10 c.nr10)
        (c.writeNr14 value m.consoleModel m.revision speedMode nextStep).periodValue.toNat) := by
  have hstarts : (nrx4WriteContext value nextStep).trigger = true := decide_eq_true htrigger
  have hoff : (nrx4WriteContext value nextStep).lengthEnabled = false := by
    simp [nrx4WriteContext, hlength]
  have hpace_le := sweepPaceFromNr10_le c.nr10
  unfold writeNr14
  dsimp only
  rw [nrx4WriteContext_effective, if_pos hstarts]
  generalize (if c.reloadIgnoresPeriod = true then
    (value &&& ~~~periodHighMask) ||| (c.nr14 &&& periodHighMask) else value) = effective
  have hle := pulsePeriodFromRegisters_le c.nr13 (effective &&& nrx4WritableMask)
  obtain ⟨henabled, hphase, hshadow, hremaining, hawaits⟩ :=
    c.sweep.trigger_awaits m.revision hcgb hshift hle
  refine ⟨rfl, henabled, ?_, congrArg BitVec.toNat hshadow, hshadow.symm, hremaining,
    fun _ => ⟨hawaits.decreases, hawaits.candidate⟩, hoff, ?_⟩
  · refine (congrArg (fun phase : U8 => phase.toNat + (sweepSettingFromNr10 c.nr10).pace)
      hphase).trans ?_
    show (Channel1SweepState.phaseFromPace (sweepPaceFromNr10 c.nr10)).toNat + _ = 7 + 0
    rw [phaseFromPace_toNat hpace_le]
    have hpace : (sweepPaceFromNr10 c.nr10).toNat = (sweepSettingFromNr10 c.nr10).pace := rfl
    omega
  · refine (PulseChannelState.finishNrx4Write_off _ hoff _ _).trans ?_
    exact PulseChannelState.trigger_active hdac

end Refinement

/-! ## The law -/

section Law

variable (m : ApuModel) (c : Channel1State) (value : U8) (speedMode : CgbSpeedMode) (nextStep : U8)

/-- Channel 1 after a write of NR14 and a run. -/
def afterTrigger (es : List (ChannelEvent Channel1Register)) : Channel1State :=
  run m (step m c (.write .nr14 value speedMode nextStep)) es

/-- The period that a run of the reference has come to. -/
def sweptPeriod (es : List (ChannelEvent Channel1Register)) : Nat :=
  let w := sweepSettingFromNr10 c.nr10
  w.next^[es.countP ChannelEvent.isSweepClock / w.pace]
    (c.afterTrigger m value speedMode nextStep []).periodValue.toNat

/-- The sweep of a CGB after a trigger with the length counter off.  The period register is the
iterate of the sweep once for each block of its clocks, where a candidate out of range is not
taken; the channel stays active while the candidates are in range; once one is not, the channel is
stopped when the delay of its calculation has passed in a block, and stays stopped; and a
decreasing sweep never stops it. -/
theorem cgb_sweep_law (hcgb : m.consoleModel.isCgbFamily = true)
    (hpace : sweepPaceFromNr10 c.nr10 ≠ 0) (hshift : sweepShiftFromNr10 c.nr10 ≠ 0)
    (hdac : c.pulse.runtime.dacEnabled = true) (htrigger : value &&& channelTriggerBit ≠ 0)
    (hlength : value &&& lengthEnableBit = 0) (es : List (ChannelEvent Channel1Register))
    (hquiet : ∀ e ∈ es, e.isWrite = false) :
    (c.afterTrigger m value speedMode nextStep es).periodValue.toNat =
        c.sweptPeriod m value speedMode nextStep es ∧
      c.sweptPeriod m value speedMode nextStep es ≤ 2047 ∧
      ((sweepSettingFromNr10 c.nr10).candidate (c.sweptPeriod m value speedMode nextStep es) ≤ 2047 →
        (c.afterTrigger m value speedMode nextStep es).pulse.runtime.active = true) ∧
      (∀ calculated waited later, es = calculated ++ waited ++ later →
        2047 < (sweepSettingFromNr10 c.nr10).candidate
          (c.sweptPeriod m value speedMode nextStep calculated) →
        calculated.countP ChannelEvent.isSweepClock % (sweepPaceFromNr10 c.nr10).toNat +
          waited.countP ChannelEvent.isSweepClock < (sweepPaceFromNr10 c.nr10).toNat →
        SweepReference.delayAfter (sweepSettingFromNr10 c.nr10) calculated ≤
          waited.countP ChannelEvent.isGenerationClock →
        (c.afterTrigger m value speedMode nextStep es).pulse.runtime.active = false) ∧
      (sweepDecreasesFromNr10 c.nr10 = true →
        (c.afterTrigger m value speedMode nextStep es).pulse.runtime.active = true) := by
  have hpositive : 0 < (sweepSettingFromNr10 c.nr10).pace :=
    Nat.pos_of_ne_zero fun hzero => hpace (BitVec.eq_of_toNat_eq hzero)
  have hstart : RefinesSweep c.nr10 (c.afterTrigger m value speedMode nextStep [])
      (SweepReference.start (sweepSettingFromNr10 c.nr10)
        (c.afterTrigger m value speedMode nextStep []).periodValue.toNat) :=
    RefinesSweep.start hcgb hshift hdac htrigger hlength
  have hle : (c.afterTrigger m value speedMode nextStep []).periodValue.toNat ≤
      SweepSetting.periodMax := pulsePeriodFromRegisters_le _ _
  have hsound := SweepReference.Sound.start hpositive hle
  have hrun := hstart.run hsound hcgb hshift hquiet
  have hsound' := hsound.run es
  obtain ⟨hperiod, -, -⟩ := SweepReference.run_period hpositive
    (c.afterTrigger m value speedMode nextStep []).periodValue.toNat es
  have hswept : c.sweptPeriod m value speedMode nextStep es ≤ SweepSetting.periodMax :=
    SweepSetting.iterate_next_le hle _
  have hactive : (sweepSettingFromNr10 c.nr10).candidate
        (c.sweptPeriod m value speedMode nextStep es) ≤ SweepSetting.periodMax →
      (c.afterTrigger m value speedMode nextStep es).pulse.runtime.active = true := by
    intro hin
    rw [show (c.afterTrigger m value speedMode nextStep es).pulse.runtime.active = _ from
      hrun.active, Bool.not_eq_true', Bool.eq_false_iff]
    intro hstopped
    have hover := hsound'.overflowed hstopped
    rw [hperiod] at hover
    exact absurd hin (Nat.not_le.mpr hover)
  refine ⟨?_, hswept, hactive, ?_, ?_⟩
  · rw [show (c.afterTrigger m value speedMode nextStep es).periodValue = _ from hrun.register,
      hrun.shadow, hperiod]
    rfl
  · rintro calculated waited later rfl hover hblock hdelay
    have hstopped := SweepReference.run_overflow hpositive hle hover hblock hdelay
    rw [show (c.afterTrigger m value speedMode nextStep _).pulse.runtime.active = _ from
      hrun.active, List.foldl_append, SweepReference.run_stopped hstopped]
    rfl
  · intro hdown
    exact hactive (SweepSetting.candidate_decreasing hdown hswept)

end Law

/-- Channel 1 with its DAC on, a sweep up by halves at every clock, and a low byte of its period. -/
def sweepingUp (nr13 : U8) : Channel1State :=
  { Channel1State.default with
    nr10 := 0x11, nr12 := 0xF0, nr13
    pulse := { PulseChannelState.default with runtime := ⟨true, false⟩ } }

theorem cgb_sweep_law_up :
    ((sweepingUp 0).afterTrigger cgbApu 0x84 .normal 0 [.clockSweep]).periodValue.toNat = 1536 ∧
      ((sweepingUp 0).afterTrigger cgbApu 0x84 .normal 0
        ([.clockSweep] ++ List.replicate 8 (.tCycle true 0 0) ++ [])).pulse.runtime.active =
          false := by
  refine ⟨?_, ?_⟩
  · exact (cgb_sweep_law cgbApu (sweepingUp 0) 0x84 .normal 0 (by decide) (by decide) (by decide)
      (by decide) (by decide) (by decide) [.clockSweep] (by decide)).1
  · exact (cgb_sweep_law cgbApu (sweepingUp 0) 0x84 .normal 0 (by decide) (by decide) (by decide)
      (by decide) (by decide) (by decide) _ (by decide)).2.2.2.1 [.clockSweep]
        (List.replicate 8 (.tCycle true 0 0)) [] rfl (by decide) (by decide) (by decide)

/-- After a block whose candidate is out of range the period is not the next iterate. -/
theorem overflow_not_written_back :
    ((sweepingUp 0xFF).afterTrigger cgbApu 0x87 .normal 0 [.clockSweep]).periodValue.toNat ≠
      (sweepSettingFromNr10 0x11).candidate
        ((sweepingUp 0xFF).afterTrigger cgbApu 0x87 .normal 0 []).periodValue.toNat := by
  decide

end Channel1State

end GbCycle
