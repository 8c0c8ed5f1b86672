import GbCycle.Apu.LengthReference
import GbCycle.Apu.SweepLaws

/-!
# The length counters

The length counter of every channel is the reference's in every run, and silences the channel
exactly when the reference runs out.  The noise channel of a DMG may start a trigger some clocks
after the write: then the counter must not have run out in between.
-/

namespace GbCycle

/-! ## The pulse channels -/

theorem pulseLengthCounterFromLoad_pos (value : U8) : 0 < pulseLengthCounterFromLoad value := by
  have hle : (value &&& pulseLengthLoadMask).toNat ≤ 63 := by
    rw [BitVec.toNat_and]
    exact Nat.and_le_right
  unfold pulseLengthCounterFromLoad pulseLengthCounterReload
  omega

namespace PulseChannelState

def lengthReference (p : PulseChannelState) : LengthReference := ⟨p.lengthCounter, p.lengthEnabled⟩

/-- A pulse on its way through a write of NRx4, before the length is enabled. -/
structure Prepared (p p' : PulseChannelState) (context : Nrx4WriteContext)
    (wasLengthEnabled reloaded : Bool) : Prop where
  reloads : reloaded = (context.trigger && decide (p.lengthCounter = 0))
  counter : p'.lengthCounter = if reloaded then pulseLengthCounterReload else p.lengthCounter
  was : wasLengthEnabled = p.lengthEnabled ∨ reloaded = true
  active : p.runtime.active = true → p'.runtime.active = true

variable {p p' : PulseChannelState} {context : Nrx4WriteContext} {wasLengthEnabled reloaded : Bool}

theorem Prepared.finish (h : Prepared p p' context wasLengthEnabled reloaded) :
    (p'.finishNrx4Write context wasLengthEnabled reloaded).lengthReference =
        p.lengthReference.apply pulseLengthCounterReload context.lengthOp ∧
      (p.runtime.active = true →
        ((p'.finishNrx4Write context wasLengthEnabled reloaded).runtime.active = false ↔
          p.lengthReference.RunsOut pulseLengthCounterReload context.lengthOp)) := by
  have hfull : 1 < pulseLengthCounterReload := by decide
  obtain ⟨hcounter, henabled, hactive⟩ := applyExtraLengthClocking_eq context p.lengthReference
    hfull p'.runtime.active h.reloads h.counter h.was
  refine ⟨?_, fun hon => hactive (h.active hon)⟩
  exact congrArg₂ LengthReference.mk hcounter henabled

theorem prepared_write (p : PulseChannelState) (context : Nrx4WriteContext)
    (htrigger : context.trigger = false) {p' : PulseChannelState}
    (hcounter : p'.lengthCounter = p.lengthCounter) (hactive : p'.runtime = p.runtime) :
    Prepared p p' context p.lengthEnabled false :=
  ⟨by rw [htrigger]; rfl, hcounter, .inl rfl, fun hon => by rw [hactive]; exact hon⟩

theorem prepared_trigger (p : PulseChannelState) (context : Nrx4WriteContext)
    (htrigger : context.trigger = true) (consoleModel : ConsoleModel) (speedMode : CgbSpeedMode)
    (periodValue : U16) (envelopeValue : U8) (nextStepClocksEnvelope : Bool) :
    Prepared p
      (p.trigger consoleModel speedMode periodValue envelopeValue nextStepClocksEnvelope).1 context
      (p.trigger consoleModel speedMode periodValue envelopeValue
        nextStepClocksEnvelope).1.lengthEnabled
      (p.trigger consoleModel speedMode periodValue envelopeValue nextStepClocksEnvelope).2 := by
  unfold trigger
  dsimp only
  refine ⟨by rw [htrigger, Bool.true_and], ?_, ?_, ?_⟩
  · split <;> rfl
  · split
    · next hzero => exact .inr hzero
    · exact .inl rfl
  · intro hon
    have hkeeps : ∀ q : PulseChannelState, q.runtime = p.runtime →
        q.runtime.trigger.active = true := by
      intro q hq
      rw [hq, ChannelRuntimeState.trigger]
      split
      · rfl
      · exact hon
    split
    · exact hkeeps _ rfl
    · exact hkeeps _ rfl

theorem clockLength_eq (p : PulseChannelState) :
    p.clockLength.lengthReference = p.lengthReference.apply pulseLengthCounterReload .clock ∧
      (p.runtime.active = true → (p.clockLength.runtime.active = false ↔
        p.lengthReference.RunsOut pulseLengthCounterReload .clock)) := by
  obtain ⟨hcounter, hactive⟩ :=
    clockLengthCounter_eq p.length p.lengthEnabled pulseLengthCounterReload
  refine ⟨?_, hactive⟩
  refine congrArg₂ LengthReference.mk hcounter ?_
  show p.lengthEnabled = p.lengthReference.clock.enabled
  unfold LengthReference.clock
  split <;> rfl

/-- Loading a counter silences nothing. -/
theorem applyLengthDutyWrite_eq (p : PulseChannelState) (value : U8) :
    (p.applyLengthDutyWrite value).lengthReference =
        p.lengthReference.apply pulseLengthCounterReload
          (.load (pulseLengthCounterFromLoad value)) ∧
      (p.runtime.active = true → ((p.applyLengthDutyWrite value).runtime.active = false ↔
        p.lengthReference.RunsOut pulseLengthCounterReload
          (.load (pulseLengthCounterFromLoad value)))) := by
  have hloaded := pulseLengthCounterFromLoad_pos value
  unfold applyLengthDutyWrite
  dsimp only
  refine ⟨?_, fun hon => ?_⟩
  · split <;> rfl
  · refine iff_of_false ?_ fun hout => absurd hout.2 (Nat.pos_iff_ne_zero.mp hloaded)
    rw [if_pos hon, hon]
    exact fun habsurd => Bool.false_ne_true habsurd.symm

end PulseChannelState

/-! ## Channel 1 -/

namespace Channel1State

def lengthOp : ChannelEvent Channel1Register → LengthOp
  | .write .nr11 value _ _ => .load (pulseLengthCounterFromLoad value)
  | .write .nr14 value _ nextFrameSequencerStep =>
    (nrx4WriteContext value nextFrameSequencerStep).lengthOp
  | .clockLength => .clock
  | _ => .none

theorem lengthReference_of_unstopped {c d : Channel1State}
    (h : d.pulse.unstopped = c.pulse.unstopped) :
    d.pulse.lengthReference = c.pulse.lengthReference := by
  have hlength := congrArg PulseChannelState.lengthReference h
  exact hlength

theorem lengthReference_of_timing {c d : Channel1State} (h : d.timing = c.timing) :
    d.pulse.lengthReference = c.pulse.lengthReference :=
  lengthReference_of_unstopped
    (congrArg (fun t : U8 × U8 × PulseChannelState => t.2.2) h)

theorem tick_lengthReference (c : Channel1State) (consoleModel : ConsoleModel) (clocked : Bool)
    (apuClock tCyclePhase : Nat) :
    (c.tickFastTimerWithClockGate consoleModel clocked apuClock
      tCyclePhase).pulse.lengthReference = c.pulse.lengthReference := by
  have hticks : ∀ d : Channel1State, d.timing = c.timing →
      (d.pulse.tickFastTimerWithClockGate d.periodValue clocked).lengthReference =
        c.pulse.lengthReference := by
    intro d hd
    obtain ⟨-, henabled, hcounter⟩ := d.pulse.tick_keeps d.periodValue clocked
    rw [← lengthReference_of_timing hd]
    exact congrArg₂ LengthReference.mk hcounter henabled
  unfold tickFastTimerWithClockGate
  dsimp only
  split
  · exact hticks _ ((tickRecalculation_timing _ _ _).trans (tickDelayedCalculation_timing c clocked))
  · exact hticks _ (tickDelayedCalculation_timing c clocked)

theorem ite_unstopped {p : PulseChannelState} {condition : Prop} [Decidable condition]
    {c d : Channel1State} (hc : c.pulse.unstopped = p) (hd : d.pulse.unstopped = p) :
    (if condition then c else d).pulse.unstopped = p := by
  split
  · exact hc
  · exact hd

theorem maybeFireSweepBoundary_unstopped {p : PulseChannelState} {c : Channel1State}
    {consoleModel : ConsoleModel} (hc : c.pulse.unstopped = p) :
    (c.maybeFireSweepBoundary consoleModel).pulse.unstopped = p := by
  rw [maybeFireSweepBoundary_pulse]
  exact hc

theorem periodSweepRecalculationDone_unstopped {p : PulseChannelState} {c : Channel1State}
    (hc : c.pulse.unstopped = p) : c.periodSweepRecalculationDone.pulse.unstopped = p :=
  (congrArg (fun t : U8 × U8 × PulseChannelState => t.2.2)
    (periodSweepRecalculationDone_timing c)).trans hc

theorem applyDmgNr10Glitches_unstopped (c : Channel1State) (oldNr10 : U8) :
    (c.applyDmgNr10Glitches oldNr10).pulse.unstopped = c.pulse.unstopped := by
  have hchecked : c.checkDmgNr10Candidate.pulse.unstopped = c.pulse.unstopped :=
    ite_unstopped rfl rfl
  have hrestarted : ∀ d : Channel1State, d.pulse.unstopped = c.pulse.unstopped →
      (d.restartDmgNr10Countdown oldNr10).pulse.unstopped = c.pulse.unstopped := by
    intro d hd
    refine ite_unstopped hd (ite_unstopped (ite_unstopped ?_ hd) hd)
    exact periodSweepRecalculationDone_unstopped hd
  refine ite_unstopped hchecked (ite_unstopped ?_ (hrestarted _ hchecked))
  exact maybeFireSweepBoundary_unstopped (hrestarted _ hchecked)

theorem writeNr10_unstopped (c : Channel1State) (value : U8) (consoleModel : ConsoleModel) :
    (c.writeNr10 value consoleModel).pulse.unstopped = c.pulse.unstopped := by
  unfold writeNr10
  dsimp only
  refine maybeFireSweepBoundary_unstopped (ite_unstopped ?_ ?_)
  · exact (applyDmgNr10Glitches_unstopped _ _).trans
      (ite_unstopped (c := stop _) (ite_unstopped rfl rfl) (ite_unstopped rfl rfl))
  · exact ite_unstopped (c := stop _) (ite_unstopped rfl rfl) (ite_unstopped rfl rfl)

theorem writeNr12_lengthReference (c : Channel1State) (value : U8) (consoleModel : ConsoleModel) :
    (c.writeNr12 value consoleModel).pulse.lengthReference = c.pulse.lengthReference := by
  unfold writeNr12 PulseChannelState.applyDacEnabled
  dsimp only
  split <;> rfl

theorem reloadPeriodIfJustSampled_keeps (c : Channel1State) (consoleModel : ConsoleModel) :
    (c.reloadPeriodIfJustSampled consoleModel).pulse.lengthReference = c.pulse.lengthReference ∧
      (c.reloadPeriodIfJustSampled consoleModel).pulse.runtime = c.pulse.runtime := by
  unfold reloadPeriodIfJustSampled PulseChannelState.reloadPeriodAfterWriteIfJustSampled
  split
  · dsimp only
    split <;> exact ⟨rfl, rfl⟩
  · exact ⟨rfl, rfl⟩

theorem writeNr13_lengthReference (c : Channel1State) (value : U8) (consoleModel : ConsoleModel) :
    (c.writeNr13 value consoleModel).pulse.lengthReference = c.pulse.lengthReference := by
  unfold writeNr13
  split
  · rfl
  · exact (reloadPeriodIfJustSampled_keeps _ _).1

theorem writeNr14_eq (c : Channel1State) (value : U8) (consoleModel : ConsoleModel)
    (revision : HardwareRevision) (speedMode : CgbSpeedMode) (nextStep : U8) :
    (c.writeNr14 value consoleModel revision speedMode nextStep).pulse.lengthReference =
        c.pulse.lengthReference.apply pulseLengthCounterReload
          (nrx4WriteContext value nextStep).lengthOp ∧
      (c.pulse.runtime.active = true →
        ((c.writeNr14 value consoleModel revision speedMode nextStep).pulse.runtime.active = false ↔
          c.pulse.lengthReference.RunsOut pulseLengthCounterReload
            (nrx4WriteContext value nextStep).lengthOp)) := by
  unfold writeNr14
  dsimp only
  rw [nrx4WriteContext_effective]
  split
  · next htrigger =>
      exact (PulseChannelState.prepared_trigger c.pulse _ htrigger consoleModel speedMode _ _
        _).finish
  · next htrigger =>
      have hkeeps : ∀ nr14 : U8,
          let d := ({ c with nr14 } : Channel1State).dmgReloadIncrement consoleModel
          (d.reloadPeriodIfJustSampled consoleModel).pulse.lengthReference =
            c.pulse.lengthReference ∧
          (d.reloadPeriodIfJustSampled consoleModel).pulse.runtime = c.pulse.runtime := by
        intro nr14 d
        have hpulse : d.pulse = c.pulse := dmgReloadIncrement_pulse { c with nr14 } consoleModel
        rw [← hpulse]
        exact d.reloadPeriodIfJustSampled_keeps consoleModel
      exact (PulseChannelState.prepared_write c.pulse _ (Bool.eq_false_iff.mpr htrigger)
        (congrArg LengthReference.counter (hkeeps _).1) (hkeeps _).2).finish

theorem obeysLengthLaw (m : ApuModel) :
    ObeysLengthLaw (step m) (fun _ _ => True) (fun c => c.pulse.lengthReference)
      (fun c => c.pulse.runtime.active) pulseLengthCounterReload (fun _ => lengthOp) := by
  have hnone : ∀ (c d : Channel1State), d.pulse.lengthReference = c.pulse.lengthReference →
      d.pulse.lengthReference = c.pulse.lengthReference.apply pulseLengthCounterReload .none :=
    fun _ _ h => h
  refine obeysLengthLaw_of_step ?_ ?_
  · intro c e _
    cases e with
    | tCycle clocked apuClock tCyclePhase =>
        exact hnone _ _ (c.tick_lengthReference m.consoleModel clocked apuClock tCyclePhase)
    | clockLength => exact c.pulse.clockLength_eq.1
    | clockSweep =>
        exact hnone _ _ (congrArg PulseChannelState.lengthReference
          (c.clockSweep_pulse m.consoleModel))
    | clockEnvelope => rfl
    | clockPendingEvenEnvelope => rfl
    | write register value speedMode nextStep =>
        cases register with
        | nr10 =>
            exact hnone _ _ (lengthReference_of_unstopped
              (c.writeNr10_unstopped value m.consoleModel))
        | nr11 => exact (c.pulse.applyLengthDutyWrite_eq value).1
        | nr12 => exact hnone _ _ (c.writeNr12_lengthReference value m.consoleModel)
        | nr13 => exact hnone _ _ (c.writeNr13_lengthReference value m.consoleModel)
        | nr14 => exact (c.writeNr14_eq value m.consoleModel m.revision speedMode nextStep).1
  · intro c e _ hop hon
    cases e with
    | tCycle clocked apuClock tCyclePhase => exact absurd rfl hop
    | clockLength => exact c.pulse.clockLength_eq.2 hon
    | clockSweep => exact absurd rfl hop
    | clockEnvelope => exact absurd rfl hop
    | clockPendingEvenEnvelope => exact absurd rfl hop
    | write register value speedMode nextStep =>
        cases register with
        | nr10 => exact absurd rfl hop
        | nr11 => exact (c.pulse.applyLengthDutyWrite_eq value).2 hon
        | nr12 => exact absurd rfl hop
        | nr13 => exact absurd rfl hop
        | nr14 => exact (c.writeNr14_eq value m.consoleModel m.revision speedMode nextStep).2 hon

end Channel1State

/-! ## Channel 2 -/

namespace Channel2State

def lengthOp : ChannelEvent Channel2Register → LengthOp
  | .write .nr21 value _ _ => .load (pulseLengthCounterFromLoad value)
  | .write .nr24 value _ nextFrameSequencerStep =>
    (nrx4WriteContext value nextFrameSequencerStep).lengthOp
  | .clockLength => .clock
  | _ => .none

theorem writeNr22_lengthReference (c : Channel2State) (value : U8) (consoleModel : ConsoleModel) :
    (c.writeNr22 value consoleModel).pulse.lengthReference = c.pulse.lengthReference := by
  unfold writeNr22 PulseChannelState.applyDacEnabled
  dsimp only
  split <;> rfl

theorem reloadPeriodIfJustSampled_keeps (c : Channel2State) (consoleModel : ConsoleModel) :
    (c.reloadPeriodIfJustSampled consoleModel).pulse.lengthReference = c.pulse.lengthReference ∧
      (c.reloadPeriodIfJustSampled consoleModel).pulse.runtime = c.pulse.runtime := by
  unfold reloadPeriodIfJustSampled PulseChannelState.reloadPeriodAfterWriteIfJustSampled
  split
  · dsimp only
    split <;> exact ⟨rfl, rfl⟩
  · exact ⟨rfl, rfl⟩

theorem writeNr24_eq (c : Channel2State) (value : U8) (consoleModel : ConsoleModel)
    (speedMode : CgbSpeedMode) (nextStep : U8) :
    (c.writeNr24 value consoleModel speedMode nextStep).pulse.lengthReference =
        c.pulse.lengthReference.apply pulseLengthCounterReload
          (nrx4WriteContext value nextStep).lengthOp ∧
      (c.pulse.runtime.active = true →
        ((c.writeNr24 value consoleModel speedMode nextStep).pulse.runtime.active = false ↔
          c.pulse.lengthReference.RunsOut pulseLengthCounterReload
            (nrx4WriteContext value nextStep).lengthOp)) := by
  unfold writeNr24
  dsimp only
  split
  · next htrigger =>
      exact (PulseChannelState.prepared_trigger c.pulse _ htrigger consoleModel speedMode _ _
        _).finish
  · next htrigger =>
      have hkeeps := reloadPeriodIfJustSampled_keeps
        ({ c with nr24 := value &&& nrx4WritableMask } : Channel2State) consoleModel
      exact (PulseChannelState.prepared_write c.pulse _ (Bool.eq_false_iff.mpr htrigger)
        (congrArg LengthReference.counter hkeeps.1) hkeeps.2).finish

theorem obeysLengthLaw (m : ApuModel) :
    ObeysLengthLaw (step m) (fun _ _ => True) (fun c => c.pulse.lengthReference)
      (fun c => c.pulse.runtime.active) pulseLengthCounterReload (fun _ => lengthOp) := by
  refine obeysLengthLaw_of_step ?_ ?_
  · intro c e _
    cases e with
    | tCycle clocked apuClock tCyclePhase =>
        obtain ⟨-, henabled, hcounter⟩ := c.pulse.tick_keeps c.periodValue clocked
        exact congrArg₂ LengthReference.mk hcounter henabled
    | clockLength => exact c.pulse.clockLength_eq.1
    | clockSweep => rfl
    | clockEnvelope => rfl
    | clockPendingEvenEnvelope => rfl
    | write register value speedMode nextStep =>
        cases register with
        | nr21 => exact (c.pulse.applyLengthDutyWrite_eq value).1
        | nr22 => exact c.writeNr22_lengthReference value m.consoleModel
        | nr23 =>
            exact (reloadPeriodIfJustSampled_keeps ({ c with nr23 := value } : Channel2State)
              m.consoleModel).1
        | nr24 => exact (c.writeNr24_eq value m.consoleModel speedMode nextStep).1
  · intro c e _ hop hon
    cases e with
    | tCycle clocked apuClock tCyclePhase => exact absurd rfl hop
    | clockLength => exact c.pulse.clockLength_eq.2 hon
    | clockSweep => exact absurd rfl hop
    | clockEnvelope => exact absurd rfl hop
    | clockPendingEvenEnvelope => exact absurd rfl hop
    | write register value speedMode nextStep =>
        cases register with
        | nr21 => exact (c.pulse.applyLengthDutyWrite_eq value).2 hon
        | nr22 => exact absurd rfl hop
        | nr23 => exact absurd rfl hop
        | nr24 => exact (c.writeNr24_eq value m.consoleModel speedMode nextStep).2 hon

end Channel2State

/-! ## Channel 3 -/

namespace Channel3State

def lengthOp : ChannelEvent Channel3Register → LengthOp
  | .write .nr31 value _ _ => .load (waveLengthCounterFromLoad value)
  | .write .nr34 value _ nextFrameSequencerStep =>
    (nrx4WriteContext value nextFrameSequencerStep).lengthOp
  | .clockLength => .clock
  | _ => .none

def lengthReference (c : Channel3State) : LengthReference := ⟨c.lengthCounter, c.lengthEnabled⟩

theorem tickFastTimer_lengthReference (c : Channel3State) :
    c.tickFastTimer.lengthReference = c.lengthReference := by
  unfold tickFastTimer
  dsimp only
  split
  · rfl
  · split <;> rfl

theorem clockLength_eq (c : Channel3State) :
    c.clockLength.lengthReference = c.lengthReference.apply waveLengthCounterReload .clock ∧
      (c.runtime.active = true → (c.clockLength.runtime.active = false ↔
        c.lengthReference.RunsOut waveLengthCounterReload .clock)) := by
  obtain ⟨hcounter, hactive⟩ :=
    clockLengthCounter_eq c.length c.lengthEnabled waveLengthCounterReload
  refine ⟨congrArg₂ LengthReference.mk hcounter ?_, hactive⟩
  show c.lengthEnabled = c.lengthReference.clock.enabled
  unfold LengthReference.clock
  split <;> rfl

theorem applyDmgRetriggerWaveRamCorruption_keeps (c : Channel3State)
    (consoleModel : ConsoleModel) :
    (c.applyDmgRetriggerWaveRamCorruption consoleModel).lengthReference = c.lengthReference ∧
      (c.applyDmgRetriggerWaveRamCorruption consoleModel).runtime = c.runtime := by
  unfold applyDmgRetriggerWaveRamCorruption
  dsimp only
  split
  · exact ⟨rfl, rfl⟩
  · split <;> exact ⟨rfl, rfl⟩

/-- What a trigger does to the length and the activity. -/
theorem trigger_keeps (c : Channel3State) (consoleModel : ConsoleModel) :
    (c.trigger consoleModel).2 = decide (c.lengthCounter = 0) ∧
      (c.trigger consoleModel).1.lengthCounter =
        (if (c.trigger consoleModel).2 then waveLengthCounterReload else c.lengthCounter) ∧
      (c.runtime.active = true → (c.trigger consoleModel).1.runtime.active = true) := by
  obtain ⟨hlength, hruntime⟩ := c.applyDmgRetriggerWaveRamCorruption_keeps consoleModel
  have hcounter : (c.applyDmgRetriggerWaveRamCorruption consoleModel).lengthCounter =
      c.lengthCounter := congrArg LengthReference.counter hlength
  unfold trigger
  dsimp only
  refine ⟨decide_eq_decide.mpr (by rw [hcounter]), ?_, fun hon => ?_⟩
  · split
    · rfl
    · exact hcounter
  · have htriggered : ∀ d : Channel3State, d.runtime = c.runtime →
        d.runtime.trigger.active = true := by
      intro d hd
      rw [hd, ChannelRuntimeState.trigger]
      split
      · rfl
      · exact hon
    split
    · exact htriggered _ hruntime
    · exact htriggered _ hruntime

theorem writeNr34_eq (c : Channel3State) (value : U8) (consoleModel : ConsoleModel)
    (nextStep : U8) :
    (c.writeNr34 value consoleModel nextStep).lengthReference =
        c.lengthReference.apply waveLengthCounterReload
          (nrx4WriteContext value nextStep).lengthOp ∧
      (c.runtime.active = true →
        ((c.writeNr34 value consoleModel nextStep).runtime.active = false ↔
          c.lengthReference.RunsOut waveLengthCounterReload
            (nrx4WriteContext value nextStep).lengthOp)) := by
  have hfull : 1 < waveLengthCounterReload := by decide
  unfold writeNr34
  dsimp only
  split
  · next htrigger =>
      obtain ⟨hreloads, hcounter, hkept⟩ :=
        trigger_keeps ({ c with nr34 := value &&& nrx4WritableMask } : Channel3State) consoleModel
      have hwas : c.lengthEnabled = c.lengthReference.enabled := rfl
      obtain ⟨hcounter, henabled, hactive⟩ := applyExtraLengthClocking_eq
        (nrx4WriteContext value nextStep) c.lengthReference hfull
        (({ c with nr34 := value &&& nrx4WritableMask } : Channel3State).trigger
          consoleModel).1.runtime.active
        (by rw [htrigger, Bool.true_and]; exact hreloads) hcounter (.inl hwas)
      exact ⟨congrArg₂ LengthReference.mk hcounter henabled, fun hon => hactive (hkept hon)⟩
  · next htrigger =>
      have hwas : c.lengthEnabled = c.lengthReference.enabled := rfl
      have hreloaded : false = ((nrx4WriteContext value nextStep).trigger &&
          decide (c.lengthReference.counter = 0)) := by
        rw [Bool.eq_false_iff.mpr htrigger]
        rfl
      obtain ⟨hcounter, henabled, hactive⟩ := applyExtraLengthClocking_eq
        (nrx4WriteContext value nextStep) c.lengthReference hfull c.runtime.active hreloaded rfl
        (.inl hwas)
      exact ⟨congrArg₂ LengthReference.mk hcounter henabled, hactive⟩

/-- Loading a counter silences nothing. -/
theorem writeNr31_runsOut (c : Channel3State) (value : U8) (hon : c.runtime.active = true) :
    (c.writeNr31 value).runtime.active = false ↔
      c.lengthReference.RunsOut waveLengthCounterReload
        (.load (waveLengthCounterFromLoad value)) := by
  have hlt := value.isLt
  have hloaded : 0 < waveLengthCounterFromLoad value := by
    unfold waveLengthCounterFromLoad waveLengthCounterReload
    omega
  refine iff_of_false ?_ fun hout => absurd hout.2 (Nat.pos_iff_ne_zero.mp hloaded)
  exact fun hoff => Bool.false_ne_true (hoff.symm.trans hon)

theorem obeysLengthLaw (m : ApuModel) :
    ObeysLengthLaw (step m) (fun _ _ => True) lengthReference (fun c => c.runtime.active)
      waveLengthCounterReload (fun _ => lengthOp) := by
  refine obeysLengthLaw_of_step ?_ ?_
  · intro c e _
    cases e with
    | tCycle clocked apuClock tCyclePhase =>
        cases clocked with
        | false => rfl
        | true => exact c.beginTCycle.tickFastTimer_lengthReference
    | clockLength => exact c.clockLength_eq.1
    | clockSweep => rfl
    | clockEnvelope => rfl
    | clockPendingEvenEnvelope => rfl
    | write register value speedMode nextStep =>
        cases register with
        | nr30 => rfl
        | nr31 => rfl
        | nr32 => rfl
        | nr33 => rfl
        | nr34 => exact (c.writeNr34_eq value m.consoleModel nextStep).1
  · intro c e _ hop hon
    cases e with
    | tCycle clocked apuClock tCyclePhase => exact absurd rfl hop
    | clockLength => exact c.clockLength_eq.2 hon
    | clockSweep => exact absurd rfl hop
    | clockEnvelope => exact absurd rfl hop
    | clockPendingEvenEnvelope => exact absurd rfl hop
    | write register value speedMode nextStep =>
        cases register with
        | nr30 => exact absurd rfl hop
        | nr31 => exact c.writeNr31_runsOut value hon
        | nr32 => exact absurd rfl hop
        | nr33 => exact absurd rfl hop
        | nr34 => exact (c.writeNr34_eq value m.consoleModel nextStep).2 hon

end Channel3State

/-! ## Channel 4 -/

namespace Channel4State

/-- The T-cycle at which a delayed trigger starts. -/
def startsDelayed (c : Channel4State) (e : ChannelEvent Channel4Register) : Bool :=
  e.isGenerationClock && !c.nr43LiveWrite.alignmentSubphase && c.dmgDelayedStart = 1

def lengthOp (c : Channel4State) (e : ChannelEvent Channel4Register) : LengthOp :=
  match e with
  | .write .nr41 value _ _ => .load (pulseLengthCounterFromLoad value)
  | .write .nr44 value _ nextFrameSequencerStep =>
    (nrx4WriteContext value nextFrameSequencerStep).lengthOp
  | .clockLength => .clock
  | .tCycle .. => if c.startsDelayed e then .reload else .none
  | _ => .none

/-- The length has not run out while a trigger was delayed. -/
def StartsInTime (c : Channel4State) (e : ChannelEvent Channel4Register) : Prop :=
  c.startsDelayed e = true → c.lengthEnabled = true → c.lengthCounter ≠ 0

def lengthReference (c : Channel4State) : LengthReference := ⟨c.lengthCounter, c.lengthEnabled⟩

/-- What starting the hidden counter leaves alone. -/
def beyondCounter (c : Channel4State) : LengthReference × ChannelRuntimeState × Nat :=
  (c.lengthReference, c.runtime, c.dmgDelayedStart)

theorem ite_beyond {condition : Prop} [Decidable condition] {c d d' : Channel4State}
    (h : d.beyondCounter = c.beyondCounter) (h' : d'.beyondCounter = c.beyondCounter) :
    (if condition then d else d').beyondCounter = c.beyondCounter := by
  split
  · exact h
  · exact h'

theorem ite_incrementHiddenCounter_beyond {condition : Prop} [Decidable condition]
    (c : Channel4State) :
    (if condition then c.incrementHiddenCounter else c).beyondCounter = c.beyondCounter :=
  ite_beyond rfl rfl

theorem ite_stepLfsr_beyond {condition : Prop} [Decidable condition] (c : Channel4State) :
    (if condition then c.stepLfsr else c).beyondCounter = c.beyondCounter :=
  ite_beyond rfl rfl

theorem prepareHiddenCounterStart_beyond (c : Channel4State) :
    c.prepareHiddenCounterStart.beyondCounter = c.beyondCounter :=
  (ite_stepLfsr_beyond _).trans (ite_incrementHiddenCounter_beyond _)

theorem prepareHiddenCounterStart_keeps (c : Channel4State) :
    c.prepareHiddenCounterStart.lengthReference = c.lengthReference ∧
      c.prepareHiddenCounterStart.runtime = c.runtime ∧
      c.prepareHiddenCounterStart.dmgDelayedStart = c.dmgDelayedStart := by
  have h := c.prepareHiddenCounterStart_beyond
  exact ⟨congrArg Prod.fst h, congrArg (fun b => b.2.1) h, congrArg (fun b => b.2.2) h⟩

theorem reloadZeroLength_eq (c : Channel4State) :
    c.reloadZeroLength.2 = decide (c.lengthCounter = 0) ∧
      c.reloadZeroLength.1.lengthReference =
        (if c.lengthCounter = 0 then ⟨pulseLengthCounterReload, false⟩ else c.lengthReference) ∧
      c.reloadZeroLength.1.runtime = c.runtime := by
  unfold reloadZeroLength
  split
  · next hzero => exact ⟨(decide_eq_true hzero).symm, rfl, rfl⟩
  · next hpositive => exact ⟨(decide_eq_false hpositive).symm, rfl, rfl⟩

theorem trigger_eq (c : Channel4State) (nextStepClocksEnvelope : Bool) :
    (c.trigger nextStepClocksEnvelope).2 = decide (c.lengthCounter = 0) ∧
      (c.trigger nextStepClocksEnvelope).1.lengthReference =
        (if c.lengthCounter = 0 then ⟨pulseLengthCounterReload, false⟩ else c.lengthReference) ∧
      (c.trigger nextStepClocksEnvelope).1.runtime = c.runtime.trigger := by
  obtain ⟨hreloads, hlength, hruntime⟩ := c.reloadZeroLength_eq
  obtain ⟨hlength', hruntime', -⟩ := prepareHiddenCounterStart_keeps
    { c.reloadZeroLength.1 with
      envelope := c.reloadZeroLength.1.envelope.applyWrite c.reloadZeroLength.1.nr42 }
  refine ⟨hreloads, hlength'.trans hlength, ?_⟩
  exact congrArg ChannelRuntimeState.trigger (hruntime'.trans hruntime)

theorem triggerOrDelay_eq (c : Channel4State) (consoleModel : ConsoleModel)
    (nextStepClocksEnvelope : Bool) :
    (c.triggerOrDelay consoleModel nextStepClocksEnvelope).2 = decide (c.lengthCounter = 0) ∧
      (c.triggerOrDelay consoleModel nextStepClocksEnvelope).1.lengthReference =
        (if c.lengthCounter = 0 then ⟨pulseLengthCounterReload, false⟩ else c.lengthReference) ∧
      (c.runtime.active = true →
        (c.triggerOrDelay consoleModel nextStepClocksEnvelope).1.runtime.active = true) := by
  unfold triggerOrDelay
  split
  · obtain ⟨hreloads, hlength, hruntime⟩ := c.reloadZeroLength_eq
    exact ⟨hreloads, hlength, fun hon =>
      (congrArg ChannelRuntimeState.active hruntime).trans hon⟩
  · obtain ⟨hreloads, hlength, hruntime⟩ := c.trigger_eq nextStepClocksEnvelope
    refine ⟨hreloads, hlength, fun hon => ?_⟩
    rw [hruntime, ChannelRuntimeState.trigger]
    split
    · rfl
    · exact hon

theorem clockLength_eq (c : Channel4State) :
    c.clockLength.lengthReference = c.lengthReference.apply pulseLengthCounterReload .clock ∧
      (c.runtime.active = true → (c.clockLength.runtime.active = false ↔
        c.lengthReference.RunsOut pulseLengthCounterReload .clock)) := by
  obtain ⟨hcounter, hactive⟩ :=
    clockLengthCounter_eq c.length c.lengthEnabled pulseLengthCounterReload
  refine ⟨congrArg₂ LengthReference.mk hcounter ?_, hactive⟩
  show c.lengthEnabled = c.lengthReference.clock.enabled
  unfold LengthReference.clock
  split <;> rfl

theorem writeNr44_eq (c : Channel4State) (value : U8) (consoleModel : ConsoleModel)
    (nextStep : U8) :
    (c.writeNr44 value consoleModel nextStep).lengthReference =
        c.lengthReference.apply pulseLengthCounterReload
          (nrx4WriteContext value nextStep).lengthOp ∧
      (c.runtime.active = true →
        ((c.writeNr44 value consoleModel nextStep).runtime.active = false ↔
          c.lengthReference.RunsOut pulseLengthCounterReload
            (nrx4WriteContext value nextStep).lengthOp)) := by
  have hfull : 1 < pulseLengthCounterReload := by decide
  unfold writeNr44
  dsimp only
  split
  · next htrigger =>
      obtain ⟨hreloads, hlength, hkept⟩ := triggerOrDelay_eq
        ({ c with nr44 := value &&& nr44WritableMask } : Channel4State) consoleModel
        (nrx4WriteContext value nextStep).nextStepClocksEnvelope
      generalize ({ c with nr44 := value &&& nr44WritableMask } : Channel4State).triggerOrDelay
        consoleModel (nrx4WriteContext value nextStep).nextStepClocksEnvelope = triggered at *
      obtain ⟨d, reloaded⟩ := triggered
      obtain rfl : reloaded = decide (c.lengthCounter = 0) := hreloads
      have hcounter : d.lengthCounter =
          if decide (c.lengthCounter = 0) = true then pulseLengthCounterReload
          else c.lengthCounter := by
        have hboth := congrArg LengthReference.counter hlength
        rw [apply_ite LengthReference.counter] at hboth
        simp only [decide_eq_true_eq]
        exact hboth
      have hwas : d.lengthEnabled = c.lengthEnabled ∨ decide (c.lengthCounter = 0) = true := by
        by_cases hzero : c.lengthCounter = 0
        · exact .inr (decide_eq_true hzero)
        · refine .inl ?_
          rw [show ({ c with nr44 := value &&& nr44WritableMask } :
            Channel4State).lengthCounter = c.lengthCounter from rfl, if_neg hzero] at hlength
          exact congrArg LengthReference.enabled hlength
      obtain ⟨hcounter, henabled, hactive⟩ := applyExtraLengthClocking_eq
        (nrx4WriteContext value nextStep) c.lengthReference hfull d.runtime.active
        (by rw [htrigger, Bool.true_and]; rfl) hcounter hwas
      exact ⟨congrArg₂ LengthReference.mk hcounter henabled, fun hon => hactive (hkept hon)⟩
  · next htrigger =>
      have hwas : c.lengthEnabled = c.lengthReference.enabled := rfl
      have hreloaded : false = ((nrx4WriteContext value nextStep).trigger &&
          decide (c.lengthReference.counter = 0)) := by
        rw [Bool.eq_false_iff.mpr htrigger]
        rfl
      obtain ⟨hcounter, henabled, hactive⟩ := applyExtraLengthClocking_eq
        (nrx4WriteContext value nextStep) c.lengthReference hfull c.runtime.active hreloaded rfl
        (.inl hwas)
      exact ⟨congrArg₂ LengthReference.mk hcounter henabled, hactive⟩

/-- Loading a counter silences nothing. -/
theorem writeNr41_runsOut (c : Channel4State) (value : U8) (hon : c.runtime.active = true) :
    (c.writeNr41 value).runtime.active = false ↔
      c.lengthReference.RunsOut pulseLengthCounterReload
        (.load (pulseLengthCounterFromLoad value)) := by
  have hloaded := pulseLengthCounterFromLoad_pos value
  refine iff_of_false ?_ fun hout => absurd hout.2 (Nat.pos_iff_ne_zero.mp hloaded)
  exact fun hoff => Bool.false_ne_true (hoff.symm.trans hon)

theorem writeNr42_lengthReference (c : Channel4State) (value : U8) (consoleModel : ConsoleModel) :
    (c.writeNr42 value consoleModel).lengthReference = c.lengthReference := by
  have hdisabled : c.handleHiddenCounterDacDisable.lengthReference = c.lengthReference := by
    unfold handleHiddenCounterDacDisable
    dsimp only
    split
    · split <;> rfl
    · rfl
  unfold writeNr42
  dsimp only
  split
  · exact hdisabled
  · rfl

theorem tickNoiseCounterPhase_beyond (c : Channel4State) :
    c.tickNoiseCounterPhase.beyondCounter = c.beyondCounter := by
  unfold tickNoiseCounterPhase
  exact ite_beyond rfl (ite_beyond rfl (ite_stepLfsr_beyond _))

theorem tickPeriodTimer_beyond (c : Channel4State) :
    c.tickPeriodTimer.beyondCounter = c.beyondCounter := by
  unfold tickPeriodTimer
  split <;> rfl

/-- A clock of the generation keeps the length unless a delayed trigger starts at it, and
silences nothing. -/
theorem tickFastTimer_keeps (c : Channel4State) {e : ChannelEvent Channel4Register}
    (he : e.isGenerationClock = true) (hstarts : c.StartsInTime e) :
    c.tickFastTimer.lengthReference = c.lengthReference.apply pulseLengthCounterReload
        (if c.startsDelayed e then .reload else .none) ∧
      (c.runtime.active = true → c.tickFastTimer.runtime.active = true) := by
  unfold StartsInTime startsDelayed at *
  rw [he, Bool.true_and] at *
  unfold tickFastTimer tickAlignmentPhaseOnly
  dsimp only
  cases hphase : c.nr43LiveWrite.alignmentSubphase with
  | true =>
      have hticked := tickPeriodTimer_beyond
        { c with nr43LiveWrite := { c.nr43LiveWrite with alignmentSubphase := false } }
      exact ⟨congrArg Prod.fst hticked, fun hon =>
        (congrArg (fun b => ChannelRuntimeState.active b.2.1) hticked).trans hon⟩
  | false =>
      rw [hphase] at hstarts
      rw [Bool.not_false, Bool.not_true, if_neg Bool.false_ne_true, Bool.true_and]
      generalize hcounted : tickNoiseCounterPhase _ = counted
      have hkept : counted.lengthReference = c.lengthReference ∧ counted.runtime = c.runtime := by
        have h := congrArg beyondCounter hcounted.symm
        rw [tickNoiseCounterPhase_beyond] at h
        exact ⟨congrArg Prod.fst h, congrArg (fun b => b.2.1) h⟩
      by_cases hdue : c.dmgDelayedStart = 1
      · rw [if_pos (decide_eq_true hdue), if_pos (decide_eq_true hdue)]
        obtain ⟨-, hlength, hruntime⟩ := trigger_eq
          ({ counted with pendingTriggerEnvelopeReload := false } : Channel4State)
          counted.pendingTriggerEnvelopeReload
        have hticked := tickPeriodTimer_beyond
          (({ counted with pendingTriggerEnvelopeReload := false } : Channel4State).trigger
            counted.pendingTriggerEnvelopeReload).1
        have hon : c.lengthCounter = 0 → c.lengthEnabled = false := fun hzero =>
          Bool.eq_false_iff.mpr fun henabled =>
            hstarts (by rw [decide_eq_true hdue]; rfl) henabled hzero
        refine ⟨(congrArg Prod.fst hticked).trans (hlength.trans ?_), fun hactive => ?_⟩
        · show (if counted.lengthReference.counter = 0 then _ else counted.lengthReference) = _
          rw [hkept.1]
          unfold LengthReference.apply
          by_cases hzero : c.lengthCounter = 0
          · rw [if_pos (show c.lengthReference.counter = 0 from hzero),
              if_pos (show c.lengthReference.counter = 0 from hzero)]
            exact congrArg (LengthReference.mk _) (hon hzero).symm
          · rw [if_neg (show ¬c.lengthReference.counter = 0 from hzero),
              if_neg (show ¬c.lengthReference.counter = 0 from hzero)]
        · have htriggered := (congrArg (fun b => b.2.1) hticked).trans hruntime
          refine (congrArg ChannelRuntimeState.active htriggered).trans ?_
          show counted.runtime.trigger.active = true
          rw [hkept.2, ChannelRuntimeState.trigger]
          split
          · rfl
          · exact hactive
      · rw [if_neg (by rw [decide_eq_true_eq]; exact hdue),
          if_neg (by rw [decide_eq_true_eq]; exact hdue)]
        have hticked := counted.tickPeriodTimer_beyond
        refine ⟨(congrArg Prod.fst hticked).trans hkept.1, fun hactive => ?_⟩
        have hruntime := (congrArg (fun b => b.2.1) hticked).trans hkept.2
        exact (congrArg ChannelRuntimeState.active hruntime).trans hactive

theorem obeysLengthLaw (m : ApuModel) :
    ObeysLengthLaw (step m) StartsInTime lengthReference (fun c => c.runtime.active)
      pulseLengthCounterReload lengthOp := by
  refine obeysLengthLaw_of_step ?_ ?_
  · intro c e hstarts
    cases e with
    | tCycle clocked apuClock tCyclePhase =>
        cases clocked with
        | false => rfl
        | true => exact (c.tickFastTimer_keeps rfl hstarts).1
    | clockLength => exact c.clockLength_eq.1
    | clockSweep => rfl
    | clockEnvelope => rfl
    | clockPendingEvenEnvelope => rfl
    | write register value speedMode nextStep =>
        cases register with
        | nr41 => rfl
        | nr42 => exact c.writeNr42_lengthReference value m.consoleModel
        | nr43 => rfl
        | nr44 => exact (c.writeNr44_eq value m.consoleModel nextStep).1
  · intro c e hstarts hop hon
    cases e with
    | tCycle clocked apuClock tCyclePhase =>
        cases clocked with
        | false => exact absurd rfl hop
        | true =>
            have hkept := (c.tickFastTimer_keeps rfl hstarts).2 hon
            refine iff_of_false (fun hoff => Bool.false_ne_true (hoff.symm.trans hkept)) ?_
            rintro ⟨hpositive, hzero⟩
            rw [lengthOp] at hzero
            split at hzero
            · unfold LengthReference.apply at hzero
              dsimp only at hzero
              rw [if_neg hpositive] at hzero
              exact hpositive hzero
            · exact hpositive hzero
    | clockLength => exact c.clockLength_eq.2 hon
    | clockSweep => exact absurd rfl hop
    | clockEnvelope => exact absurd rfl hop
    | clockPendingEvenEnvelope => exact absurd rfl hop
    | write register value speedMode nextStep =>
        cases register with
        | nr41 => exact c.writeNr41_runsOut value hon
        | nr42 => exact absurd rfl hop
        | nr43 => exact absurd rfl hop
        | nr44 => exact (c.writeNr44_eq value m.consoleModel nextStep).2 hon

end Channel4State

/-! ## The law -/

/-- In every run of writes, T-cycles and clocks of the frame sequencer each channel's length
counter is the reference's, and silences the channel exactly when the reference runs out.  The
noise channel's delayed trigger obeys as long as the length has not run out before it starts. -/
theorem length_counter_law (m : ApuModel) :
    ObeysLengthLaw (Channel1State.step m) (fun _ _ => True) (fun c => c.pulse.lengthReference)
        (fun c => c.pulse.runtime.active) pulseLengthCounterReload
        (fun _ => Channel1State.lengthOp) ∧
      ObeysLengthLaw (Channel2State.step m) (fun _ _ => True) (fun c => c.pulse.lengthReference)
        (fun c => c.pulse.runtime.active) pulseLengthCounterReload
        (fun _ => Channel2State.lengthOp) ∧
      ObeysLengthLaw (Channel3State.step m) (fun _ _ => True) Channel3State.lengthReference
        (fun c => c.runtime.active) waveLengthCounterReload (fun _ => Channel3State.lengthOp) ∧
      ObeysLengthLaw (Channel4State.step m) Channel4State.StartsInTime
        Channel4State.lengthReference (fun c => c.runtime.active) pulseLengthCounterReload
        Channel4State.lengthOp :=
  ⟨Channel1State.obeysLengthLaw m, Channel2State.obeysLengthLaw m,
    Channel3State.obeysLengthLaw m, Channel4State.obeysLengthLaw m⟩

def dmgApu : ApuModel := ⟨.gameBoy, .dmgCpuB⟩

/-- Loaded with one, triggered and clocked once. -/
def shortNote : List (ChannelEvent Channel2Register) :=
  [.write .nr22 0xF0 .normal 0, .write .nr21 0x3F .normal 0, .write .nr24 0xC0 .normal 0]

theorem length_counter_law_short_note :
    (Channel2State.run dmgApu .default shortNote).pulse.runtime.active = true ∧
      (Channel2State.run dmgApu .default (shortNote ++ [.clockLength])).pulse.runtime.active =
        false := by
  have hlaw := (length_counter_law dmgApu).2.1 .default shortNote .clockLength
    (by repeat' constructor)
  have hon : (Channel2State.run dmgApu .default shortNote).pulse.runtime.active = true := by
    decide
  refine ⟨hon, ?_⟩
  rw [Channel2State.run, List.foldl_append]
  exact (hlaw.2 (by decide) hon).mpr ⟨by decide, by decide⟩

/-- A trigger at a zero counter that leaves the length off, between two length steps. -/
def silentTrigger : List (ChannelEvent Channel2Register) :=
  [.write .nr22 0xF0 .normal 1, .write .nr24 0x80 .normal 1]

/-- A reload whose write leaves the length off is not clocked once more: the channel outlives the
63 steps of a counter that had been. -/
theorem disabled_reload_not_clocked :
    (nrx4WriteContext 0x80 1).nextStepClocksLength = false ∧
      (Channel2State.run dmgApu .default silentTrigger).pulse.lengthCounter ≠
        pulseLengthCounterReload - 1 ∧
      (Channel2State.run dmgApu .default (silentTrigger ++
        .write .nr24 0x40 .normal 0 :: List.replicate 63 .clockLength)).pulse.runtime.active =
        true := by
  refine ⟨by decide, by decide, ?_⟩
  decide +kernel

end GbCycle
