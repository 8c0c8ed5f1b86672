import GbCycle.Apu.PulseGenerator
import GbCycle.Apu.NoiseClock

/-!
# The clocks of the generators

The waveform of a channel left running moves once a period: the duty of a pulse channel, the
sample of the wave channel, the feedback register of the noise channel.  The period is the one its
registers hold when a step begins.  The one way around is a CGB's: while it is just sampled, a write
of its period starts the step of a pulse channel again.
-/

namespace GbCycle

section Statements

variable {S Register : Type} (step : S → ChannelEvent Register → S)
  (LeavesStep moves : S → ChannelEvent Register → Prop)

/-- Just sampled is a channel for the first three generation clocks of a step. -/
def SampleWindow (period : S → Nat) (justSampled : S → Bool) : Prop :=
  ∀ (c : S) (e : ChannelEvent Register) (es : List (ChannelEvent Register)),
    moves c e → AllAllowed step LeavesStep c (e :: es) →
    es.countP ChannelEvent.isGenerationClock < period c →
    (justSampled (es.foldl step (step c e)) = true ↔
      es.countP ChannelEvent.isGenerationClock < 3)

end Statements

/-! ## Channel 1 -/

/-- A pulse without its activity. -/
def PulseChannelState.unstopped (p : PulseChannelState) : PulseChannelState :=
  { p with runtime := .default }

theorem PulseChannelState.unstopped_generator (p : PulseChannelState) :
    p.unstopped.generator = p.generator := rfl

namespace Channel1State

/-- The period of channel 1 and its pulse, but for what the sweep may stop. -/
def timing (c : Channel1State) : U8 × U8 × PulseChannelState :=
  (c.nr13, c.nr14, c.pulse.unstopped)

theorem periodSweepRecalculationDone_timing (c : Channel1State) :
    c.periodSweepRecalculationDone.timing = c.timing := by
  unfold periodSweepRecalculationDone
  dsimp only
  split
  · split <;> rfl
  · split <;> rfl

theorem tickPeriodSweepRecalculation_timing (c : Channel1State) (apuClock : Nat) :
    (c.tickPeriodSweepRecalculation apuClock).timing = c.timing := by
  unfold tickPeriodSweepRecalculation
  dsimp only
  split
  · exact periodSweepRecalculationDone_timing _
  · split
    · rfl
    · split
      · rfl
      · split
        · rfl
        · split
          · rfl
          · split
            · exact periodSweepRecalculationDone_timing _
            · rfl

theorem tickPeriodSweepReload_timing (c : Channel1State) :
    c.tickPeriodSweepReload.timing = c.timing := by
  unfold tickPeriodSweepReload
  dsimp only
  split
  · rfl
  · split <;> rfl

theorem tickRecalculation_timing (c : Channel1State) (apuClock tCyclePhase : Nat) :
    (c.tickRecalculation apuClock tCyclePhase).timing = c.timing := by
  unfold tickRecalculation
  split
  · rfl
  · rw [tickPeriodSweepReload_timing, tickPeriodSweepRecalculation_timing]

theorem tickDelayedCalculation_timing (c : Channel1State) (clocked : Bool) :
    (c.tickDelayedCalculation clocked).timing = c.timing := by
  unfold tickDelayedCalculation
  dsimp only
  split
  · rfl
  · split
    · rfl
    · split
      · rfl
      · split <;> rfl

/-- The T-cycle of channel 1 ticks its generator with the period of its registers. -/
theorem tick_generator (c : Channel1State) (consoleModel : ConsoleModel) (clocked : Bool)
    (apuClock tCyclePhase : Nat) :
    (c.tickFastTimerWithClockGate consoleModel clocked apuClock tCyclePhase).pulse.generator =
      c.pulse.generator.tick c.periodValue clocked := by
  have hswept : ∀ d : Channel1State, d.timing = c.timing →
      (d.pulse.tickFastTimerWithClockGate d.periodValue clocked).generator =
        c.pulse.generator.tick c.periodValue clocked := by
    intro d hd
    obtain ⟨hlow, hhigh⟩ := Prod.mk.inj hd
    obtain ⟨hhigh, hpulse⟩ := Prod.mk.inj hhigh
    have hgenerator := congrArg PulseChannelState.generator hpulse
    rw [PulseChannelState.unstopped_generator, PulseChannelState.unstopped_generator] at hgenerator
    rw [PulseChannelState.tick_generator, hgenerator, periodValue, periodValue, hlow, hhigh]
  unfold tickFastTimerWithClockGate
  dsimp only
  split
  · exact hswept _ ((tickRecalculation_timing _ _ _).trans (tickDelayedCalculation_timing c clocked))
  · exact hswept _ (tickDelayedCalculation_timing c clocked)

theorem dmgScheduleRecalculationPostWriteback_pulse (c : Channel1State) :
    c.dmgScheduleRecalculationPostWriteback.pulse = c.pulse := by
  unfold dmgScheduleRecalculationPostWriteback
  dsimp only
  split <;> rfl

theorem fireDmgSweepBoundary_pulse (c : Channel1State) :
    c.fireDmgSweepBoundary.pulse = c.pulse := by
  unfold fireDmgSweepBoundary
  dsimp only
  split
  · rfl
  · exact dmgScheduleRecalculationPostWriteback_pulse _

theorem fireCgbSweepBoundary_pulse (c : Channel1State) (calculation : SweepCalculation) :
    (c.fireCgbSweepBoundary calculation).pulse = c.pulse := by
  unfold fireCgbSweepBoundary
  dsimp only
  split
  · rfl
  · split <;> rfl

theorem maybeFireSweepBoundary_pulse (c : Channel1State) (consoleModel : ConsoleModel) :
    (c.maybeFireSweepBoundary consoleModel).pulse = c.pulse := by
  unfold maybeFireSweepBoundary
  dsimp only
  split
  · rfl
  · split
    · rfl
    · split
      · rfl
      · split
        · exact fireCgbSweepBoundary_pulse _ _
        · exact fireDmgSweepBoundary_pulse _

theorem clockSweep_pulse (c : Channel1State) (consoleModel : ConsoleModel) :
    (c.clockSweep consoleModel).pulse = c.pulse := by
  unfold clockSweep
  dsimp only
  split
  · rfl
  · exact maybeFireSweepBoundary_pulse _ _

theorem dmgReloadIncrement_pulse (c : Channel1State) (consoleModel : ConsoleModel) :
    (c.dmgReloadIncrement consoleModel).pulse = c.pulse := by
  unfold dmgReloadIncrement
  dsimp only
  split <;> rfl

/-- A write of the period, without a trigger. -/
def writesPeriod : ChannelEvent Channel1Register → Bool
  | .write .nr13 _ _ _ => true
  | .write .nr14 value _ _ => value &&& channelTriggerBit = 0
  | _ => false

/-- Nothing is written, or only the period, on a CGB outside the window after a step. -/
def LeavesStep (m : ApuModel) (c : Channel1State) (e : ChannelEvent Channel1Register) : Prop :=
  e.isWrite = false ∨
    (writesPeriod e = true ∧ (m.consoleModel.isCgbFamily = true → c.pulse.justSampled = false))

theorem reloadPeriodIfJustSampled_generator {m : ApuModel} {c : Channel1State}
    (h : m.consoleModel.isCgbFamily = true → c.pulse.justSampled = false) :
    (c.reloadPeriodIfJustSampled m.consoleModel).pulse.generator = c.pulse.generator := by
  unfold reloadPeriodIfJustSampled
  split
  · next hcgb =>
      unfold PulseChannelState.reloadPeriodAfterWriteIfJustSampled
      rw [if_neg (by rw [h hcgb]; exact Bool.false_ne_true)]
  · rfl

theorem drives (m : ApuModel) :
    PulseGenerator.Drives (step m) (LeavesStep m) ChannelEvent.isGenerationClock
      (fun c => c.pulse.generator) := by
  intro c e h
  cases e with
  | tCycle clocked apuClock tCyclePhase =>
      exact .inr ⟨c.periodValue, c.tick_generator m.consoleModel clocked apuClock tCyclePhase⟩
  | clockLength => exact .inl ⟨rfl, rfl⟩
  | clockSweep =>
      exact .inl ⟨rfl, congrArg PulseChannelState.generator (c.clockSweep_pulse m.consoleModel)⟩
  | clockEnvelope => exact .inl ⟨rfl, rfl⟩
  | clockPendingEvenEnvelope => exact .inl ⟨rfl, rfl⟩
  | write register value speedMode nextStep =>
      refine .inl ⟨rfl, ?_⟩
      obtain hquiet | ⟨hwrites, hwindow⟩ := h
      · exact absurd hquiet.symm Bool.false_ne_true
      cases register with
      | nr10 => exact absurd hwrites Bool.false_ne_true
      | nr11 => exact absurd hwrites Bool.false_ne_true
      | nr12 => exact absurd hwrites Bool.false_ne_true
      | nr13 =>
          show (c.writeNr13 value m.consoleModel).pulse.generator = c.pulse.generator
          unfold writeNr13
          split
          · rfl
          · exact reloadPeriodIfJustSampled_generator (c := clearReloadPeriodPending _) hwindow
      | nr14 =>
          have htrigger : value &&& channelTriggerBit = 0 := of_decide_eq_true hwrites
          have hcontext : (nrx4WriteContext value nextStep).trigger = false := by
            simp [nrx4WriteContext, htrigger]
          show (c.writeNr14 value m.consoleModel m.revision speedMode nextStep).pulse.generator =
            c.pulse.generator
          unfold writeNr14
          dsimp only
          rw [nrx4WriteContext_effective, hcontext, if_neg Bool.false_ne_true]
          refine (reloadPeriodIfJustSampled_generator (m := m) ?_).trans ?_
          · rw [dmgReloadIncrement_pulse]
            exact hwindow
          · exact congrArg PulseChannelState.generator (dmgReloadIncrement_pulse _ _)

/-- A generation clock at which the waveform moves. -/
def movesWaveform (m : ApuModel) (c : Channel1State) (e : ChannelEvent Channel1Register) : Prop :=
  e.isGenerationClock = true ∧ (step m c e).pulse.dutyStep ≠ c.pulse.dutyStep

end Channel1State

theorem pulsePeriodFromRegisters_masked (low high : U8) :
    pulsePeriodFromRegisters low high &&& pulsePeriodMax = pulsePeriodFromRegisters low high := by
  unfold pulsePeriodFromRegisters
  rw [BitVec.and_assoc, BitVec.and_self]

theorem pulseTimerReload_registers (low high : U8) :
    pulseTimerReload (pulsePeriodFromRegisters low high) =
      4 * (2048 - (pulsePeriodFromRegisters low high).toNat) := by
  rw [pulseTimerReload, pulsePeriodFromRegisters_masked, Nat.mul_comm]

theorem Channel1State.movesWaveform.tick {m : ApuModel} {c : Channel1State}
    {e : ChannelEvent Channel1Register} (hmoves : c.movesWaveform m e) :
    (step m c e).pulse.generator = c.pulse.generator.tick c.periodValue true := by
  obtain ⟨hclock, -⟩ := hmoves
  cases e with
  | tCycle clocked apuClock tCyclePhase =>
      obtain rfl : clocked = true := hclock
      exact c.tick_generator m.consoleModel true apuClock tCyclePhase
  | clockLength => exact absurd hclock Bool.false_ne_true
  | clockSweep => exact absurd hclock Bool.false_ne_true
  | clockEnvelope => exact absurd hclock Bool.false_ne_true
  | clockPendingEvenEnvelope => exact absurd hclock Bool.false_ne_true
  | write register value speedMode nextStep => exact absurd hclock Bool.false_ne_true

theorem Channel1State.sampleWindow (m : ApuModel) :
    SampleWindow (step m) (LeavesStep m) (movesWaveform m)
      (fun c => 4 * (2048 - c.periodValue.toNat)) (fun c => c.pulse.justSampled) := by
  rintro c e es hmoves ⟨-, hallowed⟩ hlt
  dsimp only at hlt
  rw [periodValue, ← pulseTimerReload_registers] at hlt
  exact PulseGenerator.window_next (drives m) hmoves.tick hmoves.2 hallowed hlt

/-! ## Channel 2 -/

namespace Channel2State

/-- A write of the period, without a trigger. -/
def writesPeriod : ChannelEvent Channel2Register → Bool
  | .write .nr23 _ _ _ => true
  | .write .nr24 value _ _ => value &&& channelTriggerBit = 0
  | _ => false

/-- Nothing is written, or only the period, on a CGB outside the window after a step. -/
def LeavesStep (m : ApuModel) (c : Channel2State) (e : ChannelEvent Channel2Register) : Prop :=
  e.isWrite = false ∨
    (writesPeriod e = true ∧ (m.consoleModel.isCgbFamily = true → c.pulse.justSampled = false))

/-- A generation clock at which the waveform moves. -/
def movesWaveform (m : ApuModel) (c : Channel2State) (e : ChannelEvent Channel2Register) : Prop :=
  e.isGenerationClock = true ∧ (step m c e).pulse.dutyStep ≠ c.pulse.dutyStep

instance (m : ApuModel) (c : Channel2State) (e : ChannelEvent Channel2Register) :
    Decidable (c.movesWaveform m e) :=
  inferInstanceAs (Decidable (_ ∧ _))

theorem reloadPeriodIfJustSampled_generator {m : ApuModel} {c : Channel2State}
    (h : m.consoleModel.isCgbFamily = true → c.pulse.justSampled = false) :
    (c.reloadPeriodIfJustSampled m.consoleModel).pulse.generator = c.pulse.generator := by
  unfold reloadPeriodIfJustSampled
  split
  · next hcgb =>
      unfold PulseChannelState.reloadPeriodAfterWriteIfJustSampled
      rw [if_neg (by rw [h hcgb]; exact Bool.false_ne_true)]
  · rfl

theorem drives (m : ApuModel) :
    PulseGenerator.Drives (step m) (LeavesStep m) ChannelEvent.isGenerationClock
      (fun c => c.pulse.generator) := by
  intro c e h
  cases e with
  | tCycle clocked apuClock tCyclePhase =>
      exact .inr ⟨c.periodValue, c.pulse.tick_generator c.periodValue clocked⟩
  | clockLength => exact .inl ⟨rfl, rfl⟩
  | clockSweep => exact .inl ⟨rfl, rfl⟩
  | clockEnvelope => exact .inl ⟨rfl, rfl⟩
  | clockPendingEvenEnvelope => exact .inl ⟨rfl, rfl⟩
  | write register value speedMode nextStep =>
      refine .inl ⟨rfl, ?_⟩
      obtain hquiet | ⟨hwrites, hwindow⟩ := h
      · exact absurd hquiet.symm Bool.false_ne_true
      cases register with
      | nr21 => exact absurd hwrites Bool.false_ne_true
      | nr22 => exact absurd hwrites Bool.false_ne_true
      | nr23 => exact reloadPeriodIfJustSampled_generator (c := { c with nr23 := value }) hwindow
      | nr24 =>
          have htrigger : value &&& channelTriggerBit = 0 := of_decide_eq_true hwrites
          have hcontext : (nrx4WriteContext value nextStep).trigger = false := by
            simp [nrx4WriteContext, htrigger]
          show (c.writeNr24 value m.consoleModel speedMode nextStep).pulse.generator =
            c.pulse.generator
          unfold writeNr24
          dsimp only
          rw [hcontext, if_neg Bool.false_ne_true]
          exact reloadPeriodIfJustSampled_generator
            (c := { c with nr24 := value &&& nrx4WritableMask }) hwindow

theorem movesWaveform.tick {m : ApuModel} {c : Channel2State}
    {e : ChannelEvent Channel2Register} (hmoves : c.movesWaveform m e) :
    (step m c e).pulse.generator = c.pulse.generator.tick c.periodValue true := by
  obtain ⟨hclock, -⟩ := hmoves
  cases e with
  | tCycle clocked apuClock tCyclePhase =>
      obtain rfl : clocked = true := hclock
      exact c.pulse.tick_generator c.periodValue true
  | clockLength => exact absurd hclock Bool.false_ne_true
  | clockSweep => exact absurd hclock Bool.false_ne_true
  | clockEnvelope => exact absurd hclock Bool.false_ne_true
  | clockPendingEvenEnvelope => exact absurd hclock Bool.false_ne_true
  | write register value speedMode nextStep => exact absurd hclock Bool.false_ne_true

theorem sampleWindow (m : ApuModel) :
    SampleWindow (step m) (LeavesStep m) (movesWaveform m)
      (fun c => 4 * (2048 - c.periodValue.toNat)) (fun c => c.pulse.justSampled) := by
  rintro c e es hmoves ⟨-, hallowed⟩ hlt
  dsimp only at hlt
  rw [periodValue, ← pulseTimerReload_registers] at hlt
  exact PulseGenerator.window_next (drives m) hmoves.tick hmoves.2 hallowed hlt

end Channel2State

/-! ## Channel 3 -/

namespace Channel3State

/-- A write of the period, without a trigger. -/
def writesPeriod : ChannelEvent Channel3Register → Bool
  | .write .nr33 _ _ _ => true
  | .write .nr34 value _ _ => value &&& channelTriggerBit = 0
  | _ => false

/-- Nothing is written, or only the period, and the channel stays active. -/
def LeavesStep (m : ApuModel) (c : Channel3State) (e : ChannelEvent Channel3Register) : Prop :=
  (e.isWrite = false ∨ writesPeriod e = true) ∧ (step m c e).runtime.active = true

/-- A generation clock at which the waveform moves. -/
def movesWaveform (m : ApuModel) (c : Channel3State) (e : ChannelEvent Channel3Register) : Prop :=
  e.isGenerationClock = true ∧ (step m c e).sampleIndex ≠ c.sampleIndex

theorem waveTimerReload_pos (periodValue : U16) : 0 < waveTimerReload periodValue := by
  have hle : (periodValue &&& pulsePeriodMax).toNat ≤ 2047 := by
    rw [BitVec.toNat_and]
    exact Nat.and_le_right
  unfold waveTimerReload
  omega

theorem nextSampleIndex_ne (sampleIndex : U8) :
    (sampleIndex + 1) % waveSampleCount ≠ sampleIndex := by
  unfold waveSampleCount
  intro h
  have hnat := congrArg BitVec.toNat h
  rw [BitVec.toNat_umod, BitVec.toNat_add, show (1 : U8).toNat = 1 from rfl,
    show (32 : U8).toNat = 32 from rfl] at hnat
  omega

theorem tickFastTimer_last {c : Channel3State} (hactive : c.runtime.active = true)
    (hlast : c.periodTimer - 1 = 0) :
    c.tickFastTimer = { c with periodTimer := waveTimerReload c.periodValue }.advanceSample := by
  unfold tickFastTimer
  rw [hactive, if_neg (by decide)]
  dsimp only
  rw [if_pos hlast]

theorem tickFastTimer_counts {c : Channel3State} (hactive : c.runtime.active = true)
    (hmore : c.periodTimer - 1 ≠ 0) :
    c.tickFastTimer = { c with periodTimer := c.periodTimer - 1 } := by
  unfold tickFastTimer
  rw [hactive, if_neg (by decide)]
  dsimp only
  rw [if_neg hmore]

/-- An event that is not a generation clock keeps the timer and the sample. -/
theorem step_quiet {m : ApuModel} {c : Channel3State} {e : ChannelEvent Channel3Register}
    (he : LeavesStep m c e) (hquiet : e.isGenerationClock = false) :
    (step m c e).periodTimer = c.periodTimer ∧ (step m c e).sampleIndex = c.sampleIndex := by
  cases e with
  | tCycle clocked apuClock tCyclePhase =>
      obtain rfl : clocked = false := hquiet
      exact ⟨rfl, rfl⟩
  | clockLength => exact ⟨rfl, rfl⟩
  | clockSweep => exact ⟨rfl, rfl⟩
  | clockEnvelope => exact ⟨rfl, rfl⟩
  | clockPendingEvenEnvelope => exact ⟨rfl, rfl⟩
  | write register value speedMode nextStep =>
      obtain hwrite | hwrites := he.1
      · exact absurd hwrite.symm Bool.false_ne_true
      cases register with
      | nr30 => exact absurd hwrites Bool.false_ne_true
      | nr31 => exact absurd hwrites Bool.false_ne_true
      | nr32 => exact absurd hwrites Bool.false_ne_true
      | nr33 => exact ⟨rfl, rfl⟩
      | nr34 =>
          have htrigger : value &&& channelTriggerBit = 0 := of_decide_eq_true hwrites
          have hcontext : (nrx4WriteContext value nextStep).trigger = false := by
            simp [nrx4WriteContext, htrigger]
          show (c.writeNr34 value m.consoleModel nextStep).periodTimer = c.periodTimer ∧
            (c.writeNr34 value m.consoleModel nextStep).sampleIndex = c.sampleIndex
          unfold writeNr34
          dsimp only
          rw [hcontext, if_neg Bool.false_ne_true]
          exact ⟨rfl, rfl⟩

theorem step_clock {m : ApuModel} {c : Channel3State} {e : ChannelEvent Channel3Register}
    (hclock : e.isGenerationClock = true) : step m c e = c.beginTCycle.tickFastTimer := by
  cases e with
  | tCycle clocked apuClock tCyclePhase =>
      obtain rfl : clocked = true := hclock
      rfl
  | clockLength => exact absurd hclock Bool.false_ne_true
  | clockSweep => exact absurd hclock Bool.false_ne_true
  | clockEnvelope => exact absurd hclock Bool.false_ne_true
  | clockPendingEvenEnvelope => exact absurd hclock Bool.false_ne_true
  | write register value speedMode nextStep => exact absurd hclock Bool.false_ne_true

theorem countdown (m : ApuModel) :
    EventCountdown (step m) (fun c => c.runtime.active = true ∧ 0 < c.periodTimer) (LeavesStep m)
      ChannelEvent.isGenerationClock (movesWaveform m) periodTimer where
  inv {c e} hc he := by
    refine ⟨he.2, ?_⟩
    cases hclock : e.isGenerationClock with
    | false =>
        rw [(step_quiet he hclock).1]
        exact hc.2
    | true =>
        rw [step_clock hclock]
        by_cases hlast : c.periodTimer - 1 = 0
        · rw [tickFastTimer_last (c := c.beginTCycle) hc.1 hlast]
          exact waveTimerReload_pos _
        · rw [tickFastTimer_counts (c := c.beginTCycle) hc.1 hlast]
          exact Nat.pos_of_ne_zero hlast
  fires_iff {c e} hc he := by
    refine and_congr_right fun hclock => ?_
    have hpositive := hc.2
    rw [step_clock hclock]
    by_cases hlast : c.periodTimer - 1 = 0
    · rw [tickFastTimer_last (c := c.beginTCycle) hc.1 hlast]
      exact iff_of_true (nextSampleIndex_ne _) (by omega)
    · rw [tickFastTimer_counts (c := c.beginTCycle) hc.1 hlast]
      exact iff_of_false (fun hmoves => hmoves rfl) (by omega)
  quiet {c e} _ he hquiet := (step_quiet he hquiet).1
  count {c e} hc he hclock hmore := by
    have hpositive := hc.2
    rw [step_clock hclock, tickFastTimer_counts (c := c.beginTCycle) hc.1
      (by show c.periodTimer - 1 ≠ 0; omega)]
    show c.periodTimer - 1 + 1 = c.periodTimer
    omega

end Channel3State

/-! ## Channel 4 -/

namespace Channel4State

def noiseClock (c : Channel4State) : NoiseClock :=
  { clockShift := c.noise.clockShift
    dividerCode := c.noise.clockDividerCode
    subphase := c.nr43LiveWrite.alignmentSubphase
    timer := c.nr43LiveWrite.counterTimer
    counter := c.nr43LiveWrite.noiseCounter }

/-- Nothing is written, no trigger is still to come, and the channel stays active. -/
def LeavesStep (m : ApuModel) (c : Channel4State) (e : ChannelEvent Channel4Register) : Prop :=
  e.isWrite = false ∧ c.dmgDelayedStart = 0 ∧ (step m c e).runtime.active = true

/-- A generation clock at which the chosen bit of the hidden counter rises. -/
def movesWaveform (m : ApuModel) (c : Channel4State) (e : ChannelEvent Channel4Register) : Prop :=
  e.isGenerationClock = true ∧ c.runtime.active = true ∧
    c.hiddenCounterBit = false ∧ (step m c e).hiddenCounterBit = true

instance (m : ApuModel) (c : Channel4State) (e : ChannelEvent Channel4Register) :
    Decidable (c.movesWaveform m e) :=
  inferInstanceAs (Decidable (_ ∧ _))

theorem tickPeriodTimer_keeps (c : Channel4State) :
    c.tickPeriodTimer.noiseClock = c.noiseClock ∧
      c.tickPeriodTimer.noise.lfsrState = c.noise.lfsrState ∧
      c.tickPeriodTimer.runtime = c.runtime ∧
      c.tickPeriodTimer.dmgDelayedStart = c.dmgDelayedStart ∧
      c.tickPeriodTimer.nr43LiveWrite = c.nr43LiveWrite := by
  unfold tickPeriodTimer
  split <;> exact ⟨rfl, rfl, rfl, rfl, rfl⟩

/-- What a clock of the hidden counter's prescaler does while the counter runs. -/
theorem tickNoiseCounterPhase_running {c : Channel4State} (hrun : c.hiddenCounterRunning = true)
    (hstep : c.nr43LiveWrite.alignmentSubphase = true) :
    c.tickNoiseCounterPhase.noiseClock = { c.noiseClock with subphase := false }.tick ∧
      c.tickNoiseCounterPhase.noise.lfsrState =
        (if c.runtime.active = true ∧ c.hiddenCounterBit = false ∧
            c.tickNoiseCounterPhase.hiddenCounterBit = true then
          stepChannel4Lfsr c.noise.shortWidthMode c.noise.lfsrState
        else c.noise.lfsrState) ∧
      c.tickNoiseCounterPhase.runtime = c.runtime ∧
      c.tickNoiseCounterPhase.dmgDelayedStart = c.dmgDelayedStart ∧
      c.tickNoiseCounterPhase.hiddenCounterRunning = true := by
  unfold tickNoiseCounterPhase
  rw [hrun, if_neg (by decide)]
  dsimp only
  have hcount : { c.noiseClock with subphase := false }.count =
      if c.nr43LiveWrite.counterTimer = 0 then noiseCounterTimerReload c.noise.clockDividerCode
      else c.nr43LiveWrite.counterTimer := rfl
  unfold NoiseClock.tick
  rw [hcount]
  by_cases hmore : 1 < (if c.nr43LiveWrite.counterTimer = 0 then
      noiseCounterTimerReload c.noise.clockDividerCode else c.nr43LiveWrite.counterTimer)
  · rw [if_pos hmore, if_pos hmore]
    refine ⟨?_, ?_, rfl, rfl, hrun⟩
    · simp only [noiseClock, setCounterTimer, hstep, Bool.false_eq_true, if_false]
    · refine (if_neg ?_).symm
      rintro ⟨-, hlow, hhigh⟩
      rw [show (c.setCounterTimer _ false).hiddenCounterBit = c.hiddenCounterBit from rfl,
        hlow] at hhigh
      exact Bool.false_ne_true hhigh
  · rw [if_neg hmore, if_neg hmore]
    split
    · next hrises =>
        simp only [Bool.and_eq_true, Bool.not_eq_true'] at hrises
        obtain ⟨⟨hhigh, hlow⟩, hactive⟩ := hrises
        refine ⟨?_, ?_, rfl, rfl, hrun⟩
        · simp only [noiseClock, stepLfsr, Channel4NoiseSignalState.stepLfsr,
            incrementHiddenCounter, setCounterTimer, hstep, NoiseClock.divisor,
            Bool.false_eq_true, if_false]
        · rw [if_pos ⟨hactive, hlow, hhigh⟩]
          rfl
    · next hrises =>
        simp only [Bool.and_eq_true, Bool.not_eq_true'] at hrises
        refine ⟨?_, ?_, rfl, rfl, hrun⟩
        · simp only [noiseClock, incrementHiddenCounter, setCounterTimer, hstep,
            NoiseClock.divisor, Bool.false_eq_true, if_false]
        · refine (if_neg ?_).symm
          rintro ⟨hactive, hlow, hhigh⟩
          exact hrises ⟨⟨hhigh, hlow⟩, hactive⟩

/-- What a generation clock does when no trigger is to come. -/
theorem tickFastTimer_quiet {c : Channel4State} (hstart : c.dmgDelayedStart = 0) :
    c.tickFastTimer = (if c.nr43LiveWrite.alignmentSubphase then c.tickAlignmentPhaseOnly.1
      else c.tickAlignmentPhaseOnly.1.tickNoiseCounterPhase).tickPeriodTimer := by
  unfold tickFastTimer
  cases hsub : c.nr43LiveWrite.alignmentSubphase with
  | true => simp [tickAlignmentPhaseOnly, hsub]
  | false => simp [tickAlignmentPhaseOnly, hsub, hstart]

theorem tickFastTimer_running {c : Channel4State} (hstart : c.dmgDelayedStart = 0)
    (hrun : c.hiddenCounterRunning = true) :
    c.tickFastTimer.noiseClock = c.noiseClock.tick ∧
      c.tickFastTimer.noise.lfsrState =
        (if c.runtime.active = true ∧ c.hiddenCounterBit = false ∧
            c.tickFastTimer.hiddenCounterBit = true then
          stepChannel4Lfsr c.noise.shortWidthMode c.noise.lfsrState
        else c.noise.lfsrState) ∧
      c.tickFastTimer.runtime = c.runtime ∧ c.tickFastTimer.dmgDelayedStart = 0 ∧
      c.tickFastTimer.hiddenCounterRunning = true := by
  rw [tickFastTimer_quiet hstart]
  cases hsub : c.nr43LiveWrite.alignmentSubphase with
  | true =>
      rw [if_pos rfl]
      obtain ⟨hclock, hlfsr, hruntime, hdelay, hlive⟩ :=
        tickPeriodTimer_keeps c.tickAlignmentPhaseOnly.1
      have hphase : c.tickAlignmentPhaseOnly.1.noiseClock = c.noiseClock.tick := by
        simp [noiseClock, NoiseClock.tick, tickAlignmentPhaseOnly, hsub]
      refine ⟨hclock.trans hphase, ?_, hruntime, hdelay.trans hstart, ?_⟩
      · rw [hlfsr]
        refine (if_neg ?_).symm
        rintro ⟨-, hlow, hhigh⟩
        rw [show c.tickAlignmentPhaseOnly.1.tickPeriodTimer.hiddenCounterBit =
          c.tickAlignmentPhaseOnly.1.tickPeriodTimer.noiseClock.bit from rfl, hclock] at hhigh
        exact Bool.false_ne_true (hlow.symm.trans hhigh)
      · unfold hiddenCounterRunning
        rw [hlive]
        exact hrun
  | false =>
      rw [if_neg Bool.false_ne_true]
      obtain ⟨hclock, hlfsr, hruntime, hdelay, hlive⟩ :=
        tickPeriodTimer_keeps c.tickAlignmentPhaseOnly.1.tickNoiseCounterPhase
      obtain ⟨hclock', hlfsr', hruntime', hdelay', hrun'⟩ :=
        tickNoiseCounterPhase_running (c := c.tickAlignmentPhaseOnly.1) hrun
          (by simp [tickAlignmentPhaseOnly, hsub])
      have hphase : { c.tickAlignmentPhaseOnly.1.noiseClock with subphase := false } =
          c.noiseClock := by
        simp [noiseClock, tickAlignmentPhaseOnly, hsub]
      refine ⟨?_, ?_, hruntime.trans hruntime', (hdelay.trans hdelay').trans hstart, ?_⟩
      · rw [hclock, hclock', hphase]
      · rw [hlfsr, hlfsr']
        rw [show c.tickAlignmentPhaseOnly.1.tickNoiseCounterPhase.tickPeriodTimer.hiddenCounterBit =
          c.tickAlignmentPhaseOnly.1.tickNoiseCounterPhase.tickPeriodTimer.noiseClock.bit from rfl,
          hclock]
        rfl
      · unfold hiddenCounterRunning at hrun' ⊢
        rw [hlive]
        exact hrun'

theorem step_clock {m : ApuModel} {c : Channel4State} {e : ChannelEvent Channel4Register}
    (hclock : e.isGenerationClock = true) : step m c e = c.tickFastTimer := by
  cases e with
  | tCycle clocked apuClock tCyclePhase =>
      obtain rfl : clocked = true := hclock
      rfl
  | clockLength => exact absurd hclock Bool.false_ne_true
  | clockSweep => exact absurd hclock Bool.false_ne_true
  | clockEnvelope => exact absurd hclock Bool.false_ne_true
  | clockPendingEvenEnvelope => exact absurd hclock Bool.false_ne_true
  | write register value speedMode nextStep => exact absurd hclock Bool.false_ne_true

/-- An event that is not a generation clock keeps the counter and the feedback register. -/
theorem step_quiet {m : ApuModel} {c : Channel4State} {e : ChannelEvent Channel4Register}
    (he : LeavesStep m c e) (hquiet : e.isGenerationClock = false) :
    (step m c e).noise = c.noise ∧ (step m c e).nr43LiveWrite = c.nr43LiveWrite ∧
      (step m c e).dmgDelayedStart = 0 := by
  cases e with
  | tCycle clocked apuClock tCyclePhase =>
      obtain rfl : clocked = false := hquiet
      exact ⟨rfl, rfl, he.2.1⟩
  | clockLength => exact ⟨rfl, rfl, he.2.1⟩
  | clockSweep => exact ⟨rfl, rfl, he.2.1⟩
  | clockEnvelope => exact ⟨rfl, rfl, he.2.1⟩
  | clockPendingEvenEnvelope => exact ⟨rfl, rfl, he.2.1⟩
  | write register value speedMode nextStep =>
      exact absurd he.1.symm Bool.false_ne_true

theorem noiseClock_congr {c d : Channel4State} (hnoise : c.noise = d.noise)
    (hlive : c.nr43LiveWrite = d.nr43LiveWrite) : c.noiseClock = d.noiseClock := by
  unfold noiseClock
  rw [hnoise, hlive]

/-- The hidden counter of an active channel runs and its bit can rise. -/
structure Counting (c : Channel4State) : Prop where
  active : c.runtime.active = true
  started : c.dmgDelayedStart = 0
  running : c.hiddenCounterRunning = true
  clocked : noiseClockingSuppressed c.noise.clockShift = false

theorem Counting.step_clock {m : ApuModel} {c : Channel4State} (hc : c.Counting)
    {e : ChannelEvent Channel4Register} (hclock : e.isGenerationClock = true) :
    (step m c e).Counting ∧ (step m c e).noiseClock = c.noiseClock.tick := by
  rw [Channel4State.step_clock hclock]
  obtain ⟨htick, -, hruntime, hstart, hrun⟩ := tickFastTimer_running hc.started hc.running
  refine ⟨⟨by rw [hruntime]; exact hc.active, hstart, hrun, ?_⟩, htick⟩
  rw [show c.tickFastTimer.noise.clockShift = c.tickFastTimer.noiseClock.clockShift from rfl,
    htick, NoiseClock.tick_clockShift]
  exact hc.clocked

theorem countdown (m : ApuModel) :
    EventCountdown (step m) Counting (LeavesStep m) ChannelEvent.isGenerationClock
      (movesWaveform m) (fun c => c.noiseClock.clocksToRise) where
  inv {c e} hc he := by
    cases hclock : e.isGenerationClock with
    | true => exact (hc.step_clock hclock).1
    | false =>
        obtain ⟨hnoise, hlive, hstart⟩ := step_quiet he hclock
        refine ⟨he.2.2, hstart, ?_, by rw [hnoise]; exact hc.clocked⟩
        unfold hiddenCounterRunning
        rw [hlive]
        exact hc.running
  fires_iff {c e} hc he := by
    refine and_congr_right fun hclock => ?_
    rw [← NoiseClock.tick_rises_iff hc.clocked, ← (hc.step_clock (m := m) hclock).2]
    exact and_iff_right hc.active
  quiet {c e} _ he hquiet := by
    obtain ⟨hnoise, hlive, -⟩ := step_quiet he hquiet
    rw [noiseClock_congr hnoise hlive]
  count {c e} hc he hclock hmore := by
    rw [(hc.step_clock hclock).2]
    exact NoiseClock.tick_counts hc.clocked hmore

end Channel4State

/-! ## All channels -/

def cgbApu : ApuModel := ⟨.gameBoyColor, .cpuCgbD⟩

end GbCycle
