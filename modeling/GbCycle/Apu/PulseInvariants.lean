import GbCycle.Apu.LengthLaws
import GbCycle.Apu.Registers

/-!
# What holds of a pulse channel at any time

Whatever happens to a pulse channel, its counters and its volume stay in their ranges, its DAC and
its length enable are the ones that its registers say, and it plays only while its DAC is on, its
length counter has not run out, and it has left its stand-still after the power came on.

The sweep of channel 1 moves the period and may stop the channel; it leaves the rest alone.
-/

namespace GbCycle

theorem and_le_mask (value mask : U8) : value &&& mask ≤ mask := by
  rw [BitVec.le_def, BitVec.toNat_and]
  exact Nat.and_le_right

/-! ## Envelopes -/

namespace EnvelopeState

structure Bounded (e : EnvelopeState) : Prop where
  initialVolume : e.initialVolume ≤ maxEnvelopeVolume
  currentVolume : e.currentVolume ≤ maxEnvelopeVolume
  pace : e.pace ≤ envelopePaceMask
  timer : e.timer ≤ 9

variable {e : EnvelopeState}

theorem bounded_default : default.Bounded := by constructor <;> decide

theorem envelopeTimerReload_le {pace : U8} (h : pace ≤ envelopePaceMask) :
    envelopeTimerReload pace ≤ 8 := by
  unfold envelopeTimerReload
  unfold envelopePaceMask at h
  split
  · decide
  · bv_omega

theorem shifted_volume_le (value : U8) :
    (value &&& envelopeInitialVolumeMask) >>> envelopeInitialVolumeShift ≤ maxEnvelopeVolume := by
  have hlt := value.isLt
  have hle : (value &&& envelopeInitialVolumeMask).toNat ≤ value.toNat := by
    rw [BitVec.toNat_and]
    exact Nat.and_le_left
  rw [BitVec.le_def, BitVec.toNat_ushiftRight, Nat.shiftRight_eq_div_pow]
  show _ / 2 ^ 4 ≤ 15
  omega

theorem Bounded.applyWrite (h : e.Bounded) (value : U8) : (e.applyWrite value).Bounded :=
  { h with
    initialVolume := shifted_volume_le value
    pace := and_le_mask value envelopePaceMask }

theorem Bounded.reload (h : e.Bounded) (nextStepClocksEnvelope : Bool) :
    (e.reload nextStepClocksEnvelope).Bounded := by
  refine { h with currentVolume := h.initialVolume, timer := ?_ }
  have hle := envelopeTimerReload_le h.pace
  unfold EnvelopeState.reload
  dsimp only
  split <;> bv_omega

theorem inverted_volume_le {volume : U8} (h : volume ≤ maxEnvelopeVolume) :
    volume ^^^ maxEnvelopeVolume ≤ maxEnvelopeVolume := by
  rw [BitVec.le_def] at h ⊢
  rw [BitVec.toNat_xor]
  exact Nat.le_of_lt_succ (Nat.xor_lt_two_pow (n := 4) (Nat.lt_succ_of_le h) (by decide))

theorem applyCgbZombieModeWrite_le {volume : U8} (h : volume ≤ maxEnvelopeVolume)
    (newValue oldValue : U8) (volumeUpdatesLocked : Bool) :
    applyCgbZombieModeWrite volume newValue oldValue volumeUpdatesLocked ≤ maxEnvelopeVolume := by
  unfold applyCgbZombieModeWrite
  dsimp only
  split
  · split
    · exact h
    · split
      · split
        · exact inverted_volume_le h
        · exact and_le_mask _ _
      · exact and_le_mask _ _
  · split
    · exact and_le_mask _ _
    · exact and_le_mask _ _

theorem Bounded.applyLiveWriteEffect (h : e.Bounded) (consoleModel : ConsoleModel) (active : Bool)
    (value : U8) : (e.applyLiveWriteEffect consoleModel active value).Bounded := by
  have hwritten : ∀ volume : U8, volume ≤ maxEnvelopeVolume →
      ({ e with currentVolume := volume }.applyWrite value).Bounded := by
    intro volume hvolume
    have hset : ({ e with currentVolume := volume } : EnvelopeState).Bounded :=
      { h with currentVolume := hvolume }
    exact hset.applyWrite value
  unfold EnvelopeState.applyLiveWriteEffect
  dsimp only
  split
  · exact h
  · split
    · have hzombie := hwritten _ (applyCgbZombieModeWrite_le h.currentVolume value
        (encodeEnvelopeRegister e.initialVolume e.increase e.pace)
        (e.pace ≠ 0 && !e.automaticUpdatesEnabled))
      split
      · refine { hzombie with timer := ?_ }
        have hpace := hzombie.pace
        unfold envelopePaceMask at hpace
        dsimp only
        split
        · bv_omega
        · decide
      · exact { hzombie with }
    · refine { h with currentVolume := ?_ }
      show applyConsistentZombieModeIncrement e.currentVolume value ≤ maxEnvelopeVolume
      unfold applyConsistentZombieModeIncrement
      split
      · exact h.currentVolume
      · exact and_le_mask _ _

theorem Bounded.moveVolume (h : e.Bounded) : e.moveVolume.Bounded := by
  have hvolume := h.currentVolume
  unfold EnvelopeState.moveVolume
  split
  · split
    · next hless =>
        refine { h with currentVolume := ?_ }
        show e.currentVolume + 1 ≤ maxEnvelopeVolume
        unfold maxEnvelopeVolume at hvolume hless ⊢
        bv_omega
    · exact { h with }
  · split
    · next hmore =>
        refine { h with currentVolume := ?_ }
        show e.currentVolume - 1 ≤ maxEnvelopeVolume
        unfold maxEnvelopeVolume at hvolume ⊢
        bv_omega
    · exact { h with }

theorem Bounded.clock (h : e.Bounded) : e.clock.Bounded := by
  have hreload := envelopeTimerReload_le h.pace
  have htimer : (if 0 < e.timer then e.timer - 1 else e.timer) ≤ 9 := by
    have hle := h.timer
    split
    · bv_omega
    · exact hle
  have hset : ∀ (timer : U8) (short : Bool), timer ≤ 9 →
      ({ e with timer, cgbLiveWriteShortReload := short } : EnvelopeState).Bounded :=
    fun _ _ hle => { h with timer := hle }
  unfold EnvelopeState.clock
  dsimp only
  generalize (if 0 < e.timer then e.timer - 1 else e.timer) = timer at htimer ⊢
  split
  · exact h
  · split
    · exact hset timer e.cgbLiveWriteShortReload htimer
    · split
      · have hpositive : 0 < envelopeTimerReload e.pace := by
          unfold envelopeTimerReload
          split
          · decide
          · bv_omega
        exact (hset (envelopeTimerReload e.pace - 1) false (by bv_omega)).moveVolume
      · exact (hset (envelopeTimerReload e.pace) e.cgbLiveWriteShortReload
          (by bv_omega)).moveVolume

theorem Bounded.clockCgbLiveWritePendingEvenTick (h : e.Bounded) :
    e.clockCgbLiveWritePendingEvenTick.Bounded := by
  unfold EnvelopeState.clockCgbLiveWritePendingEvenTick
  split
  · exact h
  · have hcleared : ({ e with cgbLiveWritePendingEvenTick := false } : EnvelopeState).Bounded :=
      { h with }
    exact hcleared.clock

end EnvelopeState

/-! ## Length counters -/

/-- A length counter at or below its full value, and not empty while its channel plays. -/
structure LengthCounter.Valid (full : Nat) (l : LengthCounter) : Prop where
  le : l.counter ≤ full
  playing : l.active = true → l.counter ≠ 0

namespace LengthCounter

variable {full : Nat} {l : LengthCounter}

theorem Valid.clock (h : l.Valid full) (lengthEnabled : Bool) :
    (clockLengthCounter lengthEnabled l).Valid full := by
  unfold clockLengthCounter
  split
  · exact h
  · next hcounts =>
      have hle := h.le
      refine ⟨by dsimp only; omega, ?_⟩
      intro hplaying hzero
      dsimp only at hplaying hzero
      simp only [Bool.and_eq_true, decide_eq_true_eq] at hplaying
      have hcounter : l.counter ≠ 0 := fun hempty => hcounts (.inr hempty)
      exact hplaying.2 (by omega)

theorem Valid.extraClock (h : l.Valid full) (hfull : 1 < full) (context : Nrx4WriteContext)
    (wasLengthEnabled reloaded : Bool) :
    (applyExtraLengthClocking context wasLengthEnabled reloaded full l).Valid full := by
  have hle := h.le
  unfold applyExtraLengthClocking
  dsimp only
  split
  · exact h
  · split
    · split
      · exact ⟨by dsimp only; omega, fun _ => by dsimp only; omega⟩
      · exact ⟨by dsimp only; omega, fun hplaying => absurd hplaying Bool.false_ne_true⟩
    · next hleft => exact ⟨by dsimp only; omega, fun _ => hleft⟩

end LengthCounter

theorem pulseLengthCounterFromLoad_le (value : U8) :
    pulseLengthCounterFromLoad value ≤ pulseLengthCounterReload := Nat.sub_le _ _

theorem waveLengthCounterFromLoad_le (value : U8) :
    waveLengthCounterFromLoad value ≤ waveLengthCounterReload := Nat.sub_le _ _

theorem waveLengthCounterFromLoad_pos (value : U8) : 0 < waveLengthCounterFromLoad value := by
  have hlt := value.isLt
  unfold waveLengthCounterFromLoad waveLengthCounterReload
  omega

/-! ## The pulse channels -/

namespace PulseChannelState

structure Valid (p : PulseChannelState) : Prop where
  length : p.length.Valid pulseLengthCounterReload
  playing_dac : p.runtime.active = true → p.runtime.dacEnabled = true
  playing_runs : p.runtime.active = true →
    p.firstTriggerAfterPowerOnPending = false ∧ p.timerStoppedByDacDisable = false
  duty : p.duty ≤ 3
  pendingDuty : ∀ duty ∈ p.pendingDuty, duty ≤ 3
  dutyStep : p.dutyStep ≤ pulseDutyStepMask
  periodTimer : p.periodTimer ≤ 8192
  triggerDelay : p.triggerDelayTCycles < 24
  powerOnPhase : p.powerOnPhase < 8
  sampleWindow : p.justSampledReloadClocksRemaining ≤ 3
  envelope : p.envelope.Bounded

variable {p : PulseChannelState}

theorem valid_default : default.Valid where
  length := ⟨Nat.zero_le _, fun hplaying => absurd hplaying Bool.false_ne_true⟩
  playing_dac := fun hplaying => absurd hplaying Bool.false_ne_true
  playing_runs := fun hplaying => absurd hplaying Bool.false_ne_true
  duty := by decide
  pendingDuty := fun _ hnone => Option.not_mem_none _ hnone |>.elim
  dutyStep := by decide
  periodTimer := Nat.zero_le _
  triggerDelay := by decide
  powerOnPhase := by decide
  sampleWindow := Nat.zero_le _
  envelope := EnvelopeState.bounded_default

theorem pulseTimerReload_le (periodValue : U16) : pulseTimerReload periodValue ≤ 8192 := by
  unfold pulseTimerReload
  omega

theorem duty_le (value : U8) : (value &&& pulseDutyMask) >>> pulseDutyShift ≤ 3 := by
  have hle : (value &&& pulseDutyMask).toNat ≤ 255 := Nat.le_of_lt_succ (BitVec.isLt _)
  rw [BitVec.le_def, BitVec.toNat_ushiftRight, Nat.shiftRight_eq_div_pow]
  show _ / 2 ^ 6 ≤ 3
  omega

/-- The sweep stops a channel. -/
theorem Valid.stopped (h : p.Valid) :
    ({ p with runtime := { p.runtime with active := false } } : PulseChannelState).Valid :=
  { h with
    length := ⟨h.length.le, fun hplaying => absurd hplaying Bool.false_ne_true⟩
    playing_dac := fun hplaying => absurd hplaying Bool.false_ne_true
    playing_runs := fun hplaying => absurd hplaying Bool.false_ne_true }

theorem Valid.setLength (h : p.Valid) {l : LengthCounter} (hl : l.Valid pulseLengthCounterReload)
    (hactive : l.active = true → p.runtime.active = true) : (p.setLength l).Valid :=
  { h with
    length := ⟨hl.le, hl.playing⟩
    playing_dac := fun hplaying => h.playing_dac (hactive hplaying)
    playing_runs := fun hplaying => h.playing_runs (hactive hplaying) }

theorem Valid.clockLength (h : p.Valid) : p.clockLength.Valid := by
  refine h.setLength (h.length.clock p.lengthEnabled) ?_
  unfold clockLengthCounter
  split
  · exact id
  · intro hplaying
    exact (Bool.and_eq_true_iff.mp hplaying).1

theorem Valid.clockEnvelope (h : p.Valid) : p.clockEnvelope.Valid :=
  { h with envelope := h.envelope.clock }

theorem Valid.clockPendingEvenEnvelope (h : p.Valid) :
    p.clockCgbLiveWritePendingEvenEnvelopeTick.Valid :=
  { h with envelope := h.envelope.clockCgbLiveWritePendingEvenTick }

/-! ### The registers -/

theorem Valid.applyLengthDutyWrite (h : p.Valid) (value : U8) :
    (p.applyLengthDutyWrite value).Valid := by
  have hloaded : ∀ q : PulseChannelState, q.Valid →
      ({ q with lengthCounter := pulseLengthCounterFromLoad value } : PulseChannelState).Valid :=
    fun _ hq => { hq with
      length := ⟨pulseLengthCounterFromLoad_le value,
        fun _ => Nat.pos_iff_ne_zero.mp (pulseLengthCounterFromLoad_pos value)⟩ }
  unfold PulseChannelState.applyLengthDutyWrite
  dsimp only
  split
  · refine hloaded _ { h with pendingDuty := ?_ }
    rintro duty ⟨⟩
    exact duty_le value
  · refine hloaded _ { h with duty := duty_le value, pendingDuty := ?_ }
    intro duty hnone
    exact (Option.not_mem_none _ hnone).elim

theorem Valid.writeLengthCounterWhilePoweredOff (h : p.Valid) (value : U8) :
    (p.writeLengthCounterWhilePoweredOff value).Valid :=
  { h with
    length := ⟨pulseLengthCounterFromLoad_le value,
      fun _ => Nat.pos_iff_ne_zero.mp (pulseLengthCounterFromLoad_pos value)⟩ }

theorem Valid.applyLiveEnvelopeWriteEffect (h : p.Valid) (consoleModel : ConsoleModel)
    (value : U8) : (p.applyLiveEnvelopeWriteEffect consoleModel value).Valid :=
  { h with envelope := h.envelope.applyLiveWriteEffect consoleModel p.runtime.active value }

theorem Valid.applyDacEnabled (h : p.Valid) (dacEnabled : Bool) :
    (p.applyDacEnabled dacEnabled).Valid := by
  unfold PulseChannelState.applyDacEnabled ChannelRuntimeState.setDacEnabled
  cases dacEnabled with
  | true =>
      exact { h with
        length := ⟨h.length.le, fun hplaying =>
          h.length.playing (Bool.and_eq_true_iff.mp hplaying).1⟩
        playing_dac := fun _ => rfl
        playing_runs := fun hplaying => h.playing_runs (Bool.and_eq_true_iff.mp hplaying).1 }
  | false =>
      have hquiet : (p.runtime.active && false) ≠ true := by
        rw [Bool.and_false]
        exact Bool.false_ne_true
      exact { h with
        length := ⟨h.length.le, fun hplaying => absurd hplaying hquiet⟩
        playing_dac := fun hplaying => absurd hplaying hquiet
        playing_runs := fun hplaying => absurd hplaying hquiet
        triggerDelay := (show 0 < 24 by decide)
        sampleWindow := Nat.zero_le _ }

theorem Valid.reloadPeriod (h : p.Valid) (periodValue : U16) :
    (p.reloadPeriodAfterWriteIfJustSampled periodValue).Valid := by
  unfold reloadPeriodAfterWriteIfJustSampled
  split
  · exact { h with periodTimer := pulseTimerReload_le periodValue }
  · exact h

theorem cgbPulseTriggerDelayTCycles_lt (consoleModel : ConsoleModel) (speedMode : CgbSpeedMode)
    (wasActive : Bool) (powerOnPhase : Nat) :
    cgbPulseTriggerDelayTCycles consoleModel speedMode wasActive powerOnPhase < 24 := by
  unfold cgbPulseTriggerDelayTCycles
  split
  · decide
  · cases wasActive <;> cases speedMode <;> dsimp only <;> omega

/-- A trigger plays the channel if its DAC is on, with a length counter that it has reloaded. -/
theorem Valid.trigger (h : p.Valid) (consoleModel : ConsoleModel) (speedMode : CgbSpeedMode)
    (periodValue : U16) (envelopeValue : U8) (nextStepClocksEnvelope : Bool) :
    (p.trigger consoleModel speedMode periodValue envelopeValue nextStepClocksEnvelope).1.Valid := by
  have hdac : p.runtime.trigger.active = true → p.runtime.dacEnabled = true := by
    unfold ChannelRuntimeState.trigger
    split
    · next hon => exact fun _ => hon
    · exact h.playing_dac
  have hkept : p.runtime.trigger.dacEnabled = p.runtime.dacEnabled := by
    unfold ChannelRuntimeState.trigger
    split <;> rfl
  have hlength : ∀ counter enabled,
      counter = (if p.lengthCounter = 0 then pulseLengthCounterReload else p.lengthCounter) →
      (({ p with lengthCounter := counter, lengthEnabled := enabled, runtime := p.runtime.trigger }
        : PulseChannelState).length).Valid pulseLengthCounterReload := by
    rintro counter enabled rfl
    have hle : p.lengthCounter ≤ pulseLengthCounterReload := h.length.le
    unfold pulseLengthCounterReload at hle ⊢
    constructor
    · show (if p.lengthCounter = 0 then _ else _) ≤ _
      split
      · exact Nat.le_refl _
      · exact hle
    · intro _
      show (if p.lengthCounter = 0 then _ else _) ≠ _
      split
      · decide
      · next hsome => exact hsome
  have htimer : pulseTimerReloadPreservingTriggerPhase periodValue p.periodTimer ≤ 8192 :=
    Nat.le_trans (Nat.sub_le _ _) (pulseTimerReload_le periodValue)
  have hdelay := cgbPulseTriggerDelayTCycles_lt consoleModel speedMode p.runtime.active
    p.powerOnPhase
  have henvelope := (h.envelope.applyWrite envelopeValue).reload nextStepClocksEnvelope
  unfold PulseChannelState.trigger
  by_cases hzero : p.lengthCounter = 0
  · simp only [hzero, decide_true, if_true]
    exact { h with
      length := hlength _ false (by rw [if_pos hzero])
      playing_dac := fun hplaying => hkept.trans (hdac hplaying)
      playing_runs := fun hplaying => ⟨rfl, if_pos hplaying⟩
      periodTimer := htimer
      triggerDelay := hdelay
      envelope := henvelope }
  · simp only [hzero, decide_false, Bool.false_eq_true, if_false]
    exact { h with
      length := hlength _ p.lengthEnabled (by rw [if_neg hzero])
      playing_dac := fun hplaying => hkept.trans (hdac hplaying)
      playing_runs := fun hplaying => ⟨rfl, if_pos hplaying⟩
      periodTimer := htimer
      triggerDelay := hdelay
      envelope := henvelope }

theorem Valid.finishNrx4Write (h : p.Valid) (context : Nrx4WriteContext)
    (wasLengthEnabled reloaded : Bool) :
    (p.finishNrx4Write context wasLengthEnabled reloaded).Valid := by
  have henabled : ({ p with lengthEnabled := context.lengthEnabled } : PulseChannelState).Valid :=
    { h with }
  refine henabled.setLength (h.length.extraClock (by decide) context wasLengthEnabled reloaded) ?_
  unfold applyExtraLengthClocking
  dsimp only
  split
  · exact id
  · split
    · split
      · exact id
      · exact fun hplaying => absurd hplaying Bool.false_ne_true
    · exact id

/-! ### The clocks -/

theorem Valid.tick (h : p.Valid) (periodValue : U16) (clockPeriodTimer : Bool) :
    (p.tickFastTimerWithClockGate periodValue clockPeriodTimer).Valid := by
  have hwindow : (if clockPeriodTimer then p.closeSampleWindow else p).Valid := by
    have hle := h.sampleWindow
    unfold closeSampleWindow
    split
    · split
      · exact { h with sampleWindow := by dsimp only; omega }
      · exact h
    · exact h
  unfold tickFastTimerWithClockGate
  dsimp only
  generalize (if clockPeriodTimer then p.closeSampleWindow else p) = q at hwindow
  split
  · exact { hwindow with powerOnPhase := Nat.mod_lt _ (by decide) }
  · split
    · have hdelay := hwindow.triggerDelay
      exact { hwindow with triggerDelay := by dsimp only; omega }
    · split
      · exact hwindow
      · split
        · exact hwindow
        · split
          · unfold advanceDuty
            refine { hwindow with
              duty := ?_
              pendingDuty := fun _ hnone => (Option.not_mem_none _ hnone).elim
              dutyStep := and_le_mask _ _
              periodTimer := pulseTimerReload_le periodValue
              sampleWindow := Nat.le_refl 3 }
            have hpending := hwindow.pendingDuty
            dsimp only
            cases hsome : q.pendingDuty with
            | none => exact hwindow.duty
            | some duty => exact hpending duty hsome
          · have htimer := hwindow.periodTimer
            exact { hwindow with periodTimer := by dsimp only; omega }

/-! ### The power -/

theorem Valid.powerOff (h : p.Valid) (consoleModel : ConsoleModel) :
    (p.powerOff consoleModel).Valid := by
  unfold PulseChannelState.powerOff
  split
  · exact { valid_default with
      length := ⟨h.length.le, fun hplaying => absurd hplaying Bool.false_ne_true⟩ }
  · exact valid_default

theorem Valid.markPoweredOn (h : p.Valid) (hquiet : p.runtime.active = false) :
    p.markPoweredOn.Valid :=
  { h with
    playing_runs := fun hplaying => absurd (hquiet.symm.trans hplaying) Bool.false_ne_true
    triggerDelay := (show 0 < 24 by decide)
    powerOnPhase := (show 0 < 8 by decide)
    sampleWindow := Nat.zero_le _ }

theorem valid_applyChannelStartup (lengthDutyValue envelopeValue nrx4 : U8) (periodValue : U16)
    (dacEnabled active : Bool) :
    (applyChannelStartup lengthDutyValue envelopeValue nrx4 periodValue dacEnabled
      active).Valid := by
  have hloaded := valid_default.applyLengthDutyWrite lengthDutyValue
  have hcounter := (hloaded.writeLengthCounterWhilePoweredOff lengthDutyValue).length.le
  unfold applyChannelStartup applyPoweredStartup
  refine { hloaded with
    length := ⟨hcounter, fun _ => ?_⟩
    playing_dac := fun hplaying => (Bool.and_eq_true_iff.mp hplaying).1
    playing_runs := fun hplaying => ?_
    periodTimer := pulseTimerReload_le periodValue
    envelope := (hloaded.envelope.applyWrite envelopeValue).reload false }
  · exact Nat.pos_iff_ne_zero.mp (pulseLengthCounterFromLoad_pos lengthDutyValue)
  · obtain ⟨hdac, hactive⟩ := Bool.and_eq_true_iff.mp hplaying
    refine ⟨?_, ?_⟩
    · show (!active) = false
      rw [hactive, Bool.not_true]
    · show (!dacEnabled) = false
      rw [show dacEnabled = true from hdac, Bool.not_true]

theorem Valid.currentDigitalOutput_le (h : p.Valid) :
    p.currentDigitalOutput ≤ maxEnvelopeVolume := by
  unfold currentDigitalOutput
  split
  · decide
  · split
    · decide
    · split
      · exact h.envelope.currentVolume
      · decide

end PulseChannelState


/-! ## Channel 1 -/

namespace PulseChannelState

variable {p q : PulseChannelState}

/-- A pulse that has been stopped. -/
def quieted (p : PulseChannelState) : PulseChannelState :=
  { p with runtime := { p.runtime with active := false } }

/-- A pulse that may have been stopped, and is otherwise the same. -/
theorem Valid.of_quieted (h : p.Valid) (hsame : q.quieted = p.quieted)
    (hactive : q.runtime.active = true → p.runtime.active = true) : q.Valid := by
  have hrestart : ∀ r : PulseChannelState, r.runtime.active = true →
      r = { r.quieted with runtime := { r.quieted.runtime with active := true } } := by
    intro r hr
    rw [← hr]
    rfl
  cases hplaying : q.runtime.active with
  | false =>
      have hq : q = q.quieted := by
        unfold quieted
        rw [← hplaying]
      rw [hq, hsame]
      exact h.stopped
  | true =>
      rw [hrestart q hplaying, hsame, ← hrestart p (hactive hplaying)]
      exact h

theorem applyLengthDutyWrite_keeps (p : PulseChannelState) (value : U8) :
    (p.applyLengthDutyWrite value).runtime = p.runtime ∧
      (p.applyLengthDutyWrite value).lengthEnabled = p.lengthEnabled := by
  unfold applyLengthDutyWrite
  dsimp only
  split <;> exact ⟨rfl, rfl⟩

theorem applyDacEnabled_keeps (p : PulseChannelState) (dacEnabled : Bool) :
    (p.applyDacEnabled dacEnabled).runtime.dacEnabled = dacEnabled ∧
      (p.applyDacEnabled dacEnabled).lengthEnabled = p.lengthEnabled := by
  unfold applyDacEnabled
  dsimp only
  split <;> exact ⟨rfl, rfl⟩

theorem reloadPeriod_keeps (p : PulseChannelState) (periodValue : U16) :
    (p.reloadPeriodAfterWriteIfJustSampled periodValue).runtime = p.runtime ∧
      (p.reloadPeriodAfterWriteIfJustSampled periodValue).lengthEnabled = p.lengthEnabled := by
  unfold reloadPeriodAfterWriteIfJustSampled
  split <;> exact ⟨rfl, rfl⟩

theorem trigger_dacEnabled (p : PulseChannelState) (consoleModel : ConsoleModel)
    (speedMode : CgbSpeedMode) (periodValue : U16) (envelopeValue : U8)
    (nextStepClocksEnvelope : Bool) :
    (p.trigger consoleModel speedMode periodValue envelopeValue
      nextStepClocksEnvelope).1.runtime.dacEnabled = p.runtime.dacEnabled := by
  have hkept : ∀ r : ChannelRuntimeState, r.trigger.dacEnabled = r.dacEnabled := by
    intro r
    unfold ChannelRuntimeState.trigger
    split <;> rfl
  unfold trigger
  dsimp only
  split
  · exact hkept p.runtime
  · exact hkept p.runtime

end PulseChannelState

namespace Channel1State

/-- What the sweep leaves alone: the registers but for the period, and the pulse but for whether it
plays. -/
def frame (c : Channel1State) : U8 × U8 × U8 × U8 × PulseChannelState :=
  (c.nr10, c.nr11, c.nr12, c.nr14 &&& ~~~periodHighMask, c.pulse.quieted)

/-- The sweep has moved, and may have stopped the channel. -/
structure Sweeps (c d : Channel1State) : Prop where
  frame : d.frame = c.frame
  active : d.pulse.runtime.active = true → c.pulse.runtime.active = true

variable {c d e : Channel1State}

theorem Sweeps.refl (c : Channel1State) : Sweeps c c := ⟨rfl, id⟩

theorem Sweeps.trans (h : Sweeps c d) (h' : Sweeps d e) : Sweeps c e :=
  ⟨h'.frame.trans h.frame, fun hplaying => h.active (h'.active hplaying)⟩

theorem Sweeps.ite {condition : Prop} [Decidable condition] (hd : Sweeps c d) (he : Sweeps c e) :
    Sweeps c (if condition then d else e) := by
  split
  · exact hd
  · exact he

theorem sweeps_sweep (c : Channel1State) (sweep : Channel1SweepState) :
    Sweeps c { c with sweep } := ⟨rfl, id⟩

theorem sweeps_stop (c : Channel1State) : Sweeps c c.stop :=
  ⟨rfl, fun hplaying => absurd hplaying Bool.false_ne_true⟩

theorem sweeps_writeBackPeriod (c : Channel1State) (candidate : U16) :
    Sweeps c (c.writeBackPeriod candidate) := by
  refine ⟨?_, id⟩
  have hhigh : ((c.nr14 &&& ~~~periodHighMask) ||| (candidate.high &&& periodHighMask)) &&&
      ~~~periodHighMask = c.nr14 &&& ~~~periodHighMask :=
    effective_and c.nr14 candidate.high (~~~periodHighMask) (by decide)
  unfold Channel1State.frame writeBackPeriod
  dsimp only
  rw [hhigh]

theorem sweeps_periodSweepRecalculationDone (c : Channel1State) :
    Sweeps c c.periodSweepRecalculationDone :=
  .ite ((sweeps_sweep c _).trans (sweeps_stop _)) (sweeps_sweep c _)

theorem sweeps_tickPeriodSweepRecalculation (c : Channel1State) (apuClock : Nat) :
    Sweeps c (c.tickPeriodSweepRecalculation apuClock) := by
  refine .ite ?_ (.ite (.refl c) (.ite (sweeps_sweep c _) (.ite (.refl c) (.ite (.refl c)
    (.ite ?_ (sweeps_sweep c _))))))
  · exact (sweeps_sweep c _).trans (sweeps_periodSweepRecalculationDone _)
  · exact (sweeps_sweep c _).trans (sweeps_periodSweepRecalculationDone _)

theorem sweeps_tickPeriodSweepReload (c : Channel1State) : Sweeps c c.tickPeriodSweepReload := by
  refine .ite (sweeps_sweep c _) (.ite ?_ (sweeps_sweep c _))
  exact sweeps_sweep c _

theorem sweeps_tickRecalculation (c : Channel1State) (apuClock tCyclePhase : Nat) :
    Sweeps c (c.tickRecalculation apuClock tCyclePhase) :=
  .ite (.refl c)
    ((sweeps_tickPeriodSweepRecalculation c apuClock).trans (sweeps_tickPeriodSweepReload _))

theorem sweeps_dmgScheduleRecalculationPostWriteback (c : Channel1State) :
    Sweeps c c.dmgScheduleRecalculationPostWriteback := by
  unfold dmgScheduleRecalculationPostWriteback
  dsimp only
  split
  · exact sweeps_sweep c _
  · exact sweeps_sweep c _

theorem sweeps_fireDmgSweepBoundary (c : Channel1State) : Sweeps c c.fireDmgSweepBoundary := by
  refine .ite (sweeps_sweep c _) ?_
  exact (sweeps_sweep c _).trans
    ((sweeps_writeBackPeriod _ _).trans (sweeps_dmgScheduleRecalculationPostWriteback _))

theorem sweeps_fireCgbSweepBoundary (c : Channel1State) (calculation : SweepCalculation) :
    Sweeps c (c.fireCgbSweepBoundary calculation) := by
  have hback := fun candidate => (sweeps_sweep c (c.sweep.observeCalculation calculation)).trans
    (sweeps_writeBackPeriod _ candidate)
  unfold fireCgbSweepBoundary
  dsimp only
  split
  · exact sweeps_sweep c _
  · split
    · exact hback _
    · exact (hback _).trans (sweeps_sweep _ _)

theorem sweeps_maybeFireSweepBoundary (c : Channel1State) (consoleModel : ConsoleModel) :
    Sweeps c (c.maybeFireSweepBoundary consoleModel) := by
  unfold maybeFireSweepBoundary
  dsimp only
  refine .ite (.refl c) (.ite (sweeps_sweep c _) ?_)
  split
  · exact sweeps_sweep c _
  · refine .ite ?_ ?_
    · exact (sweeps_sweep c _).trans (sweeps_fireCgbSweepBoundary _ _)
    · exact (sweeps_sweep c _).trans (sweeps_fireDmgSweepBoundary _)

theorem sweeps_clockSweep (c : Channel1State) (consoleModel : ConsoleModel) :
    Sweeps c (c.clockSweep consoleModel) :=
  .ite (sweeps_sweep c _) ((sweeps_sweep c _).trans (sweeps_maybeFireSweepBoundary _ _))

theorem sweeps_restartDmgNr10Countdown (c : Channel1State) (oldNr10 : U8) :
    Sweeps c (c.restartDmgNr10Countdown oldNr10) := by
  refine .ite (sweeps_sweep c _) (.ite (.ite ?_ (sweeps_sweep c _)) (.refl c))
  exact (sweeps_sweep c _).trans (sweeps_periodSweepRecalculationDone _)

theorem sweeps_applyDmgNr10Glitches (c : Channel1State) (oldNr10 : U8) :
    Sweeps c (c.applyDmgNr10Glitches oldNr10) := by
  have hchecked : Sweeps c c.checkDmgNr10Candidate := .ite (sweeps_stop c) (.refl c)
  have hrestarted := hchecked.trans (sweeps_restartDmgNr10Countdown _ oldNr10)
  exact .ite hchecked (.ite (hrestarted.trans (sweeps_maybeFireSweepBoundary _ _)) hrestarted)

/-- A write of NR10 sets the register, and then the sweep does what it does. -/
theorem sweeps_writeNr10 (c : Channel1State) (value : U8) (consoleModel : ConsoleModel) :
    Sweeps { c with nr10 := value &&& nr10WritableMask } (c.writeNr10 value consoleModel) := by
  unfold writeNr10
  dsimp only
  refine .trans ?_ (sweeps_maybeFireSweepBoundary _ _)
  refine .trans (d := if _ then stop _ else _) ?_ (.ite ?_ (.refl _))
  · exact .trans (.ite (sweeps_sweep _ _) (.refl _)) (.ite (sweeps_stop _) (.refl _))
  · exact (sweeps_sweep _ _).trans (sweeps_applyDmgNr10Glitches _ _)

theorem sweeps_tickDelayedCalculation (c : Channel1State) (clockGenerationTimer : Bool) :
    Sweeps c (c.tickDelayedCalculation clockGenerationTimer) := by
  unfold tickDelayedCalculation
  dsimp only
  refine .ite (.refl c) (.ite (sweeps_sweep c _) (.ite (sweeps_sweep c _) ?_))
  exact .trans (.ite ((sweeps_sweep c _).trans (sweeps_stop _)) (sweeps_sweep c _))
    (sweeps_sweep _ _)

end Channel1State


namespace Channel1State

structure Valid (c : Channel1State) : Prop where
  pulse : c.pulse.Valid
  dac : c.pulse.runtime.dacEnabled = c.derivedDacEnabled
  lengthEnabled : c.pulse.lengthEnabled = decide (c.nr14 &&& lengthEnableBit ≠ 0)
  nr10 : c.nr10 ≤ nr10WritableMask

variable {c d : Channel1State}

theorem valid_default : default.Valid :=
  ⟨PulseChannelState.valid_default, by decide, by decide, by decide⟩

theorem lengthEnableBit_high (nr14 : U8) :
    nr14 &&& ~~~periodHighMask &&& lengthEnableBit = nr14 &&& lengthEnableBit := by
  rw [BitVec.and_assoc]
  rfl

theorem lengthEnableBit_writable (value : U8) :
    value &&& nrx4WritableMask &&& lengthEnableBit = value &&& lengthEnableBit := by
  rw [BitVec.and_assoc]
  rfl

theorem Valid.sweeps (h : c.Valid) (hs : Sweeps c d) : d.Valid := by
  obtain ⟨hnr10, hrest⟩ := Prod.mk.inj hs.frame
  obtain ⟨-, hrest⟩ := Prod.mk.inj hrest
  obtain ⟨hnr12, hrest⟩ := Prod.mk.inj hrest
  obtain ⟨hnr14, hpulse⟩ := Prod.mk.inj hrest
  have hdac := congrArg (fun p : PulseChannelState => p.runtime.dacEnabled) hpulse
  have henabled := congrArg PulseChannelState.lengthEnabled hpulse
  refine ⟨h.pulse.of_quieted hpulse hs.active, ?_, ?_, hnr10 ▸ h.nr10⟩
  · refine (hdac.trans h.dac).trans ?_
    unfold derivedDacEnabled
    rw [hnr12]
  · refine (henabled.trans h.lengthEnabled).trans ?_
    rw [← lengthEnableBit_high c.nr14, ← hnr14, lengthEnableBit_high]

/-- The pulse has changed, but neither its DAC nor its length enable. -/
theorem Valid.withPulse (h : c.Valid) {pulse : PulseChannelState} (hp : pulse.Valid)
    (hdac : pulse.runtime.dacEnabled = c.pulse.runtime.dacEnabled)
    (henabled : pulse.lengthEnabled = c.pulse.lengthEnabled) : ({ c with pulse }).Valid :=
  ⟨hp, hdac.trans h.dac, henabled.trans h.lengthEnabled, h.nr10⟩

theorem Valid.reloadPeriodIfJustSampled (h : c.Valid) (consoleModel : ConsoleModel) :
    (c.reloadPeriodIfJustSampled consoleModel).Valid := by
  unfold Channel1State.reloadPeriodIfJustSampled
  obtain ⟨hruntime, henabled⟩ := c.pulse.reloadPeriod_keeps c.periodValue
  split
  · exact h.withPulse (h.pulse.reloadPeriod _)
      (congrArg ChannelRuntimeState.dacEnabled hruntime) henabled
  · exact h

/-- Channel 1 on its way through a write of NR14: the register has its value, and beside it only
the generator, the sweep and whether the channel plays may have changed. -/
structure WritesNr14 (c : Channel1State) (nr14 : U8) (d : Channel1State) : Prop where
  pulse : d.pulse.Valid
  dac : d.pulse.runtime.dacEnabled = c.pulse.runtime.dacEnabled
  nr10 : d.nr10 = c.nr10
  nr11 : d.nr11 = c.nr11
  nr12 : d.nr12 = c.nr12
  nr14 : d.nr14 = nr14

theorem WritesNr14.dmgReloadIncrement {nr14 : U8} (h : WritesNr14 c nr14 d)
    (consoleModel : ConsoleModel) : WritesNr14 c nr14 (d.dmgReloadIncrement consoleModel) := by
  unfold Channel1State.dmgReloadIncrement
  dsimp only
  split
  · exact { h with }
  · exact h

theorem WritesNr14.reloadPeriodIfJustSampled {nr14 : U8} (h : WritesNr14 c nr14 d)
    (consoleModel : ConsoleModel) :
    WritesNr14 c nr14 (d.reloadPeriodIfJustSampled consoleModel) := by
  have hruntime := (d.pulse.reloadPeriod_keeps d.periodValue).1
  unfold Channel1State.reloadPeriodIfJustSampled
  split
  · exact { h with
      pulse := h.pulse.reloadPeriod d.periodValue
      dac := (congrArg ChannelRuntimeState.dacEnabled hruntime).trans h.dac }
  · exact h

theorem WritesNr14.trigger {nr14 : U8} (h : WritesNr14 c nr14 d) (consoleModel : ConsoleModel)
    (revision : HardwareRevision) (speedMode : CgbSpeedMode) (nextStepClocksEnvelope : Bool) :
    WritesNr14 c nr14 (d.trigger consoleModel revision speedMode nextStepClocksEnvelope).1 :=
  { h with
    pulse := h.pulse.trigger ..
    dac := (PulseChannelState.trigger_dacEnabled ..).trans h.dac }

/-- A write of NR14 sets the register and the length enable. -/
theorem writeNr14_writes (h : c.pulse.Valid) (value : U8) (consoleModel : ConsoleModel)
    (revision : HardwareRevision) (speedMode : CgbSpeedMode) (nextFrameSequencerStep : U8) :
    ∃ nr14, nr14 &&& lengthEnableBit = value &&& lengthEnableBit ∧
      WritesNr14 c nr14
        (c.writeNr14 value consoleModel revision speedMode nextFrameSequencerStep) ∧
      (c.writeNr14 value consoleModel revision speedMode
        nextFrameSequencerStep).pulse.lengthEnabled = decide (value &&& lengthEnableBit ≠ 0) := by
  have hset : ∀ nr14, WritesNr14 c nr14 { c with nr14 } :=
    fun _ => ⟨h, rfl, rfl, rfl, rfl, rfl⟩
  have hfinish : ∀ {nr14 d} (context : Nrx4WriteContext) (wasLengthEnabled reloaded : Bool),
      WritesNr14 c nr14 d →
        WritesNr14 c nr14 { d.clearReloadPeriodPending with
          pulse := d.pulse.finishNrx4Write context wasLengthEnabled reloaded } :=
    fun context _ _ hd => { hd with pulse := hd.pulse.finishNrx4Write context _ _ }
  unfold writeNr14
  dsimp only
  rw [nrx4WriteContext_effective]
  refine ⟨(if c.reloadIgnoresPeriod then
    (value &&& ~~~periodHighMask) ||| (c.nr14 &&& periodHighMask) else value) &&&
      nrx4WritableMask, ?_, ?_⟩
  · rw [lengthEnableBit_writable]
    split
    · exact effective_and value c.nr14 lengthEnableBit (by decide)
    · rfl
  · generalize ((if c.reloadIgnoresPeriod then
      (value &&& ~~~periodHighMask) ||| (c.nr14 &&& periodHighMask) else value) &&&
        nrx4WritableMask) = nr14
    split
    · exact ⟨hfinish _ _ _ ((hset nr14).trigger ..), rfl⟩
    · exact ⟨hfinish _ _ _ (((hset nr14).dmgReloadIncrement _).reloadPeriodIfJustSampled _), rfl⟩

theorem Valid.writeNr14 (h : c.Valid) (value : U8) (consoleModel : ConsoleModel)
    (revision : HardwareRevision) (speedMode : CgbSpeedMode) (nextFrameSequencerStep : U8) :
    (c.writeNr14 value consoleModel revision speedMode nextFrameSequencerStep).Valid := by
  obtain ⟨nr14, hbit, hwrites, henabled⟩ :=
    writeNr14_writes h.pulse value consoleModel revision speedMode nextFrameSequencerStep
  refine ⟨hwrites.pulse, ?_, ?_, hwrites.nr10 ▸ h.nr10⟩
  · rw [hwrites.dac, h.dac]
    unfold derivedDacEnabled
    rw [hwrites.nr12]
  · rw [henabled, hwrites.nr14, hbit]

theorem Valid.writeRegister (h : c.Valid) (register : Channel1Register) (value : U8)
    (consoleModel : ConsoleModel) (revision : HardwareRevision) (speedMode : CgbSpeedMode)
    (nextFrameSequencerStep : U8) :
    (c.writeRegister register value consoleModel revision speedMode
      nextFrameSequencerStep).Valid := by
  cases register with
  | nr10 =>
      have hset : ({ c with nr10 := value &&& nr10WritableMask } : Channel1State).Valid :=
        { h with nr10 := and_le_mask value nr10WritableMask }
      exact hset.sweeps (sweeps_writeNr10 c value consoleModel)
  | nr11 =>
      obtain ⟨hruntime, henabled⟩ := c.pulse.applyLengthDutyWrite_keeps value
      exact { h.withPulse (h.pulse.applyLengthDutyWrite value)
        (congrArg ChannelRuntimeState.dacEnabled hruntime) henabled with }
  | nr12 =>
      obtain ⟨hdac, henabled⟩ := (c.pulse.applyLiveEnvelopeWriteEffect consoleModel
        value).applyDacEnabled_keeps (decide (value &&& dacEnableRegisterMask ≠ 0))
      exact ⟨(h.pulse.applyLiveEnvelopeWriteEffect consoleModel value).applyDacEnabled _, hdac,
        henabled.trans h.lengthEnabled, h.nr10⟩
  | nr13 =>
      show (c.writeNr13 value consoleModel).Valid
      unfold writeNr13
      split
      · exact { h with }
      · have hset : (({ c with nr13 := value } : Channel1State).clearReloadPeriodPending).Valid :=
          { h with }
        exact hset.reloadPeriodIfJustSampled consoleModel
  | nr14 => exact h.writeNr14 value consoleModel revision speedMode nextFrameSequencerStep

theorem Valid.tick (h : c.Valid) (consoleModel : ConsoleModel) (clockPeriodTimer : Bool)
    (apuClock tCyclePhase : Nat) :
    (c.tickFastTimerWithClockGate consoleModel clockPeriodTimer apuClock tCyclePhase).Valid := by
  have hdelayed := sweeps_tickDelayedCalculation c clockPeriodTimer
  have hticks : ∀ d : Channel1State, Sweeps c d → ({ d with
      pulse := d.pulse.tickFastTimerWithClockGate d.periodValue clockPeriodTimer }).Valid := by
    intro d hd
    have hvalid := h.sweeps hd
    obtain ⟨hruntime, henabled, -⟩ := d.pulse.tick_keeps d.periodValue clockPeriodTimer
    exact hvalid.withPulse (hvalid.pulse.tick _ _)
      (congrArg ChannelRuntimeState.dacEnabled hruntime) henabled
  exact hticks _ (.ite (hdelayed.trans (sweeps_tickRecalculation _ apuClock tCyclePhase)) hdelayed)

theorem Valid.step (h : c.Valid) (m : ApuModel) (e : ChannelEvent Channel1Register) :
    (c.step m e).Valid := by
  cases e with
  | tCycle clocked apuClock tCyclePhase => exact h.tick m.consoleModel clocked apuClock tCyclePhase
  | clockLength => exact h.withPulse h.pulse.clockLength rfl rfl
  | clockSweep => exact h.sweeps (sweeps_clockSweep c m.consoleModel)
  | clockEnvelope => exact h.withPulse h.pulse.clockEnvelope rfl rfl
  | clockPendingEvenEnvelope => exact h.withPulse h.pulse.clockPendingEvenEnvelope rfl rfl
  | write register value speedMode nextFrameSequencerStep => exact h.writeRegister ..

/-! ### The power -/

theorem Valid.writePoweredOffRegister (h : c.Valid) (register : Channel1Register) (value : U8)
    (consoleModel : ConsoleModel) :
    (c.writePoweredOffRegister register value consoleModel).Valid := by
  unfold Channel1State.writePoweredOffRegister
  split
  · exact h
  · split
    · exact h.withPulse (h.pulse.writeLengthCounterWhilePoweredOff value) rfl rfl
    · exact h

theorem powerOff_quiet (p : PulseChannelState) (consoleModel : ConsoleModel) :
    (p.powerOff consoleModel).runtime = .default ∧
      (p.powerOff consoleModel).lengthEnabled = false := by
  unfold PulseChannelState.powerOff
  split <;> exact ⟨rfl, rfl⟩

theorem Valid.powerOffRegisters (h : c.Valid) (consoleModel : ConsoleModel) :
    (c.powerOffRegisters consoleModel).Valid := by
  obtain ⟨hruntime, henabled⟩ := powerOff_quiet c.pulse consoleModel
  exact valid_default.withPulse (h.pulse.powerOff consoleModel)
    (congrArg ChannelRuntimeState.dacEnabled hruntime) henabled

theorem Valid.markPoweredOn (h : c.Valid) (hquiet : c.pulse.runtime.active = false) :
    c.markPoweredOn.Valid :=
  h.withPulse (h.pulse.markPoweredOn hquiet) rfl rfl

theorem valid_applyPoweredStartup (nr10 nr11 nr12 nr13 nr14 : U8) (active : Bool) :
    (applyPoweredStartup nr10 nr11 nr12 nr13 nr14 active).Valid :=
  ⟨PulseChannelState.valid_applyChannelStartup .., rfl, rfl, and_le_mask nr10 nr10WritableMask⟩

end Channel1State


/-! ## Channel 2 -/

namespace Channel2State

structure Valid (c : Channel2State) : Prop where
  pulse : c.pulse.Valid
  dac : c.pulse.runtime.dacEnabled = c.derivedDacEnabled
  lengthEnabled : c.pulse.lengthEnabled = decide (c.nr24 &&& lengthEnableBit ≠ 0)

variable {c d : Channel2State}

theorem valid_default : default.Valid := ⟨PulseChannelState.valid_default, by decide, by decide⟩

/-- The pulse has changed, but neither its DAC nor its length enable. -/
theorem Valid.withPulse (h : c.Valid) {pulse : PulseChannelState} (hp : pulse.Valid)
    (hdac : pulse.runtime.dacEnabled = c.pulse.runtime.dacEnabled)
    (henabled : pulse.lengthEnabled = c.pulse.lengthEnabled) : ({ c with pulse }).Valid :=
  ⟨hp, hdac.trans h.dac, henabled.trans h.lengthEnabled⟩

/-- Channel 2 on its way through a write of NR24. -/
structure WritesNr24 (c : Channel2State) (nr24 : U8) (d : Channel2State) : Prop where
  pulse : d.pulse.Valid
  dac : d.pulse.runtime.dacEnabled = c.pulse.runtime.dacEnabled
  nr21 : d.nr21 = c.nr21
  nr22 : d.nr22 = c.nr22
  nr24 : d.nr24 = nr24

theorem WritesNr24.reloadPeriodIfJustSampled {nr24 : U8} (h : WritesNr24 c nr24 d)
    (consoleModel : ConsoleModel) :
    WritesNr24 c nr24 (d.reloadPeriodIfJustSampled consoleModel) := by
  have hruntime := (d.pulse.reloadPeriod_keeps d.periodValue).1
  unfold Channel2State.reloadPeriodIfJustSampled
  split
  · exact { h with
      pulse := h.pulse.reloadPeriod d.periodValue
      dac := (congrArg ChannelRuntimeState.dacEnabled hruntime).trans h.dac }
  · exact h

theorem WritesNr24.trigger {nr24 : U8} (h : WritesNr24 c nr24 d) (consoleModel : ConsoleModel)
    (speedMode : CgbSpeedMode) (nextStepClocksEnvelope : Bool) :
    WritesNr24 c nr24 (d.trigger consoleModel speedMode nextStepClocksEnvelope).1 :=
  { h with
    pulse := h.pulse.trigger ..
    dac := (PulseChannelState.trigger_dacEnabled ..).trans h.dac }

/-- A write of NR24 sets the register and the length enable. -/
theorem writeNr24_writes (h : c.pulse.Valid) (value : U8) (consoleModel : ConsoleModel)
    (speedMode : CgbSpeedMode) (nextFrameSequencerStep : U8) :
    WritesNr24 c (value &&& nrx4WritableMask)
        (c.writeNr24 value consoleModel speedMode nextFrameSequencerStep) ∧
      (c.writeNr24 value consoleModel speedMode nextFrameSequencerStep).pulse.lengthEnabled =
        decide (value &&& lengthEnableBit ≠ 0) := by
  have hset : WritesNr24 c (value &&& nrx4WritableMask)
      { c with nr24 := value &&& nrx4WritableMask } := ⟨h, rfl, rfl, rfl, rfl⟩
  have hfinish : ∀ {nr24 d} (context : Nrx4WriteContext) (wasLengthEnabled reloaded : Bool),
      WritesNr24 c nr24 d →
        WritesNr24 c nr24
          { d with pulse := d.pulse.finishNrx4Write context wasLengthEnabled reloaded } :=
    fun context _ _ hd => { hd with pulse := hd.pulse.finishNrx4Write context _ _ }
  unfold writeNr24
  dsimp only
  split
  · exact ⟨hfinish _ _ _ (hset.trigger ..), rfl⟩
  · exact ⟨hfinish _ _ _ (hset.reloadPeriodIfJustSampled _), rfl⟩

theorem Valid.writeRegister (h : c.Valid) (register : Channel2Register) (value : U8)
    (consoleModel : ConsoleModel) (speedMode : CgbSpeedMode) (nextFrameSequencerStep : U8) :
    (c.writeRegister register value consoleModel speedMode nextFrameSequencerStep).Valid := by
  cases register with
  | nr21 =>
      obtain ⟨hruntime, henabled⟩ := c.pulse.applyLengthDutyWrite_keeps value
      exact { h.withPulse (h.pulse.applyLengthDutyWrite value)
        (congrArg ChannelRuntimeState.dacEnabled hruntime) henabled with }
  | nr22 =>
      obtain ⟨hdac, henabled⟩ := (c.pulse.applyLiveEnvelopeWriteEffect consoleModel
        value).applyDacEnabled_keeps (decide (value &&& dacEnableRegisterMask ≠ 0))
      exact ⟨(h.pulse.applyLiveEnvelopeWriteEffect consoleModel value).applyDacEnabled _, hdac,
        henabled.trans h.lengthEnabled⟩
  | nr23 =>
      show (({ c with nr23 := value } : Channel2State).reloadPeriodIfJustSampled consoleModel).Valid
      obtain ⟨hruntime, henabled⟩ :=
        c.pulse.reloadPeriod_keeps ({ c with nr23 := value } : Channel2State).periodValue
      unfold reloadPeriodIfJustSampled
      split
      · exact { h.withPulse (h.pulse.reloadPeriod _)
          (congrArg ChannelRuntimeState.dacEnabled hruntime) henabled with }
      · exact { h with }
  | nr24 =>
      obtain ⟨hwrites, henabled⟩ :=
        writeNr24_writes h.pulse value consoleModel speedMode nextFrameSequencerStep
      refine ⟨hwrites.pulse, ?_, ?_⟩
      · refine (hwrites.dac.trans h.dac).trans ?_
        unfold derivedDacEnabled
        exact congrArg (fun nr22 : U8 => decide (nr22 &&& dacEnableRegisterMask ≠ 0))
          hwrites.nr22.symm
      · refine henabled.trans ?_
        rw [show (c.writeRegister .nr24 value consoleModel speedMode
          nextFrameSequencerStep).nr24 = value &&& nrx4WritableMask from hwrites.nr24,
          Channel1State.lengthEnableBit_writable]

theorem Valid.step (h : c.Valid) (m : ApuModel) (e : ChannelEvent Channel2Register) :
    (c.step m e).Valid := by
  cases e with
  | tCycle clocked apuClock tCyclePhase =>
      obtain ⟨hruntime, henabled, -⟩ := c.pulse.tick_keeps c.periodValue clocked
      exact h.withPulse (h.pulse.tick _ _) (congrArg ChannelRuntimeState.dacEnabled hruntime)
        henabled
  | clockLength => exact h.withPulse h.pulse.clockLength rfl rfl
  | clockSweep => exact h
  | clockEnvelope => exact h.withPulse h.pulse.clockEnvelope rfl rfl
  | clockPendingEvenEnvelope => exact h.withPulse h.pulse.clockPendingEvenEnvelope rfl rfl
  | write register value speedMode nextFrameSequencerStep => exact h.writeRegister ..

/-! ### The power -/

theorem Valid.writePoweredOffRegister (h : c.Valid) (register : Channel2Register) (value : U8)
    (consoleModel : ConsoleModel) :
    (c.writePoweredOffRegister register value consoleModel).Valid := by
  unfold Channel2State.writePoweredOffRegister
  split
  · exact h
  · split
    · exact h.withPulse (h.pulse.writeLengthCounterWhilePoweredOff value) rfl rfl
    · exact h

theorem Valid.powerOffRegisters (h : c.Valid) (consoleModel : ConsoleModel) :
    (c.powerOffRegisters consoleModel).Valid := by
  obtain ⟨hruntime, henabled⟩ := Channel1State.powerOff_quiet c.pulse consoleModel
  exact valid_default.withPulse (h.pulse.powerOff consoleModel)
    (congrArg ChannelRuntimeState.dacEnabled hruntime) henabled

theorem Valid.markPoweredOn (h : c.Valid) (hquiet : c.pulse.runtime.active = false) :
    c.markPoweredOn.Valid :=
  h.withPulse (h.pulse.markPoweredOn hquiet) rfl rfl

theorem valid_applyPoweredStartup (nr21 nr22 nr23 nr24 : U8) (active : Bool) :
    (applyPoweredStartup nr21 nr22 nr23 nr24 active).Valid :=
  ⟨PulseChannelState.valid_applyChannelStartup .., rfl, rfl⟩

end Channel2State

end GbCycle
