import GbCycle.Apu.PulseInvariants

/-!
# What holds of the wave and the noise channel at any time

As with the pulse channels, counters, samples and volume stay in their ranges, the DAC is the one
that the registers say, and a channel plays only with its DAC on and its length counter not empty.
The feedback register has fifteen bits and the hidden counter fourteen.  A start of the noise
channel that a DMG has held back may find the length counter empty; then the channel plays on
without the length enable that its register shows.
-/

namespace GbCycle

/-! ## Channel 3 -/

namespace Channel3State

/-- What does not depend on the registers. -/
structure Sound (c : Channel3State) : Prop where
  length : c.length.Valid waveLengthCounterReload
  playing_dac : c.runtime.active = true → c.runtime.dacEnabled = true
  waveRam : c.waveRam.length = waveRamLen
  sampleIndex : c.sampleIndex < waveSampleCount
  sampleBuffer : c.sampleBuffer ≤ waveSampleNibbleMask
  window : ∀ byteIndex ∈ c.waveRamAccessWindowByteIndex, byteIndex < waveRamLen

structure Valid (c : Channel3State) : Prop extends Sound c where
  dac : c.runtime.dacEnabled = c.derivedDacEnabled
  lengthEnabled : c.lengthEnabled = decide (c.nr34 &&& lengthEnableBit ≠ 0)

variable {c : Channel3State}

theorem valid_default : default.Valid where
  length := ⟨Nat.zero_le _, fun hplaying => absurd hplaying Bool.false_ne_true⟩
  playing_dac := fun hplaying => absurd hplaying Bool.false_ne_true
  dac := by decide
  lengthEnabled := by decide
  waveRam := by decide
  sampleIndex := by decide
  sampleBuffer := by decide
  window := fun _ hnone => (Option.not_mem_none _ hnone).elim

theorem Sound.setLength (h : c.Sound) {l : LengthCounter} (hl : l.Valid waveLengthCounterReload)
    (hactive : l.active = true → c.runtime.active = true) : (c.setLength l).Sound :=
  { h with
    length := ⟨hl.le, hl.playing⟩
    playing_dac := fun hplaying => h.playing_dac (hactive hplaying) }

theorem Valid.clockLength (h : c.Valid) : c.clockLength.Valid := by
  refine ⟨h.setLength (h.length.clock c.lengthEnabled) ?_, h.dac, h.lengthEnabled⟩
  unfold clockLengthCounter
  split
  · exact id
  · intro hplaying
    exact (Bool.and_eq_true_iff.mp hplaying).1

/-! ### The registers -/

theorem Valid.writeNr30 (h : c.Valid) (value : U8) : (c.writeNr30 value).Valid := by
  refine { h with
    length := ⟨h.length.le, fun hplaying => h.length.playing (Bool.and_eq_true_iff.mp hplaying).1⟩
    playing_dac := fun hplaying => ?_
    dac := rfl }
  exact (Bool.and_eq_true_iff.mp hplaying).2

theorem Valid.writeNr31 (h : c.Valid) (value : U8) : (c.writeNr31 value).Valid :=
  { h with
    length := ⟨waveLengthCounterFromLoad_le value,
      fun _ => Nat.pos_iff_ne_zero.mp (waveLengthCounterFromLoad_pos value)⟩ }

theorem length_retriggerBlock {waveRam : List U8} (h : waveRam.length = waveRamLen) {block : Nat}
    (hblock : block < waveRamLen) :
    ((waveRam.drop (block / waveRetriggerCorruptionBlockLen *
          waveRetriggerCorruptionBlockLen)).take waveRetriggerCorruptionBlockLen ++
        waveRam.drop waveRetriggerCorruptionBlockLen).length = waveRamLen := by
  unfold waveRamLen at h hblock ⊢
  unfold waveRetriggerCorruptionBlockLen
  rw [List.length_append, List.length_take, List.length_drop, List.length_drop, h]
  omega

theorem Sound.applyDmgRetriggerWaveRamCorruption (h : c.Sound) (consoleModel : ConsoleModel) :
    (c.applyDmgRetriggerWaveRamCorruption consoleModel).Sound := by
  unfold Channel3State.applyDmgRetriggerWaveRamCorruption
  dsimp only
  split
  · exact h
  · split
    · exact { h with waveRam := (List.length_set ..).trans h.waveRam }
    · exact { h with waveRam := length_retriggerBlock h.waveRam (Nat.mod_lt _ (by decide)) }

/-- What a trigger keeps beside the sound: the registers, and whether the DAC is on. -/
theorem trigger_registers (c : Channel3State) (consoleModel : ConsoleModel) :
    (c.trigger consoleModel).1.nr30 = c.nr30 ∧ (c.trigger consoleModel).1.nr32 = c.nr32 ∧
      (c.trigger consoleModel).1.nr34 = c.nr34 ∧
      (c.trigger consoleModel).1.runtime = c.runtime.trigger := by
  have hcorrupted : ∀ d : Channel3State, d = c.applyDmgRetriggerWaveRamCorruption consoleModel →
      d.nr30 = c.nr30 ∧ d.nr32 = c.nr32 ∧ d.nr34 = c.nr34 ∧
        d.runtime.trigger = c.runtime.trigger := by
    rintro d rfl
    unfold applyDmgRetriggerWaveRamCorruption
    dsimp only
    split
    · exact ⟨rfl, rfl, rfl, rfl⟩
    · split <;> exact ⟨rfl, rfl, rfl, rfl⟩
  unfold trigger
  dsimp only
  generalize hd : c.applyDmgRetriggerWaveRamCorruption consoleModel = d
  obtain ⟨hnr30, hnr32, hnr34, hruntime⟩ := hcorrupted d hd.symm
  split <;> exact ⟨hnr30, hnr32, hnr34, hruntime⟩

/-- A trigger leaves the length counter not empty, and plays only with the DAC on. -/
theorem Sound.trigger (h : c.Sound) (consoleModel : ConsoleModel) :
    (c.trigger consoleModel).1.Sound := by
  have hvalid := h.applyDmgRetriggerWaveRamCorruption consoleModel
  unfold Channel3State.trigger
  dsimp only
  generalize c.applyDmgRetriggerWaveRamCorruption consoleModel = d at hvalid
  have hdac : d.runtime.trigger.active = true → d.runtime.trigger.dacEnabled = true := by
    unfold ChannelRuntimeState.trigger
    split
    · next hon => exact fun _ => hon
    · exact hvalid.playing_dac
  by_cases hzero : d.lengthCounter = 0
  · simp only [hzero, decide_true, if_true]
    exact { hvalid with
      length := ⟨Nat.le_refl _, fun _ => by show waveLengthCounterReload ≠ 0; decide⟩
      playing_dac := hdac
      sampleIndex := (show (0 : U8) < waveSampleCount by decide) }
  · simp only [hzero, decide_false, Bool.false_eq_true, if_false]
    exact { hvalid with
      length := ⟨hvalid.length.le, fun _ => hzero⟩
      playing_dac := hdac
      sampleIndex := (show (0 : U8) < waveSampleCount by decide) }

theorem extraClock_active (context : Nrx4WriteContext) (wasLengthEnabled reloaded : Bool)
    (full : Nat) (l : LengthCounter) :
    (applyExtraLengthClocking context wasLengthEnabled reloaded full l).active = true →
      l.active = true := by
  unfold applyExtraLengthClocking
  dsimp only
  split
  · exact id
  · split
    · split
      · exact id
      · exact fun hplaying => absurd hplaying Bool.false_ne_true
    · exact id

/-- A write of NR34 sets the register and the length enable, and keeps the other registers. -/
theorem writeNr34_registers (c : Channel3State) (value : U8) (consoleModel : ConsoleModel)
    (nextFrameSequencerStep : U8) :
    (c.writeNr34 value consoleModel nextFrameSequencerStep).nr30 = c.nr30 ∧
      (c.writeNr34 value consoleModel nextFrameSequencerStep).nr32 = c.nr32 ∧
      (c.writeNr34 value consoleModel nextFrameSequencerStep).nr34 = value &&& nrx4WritableMask ∧
      (c.writeNr34 value consoleModel nextFrameSequencerStep).lengthEnabled =
        decide (value &&& lengthEnableBit ≠ 0) ∧
      (c.writeNr34 value consoleModel nextFrameSequencerStep).runtime.dacEnabled =
        c.runtime.dacEnabled := by
  unfold writeNr34
  dsimp only
  split
  · obtain ⟨hnr30, hnr32, hnr34, hruntime⟩ :=
      trigger_registers ({ c with nr34 := value &&& nrx4WritableMask } : Channel3State) consoleModel
    refine ⟨hnr30, hnr32, hnr34, rfl, (congrArg ChannelRuntimeState.dacEnabled hruntime).trans ?_⟩
    unfold ChannelRuntimeState.trigger
    split <;> rfl
  · exact ⟨rfl, rfl, rfl, rfl, rfl⟩

theorem Sound.writeNr34 (h : c.Sound) (value : U8) (consoleModel : ConsoleModel)
    (nextFrameSequencerStep : U8) :
    (c.writeNr34 value consoleModel nextFrameSequencerStep).Sound := by
  have hwritten : ({ c with nr34 := value &&& nrx4WritableMask } : Channel3State).Sound :=
    { h with }
  have hfinish : ∀ (d : Channel3State) (reloaded : Bool), d.Sound → (({ d with
      lengthEnabled := (nrx4WriteContext value nextFrameSequencerStep).lengthEnabled
      } : Channel3State).setLength (applyExtraLengthClocking
        (nrx4WriteContext value nextFrameSequencerStep) c.lengthEnabled reloaded
        waveLengthCounterReload d.length)).Sound := by
    intro d reloaded hd
    have hset : ({ d with
      lengthEnabled := (nrx4WriteContext value nextFrameSequencerStep).lengthEnabled
      } : Channel3State).Sound := { hd with }
    exact hset.setLength (hd.length.extraClock (by decide) _ _ _) (extraClock_active _ _ _ _ _)
  unfold Channel3State.writeNr34
  dsimp only
  split
  · exact hfinish _ _ (hwritten.trigger consoleModel)
  · exact hfinish _ _ hwritten

theorem Valid.writeNr34 (h : c.Valid) (value : U8) (consoleModel : ConsoleModel)
    (nextFrameSequencerStep : U8) :
    (c.writeNr34 value consoleModel nextFrameSequencerStep).Valid := by
  obtain ⟨hnr30, -, hnr34, henabled, hdac⟩ :=
    c.writeNr34_registers value consoleModel nextFrameSequencerStep
  refine ⟨h.toSound.writeNr34 value consoleModel nextFrameSequencerStep, ?_, ?_⟩
  · refine (hdac.trans h.dac).trans ?_
    unfold derivedDacEnabled
    rw [hnr30]
  · rw [henabled, hnr34, Channel1State.lengthEnableBit_writable]

theorem Valid.writeRegister (h : c.Valid) (register : Channel3Register) (value : U8)
    (consoleModel : ConsoleModel) (nextFrameSequencerStep : U8) :
    (c.writeRegister register value consoleModel nextFrameSequencerStep).Valid := by
  cases register with
  | nr30 => exact h.writeNr30 value
  | nr31 => exact h.writeNr31 value
  | nr32 => exact { h with }
  | nr33 => exact { h with }
  | nr34 => exact h.writeNr34 value consoleModel nextFrameSequencerStep

/-! ### The clocks -/

theorem waveSample_le (c : Channel3State) (sampleIndex : U8) :
    c.waveSample sampleIndex ≤ waveSampleNibbleMask := by
  unfold waveSample
  dsimp only
  split
  · rw [BitVec.le_def, BitVec.toNat_ushiftRight, Nat.shiftRight_eq_div_pow]
    have hlt := BitVec.isLt
      (c.waveRam.getD ((sampleIndex >>> waveSampleByteShift).toNat % waveRamLen) 0)
    show _ / 2 ^ 4 ≤ 15
    omega
  · exact and_le_mask _ _

theorem Valid.beginTCycle (h : c.Valid) : c.beginTCycle.Valid :=
  { h with window := fun _ hnone => (Option.not_mem_none _ hnone).elim }

theorem Valid.advanceSample (h : c.Valid) : c.advanceSample.Valid := by
  refine { h with sampleIndex := ?_, sampleBuffer := waveSample_le c _, window := ?_ }
  · show (c.sampleIndex + 1) % waveSampleCount < waveSampleCount
    rw [BitVec.lt_def, BitVec.toNat_umod]
    exact Nat.mod_lt _ (by decide)
  · rintro byteIndex ⟨⟩
    exact Nat.mod_lt _ (by decide)

theorem Valid.tickFastTimer (h : c.Valid) : c.tickFastTimer.Valid := by
  unfold Channel3State.tickFastTimer
  dsimp only
  split
  · exact h
  · split
    · have hreloaded : ({ c with periodTimer := waveTimerReload c.periodValue }
          : Channel3State).Valid := { h with }
      exact hreloaded.advanceSample
    · exact { h with }

theorem Valid.step (h : c.Valid) (m : ApuModel) (e : ChannelEvent Channel3Register) :
    (c.step m e).Valid := by
  cases e with
  | tCycle clocked apuClock tCyclePhase =>
      cases clocked with
      | true => exact h.beginTCycle.tickFastTimer
      | false => exact h.beginTCycle
  | clockLength => exact h.clockLength
  | clockSweep => exact h
  | clockEnvelope => exact h
  | clockPendingEvenEnvelope => exact h
  | write register value speedMode nextFrameSequencerStep => exact h.writeRegister ..

/-! ### The wave RAM and the power -/

theorem Valid.writeWaveRam (h : c.Valid) (consoleModel : ConsoleModel) (index : Nat)
    (value : U8) : (c.writeWaveRam consoleModel index value).Valid := by
  unfold Channel3State.writeWaveRam
  split
  · exact { h with waveRam := (List.length_set ..).trans h.waveRam }
  · exact h

theorem Valid.writePoweredOffRegister (h : c.Valid) (register : Channel3Register) (value : U8)
    (consoleModel : ConsoleModel) :
    (c.writePoweredOffRegister register value consoleModel).Valid := by
  unfold Channel3State.writePoweredOffRegister
  split
  · exact h
  · split
    · exact { h with
        length := ⟨waveLengthCounterFromLoad_le value,
          fun _ => Nat.pos_iff_ne_zero.mp (waveLengthCounterFromLoad_pos value)⟩ }
    · exact h

theorem Valid.powerOffRegisters (h : c.Valid) (consoleModel : ConsoleModel) :
    (c.powerOffRegisters consoleModel).Valid := by
  refine { valid_default with
    length := ⟨?_, fun hplaying => absurd hplaying Bool.false_ne_true⟩
    waveRam := h.waveRam }
  have hle := h.length.le
  show (if consoleModel.isDmgFamily then c.lengthCounter else 0) ≤ _
  split
  · exact hle
  · exact Nat.zero_le _

theorem valid_applyPoweredStartup {waveRam : List U8} (h : waveRam.length = waveRamLen)
    (nr30 nr31 nr32 nr33 nr34 : U8) (active : Bool) :
    (applyPoweredStartup waveRam nr30 nr31 nr32 nr33 nr34 active).Valid :=
  { valid_default with
    length := ⟨waveLengthCounterFromLoad_le nr31,
      fun _ => Nat.pos_iff_ne_zero.mp (waveLengthCounterFromLoad_pos nr31)⟩
    playing_dac := fun hplaying => (Bool.and_eq_true_iff.mp hplaying).1
    dac := rfl
    lengthEnabled := rfl
    waveRam := h }

theorem Valid.currentDigitalOutput_le (h : c.Valid) :
    c.currentDigitalOutput ≤ maxEnvelopeVolume := by
  have hbuffer : c.sampleBuffer ≤ maxEnvelopeVolume := h.sampleBuffer
  have hshifted : ∀ amount : Nat, c.sampleBuffer >>> amount ≤ maxEnvelopeVolume := by
    intro amount
    rw [BitVec.le_def] at hbuffer ⊢
    rw [BitVec.toNat_ushiftRight, Nat.shiftRight_eq_div_pow]
    exact Nat.le_trans (Nat.div_le_self _ _) hbuffer
  unfold currentDigitalOutput
  split
  · decide
  · split
    · decide
    · exact hbuffer
    · exact hshifted _
    · exact hshifted _

end Channel3State


/-! ## Channel 4 -/

theorem stepChannel4Lfsr_msb (shortWidthMode : Bool) (lfsrState : U16) :
    (stepChannel4Lfsr shortWidthMode lfsrState).msb = false := by
  have hfeed : ∀ (state feedback : U16) (bit : Nat), bit < 15 → state.msb = false →
      feedback = 0 ∨ feedback = 1 →
      ((state &&& ~~~((1 : U16) <<< bit)) ||| (feedback <<< bit)).msb = false := by
    intro state feedback bit hbit hstate hfeedback
    have hshifted : (feedback <<< bit).msb = false := by
      rw [BitVec.msb_eq_getLsbD_last, BitVec.getLsbD_shiftLeft]
      have hhigh : feedback.getLsbD (15 - bit) = false := by
        rcases hfeedback with rfl | rfl
        · exact BitVec.getLsbD_zero
        · rw [show (1 : U16) = 1#16 from rfl, BitVec.getLsbD_one, Bool.and_eq_false_iff]
          exact .inr (decide_eq_false (by omega))
      rw [show 16 - 1 - bit = 15 - bit from rfl, hhigh, Bool.and_false]
    rw [BitVec.msb_or, BitVec.msb_and, hstate, hshifted]
    rfl
  have hbit : ∀ condition : Prop, ∀ _ : Decidable condition,
      (if condition then (1 : U16) else 0) = 0 ∨ (if condition then (1 : U16) else 0) = 1 := by
    intro condition _
    split
    · exact .inr rfl
    · exact .inl rfl
  have hright : (lfsrState >>> 1).msb = false := by
    rw [BitVec.msb_ushiftRight]
    rfl
  unfold stepChannel4Lfsr
  dsimp only
  split
  · exact hfeed _ _ _ (by decide) (hfeed _ _ _ (by decide) hright (hbit _ _)) (hbit _ _)
  · exact hfeed _ _ _ (by decide) hright (hbit _ _)

namespace Channel4NoiseSignalState

theorem corruptFeedbackBit_msb (n : Channel4NoiseSignalState) (h : n.lfsrState.msb = false) :
    n.corruptFeedbackBit.lfsrState.msb = false := by
  have hcorrupted : ∀ feedbackMask previousFeedbackMask : U16,
      (previousFeedbackMask <<< 1).msb = false →
      ((n.lfsrState &&& ~~~feedbackMask) |||
        ((n.lfsrState &&& ~~~feedbackMask &&& previousFeedbackMask) <<< 1)).msb = false := by
    intro feedbackMask previousFeedbackMask hmask
    rw [BitVec.msb_or, BitVec.msb_and, h, Bool.false_and, Bool.false_or,
      BitVec.shiftLeft_and_distrib, BitVec.msb_and, hmask, Bool.and_false]
  unfold corruptFeedbackBit
  cases hshort : n.shortWidthMode with
  | true => exact hcorrupted 0x4040 0x2020 (by decide)
  | false => exact hcorrupted 0x4000 0x2000 (by decide)

theorem applyPass_msb (n : Channel4NoiseSignalState) (h : n.lfsrState.msb = false)
    (action : ApuCh4Nr43LfsrAction) (shortWidthMode : Bool) :
    (n.applyPass action shortWidthMode).lfsrState.msb = false := by
  cases action with
  | none => exact h
  | plainStep => exact stepChannel4Lfsr_msb _ _
  | forcedShortStep => exact stepChannel4Lfsr_msb _ _
  | forcedShortStepThenLowShiftCorruption =>
      exact corruptFeedbackBit_msb _ (stepChannel4Lfsr_msb _ _)

end Channel4NoiseSignalState

/-- Whatever a live write shows the register on its way, its top bit stays low. -/
theorem resolveLiveNr43Write_msb (profile : Channel4Nr43LiveWriteProfile) (runtimeActive : Bool)
    (oldNr43 newNr43 : U8) (live : Channel4Nr43LiveWriteState) {noise : Channel4NoiseSignalState}
    (h : noise.lfsrState.msb = false) :
    (resolveLiveNr43Write profile runtimeActive oldNr43 newNr43 live
      noise).lfsrState.msb = false := by
  have hseam : ∀ oldStage, (if live.countdownReloaded then
      applyReloadSeamPass oldStage newNr43 live noise else noise).lfsrState.msb = false := by
    intro oldStage
    unfold applyReloadSeamPass
    dsimp only
    split
    · split
      · exact stepChannel4Lfsr_msb _ _
      · exact h
    · exact h
  cases profile with
  | dmgPreCgbD =>
      show (resolveDmgPreCgbD ..).lfsrState.msb = false
      unfold resolveDmgPreCgbD
      dsimp only
      split
      · exact h
      · have hpasses := fun action action' short short' =>
          Channel4NoiseSignalState.applyPass_msb _
            (Channel4NoiseSignalState.applyPass_msb _ (hseam
              (Channel4Stage.fromNr43 oldNr43 (effectiveNoiseCounter live))) action short)
            action' short'
        show (ite _ _ _ : Channel4NoiseSignalState).lfsrState.msb = false
        split
        · exact Channel4NoiseSignalState.applyPass_msb _ (hpasses _ _ _ _) _ _
        · exact hpasses _ _ _ _
  | cgbDirect =>
      show (resolveCgbDirect ..).lfsrState.msb = false
      unfold resolveCgbDirect
      dsimp only
      split
      · exact h
      · exact Channel4NoiseSignalState.applyPass_msb _ h _ _

namespace Channel4State

/-- What is not the noise. -/
def others (c : Channel4State) : Channel4State :=
  { c with noise := default.noise, nr43LiveWrite := default.nr43LiveWrite }

/-- The noise has moved on, with the clock that NR43 chooses. -/
structure Noises (c d : Channel4State) : Prop where
  others : d.others = c.others
  clockShift : d.noise.clockShift = c.noise.clockShift
  shortWidthMode : d.noise.shortWidthMode = c.noise.shortWidthMode
  clockDividerCode : d.noise.clockDividerCode = c.noise.clockDividerCode
  lfsr : c.noise.lfsrState.msb = false → d.noise.lfsrState.msb = false
  noiseCounter : c.nr43LiveWrite.noiseCounter < noiseCounterModulus →
    d.nr43LiveWrite.noiseCounter < noiseCounterModulus
  alignment : c.nr43LiveWrite.alignment < 4 → d.nr43LiveWrite.alignment < 4

variable {c d e : Channel4State}

theorem Noises.refl (c : Channel4State) : Noises c c := ⟨rfl, rfl, rfl, rfl, id, id, id⟩

theorem Noises.trans (h : Noises c d) (h' : Noises d e) : Noises c e :=
  ⟨h'.others.trans h.others, h'.clockShift.trans h.clockShift,
    h'.shortWidthMode.trans h.shortWidthMode, h'.clockDividerCode.trans h.clockDividerCode,
    fun hmsb => h'.lfsr (h.lfsr hmsb), fun hlt => h'.noiseCounter (h.noiseCounter hlt),
    fun hlt => h'.alignment (h.alignment hlt)⟩

theorem Noises.ite {condition : Prop} [Decidable condition] (hd : Noises c d) (he : Noises c e) :
    Noises c (if condition then d else e) := by
  split
  · exact hd
  · exact he

theorem noises_stepLfsr (c : Channel4State) : Noises c c.stepLfsr :=
  { Noises.refl c with lfsr := fun _ => stepChannel4Lfsr_msb _ _ }

theorem noises_incrementHiddenCounter (c : Channel4State) : Noises c c.incrementHiddenCounter :=
  { Noises.refl c with noiseCounter := fun _ => Nat.mod_lt _ (by decide) }

theorem noises_setCounterTimer (c : Channel4State) (counterTimer : Nat)
    (countdownReloaded : Bool) : Noises c (c.setCounterTimer counterTimer countdownReloaded) :=
  { Noises.refl c with }

theorem noises_prepareHiddenCounterStart (c : Channel4State) :
    Noises c c.prepareHiddenCounterStart := by
  have hstarted : ∀ (counterTimer noiseCounter : Nat) (active didStep disabled : Bool)
      (lfsrState : U16), lfsrState.msb = false →
      (noiseCounter < noiseCounterModulus ∨ noiseCounter = c.nr43LiveWrite.noiseCounter) →
      Noises c { c with
        noise := { c.noise with lfsrState }
        nr43LiveWrite := { c.nr43LiveWrite with
          counterTimer, noiseCounter, countdownReloaded := false, didStepCounter := didStep
          counterActive := active, startedWithDacDisabled := disabled
          backgroundCounting := true } } := by
    intro _ noiseCounter _ _ _ _ hmsb hcounter
    refine { Noises.refl c with lfsr := fun _ => hmsb, noiseCounter := fun hlt => ?_ }
    rcases hcounter with hlt' | rfl
    · exact hlt'
    · exact hlt
  have hlfsr : ∀ condition : Prop, ∀ _ : Decidable condition,
      (if condition then (0x0055 : U16) else noiseLfsrInitialState).msb = false := by
    intro condition _
    split
    · decide
    · decide
  have hfirst : ∀ condition : Prop, ∀ _ : Decidable condition,
      (if condition then (c.nr43LiveWrite.noiseCounter + 8) % noiseCounterModulus
        else c.nr43LiveWrite.noiseCounter) < noiseCounterModulus ∨
      (if condition then (c.nr43LiveWrite.noiseCounter + 8) % noiseCounterModulus
        else c.nr43LiveWrite.noiseCounter) = c.nr43LiveWrite.noiseCounter := by
    intro condition _
    split
    · exact .inl (Nat.mod_lt _ (by decide))
    · exact .inr rfl
  have hincremented : ∀ counter : Nat,
      (counter + 1) % noiseCounterModulus < noiseCounterModulus :=
    fun _ => Nat.mod_lt _ (by decide)
  unfold prepareHiddenCounterStart
  dsimp only
  split
  · refine Noises.ite (.trans ?_ (noises_stepLfsr _)) ?_
    · exact hstarted _ _ _ _ _ _ (hlfsr _ _) (.inl (hincremented _))
    · exact hstarted _ _ _ _ _ _ (hlfsr _ _) (.inl (hincremented _))
  · refine Noises.ite (.trans ?_ (noises_stepLfsr _)) ?_
    · exact hstarted _ _ _ _ _ _ (hlfsr _ _) (hfirst _ _)
    · exact hstarted _ _ _ _ _ _ (hlfsr _ _) (hfirst _ _)

theorem noises_handleHiddenCounterDacDisable (c : Channel4State) :
    Noises c c.handleHiddenCounterDacDisable := by
  have hclosed : ∀ d, Noises c d → Noises c
      { d with nr43LiveWrite := { d.nr43LiveWrite with counterActive := false } } :=
    fun _ hd => { hd with }
  have hstopped : ∀ d, Noises c d → Noises c
      { d with nr43LiveWrite := { d.nr43LiveWrite with backgroundCounting := false } } :=
    fun _ hd => { hd with }
  exact hclosed _ (.ite (hstopped _ (.ite (noises_incrementHiddenCounter c) (.refl c))) (.refl c))

theorem noises_tickAlignmentPhaseOnly (c : Channel4State) : Noises c c.tickAlignmentPhaseOnly.1 := by
  refine { Noises.refl c with alignment := fun hlt => ?_ }
  show (if _ then (c.nr43LiveWrite.alignment + 1) % 4 else c.nr43LiveWrite.alignment) < 4
  split
  · exact Nat.mod_lt _ (by decide)
  · exact hlt

theorem noises_tickNoiseCounterPhase (c : Channel4State) : Noises c c.tickNoiseCounterPhase := by
  have hcounted : ∀ d, Noises c d → Noises c
      { d with nr43LiveWrite := { d.nr43LiveWrite with didStepCounter := true } } :=
    fun _ hd => { hd with }
  have hstepped := fun divisor => hcounted _
    ((noises_setCounterTimer c divisor true).trans (noises_incrementHiddenCounter _))
  refine .ite { Noises.refl c with } (.ite (noises_setCounterTimer c _ _) (.ite ?_ (hstepped _)))
  exact (hstepped _).trans (noises_stepLfsr _)

theorem noises_tickPeriodTimer (c : Channel4State) : Noises c c.tickPeriodTimer :=
  .ite (.refl c) { Noises.refl c with }


/-- What does not depend on NR44. -/
structure Sound (c : Channel4State) : Prop where
  length : c.length.Valid pulseLengthCounterReload
  playing_dac : c.runtime.active = true → c.runtime.dacEnabled = true
  dac : c.runtime.dacEnabled = c.derivedDacEnabled
  envelope : c.envelope.Bounded
  decoded : decodeNr43 c.noise c.nr43 = c.noise
  lfsr : c.noise.lfsrState.msb = false
  noiseCounter : c.nr43LiveWrite.noiseCounter < noiseCounterModulus
  alignment : c.nr43LiveWrite.alignment < 4
  delayedStart : c.dmgDelayedStart ≤ 6

structure Valid (c : Channel4State) : Prop extends Sound c where
  lengthEnabled : c.lengthEnabled = true → c.nr44 &&& lengthEnableBit ≠ 0

theorem valid_default : default.Valid where
  length := ⟨Nat.zero_le _, fun hplaying => absurd hplaying Bool.false_ne_true⟩
  playing_dac := fun hplaying => absurd hplaying Bool.false_ne_true
  dac := by decide
  envelope := EnvelopeState.bounded_default
  decoded := by decide
  lfsr := by decide
  noiseCounter := by decide
  alignment := by decide
  delayedStart := Nat.zero_le _
  lengthEnabled := fun henabled => absurd henabled Bool.false_ne_true

/-- What the noise leaves alone has not changed. -/
theorem Noises.keeps {T : Type} (hn : Noises c d) (field : Channel4State → T)
    (hfield : ∀ c : Channel4State, field c.others = field c) : field d = field c := by
  rw [← hfield d, hn.others, hfield c]

theorem decodeNr43_of_fields {noise noise' : Channel4NoiseSignalState} {nr43 : U8}
    (h : decodeNr43 noise nr43 = noise) (hshift : noise'.clockShift = noise.clockShift)
    (hshort : noise'.shortWidthMode = noise.shortWidthMode)
    (hdivider : noise'.clockDividerCode = noise.clockDividerCode) :
    decodeNr43 noise' nr43 = noise' := by
  have hshift' := congrArg Channel4NoiseSignalState.clockShift h
  have hshort' := congrArg Channel4NoiseSignalState.shortWidthMode h
  have hdivider' := congrArg Channel4NoiseSignalState.clockDividerCode h
  unfold decodeNr43 at hshift' hshort' hdivider' ⊢
  dsimp only at hshift' hshort' hdivider'
  rw [hshift', hshort', hdivider', ← hshift, ← hshort, ← hdivider]

theorem Sound.noises (h : c.Sound) (hn : Noises c d) : d.Sound := by
  have hlength := hn.keeps Channel4State.length fun _ => rfl
  have hruntime := hn.keeps Channel4State.runtime fun _ => rfl
  have hderived := hn.keeps Channel4State.derivedDacEnabled fun _ => rfl
  have henvelope := hn.keeps Channel4State.envelope fun _ => rfl
  have hnr43 := hn.keeps Channel4State.nr43 fun _ => rfl
  have hdelayed := hn.keeps Channel4State.dmgDelayedStart fun _ => rfl
  exact
    { length := hlength ▸ h.length
      playing_dac := hruntime ▸ h.playing_dac
      dac := by rw [hruntime, hderived, h.dac]
      envelope := henvelope ▸ h.envelope
      decoded := by
        rw [hnr43]
        exact decodeNr43_of_fields h.decoded hn.clockShift hn.shortWidthMode hn.clockDividerCode
      lfsr := hn.lfsr h.lfsr
      noiseCounter := hn.noiseCounter h.noiseCounter
      alignment := hn.alignment h.alignment
      delayedStart := by
        rw [hdelayed]
        exact h.delayedStart }

theorem Valid.noises (h : c.Valid) (hn : Noises c d) : d.Valid := by
  have henabled := hn.keeps Channel4State.lengthEnabled fun _ => rfl
  have hnr44 := hn.keeps Channel4State.nr44 fun _ => rfl
  refine ⟨h.toSound.noises hn, ?_⟩
  rw [henabled, hnr44]
  exact h.lengthEnabled

theorem Sound.setLength (h : c.Sound) {l : LengthCounter} (hl : l.Valid pulseLengthCounterReload)
    (hactive : l.active = true → c.runtime.active = true) : (c.setLength l).Sound :=
  { h with
    length := ⟨hl.le, hl.playing⟩
    playing_dac := fun hplaying => h.playing_dac (hactive hplaying) }

theorem Valid.clockLength (h : c.Valid) : c.clockLength.Valid := by
  refine ⟨h.toSound.setLength (h.length.clock c.lengthEnabled) ?_, h.lengthEnabled⟩
  unfold clockLengthCounter
  split
  · exact id
  · intro hplaying
    exact (Bool.and_eq_true_iff.mp hplaying).1

/-! ### The trigger -/

theorem Sound.reloadZeroLength (h : c.Sound) :
    c.reloadZeroLength.1.Sound ∧ c.reloadZeroLength.1.lengthCounter ≠ 0 := by
  have hfull : pulseLengthCounterReload ≠ 0 := by decide
  unfold Channel4State.reloadZeroLength
  split
  · exact ⟨{ h with length := ⟨Nat.le_refl _, fun _ => hfull⟩ }, hfull⟩
  · next hsome => exact ⟨h, hsome⟩

/-- A channel whose length counter is not empty may play if its DAC is on. -/
theorem Sound.plays (h : c.Sound) (hsome : c.lengthCounter ≠ 0) :
    ({ c with runtime := c.runtime.trigger } : Channel4State).Sound := by
  unfold ChannelRuntimeState.trigger
  split
  · next hon =>
      exact { h with
        length := ⟨h.length.le, fun _ => hsome⟩
        playing_dac := fun _ => hon }
  · exact h

theorem Sound.trigger (h : c.Sound) (nextStepClocksEnvelope : Bool) :
    (c.trigger nextStepClocksEnvelope).1.Sound := by
  obtain ⟨hreloaded, hsome⟩ := h.reloadZeroLength
  unfold Channel4State.trigger
  dsimp only
  generalize c.reloadZeroLength.1 = r at hreloaded hsome
  have hwritten : ({ r with envelope := r.envelope.applyWrite r.nr42 } : Channel4State).Sound :=
    { hreloaded with envelope := hreloaded.envelope.applyWrite r.nr42 }
  have hstarts := noises_prepareHiddenCounterStart
    { r with envelope := r.envelope.applyWrite r.nr42 }
  have hstarted := hwritten.noises hstarts
  have hkept : Channel4State.lengthCounter _ = r.lengthCounter :=
    hstarts.keeps Channel4State.lengthCounter fun _ => rfl
  have hreloads : ∀ d : Channel4State, d.Sound → ∀ periodTimer,
      ({ d with
        noise := { d.noise with periodTimer }
        envelope := (r.envelope.applyWrite r.nr42).reload nextStepClocksEnvelope
        } : Channel4State).Sound := by
    intro d hd periodTimer
    exact { hd with
      envelope := (hreloaded.envelope.applyWrite r.nr42).reload _
      decoded := decodeNr43_of_fields hd.decoded rfl rfl rfl }
  exact (hreloads _ hstarted _).plays fun hzero => hsome (hkept.symm.trans hzero)

theorem Sound.triggerOrDelay (h : c.Sound) (consoleModel : ConsoleModel)
    (nextStepClocksEnvelope : Bool) :
    (c.triggerOrDelay consoleModel nextStepClocksEnvelope).1.Sound := by
  unfold Channel4State.triggerOrDelay
  split
  · exact { h.reloadZeroLength.1 with delayedStart := Nat.le_refl 6 }
  · exact h.trigger nextStepClocksEnvelope

theorem reloadZeroLength_registers (c : Channel4State) :
    c.reloadZeroLength.1.nr42 = c.nr42 ∧ c.reloadZeroLength.1.nr43 = c.nr43 ∧
      c.reloadZeroLength.1.nr44 = c.nr44 := by
  unfold reloadZeroLength
  split <;> exact ⟨rfl, rfl, rfl⟩

/-- A trigger keeps the registers. -/
theorem trigger_registers (c : Channel4State) (nextStepClocksEnvelope : Bool) :
    (c.trigger nextStepClocksEnvelope).1.nr42 = c.nr42 ∧
      (c.trigger nextStepClocksEnvelope).1.nr43 = c.nr43 ∧
      (c.trigger nextStepClocksEnvelope).1.nr44 = c.nr44 := by
  obtain ⟨hnr42, hnr43, hnr44⟩ := c.reloadZeroLength_registers
  have hstarts := noises_prepareHiddenCounterStart { c.reloadZeroLength.1 with
    envelope := c.reloadZeroLength.1.envelope.applyWrite c.reloadZeroLength.1.nr42 }
  exact ⟨(hstarts.keeps Channel4State.nr42 fun _ => rfl).trans hnr42,
    (hstarts.keeps Channel4State.nr43 fun _ => rfl).trans hnr43,
    (hstarts.keeps Channel4State.nr44 fun _ => rfl).trans hnr44⟩

theorem Valid.trigger (h : c.Valid) (nextStepClocksEnvelope : Bool) :
    (c.trigger nextStepClocksEnvelope).1.Valid := by
  refine ⟨h.toSound.trigger nextStepClocksEnvelope, ?_⟩
  have henabled : (c.trigger nextStepClocksEnvelope).1.lengthEnabled =
      (if c.lengthCounter = 0 then ⟨pulseLengthCounterReload, false⟩
        else c.lengthReference : LengthReference).enabled :=
    congrArg LengthReference.enabled (c.trigger_eq nextStepClocksEnvelope).2.1
  rw [henabled, (c.trigger_registers nextStepClocksEnvelope).2.2]
  split
  · exact fun habsurd => absurd habsurd Bool.false_ne_true
  · exact h.lengthEnabled

/-! ### The registers -/

theorem Valid.writeNr41 (h : c.Valid) (value : U8) : (c.writeNr41 value).Valid :=
  { h with
    length := ⟨pulseLengthCounterFromLoad_le value,
      fun _ => Nat.pos_iff_ne_zero.mp (pulseLengthCounterFromLoad_pos value)⟩ }

theorem Valid.writeNr42 (h : c.Valid) (value : U8) (consoleModel : ConsoleModel) :
    (c.writeNr42 value consoleModel).Valid := by
  have hwritten : ∀ d : Channel4State, d.Valid → ({ d with
      envelope := d.envelope.applyLiveWriteEffect consoleModel d.runtime.active value
      nr42 := value
      runtime := d.runtime.setDacEnabled (value &&& dacEnableRegisterMask ≠ 0)
      } : Channel4State).Valid := by
    intro d hd
    refine { hd with
      length := ⟨hd.length.le, fun hplaying =>
        hd.length.playing (Bool.and_eq_true_iff.mp hplaying).1⟩
      playing_dac := fun hplaying => ?_
      dac := rfl
      envelope := hd.envelope.applyLiveWriteEffect consoleModel d.runtime.active value }
    exact (Bool.and_eq_true_iff.mp hplaying).2
  unfold Channel4State.writeNr42
  dsimp only
  split
  · exact hwritten _ (h.noises (noises_handleHiddenCounterDacDisable c))
  · exact hwritten _ h

theorem Valid.writeNr43 (h : c.Valid) (value : U8) (consoleModel : ConsoleModel) :
    (c.writeNr43 value consoleModel).Valid :=
  { h with
    decoded := rfl
    lfsr := resolveLiveNr43Write_msb _ _ _ _ _ h.lfsr }

theorem triggerOrDelay_registers (c : Channel4State) (consoleModel : ConsoleModel)
    (nextStepClocksEnvelope : Bool) :
    (c.triggerOrDelay consoleModel nextStepClocksEnvelope).1.nr42 = c.nr42 ∧
      (c.triggerOrDelay consoleModel nextStepClocksEnvelope).1.nr43 = c.nr43 ∧
      (c.triggerOrDelay consoleModel nextStepClocksEnvelope).1.nr44 = c.nr44 := by
  unfold triggerOrDelay
  split
  · exact c.reloadZeroLength_registers
  · exact c.trigger_registers nextStepClocksEnvelope

/-- A write of NR44 sets the register and the length enable, and keeps the other registers. -/
theorem writeNr44_registers (c : Channel4State) (value : U8) (consoleModel : ConsoleModel)
    (nextFrameSequencerStep : U8) :
    (c.writeNr44 value consoleModel nextFrameSequencerStep).nr42 = c.nr42 ∧
      (c.writeNr44 value consoleModel nextFrameSequencerStep).nr43 = c.nr43 ∧
      (c.writeNr44 value consoleModel nextFrameSequencerStep).nr44 = value &&& nr44WritableMask ∧
      (c.writeNr44 value consoleModel nextFrameSequencerStep).lengthEnabled =
        decide (value &&& lengthEnableBit ≠ 0) := by
  unfold writeNr44
  dsimp only
  split
  · obtain ⟨hnr42, hnr43, hnr44⟩ := triggerOrDelay_registers
      ({ c with nr44 := value &&& nr44WritableMask } : Channel4State) consoleModel
      (nrx4WriteContext value nextFrameSequencerStep).nextStepClocksEnvelope
    exact ⟨hnr42, hnr43, hnr44, rfl⟩
  · exact ⟨rfl, rfl, rfl, rfl⟩

theorem Sound.writeNr44 (h : c.Sound) (value : U8) (consoleModel : ConsoleModel)
    (nextFrameSequencerStep : U8) :
    (c.writeNr44 value consoleModel nextFrameSequencerStep).Sound := by
  have hwritten : ({ c with nr44 := value &&& nr44WritableMask } : Channel4State).Sound :=
    { h with }
  have hfinish : ∀ (d : Channel4State) (wasLengthEnabled reloaded : Bool), d.Sound → (({ d with
      lengthEnabled := (nrx4WriteContext value nextFrameSequencerStep).lengthEnabled
      } : Channel4State).setLength (applyExtraLengthClocking
        (nrx4WriteContext value nextFrameSequencerStep) wasLengthEnabled reloaded
        pulseLengthCounterReload d.length)).Sound := by
    intro d _ _ hd
    have hset : ({ d with
      lengthEnabled := (nrx4WriteContext value nextFrameSequencerStep).lengthEnabled
      } : Channel4State).Sound := { hd with }
    exact hset.setLength (hd.length.extraClock (by decide) _ _ _)
      (Channel3State.extraClock_active _ _ _ _ _)
  unfold Channel4State.writeNr44
  dsimp only
  split
  · exact hfinish _ _ _ (hwritten.triggerOrDelay _ _)
  · exact hfinish _ _ _ hwritten

theorem Valid.writeNr44 (h : c.Valid) (value : U8) (consoleModel : ConsoleModel)
    (nextFrameSequencerStep : U8) :
    (c.writeNr44 value consoleModel nextFrameSequencerStep).Valid := by
  obtain ⟨-, -, hnr44, henabled⟩ :=
    c.writeNr44_registers value consoleModel nextFrameSequencerStep
  have hbit : value &&& nr44WritableMask &&& lengthEnableBit = value &&& lengthEnableBit := by
    rw [BitVec.and_assoc]
    rfl
  refine ⟨h.toSound.writeNr44 value consoleModel nextFrameSequencerStep, ?_⟩
  rw [henabled, hnr44, hbit]
  exact of_decide_eq_true

theorem Valid.writeRegister (h : c.Valid) (register : Channel4Register) (value : U8)
    (consoleModel : ConsoleModel) (nextFrameSequencerStep : U8) :
    (c.writeRegister register value consoleModel nextFrameSequencerStep).Valid := by
  cases register with
  | nr41 => exact h.writeNr41 value
  | nr42 => exact h.writeNr42 value consoleModel
  | nr43 => exact h.writeNr43 value consoleModel
  | nr44 => exact h.writeNr44 value consoleModel nextFrameSequencerStep

/-! ### The clocks -/

theorem Valid.tickFastTimer (h : c.Valid) : c.tickFastTimer.Valid := by
  have haligned := h.noises (noises_tickAlignmentPhaseOnly c)
  unfold Channel4State.tickFastTimer
  dsimp only
  generalize c.tickAlignmentPhaseOnly.1 = a at haligned
  split
  · exact haligned.noises (noises_tickPeriodTimer a)
  · have hdelayed : ({ a with dmgDelayedStart := a.dmgDelayedStart - 1 } : Channel4State).Valid :=
      { haligned with delayedStart := Nat.le_trans (Nat.sub_le _ _) haligned.delayedStart }
    have hcounted := hdelayed.noises (noises_tickNoiseCounterPhase _)
    generalize ({ a with dmgDelayedStart := a.dmgDelayedStart - 1
      } : Channel4State).tickNoiseCounterPhase = d at hcounted
    refine Valid.noises ?_ (noises_tickPeriodTimer _)
    split
    · have hpending : ({ d with pendingTriggerEnvelopeReload := false } : Channel4State).Valid :=
        { hcounted with }
      exact hpending.trigger d.pendingTriggerEnvelopeReload
    · exact hcounted

theorem Valid.step (h : c.Valid) (m : ApuModel) (e : ChannelEvent Channel4Register) :
    (c.step m e).Valid := by
  cases e with
  | tCycle clocked apuClock tCyclePhase =>
      cases clocked with
      | true => exact h.tickFastTimer
      | false => exact h
  | clockLength => exact h.clockLength
  | clockSweep => exact h
  | clockEnvelope => exact { h with envelope := h.envelope.clock }
  | clockPendingEvenEnvelope =>
      exact { h with envelope := h.envelope.clockCgbLiveWritePendingEvenTick }
  | write register value speedMode nextFrameSequencerStep => exact h.writeRegister ..

/-! ### The power -/

theorem Valid.writePoweredOffRegister (h : c.Valid) (register : Channel4Register) (value : U8)
    (consoleModel : ConsoleModel) :
    (c.writePoweredOffRegister register value consoleModel).Valid := by
  unfold Channel4State.writePoweredOffRegister
  split
  · exact h
  · split
    · exact { h with
        length := ⟨pulseLengthCounterFromLoad_le value,
          fun _ => Nat.pos_iff_ne_zero.mp (pulseLengthCounterFromLoad_pos value)⟩ }
    · exact h

theorem Valid.powerOffRegisters (h : c.Valid) (consoleModel : ConsoleModel) :
    (c.powerOffRegisters consoleModel).Valid := by
  refine { valid_default with
    length := ⟨?_, fun hplaying => absurd hplaying Bool.false_ne_true⟩ }
  have hle := h.length.le
  show (if consoleModel.isDmgFamily then c.lengthCounter else 0) ≤ _
  split
  · exact hle
  · exact Nat.zero_le _

theorem Valid.markPoweredOn (h : c.Valid) : c.markPoweredOn.Valid :=
  { h with alignment := (show 0 < 4 by decide), delayedStart := Nat.zero_le _ }

theorem valid_applyPoweredStartup (nr41 nr42 nr43 nr44 : U8) (active : Bool) :
    (applyPoweredStartup nr41 nr42 nr43 nr44 active).Valid :=
  { valid_default with
    length := ⟨pulseLengthCounterFromLoad_le nr41,
      fun _ => Nat.pos_iff_ne_zero.mp (pulseLengthCounterFromLoad_pos nr41)⟩
    playing_dac := fun hplaying => (Bool.and_eq_true_iff.mp hplaying).1
    dac := rfl
    envelope := (EnvelopeState.bounded_default.applyWrite nr42).reload false
    decoded := rfl
    lfsr := (show noiseLfsrInitialState.msb = false by decide)
    lengthEnabled := of_decide_eq_true }

theorem Valid.currentDigitalOutput_le (h : c.Valid) :
    c.currentDigitalOutput ≤ maxEnvelopeVolume := by
  unfold currentDigitalOutput
  split
  · decide
  · split
    · exact h.envelope.currentVolume
    · decide

end Channel4State

end GbCycle
