import GbCycle.Apu.Control
import GbCycle.Apu.OutputRange
import GbCycle.Apu.WaveNoiseInvariants
import GbCycle.Run

/-!
# What holds of the whole APU at any time

From a fresh APU, over every run of T-cycles, divider edges, register writes at any address, power
cycles and starts of the machine: the channels keep their invariants, the output path stays in
range, and while the power is off every channel is cleared but for its length counter, the wave RAM
and the alignment of the noise, and nothing is heard.
-/

namespace GbCycle

/-! ## The channels -/

namespace ApuChannels

structure Valid (c : ApuChannels) : Prop where
  channel1 : c.channel1.Valid
  channel2 : c.channel2.Valid
  channel3 : c.channel3.Valid
  channel4 : c.channel4.Valid

/-- The channels without power: what is not cleared is the length counters, the wave RAM and the
alignment of the noise. -/
structure Off (c : ApuChannels) : Prop where
  channel1 : c.channel1 = { Channel1State.default with
    pulse := { PulseChannelState.default with lengthCounter := c.channel1.pulse.lengthCounter } }
  channel2 : c.channel2 = { Channel2State.default with
    pulse := { PulseChannelState.default with lengthCounter := c.channel2.pulse.lengthCounter } }
  channel3 : c.channel3 = { Channel3State.default with
    waveRam := c.channel3.waveRam, lengthCounter := c.channel3.lengthCounter }
  channel4 : c.channel4 = { Channel4State.default with
    lengthCounter := c.channel4.lengthCounter
    nr43LiveWrite := { Channel4State.default.nr43LiveWrite with
      alignment := c.channel4.nr43LiveWrite.alignment
      alignmentSubphase := c.channel4.nr43LiveWrite.alignmentSubphase } }

variable {c : ApuChannels}

theorem valid_default : default.Valid :=
  ⟨Channel1State.valid_default, Channel2State.valid_default, Channel3State.valid_default,
    Channel4State.valid_default⟩

theorem off_default : default.Off := ⟨rfl, rfl, rfl, rfl⟩

theorem Valid.beginTCycle (h : c.Valid) : c.beginTCycle.Valid :=
  { h with channel3 := h.channel3.beginTCycle }

theorem Valid.tickFastTimers (h : c.Valid) (consoleModel : ConsoleModel)
    (clockGenerationTimers : Bool) (apuClock tCyclePhase : Nat) :
    (c.tickFastTimers consoleModel clockGenerationTimers apuClock tCyclePhase).Valid := by
  have htick := h.channel2.step ⟨consoleModel, .dmgCpuB⟩ (.tCycle clockGenerationTimers 0 0)
  refine ⟨h.channel1.tick .., htick, ?_, ?_⟩
  · show (if clockGenerationTimers then c.channel3.tickFastTimer else c.channel3).Valid
    split
    · exact h.channel3.tickFastTimer
    · exact h.channel3
  · show (if clockGenerationTimers then c.channel4.tickFastTimer else c.channel4).Valid
    split
    · exact h.channel4.tickFastTimer
    · exact h.channel4

theorem Valid.tickPoweredOffTimebase (h : c.Valid) : c.tickPoweredOffTimebase.Valid :=
  { h with
    channel4 := h.channel4.noises (Channel4State.noises_tickAlignmentPhaseOnly c.channel4) }

theorem Valid.clockLengthAll (h : c.Valid) : c.clockLengthAll.Valid :=
  ⟨h.channel1.withPulse h.channel1.pulse.clockLength rfl rfl,
    h.channel2.withPulse h.channel2.pulse.clockLength rfl rfl, h.channel3.clockLength,
    h.channel4.clockLength⟩

theorem Valid.clockSweepCh1 (h : c.Valid) (consoleModel : ConsoleModel) :
    (c.clockSweepCh1 consoleModel).Valid :=
  { h with channel1 := h.channel1.sweeps (Channel1State.sweeps_clockSweep c.channel1 _) }

theorem Valid.clockEnvelopeAll (h : c.Valid) : c.clockEnvelopeAll.Valid :=
  { h with
    channel1 := h.channel1.withPulse h.channel1.pulse.clockEnvelope rfl rfl
    channel2 := h.channel2.withPulse h.channel2.pulse.clockEnvelope rfl rfl
    channel4 := { h.channel4 with envelope := h.channel4.envelope.clock } }

theorem Valid.clockPendingEvenEnvelopeAll (h : c.Valid) :
    c.clockCgbLiveWritePendingEvenEnvelopeAll.Valid :=
  { h with
    channel1 := h.channel1.withPulse h.channel1.pulse.clockPendingEvenEnvelope rfl rfl
    channel2 := h.channel2.withPulse h.channel2.pulse.clockPendingEvenEnvelope rfl rfl
    channel4 :=
      { h.channel4 with envelope := h.channel4.envelope.clockCgbLiveWritePendingEvenTick } }

theorem Valid.clockChannels (h : c.Valid) (consoleModel : ConsoleModel)
    (clocks : FrameSequencerClocks) : (Apu.clockChannels consoleModel clocks c).Valid := by
  have hite : ∀ (condition : Prop) [Decidable condition] (d e : ApuChannels), d.Valid → e.Valid →
      (if condition then d else e).Valid := by
    intro condition _ d e hd he
    split
    · exact hd
    · exact he
  have hlength := hite (clocks.length = true) _ _ h.clockLengthAll h
  have hsweep := hite (clocks.sweep = true) _ _ (hlength.clockSweepCh1 consoleModel) hlength
  have hpending := hite ((!clocks.length && consoleModel.isCgbFamily) = true) _ _
    hsweep.clockPendingEvenEnvelopeAll hsweep
  exact hite (clocks.envelope = true) _ _ hpending.clockEnvelopeAll hpending

/-! ### The power -/

theorem Valid.powerOffRegisters (h : c.Valid) (consoleModel : ConsoleModel) :
    (c.powerOffRegisters consoleModel).Valid :=
  ⟨h.channel1.powerOffRegisters _, h.channel2.powerOffRegisters _,
    h.channel3.powerOffRegisters _, h.channel4.powerOffRegisters _⟩

theorem powerOff_eq (p : PulseChannelState) (consoleModel : ConsoleModel) :
    p.powerOff consoleModel = { PulseChannelState.default with
      lengthCounter := (p.powerOff consoleModel).lengthCounter } := by
  unfold PulseChannelState.powerOff
  split <;> rfl

theorem off_powerOffRegisters (c : ApuChannels) (consoleModel : ConsoleModel) :
    (c.powerOffRegisters consoleModel).Off :=
  ⟨congrArg (fun pulse => { Channel1State.default with pulse }) (powerOff_eq _ consoleModel),
    congrArg (fun pulse => { Channel2State.default with pulse }) (powerOff_eq _ consoleModel),
    rfl, rfl⟩

theorem Off.quiet (h : c.Off) (channel : Fin channelCount) :
    c.runtimes.get channel = .default := by
  have h1 : c.channel1.pulse.runtime = .default :=
    congrArg (fun c : Channel1State => c.pulse.runtime) h.channel1
  have h2 : c.channel2.pulse.runtime = .default :=
    congrArg (fun c : Channel2State => c.pulse.runtime) h.channel2
  have h3 : c.channel3.runtime = .default := congrArg Channel3State.runtime h.channel3
  have h4 : c.channel4.runtime = .default := congrArg Channel4State.runtime h.channel4
  obtain ⟨channel, hlt⟩ := channel
  unfold channelCount at hlt
  have hcases : channel = 0 ∨ channel = 1 ∨ channel = 2 ∨ channel = 3 := by omega
  rcases hcases with rfl | rfl | rfl | rfl
  · exact h1
  · exact h2
  · exact h3
  · exact h4

theorem Valid.markPoweredOn (h : c.Valid) (hoff : c.Off) : c.markPoweredOn.Valid :=
  { h with
    channel1 := h.channel1.markPoweredOn
      (congrArg (fun c : Channel1State => c.pulse.runtime.active) hoff.channel1)
    channel2 := h.channel2.markPoweredOn
      (congrArg (fun c : Channel2State => c.pulse.runtime.active) hoff.channel2)
    channel4 := h.channel4.markPoweredOn }

theorem Off.beginTCycle (h : c.Off) : c.beginTCycle.Off := by
  refine { h with channel3 := ?_ }
  show c.channel3.beginTCycle = _
  rw [h.channel3]
  rfl

theorem Off.tickPoweredOffTimebase (h : c.Off) : c.tickPoweredOffTimebase.Off := by
  refine { h with channel4 := ?_ }
  show c.channel4.tickAlignmentPhaseOnly.1 = _
  rw [h.channel4]
  rfl

theorem Valid.applyStartup (h : c.Valid) (consoleModel : ConsoleModel) (s : ApuStartupState) :
    (c.applyStartup consoleModel s).Valid := by
  unfold ApuChannels.applyStartup
  split
  · have hloaded : ({ c with channel3 := { c.channel3 with waveRam := s.waveRam }
        } : ApuChannels).Valid :=
      { h with channel3 := { h.channel3 with waveRam := s.waveRam_length } }
    exact hloaded.powerOffRegisters consoleModel
  · exact ⟨Channel1State.valid_applyPoweredStartup .., Channel2State.valid_applyPoweredStartup ..,
      Channel3State.valid_applyPoweredStartup s.waveRam_length ..,
      Channel4State.valid_applyPoweredStartup ..⟩

theorem off_applyStartup (c : ApuChannels) (consoleModel : ConsoleModel) {s : ApuStartupState}
    (h : s.powered = false) : (c.applyStartup consoleModel s).Off := by
  unfold applyStartup
  rw [h, if_pos (by decide)]
  exact off_powerOffRegisters _ _

theorem Valid.digitalOutputs_le (h : c.Valid) (channel : Fin channelCount) :
    c.digitalOutputs.get channel ≤ maxEnvelopeVolume := by
  obtain ⟨channel, hlt⟩ := channel
  unfold channelCount at hlt
  have hcases : channel = 0 ∨ channel = 1 ∨ channel = 2 ∨ channel = 3 := by omega
  rcases hcases with rfl | rfl | rfl | rfl
  · exact h.channel1.pulse.currentDigitalOutput_le
  · exact h.channel2.pulse.currentDigitalOutput_le
  · exact h.channel3.currentDigitalOutput_le
  · exact h.channel4.currentDigitalOutput_le

end ApuChannels

/-! ## The APU -/

namespace Apu

/-- What holds before the output path has been shown a change. -/
structure Sound (a : Apu) : Prop where
  channels : a.channels.Valid
  off : a.master.powered = false →
    a.channels.Off ∧ a.master.nr50 = 0 ∧ a.master.nr51 = 0 ∧ a.startupSilentChannelMask = 0
  vinInput : a.master.vinInput = .default
  outputPath : a.outputPath.InRange
  sequencerStep : a.frameSequencer.step ≤ frameSequencerStepMask
  apuClock : a.apuClock < 4
  tCyclePhase : a.tCyclePhase < 4

structure Valid (a : Apu) : Prop extends Sound a where
  silent : a.master.powered = false → a.outputPath.currentOutput = .default

variable {a : Apu}

theorem valid_new (m : ApuModel) : (new m).Valid where
  channels := ApuChannels.valid_default
  off := fun _ => ⟨ApuChannels.off_default, rfl, rfl, rfl⟩
  vinInput := rfl
  outputPath := OutputPathState.inRange_new m.consoleModel
  sequencerStep := (show (0 : U8) ≤ frameSequencerStepMask by decide)
  apuClock := (show 0 < 4 by decide)
  tCyclePhase := (show 0 < 4 by decide)
  silent := fun _ => rfl

theorem Sound.preview (h : a.Sound) : a.previewOutputPath.Valid := by
  refine ⟨{ h with outputPath := h.outputPath.preview h.vinInput a.channelOutputState }, ?_⟩
  intro hoff
  show (a.outputPath.preview a.master a.channelOutputState).currentOutput = .default
  unfold OutputPathState.preview OutputPathState.resolveMixState
  rw [show a.master.powered = false from hoff]
  rfl

theorem Sound.tickOutputPath (h : a.Sound) : a.tickOutputPath.Valid := by
  refine ⟨{ h with outputPath := h.outputPath.tick h.vinInput a.channelOutputState }, ?_⟩
  intro hoff
  show (a.outputPath.tick a.master a.channelOutputState).currentOutput = .default
  unfold OutputPathState.tick OutputPathState.resolveMixState
  rw [show a.master.powered = false from hoff]
  rfl

/-- The channels of a powered APU have changed. -/
theorem Sound.withChannels (h : a.Sound) (hon : a.master.powered = true) {channels : ApuChannels}
    (hc : channels.Valid) : ({ a with channels } : Apu).Sound :=
  { h with
    channels := hc
    off := fun hoff => absurd (hoff.symm.trans hon) Bool.false_ne_true }

theorem Sound.withOffChannels (h : a.Sound) (hoff : a.master.powered = false)
    {channels : ApuChannels} (hc : channels.Valid) (hcleared : channels.Off) :
    ({ a with channels } : Apu).Sound :=
  { h with channels := hc, off := fun _ => ⟨hcleared, (h.off hoff).2⟩ }

/-! ### The writes -/

theorem Sound.powerOff (h : a.Sound) : a.powerOff.Sound :=
  { h with
    channels := h.channels.powerOffRegisters a.consoleModel
    off := fun _ => ⟨ApuChannels.off_powerOffRegisters _ _, rfl, rfl, rfl⟩ }

theorem Sound.powerOn (h : a.Sound) (hoff : a.master.powered = false) (divApuSignalHigh : Bool) :
    (a.powerOn divApuSignalHigh).Sound :=
  { h with
    channels := h.channels.markPoweredOn (h.off hoff).1
    off := fun habsurd => absurd habsurd.symm Bool.false_ne_true
    sequencerStep := and_le_mask _ _
    apuClock := (show 0 < 4 by decide)
    tCyclePhase := (show 0 < 4 by decide) }

theorem Sound.writeNr52 (h : a.Sound) (value : U8) (divApuSignalHigh : Bool) :
    (a.writeNr52 value divApuSignalHigh).Sound := by
  unfold Apu.writeNr52
  dsimp only
  split
  · exact h.powerOff
  · next hoff _ => exact h.powerOn hoff divApuSignalHigh
  · exact h

/-- A write of a channel's register: the channels stay valid with the power on, and cleared without
it. -/
theorem Sound.writesChannel (h : a.Sound) {channels : ApuChannels} {silentMask : U8}
    (hvalid : channels.Valid) (hoff : a.master.powered = false → channels.Off)
    (hmask : silentMask = a.startupSilentChannelMask ∨
      ∃ channelMask, silentMask = a.startupSilentChannelMask &&& ~~~channelMask) :
    ({ a with channels, startupSilentChannelMask := silentMask } : Apu).Sound := by
  refine { h with channels := hvalid, off := fun hpower => ?_ }
  obtain ⟨-, hnr50, hnr51, hzero⟩ := h.off hpower
  refine ⟨hoff hpower, hnr50, hnr51, ?_⟩
  rcases hmask with rfl | ⟨channelMask, rfl⟩
  · exact hzero
  · show a.startupSilentChannelMask &&& ~~~channelMask = 0
    rw [hzero]
    exact BitVec.zero_and

theorem clearStartupSilentChannelMask_cases (a : Apu) (isNrx4 : Bool) (value channelMask : U8) :
    a.clearStartupSilentChannelMask isNrx4 value channelMask = a.startupSilentChannelMask ∨
      ∃ mask, a.clearStartupSilentChannelMask isNrx4 value channelMask =
        a.startupSilentChannelMask &&& ~~~mask := by
  unfold clearStartupSilentChannelMask
  split
  · exact .inr ⟨channelMask, rfl⟩
  · exact .inl rfl

theorem Sound.writeApuRegister (h : a.Sound) (owner : ApuRegisterOwner) (value : U8)
    (speedMode : CgbSpeedMode) (divApuSignalHigh : Bool) :
    (a.writeApuRegister owner value speedMode divApuSignalHigh).Sound := by
  have hv := h.channels
  cases owner with
  | channel1 register =>
      refine h.writesChannel { hv with channel1 := ?_ } (fun hpower => ?_)
        (a.clearStartupSilentChannelMask_cases _ value channelActiveCh1)
      · show (writeChannel1Register ..).Valid
        unfold writeChannel1Register
        split
        · exact hv.channel1.writeRegister ..
        · exact hv.channel1.writePoweredOffRegister ..
      · have hoff := (h.off hpower).1
        refine { hoff with channel1 := ?_ }
        show writeChannel1Register a.channels.channel1 a register value speedMode = _
        unfold writeChannel1Register Channel1State.writePoweredOffRegister
        rw [hpower, if_neg Bool.false_ne_true]
        split
        · exact hoff.channel1
        · split
          · rw [hoff.channel1]
            rfl
          · exact hoff.channel1
  | channel2 register =>
      refine h.writesChannel { hv with channel2 := ?_ } (fun hpower => ?_)
        (a.clearStartupSilentChannelMask_cases _ value channelActiveCh2)
      · show (writeChannel2Register ..).Valid
        unfold writeChannel2Register
        split
        · exact hv.channel2.writeRegister ..
        · exact hv.channel2.writePoweredOffRegister ..
      · have hoff := (h.off hpower).1
        refine { hoff with channel2 := ?_ }
        show writeChannel2Register a.channels.channel2 a register value speedMode = _
        unfold writeChannel2Register Channel2State.writePoweredOffRegister
        rw [hpower, if_neg Bool.false_ne_true]
        split
        · exact hoff.channel2
        · split
          · rw [hoff.channel2]
            rfl
          · exact hoff.channel2
  | channel3 register =>
      refine h.writesChannel { hv with channel3 := ?_ } (fun hpower => ?_)
        (a.clearStartupSilentChannelMask_cases _ value channelActiveCh3)
      · show (writeChannel3Register ..).Valid
        unfold writeChannel3Register
        split
        · exact hv.channel3.writeRegister ..
        · exact hv.channel3.writePoweredOffRegister ..
      · have hoff := (h.off hpower).1
        refine { hoff with channel3 := ?_ }
        show writeChannel3Register a.channels.channel3 a register value = _
        unfold writeChannel3Register Channel3State.writePoweredOffRegister
        rw [hpower, if_neg Bool.false_ne_true]
        split
        · exact hoff.channel3
        · split
          · rw [hoff.channel3]
          · exact hoff.channel3
  | channel4 register =>
      refine h.writesChannel { hv with channel4 := ?_ } (fun hpower => ?_)
        (a.clearStartupSilentChannelMask_cases _ value channelActiveCh4)
      · show (writeChannel4Register ..).Valid
        unfold writeChannel4Register
        split
        · exact hv.channel4.writeRegister ..
        · exact hv.channel4.writePoweredOffRegister ..
      · have hoff := (h.off hpower).1
        refine { hoff with channel4 := ?_ }
        show writeChannel4Register a.channels.channel4 a register value = _
        unfold writeChannel4Register Channel4State.writePoweredOffRegister
        rw [hpower, if_neg Bool.false_ne_true]
        split
        · exact hoff.channel4
        · split
          · rw [hoff.channel4]
          · exact hoff.channel4
  | master register =>
      have hmaster : ∀ nr50 nr51, a.master.powered = true →
          ({ a with master := { a.master with nr50, nr51 } } : Apu).Sound :=
        fun _ _ hon => { h with
          off := fun hoff => absurd (hoff.symm.trans hon) Bool.false_ne_true }
      show (a.writeMasterRegister register value divApuSignalHigh).Sound
      unfold writeMasterRegister
      cases register with
      | nr50 =>
          dsimp only
          split
          · next hon => exact hmaster value a.master.nr51 hon
          · exact h
      | nr51 =>
          dsimp only
          split
          · next hon => exact hmaster a.master.nr50 value hon
          · exact h
      | nr52 => exact h.writeNr52 value divApuSignalHigh
  | unused => exact h

theorem Sound.writeWaveRam (h : a.Sound) (index : Nat) (value : U8) :
    ({ a with channels := { a.channels with
        channel3 := a.channels.channel3.writeWaveRam a.consoleModel index value } } : Apu).Sound := by
  refine { h with
    channels := { h.channels with channel3 := h.channels.channel3.writeWaveRam .. }
    off := fun hpower => ?_ }
  obtain ⟨hoff, hrest⟩ := h.off hpower
  refine ⟨{ hoff with channel3 := ?_ }, hrest⟩
  show a.channels.channel3.writeWaveRam a.consoleModel index value = _
  unfold Channel3State.writeWaveRam
  split
  · rw [hoff.channel3]
  · exact hoff.channel3

theorem Sound.write (h : a.Sound) (address : U16) (value : U8) (speedMode : CgbSpeedMode)
    (divApuSignalHigh : Bool) :
    (a.writeRegister address value speedMode divApuSignalHigh).Valid := by
  unfold writeRegister
  split
  · exact (h.writeWaveRam _ value).preview
  · exact (h.writeApuRegister _ value speedMode divApuSignalHigh).preview
  · exact h.preview

/-! ### The clocks -/

theorem Sound.advanceFrameSequencer (h : a.Sound) : a.advanceFrameSequencer.Valid := by
  have hskipped : ({ a with skipNextFrameSequencerEdge := false } : Apu).Sound := { h with }
  have hadvanced : ({ a with frameSequencer := a.frameSequencer.advance.1 } : Apu).Sound :=
    { h with sequencerStep := and_le_mask _ _ }
  unfold Apu.advanceFrameSequencer
  dsimp only
  split
  · exact hskipped.preview
  · split
    · exact hadvanced.preview
    · next hon =>
        have hpower : a.master.powered = true := by
          simpa only [Bool.not_eq_true', Bool.not_eq_false] using hon
        exact (hadvanced.withChannels hpower (h.channels.clockChannels _ _)).preview

theorem Sound.tickGenerators (h : a.Sound) (clockGenerationTimers : Bool) :
    (a.tickGenerators clockGenerationTimers).Sound := by
  have hphase : ∀ b : Apu, b.Sound → (if clockGenerationTimers then
      { b with tCyclePhase := (a.tCyclePhase + 1) % 4 } else b).Sound := by
    intro b hb
    split
    · exact { hb with tCyclePhase := Nat.mod_lt _ (by decide) }
    · exact hb
  refine hphase _ ?_
  cases hpower : a.master.powered with
  | true =>
      have hbegun := h.withChannels hpower h.channels.beginTCycle
      show (if true = true then _ else _ : Apu).Sound
      rw [if_pos rfl]
      have hclock : (if a.tCyclePhase % 2 = 0 ∧ clockGenerationTimers then (a.apuClock + 1) % 4
          else a.apuClock) < 4 := by
        split
        · exact Nat.mod_lt _ (by decide)
        · exact h.apuClock
      exact { h.withChannels hpower (h.channels.beginTCycle.tickFastTimers ..) with
        apuClock := hclock }
  | false =>
      have hoff := (h.off hpower).1.beginTCycle
      have hbegun := h.withOffChannels hpower h.channels.beginTCycle hoff
      show (if false = true then _ else _ : Apu).Sound
      rw [if_neg Bool.false_ne_true]
      split
      · exact hbegun.withOffChannels hpower h.channels.beginTCycle.tickPoweredOffTimebase
          hoff.tickPoweredOffTimebase
      · exact hbegun

theorem Sound.tickTCycle (h : a.Sound) (schedulerTCycle frameSequencerEdges : Nat)
    (speedMode : CgbSpeedMode) :
    (a.tickTCycleForSpeed schedulerTCycle frameSequencerEdges speedMode).Valid := by
  have hedges := @iterate_invariant _ Apu.advanceFrameSequencer Sound
    (fun _ hb => hb.advanceFrameSequencer.toSound) frameSequencerEdges _
    (h.tickGenerators (speedMode.apuTickDueAtSchedulerTCycle schedulerTCycle))
  exact hedges.tickOutputPath

/-! ### The run -/

theorem Sound.applyStartupState (h : a.Sound) (s : ApuStartupState) :
    (a.applyStartupState s).Valid := by
  refine Sound.preview { h with
    channels := h.channels.applyStartup a.consoleModel s
    off := fun hpower => ?_
    outputPath := OutputPathState.inRange_new _
    sequencerStep := and_le_mask _ _
    apuClock := (show 0 < 4 by decide)
    tCyclePhase := (show 0 < 4 by decide) }
  have hpower : s.powered = false := hpower
  refine ⟨ApuChannels.off_applyStartup _ _ hpower, ?_, ?_, ?_⟩ <;>
    · dsimp only
      rw [hpower, if_neg Bool.false_ne_true]

theorem Valid.step (h : a.Valid) (e : ApuEvent) : (Apu.step a e).Valid := by
  cases e with
  | tCycle schedulerTCycle frameSequencerEdges speedMode => exact h.toSound.tickTCycle ..
  | divApuEdge => exact h.toSound.advanceFrameSequencer
  | write address value speedMode divApuSignalHigh => exact h.toSound.write ..
  | startup s => exact h.toSound.applyStartupState s
  | divApuStartupPhase systemCounter =>
      have hphase : ({ a with
        frameSequencer := a.frameSequencer.applyStartupPhase
          (divApuPhaseFromSystemCounter systemCounter) } : Apu).Sound :=
        { h with sequencerStep := and_le_mask _ _ }
      exact hphase.preview

theorem Valid.run (h : a.Valid) (events : List ApuEvent) : (a.run events).Valid := by
  induction events generalizing a with
  | nil => exact h
  | cons e events ih => exact ih (h.step e)

/-! ### What the registers show of the outputs -/

/-- A channel shows its digit, or nothing while the boot has left it silent. -/
theorem Sound.digit_le (h : a.Sound) (channel : Fin channelCount) :
    a.channelOutputState.digitalOutputs.get channel ≤ maxEnvelopeVolume := by
  have hget : a.channelOutputState.digitalOutputs.get channel =
      if a.startupSilentChannelMask &&& channelActiveMask &&& channelMask channel ≠ 0 then 0
      else a.channels.digitalOutputs.get channel := by
    refine (Vector.getElem_ofFn _).trans ?_
    simp only [ne_eq, decide_not, Bool.not_eq_true', decide_eq_false_iff_not]
  rw [hget]
  split
  · decide
  · exact h.channels.digitalOutputs_le channel

/-- Two digits in a byte. -/
theorem digits_of_pcm {low high : U8} (hlow : low ≤ maxEnvelopeVolume)
    (hhigh : high ≤ maxEnvelopeVolume) :
    ((high <<< 4) ||| low) &&& 0x0F = low ∧ ((high <<< 4) ||| low) >>> 4 = high := by
  have hlow : low.toNat < 2 ^ 4 := Nat.lt_succ_of_le hlow
  have hhigh : high.toNat < 2 ^ 4 := Nat.lt_succ_of_le hhigh
  have hbyte : ((high <<< 4) ||| low).toNat = high.toNat * 2 ^ 4 + low.toNat := by
    rw [BitVec.toNat_or, BitVec.toNat_shiftLeft, Nat.shiftLeft_eq, Nat.mod_eq_of_lt (by omega),
      Nat.mul_comm, Nat.two_pow_add_eq_or_of_lt hlow]
  constructor
  · apply BitVec.eq_of_toNat_eq
    rw [BitVec.toNat_and, hbyte]
    show _ &&& (2 ^ 4 - 1) = _
    rw [Nat.and_two_pow_sub_one_eq_mod]
    omega
  · apply BitVec.eq_of_toNat_eq
    rw [BitVec.toNat_ushiftRight, hbyte, Nat.shiftRight_eq_div_pow]
    omega

/-- At any time the channels keep their invariants, cleared while the power is off; the digits they
show fit the nibbles that `PCM12` and `PCM34` read them in; and the sample that is out is not over
the maximum that hosts are told. -/
theorem apu_invariant (m : ApuModel) (events : List ApuEvent) :
    let a := (new m).run events
    let digit (channel : Nat) := a.channelOutputState.digitalOutputs.getD channel 0
    a.Valid ∧ (a.readPcm12 &&& 0x0F = digit 0 ∧ a.readPcm12 >>> 4 = digit 1) ∧
      (a.readPcm34 &&& 0x0F = digit 2 ∧ a.readPcm34 >>> 4 = digit 3) ∧
      a.outputPath.currentOutput.Within apuHostMaxAbsSample := by
  intro a digit
  have h : a.Valid := (valid_new m).run events
  have hdigit : ∀ channel, digit channel ≤ maxEnvelopeVolume := by
    intro channel
    show a.channelOutputState.digitalOutputs.toArray.getD channel 0 ≤ maxEnvelopeVolume
    unfold Array.getD
    split
    · next hlt =>
        rw [Vector.size_toArray] at hlt
        exact h.toSound.digit_le ⟨channel, hlt⟩
    · decide
  refine ⟨h, digits_of_pcm (hdigit 0) (hdigit 1), digits_of_pcm (hdigit 2) (hdigit 3), ?_⟩
  have hmaximum : 2 * apuInternalMaxAbsOutputSample ≤ apuHostMaxAbsSample := by decide
  obtain ⟨⟨hl₁, hl₂⟩, hr₁, hr₂⟩ := h.outputPath.current
  exact ⟨⟨by omega, by omega⟩, by omega, by omega⟩


end Apu


end GbCycle
