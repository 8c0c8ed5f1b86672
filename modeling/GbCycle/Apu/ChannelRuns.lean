import GbCycle.Apu.ApuInvariants

/-!
# The channels inside the APU

While the power stays on, each channel of the APU runs by itself: its state is that of the channel
alone, run over the events that reach it.  Those are the T-cycles with the phase they find, the
clocks of the frame sequencer's steps, and the writes of its own registers with the step that the
sequencer is about to take.  What is proved of the runs of a channel so holds inside the APU.

Only the wave RAM is not among a channel's events: for channel 3 nothing may write it.
-/

namespace GbCycle

/-! ## What reaches a channel -/

namespace Apu

section Events

variable {Register : Type}

/-- The clocks that an edge of the frame sequencer brings with the power on. -/
def frameEvents (a : Apu) : List (ChannelEvent Register) :=
  if a.skipNextFrameSequencerEdge then []
  else
    let clocks := frameSequencerClocks a.frameSequencer.step
    (if clocks.length then [.clockLength] else []) ++
      ((if clocks.sweep then [.clockSweep] else []) ++
        ((if !clocks.length && a.consoleModel.isCgbFamily then [.clockPendingEvenEnvelope]
          else []) ++ (if clocks.envelope then [.clockEnvelope] else [])))

def edgesEvents (a : Apu) : Nat → List (ChannelEvent Register)
  | 0 => []
  | edges + 1 => a.frameEvents ++ a.advanceFrameSequencer.edgesEvents edges

/-- The clock of the APU that a T-cycle's generators see. -/
def nextApuClock (a : Apu) (clockGenerationTimers : Bool) : Nat :=
  if a.tCyclePhase % 2 = 0 ∧ clockGenerationTimers then (a.apuClock + 1) % 4 else a.apuClock

/-- The events of a channel, of which `owns` finds the registers. -/
def channelEvents (owns : ApuRegisterOwner → Option Register) (a : Apu) :
    ApuEvent → List (ChannelEvent Register)
  | .tCycle schedulerTCycle frameSequencerEdges speedMode =>
    let due := speedMode.apuTickDueAtSchedulerTCycle schedulerTCycle
    .tCycle due (a.nextApuClock due) a.tCyclePhase ::
      (a.tickGenerators due).edgesEvents frameSequencerEdges
  | .divApuEdge => a.frameEvents
  | .write address value speedMode _ =>
    match ApuMmioRegister.decode address with
    | .register owner =>
      match owns owner with
      | some register => [.write register value speedMode a.effectiveFrameSequencerStep]
      | none => []
    | .waveRam _ | .unmapped => []
  | .startup _ | .divApuStartupPhase _ => []

/-- The events of a channel over a run. -/
def channelRun (owns : ApuRegisterOwner → Option Register) (a : Apu) :
    List ApuEvent → List (ChannelEvent Register)
  | [] => []
  | e :: events => a.channelEvents owns e ++ (a.step e).channelRun owns events

end Events

/-- The power stays on, and not because the machine starts. -/
def StaysOn (a : Apu) (e : ApuEvent) : Prop :=
  a.master.powered = true ∧ (a.step e).master.powered = true ∧ ∀ s, e ≠ .startup s

end Apu

def ApuEvent.WritesWaveRam : ApuEvent → Prop
  | .write address _ _ _ => ∃ index, ApuMmioRegister.decode address = .waveRam index
  | _ => False

def ApuRegisterOwner.channel1? : ApuRegisterOwner → Option Channel1Register
  | .channel1 register => some register
  | _ => none

def ApuRegisterOwner.channel2? : ApuRegisterOwner → Option Channel2Register
  | .channel2 register => some register
  | _ => none

def ApuRegisterOwner.channel3? : ApuRegisterOwner → Option Channel3Register
  | .channel3 register => some register
  | _ => none

def ApuRegisterOwner.channel4? : ApuRegisterOwner → Option Channel4Register
  | .channel4 register => some register
  | _ => none

/-! ## A channel that runs by itself -/

/-- A channel as a part of the channels: everything the APU does to the channels is an event of it
or leaves it alone. -/
structure ChannelPart {S Register : Type} (get : ApuChannels → S)
    (owns : ApuRegisterOwner → Option Register) (step : ApuModel → S → ChannelEvent Register → S)
    (Allowed : ApuEvent → Prop) : Prop where
  tick : ∀ (m : ApuModel) (c : ApuChannels) (due : Bool) (apuClock tCyclePhase : Nat),
    get (c.beginTCycle.tickFastTimers m.consoleModel due apuClock tCyclePhase) =
      step m (get c) (.tCycle due apuClock tCyclePhase)
  clockLength : ∀ (m : ApuModel) (c : ApuChannels),
    get c.clockLengthAll = step m (get c) .clockLength
  clockSweep : ∀ (m : ApuModel) (c : ApuChannels),
    get (c.clockSweepCh1 m.consoleModel) = step m (get c) .clockSweep
  clockEnvelope : ∀ (m : ApuModel) (c : ApuChannels),
    get c.clockEnvelopeAll = step m (get c) .clockEnvelope
  clockPendingEvenEnvelope : ∀ (m : ApuModel) (c : ApuChannels),
    get c.clockCgbLiveWritePendingEvenEnvelopeAll = step m (get c) .clockPendingEvenEnvelope
  write : ∀ (a : Apu) (owner : ApuRegisterOwner) (value : U8) (speedMode : CgbSpeedMode)
      (divApuSignalHigh : Bool), a.master.powered = true →
      (a.writeApuRegister owner value speedMode divApuSignalHigh).master.powered = true →
    get (a.writeApuRegister owner value speedMode divApuSignalHigh).channels =
      match owns owner with
      | some register =>
        step a.model (get a.channels)
          (.write register value speedMode a.effectiveFrameSequencerStep)
      | none => get a.channels
  waveRam : ∀ (c : ApuChannels) (address : U16) (value : U8) (speedMode : CgbSpeedMode)
      (divApuSignalHigh : Bool) (index : Nat) (consoleModel : ConsoleModel),
    ApuMmioRegister.decode address = .waveRam index →
    Allowed (.write address value speedMode divApuSignalHigh) →
    get { c with channel3 := c.channel3.writeWaveRam consoleModel index value } = get c

namespace ChannelPart

variable {S Register : Type} {get : ApuChannels → S} {owns : ApuRegisterOwner → Option Register}
  {step : ApuModel → S → ChannelEvent Register → S} {Allowed : ApuEvent → Prop}

/-- A clock that comes or does not. -/
theorem clocked {m : ApuModel} {clock : ApuChannels → ApuChannels} {e : ChannelEvent Register}
    (h : ∀ c, get (clock c) = step m (get c) e) (due : Bool) (c : ApuChannels) :
    get (if due then clock c else c) = (if due then [e] else []).foldl (step m) (get c) := by
  cases due with
  | true => exact h c
  | false => rfl

theorem clockChannels (h : ChannelPart get owns step Allowed) (a : Apu)
    (hskip : a.skipNextFrameSequencerEdge = false) (c : ApuChannels) :
    get (Apu.clockChannels a.consoleModel (frameSequencerClocks a.frameSequencer.step) c) =
      a.frameEvents.foldl (step a.model) (get c) := by
  unfold Apu.frameEvents Apu.clockChannels
  rw [hskip, if_neg Bool.false_ne_true]
  dsimp only
  rw [List.foldl_append, List.foldl_append, List.foldl_append,
    ← clocked (h.clockLength a.model), ← clocked (h.clockSweep a.model),
    ← clocked (h.clockPendingEvenEnvelope a.model), ← clocked (h.clockEnvelope a.model)]
  rfl

/-- An edge of the frame sequencer, with the power on. -/
theorem edge (h : ChannelPart get owns step Allowed) {a : Apu} (hon : a.master.powered = true) :
    get a.advanceFrameSequencer.channels = a.frameEvents.foldl (step a.model) (get a.channels) ∧
      a.advanceFrameSequencer.master.powered = true ∧ a.advanceFrameSequencer.model = a.model := by
  cases hskip : a.skipNextFrameSequencerEdge with
  | true =>
      unfold Apu.advanceFrameSequencer Apu.frameEvents
      rw [hskip, if_pos rfl, if_pos rfl]
      exact ⟨rfl, hon, rfl⟩
  | false =>
      rw [← h.clockChannels a hskip a.channels]
      unfold Apu.advanceFrameSequencer
      rw [hskip, if_neg Bool.false_ne_true]
      dsimp only
      rw [hon, if_neg (by decide)]
      exact ⟨rfl, hon, rfl⟩

theorem edges (h : ChannelPart get owns step Allowed) (edges : Nat) {a : Apu}
    (hon : a.master.powered = true) :
    get (Apu.advanceFrameSequencer^[edges] a).channels =
      (a.edgesEvents edges).foldl (step a.model) (get a.channels) := by
  induction edges generalizing a with
  | zero => rfl
  | succ edges ih =>
      obtain ⟨hedge, hon', hmodel⟩ := h.edge hon
      rw [Function.iterate_succ_apply, ih hon', Apu.edgesEvents, List.foldl_append, hedge, hmodel]

theorem generators (h : ChannelPart get owns step Allowed) (due : Bool) {a : Apu}
    (hon : a.master.powered = true) :
    get (a.tickGenerators due).channels =
        step a.model (get a.channels) (.tCycle due (a.nextApuClock due) a.tCyclePhase) ∧
      (a.tickGenerators due).master.powered = true ∧ (a.tickGenerators due).model = a.model := by
  rw [← h.tick]
  unfold Apu.tickGenerators
  dsimp only
  rw [hon, if_pos rfl]
  split
  · exact ⟨rfl, hon, rfl⟩
  · exact ⟨rfl, hon, rfl⟩

/-- A step with the power on is the events of the channel. -/
theorem step_eq (h : ChannelPart get owns step Allowed) {a : Apu} {e : ApuEvent}
    (hon : a.StaysOn e) (hallowed : Allowed e) :
    get (a.step e).channels = (a.channelEvents owns e).foldl (step a.model) (get a.channels) := by
  obtain ⟨hpower, hpower', hstart⟩ := hon
  cases e with
  | tCycle schedulerTCycle frameSequencerEdges speedMode =>
      obtain ⟨htick, hon, hmodel⟩ :=
        h.generators (speedMode.apuTickDueAtSchedulerTCycle schedulerTCycle) hpower
      have hedges := h.edges frameSequencerEdges hon
      rw [htick, hmodel] at hedges
      exact hedges
  | divApuEdge => exact (h.edge hpower).1
  | write address value speedMode divApuSignalHigh =>
      show get (a.writeRegister address value speedMode divApuSignalHigh).channels = _
      unfold Apu.channelEvents
      dsimp only
      have hwritten : (a.writeRegister address value speedMode
        divApuSignalHigh).master.powered = true := hpower'
      unfold Apu.writeRegister at hwritten ⊢
      cases hdecode : ApuMmioRegister.decode address with
      | waveRam index => exact h.waveRam _ _ _ speedMode divApuSignalHigh _ _ hdecode hallowed
      | unmapped => rfl
      | register owner =>
          rw [hdecode] at hwritten
          have hwrite := h.write a owner value speedMode divApuSignalHigh hpower hwritten
          dsimp only
          cases howns : owns owner with
          | none =>
              rw [howns] at hwrite
              exact hwrite
          | some register =>
              rw [howns] at hwrite
              exact hwrite
  | startup s => exact absurd rfl (hstart s)
  | divApuStartupPhase systemCounter => rfl

theorem step_model (a : Apu) (e : ApuEvent) : (a.step e).model = a.model := by
  have hedge : ∀ b : Apu, b.advanceFrameSequencer.model = b.model := by
    intro b
    unfold Apu.advanceFrameSequencer
    dsimp only
    split
    · rfl
    · split <;> rfl
  have hedges : ∀ edges (b : Apu), (Apu.advanceFrameSequencer^[edges] b).model = b.model := by
    intro edges
    induction edges with
    | zero => exact fun _ => rfl
    | succ edges ih =>
        intro b
        rw [Function.iterate_succ_apply, ih, hedge]
  cases e with
  | tCycle schedulerTCycle frameSequencerEdges speedMode =>
      refine (hedges frameSequencerEdges _).trans ?_
      unfold Apu.tickGenerators
      dsimp only
      split
      · split <;> rfl
      · split <;> rfl
  | divApuEdge => exact hedge a
  | write address value speedMode divApuSignalHigh =>
      show (a.writeRegister ..).model = a.model
      unfold Apu.writeRegister
      split
      · rfl
      · next owner _ =>
          show (a.writeApuRegister ..).model = a.model
          cases owner with
          | master register =>
              cases register with
              | nr50 =>
                  unfold Apu.writeApuRegister Apu.writeMasterRegister
                  dsimp only
                  split <;> rfl
              | nr51 =>
                  unfold Apu.writeApuRegister Apu.writeMasterRegister
                  dsimp only
                  split <;> rfl
              | nr52 =>
                  unfold Apu.writeApuRegister Apu.writeMasterRegister Apu.writeNr52
                  dsimp only
                  split <;> rfl
          | _ => rfl
      · rfl
  | startup s => rfl
  | divApuStartupPhase systemCounter => rfl

/-- While the power stays on, the channel's part of a run is the channel's own run. -/
theorem run_eq (h : ChannelPart get owns step Allowed) {a : Apu} {events : List ApuEvent}
    (hallowed : AllAllowed Apu.step (fun b e => b.StaysOn e ∧ Allowed e) a events) :
    get (a.run events).channels =
      (a.channelRun owns events).foldl (step a.model) (get a.channels) := by
  induction events generalizing a with
  | nil => rfl
  | cons e events ih =>
      obtain ⟨⟨hon, he⟩, hlater⟩ := hallowed
      rw [Apu.channelRun, List.foldl_append, ← h.step_eq hon he, ← step_model a e]
      exact ih hlater

end ChannelPart

/-! ## The four channels -/

/-- A master register that leaves the power on leaves the channels alone. -/
theorem Apu.writeMasterRegister_channels {a : Apu} {register : MasterRegister} {value : U8}
    {divApuSignalHigh : Bool} (hon : a.master.powered = true)
    (hon' : (a.writeMasterRegister register value divApuSignalHigh).master.powered = true) :
    (a.writeMasterRegister register value divApuSignalHigh).channels = a.channels := by
  unfold writeMasterRegister at hon' ⊢
  cases register with
  | nr50 => dsimp only; split <;> rfl
  | nr51 => dsimp only; split <;> rfl
  | nr52 =>
      show (a.writeNr52 value divApuSignalHigh).channels = a.channels
      have hon' : (a.writeNr52 value divApuSignalHigh).master.powered = true := hon'
      unfold writeNr52 at hon' ⊢
      dsimp only at hon' ⊢
      rw [hon] at hon' ⊢
      cases hvalue : decide (value &&& nr52MasterPowerBit ≠ 0) with
      | true => rfl
      | false =>
          rw [hvalue] at hon'
          exact absurd hon' Bool.false_ne_true

theorem channel1_part : ChannelPart ApuChannels.channel1 ApuRegisterOwner.channel1?
    Channel1State.step (fun _ => True) where
  tick _ _ _ _ _ := rfl
  clockLength _ _ := rfl
  clockSweep _ _ := rfl
  clockEnvelope _ _ := rfl
  clockPendingEvenEnvelope _ _ := rfl
  write a owner value speedMode divApuSignalHigh hon hon' := by
    cases owner with
    | channel1 register =>
        show Apu.writeChannel1Register a.channels.channel1 a register value speedMode = _
        unfold Apu.writeChannel1Register
        rw [hon, if_pos rfl]
        rfl
    | master register =>
        exact congrArg ApuChannels.channel1 (Apu.writeMasterRegister_channels hon hon')
    | _ => rfl
  waveRam _ _ _ _ _ _ _ _ _ := rfl

theorem channel2_part : ChannelPart ApuChannels.channel2 ApuRegisterOwner.channel2?
    Channel2State.step (fun _ => True) where
  tick _ _ _ _ _ := rfl
  clockLength _ _ := rfl
  clockSweep _ _ := rfl
  clockEnvelope _ _ := rfl
  clockPendingEvenEnvelope _ _ := rfl
  write a owner value speedMode divApuSignalHigh hon hon' := by
    cases owner with
    | channel2 register =>
        show Apu.writeChannel2Register a.channels.channel2 a register value speedMode = _
        unfold Apu.writeChannel2Register
        rw [hon, if_pos rfl]
        rfl
    | master register =>
        exact congrArg ApuChannels.channel2 (Apu.writeMasterRegister_channels hon hon')
    | _ => rfl
  waveRam _ _ _ _ _ _ _ _ _ := rfl

theorem channel3_part : ChannelPart ApuChannels.channel3 ApuRegisterOwner.channel3?
    Channel3State.step (fun e => ¬e.WritesWaveRam) where
  tick _ _ _ _ _ := rfl
  clockLength _ _ := rfl
  clockSweep _ _ := rfl
  clockEnvelope _ _ := rfl
  clockPendingEvenEnvelope _ _ := rfl
  write a owner value speedMode divApuSignalHigh hon hon' := by
    cases owner with
    | channel3 register =>
        show Apu.writeChannel3Register a.channels.channel3 a register value = _
        unfold Apu.writeChannel3Register
        rw [hon, if_pos rfl]
        rfl
    | master register =>
        exact congrArg ApuChannels.channel3 (Apu.writeMasterRegister_channels hon hon')
    | _ => rfl
  waveRam _ _ _ _ _ index _ hdecode hallowed := absurd ⟨index, hdecode⟩ hallowed

theorem channel4_part : ChannelPart ApuChannels.channel4 ApuRegisterOwner.channel4?
    Channel4State.step (fun _ => True) where
  tick _ _ _ _ _ := rfl
  clockLength _ _ := rfl
  clockSweep _ _ := rfl
  clockEnvelope _ _ := rfl
  clockPendingEvenEnvelope _ _ := rfl
  write a owner value speedMode divApuSignalHigh hon hon' := by
    cases owner with
    | channel4 register =>
        show Apu.writeChannel4Register a.channels.channel4 a register value = _
        unfold Apu.writeChannel4Register
        rw [hon, if_pos rfl]
        rfl
    | master register =>
        exact congrArg ApuChannels.channel4 (Apu.writeMasterRegister_channels hon hon')
    | _ => rfl
  waveRam _ _ _ _ _ _ _ _ _ := rfl

/-- While the power stays on every channel is what it would be alone, run over the events that reach
it; the wave channel as long as nothing writes its RAM. -/
theorem channels_run (a : Apu) (events : List ApuEvent)
    (hon : AllAllowed Apu.step Apu.StaysOn a events) :
    (a.run events).channels.channel1 =
        a.channels.channel1.run a.model (a.channelRun ApuRegisterOwner.channel1? events) ∧
      (a.run events).channels.channel2 =
        a.channels.channel2.run a.model (a.channelRun ApuRegisterOwner.channel2? events) ∧
      ((∀ e ∈ events, ¬e.WritesWaveRam) → (a.run events).channels.channel3 =
        a.channels.channel3.run a.model (a.channelRun ApuRegisterOwner.channel3? events)) ∧
      (a.run events).channels.channel4 =
        a.channels.channel4.run a.model (a.channelRun ApuRegisterOwner.channel4? events) := by
  have hboth := hon.restrict (P := fun _ => True) fun _ _ => trivial
  refine ⟨channel1_part.run_eq hboth, channel2_part.run_eq hboth, fun hwave => ?_,
    channel4_part.run_eq hboth⟩
  exact channel3_part.run_eq (hon.restrict hwave)

/-- A powered DMG. -/
def poweredApu : Apu := (Apu.new ⟨.gameBoy, .dmgCpuB⟩).writeRegister 0xFF26 0x80 .normal false

/-- A note on channel 1, and what comes after it. -/
def noteEvents : List ApuEvent :=
  [.write 0xFF12 0xF0 .normal false, .write 0xFF14 0x80 .normal false, .tCycle 0 1 .normal,
    .divApuEdge]

theorem channels_run_note :
    (poweredApu.run noteEvents).channels.channel1 =
      poweredApu.channels.channel1.run poweredApu.model
        (poweredApu.channelRun ApuRegisterOwner.channel1? noteEvents) := by
  refine (channels_run poweredApu noteEvents ?_).1
  refine ⟨⟨rfl, rfl, ?_⟩, ⟨rfl, rfl, ?_⟩, ⟨rfl, rfl, ?_⟩, ⟨rfl, rfl, ?_⟩, trivial⟩ <;>
    · intro s hstart
      cases hstart

end GbCycle
