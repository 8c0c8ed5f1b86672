import GbCycle.Apu.RegisterLaws

/-!
# No channel plays by itself

A channel starts to play when bit 7 of its last register is written, and at no other time: not by a
clock, not by a write of another register, and not by a power cycle.  On a DMG a trigger of channel
4 may be taken a few steps of the APU later, so there the channel must not be about to start.
-/

namespace GbCycle

/-! ## The channels -/

/-- A write that triggers. -/
def ChannelEvent.triggers {Register : Type} [DecidableEq Register] (nrx4 : Register)
    (e : ChannelEvent Register) : Bool :=
  (e.written nrx4).any (· &&& channelTriggerBit ≠ 0)

/-- Without a trigger a silent channel stays silent. -/
def StaysSilent {S Register : Type} [DecidableEq Register]
    (step : ApuModel → S → ChannelEvent Register → S) (silent : S → Prop) (nrx4 : Register) :
    Prop :=
  ∀ (m : ApuModel) (c : S) (e : ChannelEvent Register), silent c → e.triggers nrx4 = false →
    silent (step m c e)

theorem clockLengthCounter_silent {l : LengthCounter} (h : l.active = false)
    (lengthEnabled : Bool) : (clockLengthCounter lengthEnabled l).active = false := by
  unfold clockLengthCounter
  split
  · exact h
  · show (l.active && decide (l.counter ≠ 1)) = false
    rw [h, Bool.false_and]

theorem extraClock_silent {l : LengthCounter} (h : l.active = false)
    (context : Nrx4WriteContext) (wasLengthEnabled reloaded : Bool) (full : Nat) :
    (applyExtraLengthClocking context wasLengthEnabled reloaded full l).active = false := by
  refine Bool.eq_false_iff.mpr fun hactive => Bool.eq_false_iff.mp h ?_
  exact Channel3State.extraClock_active context wasLengthEnabled reloaded full l hactive

/-- A written value without the trigger bit. -/
theorem nrx4WriteContext_trigger {value nextFrameSequencerStep : U8}
    (h : value &&& channelTriggerBit = 0) :
    (nrx4WriteContext value nextFrameSequencerStep).trigger = false :=
  decide_eq_false fun hne => hne h

theorem ChannelEvent.triggers_write {Register : Type} [DecidableEq Register] {nrx4 : Register}
    {value : U8} {speedMode : CgbSpeedMode} {nextFrameSequencerStep : U8}
    (h : (ChannelEvent.write nrx4 value speedMode nextFrameSequencerStep).triggers nrx4 = false) :
    value &&& channelTriggerBit = 0 := by
  unfold triggers written at h
  dsimp only at h
  rw [if_pos rfl] at h
  exact Decidable.not_not.mp (of_decide_eq_false h)

namespace PulseChannelState

variable {p : PulseChannelState}

def Silent (p : PulseChannelState) : Prop := p.runtime.active = false

theorem Silent.reloadPeriod (h : p.Silent) (periodValue : U16) :
    (p.reloadPeriodAfterWriteIfJustSampled periodValue).Silent :=
  (congrArg ChannelRuntimeState.active (p.reloadPeriod_keeps periodValue).1).trans h

theorem Silent.applyDacEnabled (h : p.Silent) (dacEnabled : Bool) :
    (p.applyDacEnabled dacEnabled).Silent := by
  show (p.applyDacEnabled dacEnabled).runtime.active = false
  have hactive : (p.applyDacEnabled dacEnabled).runtime.active =
      (p.runtime.active && dacEnabled) := by
    unfold PulseChannelState.applyDacEnabled
    cases dacEnabled <;> rfl
  rw [hactive, show p.runtime.active = false from h, Bool.false_and]

end PulseChannelState

namespace Channel1State

def Silent (c : Channel1State) : Prop := c.pulse.Silent

variable {c d : Channel1State}

theorem Silent.sweeps (h : c.Silent) (hs : Sweeps c d) : d.Silent :=
  Bool.eq_false_iff.mpr fun hd => Bool.eq_false_iff.mp h (hs.active hd)

theorem Silent.reloadPeriodIfJustSampled (h : c.Silent) (consoleModel : ConsoleModel) :
    (c.reloadPeriodIfJustSampled consoleModel).Silent := by
  unfold Channel1State.reloadPeriodIfJustSampled
  split
  · exact PulseChannelState.Silent.reloadPeriod h _
  · exact h

theorem Silent.writeNr14 (h : c.Silent) {value : U8} (hvalue : value &&& channelTriggerBit = 0)
    (consoleModel : ConsoleModel) (revision : HardwareRevision) (speedMode : CgbSpeedMode)
    (nextFrameSequencerStep : U8) :
    (c.writeNr14 value consoleModel revision speedMode nextFrameSequencerStep).Silent := by
  unfold Channel1State.writeNr14
  dsimp only
  rw [nrx4WriteContext_effective, nrx4WriteContext_trigger hvalue, if_neg Bool.false_ne_true]
  refine extraClock_silent ?_ _ _ _ _
  have hset : ∀ nr14, ({ c with nr14 } : Channel1State).Silent := fun _ => h
  refine ((Silent.reloadPeriodIfJustSampled ?_ consoleModel) : Silent _)
  unfold Channel1State.dmgReloadIncrement
  dsimp only
  split
  · exact h
  · exact h

theorem staysSilent : StaysSilent step Silent .nr14 := by
  intro m c e h htrigger
  cases e with
  | tCycle clocked apuClock tCyclePhase =>
      have hdelayed := sweeps_tickDelayedCalculation c clocked
      have htick : ∀ d : Channel1State, Sweeps c d →
          (d.pulse.tickFastTimerWithClockGate d.periodValue clocked).Silent := fun d hd =>
        (congrArg ChannelRuntimeState.active (d.pulse.tick_keeps d.periodValue clocked).1).trans
          (h.sweeps hd)
      exact htick _
        (.ite (hdelayed.trans (sweeps_tickRecalculation _ apuClock tCyclePhase)) hdelayed)
  | clockLength => exact clockLengthCounter_silent (l := c.pulse.length) h _
  | clockSweep => exact h.sweeps (sweeps_clockSweep c m.consoleModel)
  | clockEnvelope => exact h
  | clockPendingEvenEnvelope => exact h
  | write register value speedMode nextFrameSequencerStep =>
      cases register with
      | nr10 =>
          have hset : ({ c with nr10 := value &&& nr10WritableMask } : Channel1State).Silent := h
          exact hset.sweeps (sweeps_writeNr10 c value m.consoleModel)
      | nr11 =>
          exact (congrArg ChannelRuntimeState.active
            (c.pulse.applyLengthDutyWrite_keeps value).1).trans h
      | nr12 =>
          exact PulseChannelState.Silent.applyDacEnabled
            (p := c.pulse.applyLiveEnvelopeWriteEffect m.consoleModel value) h _
      | nr13 =>
          show (c.writeNr13 value m.consoleModel).Silent
          unfold writeNr13
          split
          · exact h
          · exact Silent.reloadPeriodIfJustSampled
              (c := ({ c with nr13 := value } : Channel1State).clearReloadPeriodPending) h _
      | nr14 =>
          exact h.writeNr14 (ChannelEvent.triggers_write htrigger) m.consoleModel m.revision
            speedMode nextFrameSequencerStep

end Channel1State

namespace Channel2State

def Silent (c : Channel2State) : Prop := c.pulse.Silent

variable {c : Channel2State}

theorem Silent.reloadPeriodIfJustSampled (h : c.Silent) (consoleModel : ConsoleModel) :
    (c.reloadPeriodIfJustSampled consoleModel).Silent := by
  unfold Channel2State.reloadPeriodIfJustSampled
  split
  · exact PulseChannelState.Silent.reloadPeriod h _
  · exact h

theorem staysSilent : StaysSilent step Silent .nr24 := by
  intro m c e h htrigger
  cases e with
  | tCycle clocked apuClock tCyclePhase =>
      exact (congrArg ChannelRuntimeState.active (c.pulse.tick_keeps c.periodValue clocked).1).trans
        h
  | clockLength => exact clockLengthCounter_silent (l := c.pulse.length) h _
  | clockSweep => exact h
  | clockEnvelope => exact h
  | clockPendingEvenEnvelope => exact h
  | write register value speedMode nextFrameSequencerStep =>
      cases register with
      | nr21 =>
          exact (congrArg ChannelRuntimeState.active
            (c.pulse.applyLengthDutyWrite_keeps value).1).trans h
      | nr22 =>
          exact PulseChannelState.Silent.applyDacEnabled
            (p := c.pulse.applyLiveEnvelopeWriteEffect m.consoleModel value) h _
      | nr23 =>
          exact Silent.reloadPeriodIfJustSampled (c := { c with nr23 := value }) h _
      | nr24 =>
          show (c.writeNr24 value m.consoleModel speedMode nextFrameSequencerStep).Silent
          unfold writeNr24
          dsimp only
          rw [nrx4WriteContext_trigger (ChannelEvent.triggers_write htrigger),
            if_neg Bool.false_ne_true]
          refine extraClock_silent ?_ _ _ _ _
          exact Silent.reloadPeriodIfJustSampled
            (c := { c with nr24 := value &&& nrx4WritableMask }) h _

end Channel2State

namespace Channel3State

def Silent (c : Channel3State) : Prop := c.runtime.active = false

theorem staysSilent : StaysSilent step Silent .nr34 := by
  intro m c e h htrigger
  cases e with
  | tCycle clocked apuClock tCyclePhase =>
      cases clocked with
      | true =>
          show c.beginTCycle.tickFastTimer.runtime.active = false
          unfold tickFastTimer
          have hquiet : c.beginTCycle.runtime.active = false := h
          rw [hquiet, Bool.not_false, if_pos rfl]
          exact h
      | false => exact h
  | clockLength => exact clockLengthCounter_silent (l := c.length) h _
  | clockSweep => exact h
  | clockEnvelope => exact h
  | clockPendingEvenEnvelope => exact h
  | write register value speedMode nextFrameSequencerStep =>
      cases register with
      | nr30 =>
          show (c.runtime.active && _) = false
          rw [show c.runtime.active = false from h, Bool.false_and]
      | nr34 =>
          show (c.writeNr34 value m.consoleModel nextFrameSequencerStep).Silent
          unfold writeNr34
          dsimp only
          rw [nrx4WriteContext_trigger (ChannelEvent.triggers_write htrigger),
            if_neg Bool.false_ne_true]
          exact extraClock_silent (l := ⟨c.lengthCounter, c.runtime.active⟩) h _ _ _ _
      | _ => exact h

end Channel3State

namespace Channel4State

/-- The channel is silent, and is not about to start. -/
structure Silent (c : Channel4State) : Prop where
  quiet : c.runtime.active = false
  waits : c.dmgDelayedStart = 0

variable {c d : Channel4State}

theorem Silent.noises (h : c.Silent) (hn : Noises c d) : d.Silent :=
  ⟨(hn.keeps (fun c => c.runtime.active) fun _ => rfl).trans h.quiet,
    (hn.keeps dmgDelayedStart fun _ => rfl).trans h.waits⟩

theorem Silent.tickFastTimer (h : c.Silent) : c.tickFastTimer.Silent := by
  have haligned := h.noises (noises_tickAlignmentPhaseOnly c)
  unfold Channel4State.tickFastTimer
  dsimp only
  generalize c.tickAlignmentPhaseOnly.1 = a at haligned
  split
  · exact haligned.noises (noises_tickPeriodTimer a)
  · have hcounted : ({ a with dmgDelayedStart := a.dmgDelayedStart - 1
        } : Channel4State).Silent := ⟨haligned.quiet, by
      show a.dmgDelayedStart - 1 = 0
      rw [haligned.waits]⟩
    rw [haligned.waits, decide_eq_false (by decide), if_neg Bool.false_ne_true]
    rw [haligned.waits] at hcounted
    exact (hcounted.noises (noises_tickNoiseCounterPhase _)).noises (noises_tickPeriodTimer _)

theorem staysSilent : StaysSilent step Silent .nr44 := by
  intro m c e h htrigger
  have hdac : ∀ d : Channel4State, d.Silent → ∀ dacEnabled,
      ({ d with runtime := d.runtime.setDacEnabled dacEnabled } : Channel4State).Silent := by
    intro d hd dacEnabled
    refine ⟨?_, hd.waits⟩
    show (d.runtime.active && dacEnabled) = false
    rw [hd.quiet, Bool.false_and]
  cases e with
  | tCycle clocked apuClock tCyclePhase =>
      cases clocked with
      | true => exact h.tickFastTimer
      | false => exact h
  | clockLength => exact ⟨clockLengthCounter_silent (l := c.length) h.quiet _, h.waits⟩
  | clockSweep => exact h
  | clockEnvelope => exact ⟨h.quiet, h.waits⟩
  | clockPendingEvenEnvelope => exact ⟨h.quiet, h.waits⟩
  | write register value speedMode nextFrameSequencerStep =>
      cases register with
      | nr41 => exact ⟨h.quiet, h.waits⟩
      | nr42 =>
          have hwritten : ∀ d : Channel4State, d.Silent → ({ d with
              envelope := d.envelope.applyLiveWriteEffect m.consoleModel d.runtime.active value
              nr42 := value } : Channel4State).Silent := fun d hd => ⟨hd.quiet, hd.waits⟩
          show (c.writeNr42 value m.consoleModel).Silent
          unfold writeNr42
          dsimp only
          split
          · exact hdac _ (hwritten _ (h.noises (noises_handleHiddenCounterDacDisable c))) _
          · exact hdac _ (hwritten _ h) _
      | nr43 => exact ⟨h.quiet, h.waits⟩
      | nr44 =>
          show (c.writeNr44 value m.consoleModel nextFrameSequencerStep).Silent
          unfold writeNr44
          dsimp only
          rw [nrx4WriteContext_trigger (ChannelEvent.triggers_write htrigger),
            if_neg Bool.false_ne_true]
          exact ⟨extraClock_silent (l := ⟨c.lengthCounter, c.runtime.active⟩) h.quiet _ _ _ _,
            h.waits⟩

end Channel4State

/-! ## In the APU -/

/-- A write that triggers the channel of a register. -/
def ApuEvent.triggers (nrx4 : ApuRegisterOwner) (e : ApuEvent) : Bool :=
  (e.writtenTo nrx4).any (· &&& channelTriggerBit ≠ 0)

namespace Apu

variable {a : Apu} {e : ApuEvent}

/-- What comes of the channels as the power comes on. -/
theorem step_on_channels (hoff : a.master.powered = false)
    (hon : (a.step e).master.powered = true) (hstart : ∀ s, e ≠ .startup s) :
    (a.step e).channels = a.channels.markPoweredOn := by
  obtain ⟨address, value, speedMode, divApuSignalHigh, rfl, hdecode, hvalue⟩ :=
    RegisterMemory.step_on (r := .cleared) rfl ((step_power hoff e).symm.trans hon) hstart
  show (a.writeRegister ..).channels = _
  unfold writeRegister
  rw [hdecode]
  show (a.writeNr52 value divApuSignalHigh).channels = _
  unfold writeNr52
  rw [hoff, decide_eq_true hvalue]
  rfl

end Apu

namespace ChannelPart

variable {S Register : Type} [DecidableEq Register] {get : ApuChannels → S}
  {owns : ApuRegisterOwner → Option Register}
  {step : ApuModel → S → ChannelEvent Register → S} {Allowed : ApuEvent → Prop}
  {silent : S → Prop} {nrx4 : Register}

/-- What reaches a channel writes its registers only as the event does. -/
theorem channelEvents_written {ownerOf : Register → ApuRegisterOwner}
    (howns : ∀ owner register, owns owner = some register ↔ owner = ownerOf register)
    (a : Apu) (e : ApuEvent) (register : Register) :
    ∀ event ∈ a.channelEvents owns e, event.written register = none ∨
      event.written register = e.writtenTo (ownerOf register) := by
  intro event hevent
  cases e with
  | tCycle schedulerTCycle frameSequencerEdges speedMode =>
      rcases List.mem_cons.mp hevent with rfl | hedge
      · exact .inl rfl
      · exact .inl (Apu.edgesEvents_unwritten _ _ register event hedge)
  | divApuEdge => exact .inl (a.frameEvents_unwritten register event hevent)
  | write address value speedMode divApuSignalHigh =>
      unfold Apu.channelEvents at hevent
      dsimp only at hevent
      cases hdecode : ApuMmioRegister.decode address with
      | waveRam index =>
          rw [hdecode] at hevent
          cases hevent
      | unmapped =>
          rw [hdecode] at hevent
          cases hevent
      | register owner =>
          rw [hdecode] at hevent
          dsimp only at hevent
          cases howner : owns owner with
          | none =>
              rw [howner] at hevent
              cases hevent
          | some own =>
              rw [howner] at hevent
              obtain rfl := List.mem_singleton.mp hevent
              by_cases hsame : own = register
              · refine .inr ((if_pos hsame).trans (if_pos ?_).symm)
                rw [hdecode, (howns owner own).mp howner, hsame]
              · exact .inl (if_neg hsame)
  | startup s => cases hevent
  | divApuStartupPhase systemCounter => cases hevent

/-- With the power on a silent channel stays silent. -/
theorem staysSilent_on (h : ChannelPart get owns step Allowed)
    (hsilent : StaysSilent step silent nrx4) {ownerOf : Register → ApuRegisterOwner}
    (howns : ∀ owner register, owns owner = some register ↔ owner = ownerOf register)
    {a : Apu} {e : ApuEvent} (hon : a.StaysOn e) (hallowed : Allowed e)
    (htrigger : e.triggers (ownerOf nrx4) = false) (hc : silent (get a.channels)) :
    silent (get (a.step e).channels) := by
  have hquiet : ∀ event ∈ a.channelEvents owns e, event.triggers nrx4 = false := by
    intro event hevent
    unfold ChannelEvent.triggers
    rcases channelEvents_written howns a e nrx4 event hevent with hnone | hwritten
    · rw [hnone]
      rfl
    · rw [hwritten]
      exact htrigger
  rw [h.step_eq hon hallowed]
  generalize a.channelEvents owns e = events at hquiet
  generalize get a.channels = c at hc
  induction events generalizing c with
  | nil => exact hc
  | cons event events ih =>
      exact ih (fun e he => hquiet e (List.mem_cons_of_mem _ he)) _
        (hsilent a.model c event hc (hquiet event (List.mem_cons_self ..)))

/-- A channel that a powered off APU silences, and that does not start with the power. -/
theorem staysSilent (h : ChannelPart get owns step Allowed)
    (hsilent : StaysSilent step silent nrx4) {ownerOf : Register → ApuRegisterOwner}
    (howns : ∀ owner register, owns owner = some register ↔ owner = ownerOf register)
    (hoff : ∀ c : ApuChannels, c.Off → silent (get c) ∧ silent (get c.markPoweredOn))
    {events : List ApuEvent} {a : Apu} (hvalid : a.Valid)
    (hallowed : ∀ e ∈ events, ∀ b : Apu, ¬Allowed e → silent (get b.channels) →
      silent (get (b.step e).channels))
    (hstart : ∀ e ∈ events, ∀ s, e ≠ .startup s)
    (htrigger : ∀ e ∈ events, e.triggers (ownerOf nrx4) = false) (hc : silent (get a.channels)) :
    silent (get (a.run events).channels) := by
  induction events generalizing a with
  | nil => exact hc
  | cons e events ih =>
      refine ih (hvalid.step e) (fun e he => hallowed e (List.mem_cons_of_mem _ he))
        (fun e he => hstart e (List.mem_cons_of_mem _ he))
        (fun e he => htrigger e (List.mem_cons_of_mem _ he)) ?_
      have hstart := hstart e (List.mem_cons_self ..)
      cases hpower' : (a.step e).master.powered with
      | false => exact (hoff _ ((hvalid.step e).off hpower').1).1
      | true =>
          cases hpower : a.master.powered with
          | false =>
              rw [Apu.step_on_channels hpower hpower' hstart]
              exact (hoff _ (hvalid.off hpower).1).2
          | true =>
              by_cases he : Allowed e
              · exact h.staysSilent_on hsilent howns ⟨hpower, hpower', hstart⟩ he
                  (htrigger e (List.mem_cons_self ..)) hc
              · exact hallowed e (List.mem_cons_self ..) a he hc

end ChannelPart

namespace Apu

/-- At any time, whatever else is written and however often the power is cycled, a channel that is
silent stays so as long as it is not triggered. -/
theorem silent_until_triggered (m : ApuModel) (before events : List ApuEvent)
    (hstart : ∀ e ∈ events, ∀ s, e ≠ .startup s) :
    let c := ((new m).run before).channels
    let d := (((new m).run before).run events).channels
    ((∀ e ∈ events, e.triggers (.channel1 .nr14) = false) →
      c.channel1.Silent → d.channel1.Silent) ∧
    ((∀ e ∈ events, e.triggers (.channel2 .nr24) = false) →
      c.channel2.Silent → d.channel2.Silent) ∧
    ((∀ e ∈ events, e.triggers (.channel3 .nr34) = false) →
      c.channel3.Silent → d.channel3.Silent) ∧
    ((∀ e ∈ events, e.triggers (.channel4 .nr44) = false) →
      c.channel4.Silent → d.channel4.Silent) := by
  intro c d
  have hvalid := (valid_new m).run before
  refine ⟨fun htrigger hc => ?_, fun htrigger hc => ?_, fun htrigger hc => ?_,
    fun htrigger hc => ?_⟩
  · refine channel1_part.staysSilent Channel1State.staysSilent ApuRegisterOwner.channel1?_iff
      (fun c hc => ?_) hvalid (fun _ _ _ habsurd => absurd trivial habsurd) hstart htrigger hc
    have hquiet := congrArg ChannelRuntimeState.active (hc.quiet ⟨0, by decide⟩)
    exact ⟨hquiet, hquiet⟩
  · refine channel2_part.staysSilent Channel2State.staysSilent ApuRegisterOwner.channel2?_iff
      (fun c hc => ?_) hvalid (fun _ _ _ habsurd => absurd trivial habsurd) hstart htrigger hc
    have hquiet := congrArg ChannelRuntimeState.active (hc.quiet ⟨1, by decide⟩)
    exact ⟨hquiet, hquiet⟩
  · refine channel3_part.staysSilent Channel3State.staysSilent ApuRegisterOwner.channel3?_iff
      (fun c hc => ?_) hvalid (fun e _ b hwave hsilent => ?_) hstart htrigger hc
    · have hquiet := congrArg ChannelRuntimeState.active (hc.quiet ⟨2, by decide⟩)
      exact ⟨hquiet, hquiet⟩
    · cases e with
      | write address value speedMode divApuSignalHigh =>
          obtain ⟨index, hdecode⟩ := not_not.mp hwave
          show (b.writeRegister ..).channels.channel3.Silent
          unfold writeRegister
          rw [hdecode]
          show (b.channels.channel3.writeWaveRam ..).Silent
          unfold Channel3State.writeWaveRam
          split
          · exact hsilent
          · exact hsilent
      | _ => exact absurd id hwave
  · refine channel4_part.staysSilent Channel4State.staysSilent ApuRegisterOwner.channel4?_iff
      (fun c hc => ?_) hvalid (fun _ _ _ habsurd => absurd trivial habsurd) hstart htrigger hc
    have hquiet := congrArg ChannelRuntimeState.active (hc.quiet ⟨3, by decide⟩)
    exact ⟨⟨hquiet, congrArg Channel4State.dmgDelayedStart hc.channel4⟩, hquiet, rfl⟩

/-- A length enable of channel 1, and a power cycle. -/
def untriggeredEvents : List ApuEvent :=
  [.write 0xFF12 0xF0 .normal false, .write 0xFF14 0x40 .normal false, .tCycle 0 1 .normal,
    .write 0xFF26 0x00 .normal false, .write 0xFF26 0x80 .normal true]

theorem silent_until_triggered_power_cycle :
    (((new ⟨.gameBoy, .dmgCpuB⟩).run [.write 0xFF26 0x80 .normal false]).run
      untriggeredEvents).channels.channel1.Silent := by
  refine (silent_until_triggered ⟨.gameBoy, .dmgCpuB⟩ [.write 0xFF26 0x80 .normal false]
    untriggeredEvents ?_).1 (by decide) rfl
  intro e he s
  simp only [untriggeredEvents, List.mem_cons, List.not_mem_nil, or_false] at he
  rcases he with rfl | rfl | rfl | rfl | rfl <;>
  · intro h
    cases h

end Apu

end GbCycle
