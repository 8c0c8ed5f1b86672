import GbCycle.Apu.ChannelRuns

/-!
# The clocks of the frame sequencer

The frame sequencer takes a step at every edge of the divider, eight to a round: the even steps
clock the length counters, two of them the sweep as well, and the last one the envelopes.  Over a
run with the power on each channel gets as many clocks as the edges bring from the step that the
sequencer was at; an edge that the power on swallows brings none.
-/

namespace GbCycle

/-! ## What the edges bring -/

/-- How many edges of the divider an event is. -/
def ApuEvent.edges : ApuEvent → Nat
  | .tCycle _ frameSequencerEdges _ => frameSequencerEdges
  | .divApuEdge => 1
  | _ => 0

def ChannelEvent.isEnvelopeClock {R : Type} : ChannelEvent R → Bool
  | clockEnvelope => true
  | _ => false

/-- The clocks that come with so many edges from a step of the sequencer on. -/
structure BringsClocks {R : Type} (step edges next : Nat)
    (events : List (ChannelEvent R)) : Prop where
  next : next = (step + edges) % 8
  length : events.countP (·.isLengthClock) + (step + 1) / 2 = (step + edges + 1) / 2
  sweep : events.countP (·.isSweepClock) + (step + 1) / 4 = (step + edges + 1) / 4
  envelope : events.countP (·.isEnvelopeClock) + step / 8 = (step + edges) / 8

namespace BringsClocks

variable {R : Type} {step edges next later last : Nat}
  {events more : List (ChannelEvent R)}

theorem append (h : BringsClocks step edges next events)
    (hmore : BringsClocks next later last more) :
    BringsClocks step (edges + later) last (events ++ more) := by
  obtain ⟨hnext, hlength, hsweep, henvelope⟩ := h
  obtain ⟨hlast, hlength', hsweep', henvelope'⟩ := hmore
  refine ⟨?_, ?_, ?_, ?_⟩
  · omega
  · rw [List.countP_append]
    omega
  · rw [List.countP_append]
    omega
  · rw [List.countP_append]
    omega

/-- Events that are no clocks. -/
theorem none (hstep : step < 8) (hlength : events.countP (·.isLengthClock) = 0)
    (hsweep : events.countP (·.isSweepClock) = 0)
    (henvelope : events.countP (·.isEnvelopeClock) = 0) : BringsClocks step 0 step events :=
  ⟨(Nat.mod_eq_of_lt hstep).symm, by omega, by omega, by omega⟩

end BringsClocks

namespace Apu

variable {R : Type} {a : Apu}

/-- An edge that comes after the power on may be swallowed. -/
def countedEdges (a : Apu) (edges : Nat) : Nat :=
  edges - a.skipNextFrameSequencerEdge.toNat

theorem countedEdges_add {b : Apu} {edges : Nat} (later : Nat)
    (hskip : b.skipNextFrameSequencerEdge = (a.skipNextFrameSequencerEdge && decide (edges = 0))) :
    a.countedEdges (edges + later) = a.countedEdges edges + b.countedEdges later := by
  unfold countedEdges
  rw [hskip]
  cases a.skipNextFrameSequencerEdge with
  | false => rfl
  | true =>
      by_cases hzero : edges = 0
      · rw [hzero, decide_eq_true rfl]
        show 0 + later - 1 = 0 - 1 + (later - 1)
        omega
      · rw [decide_eq_false hzero]
        show edges + later - 1 = edges - 1 + later
        omega

theorem frameEvents_countP (hskip : a.skipNextFrameSequencerEdge = false) :
    let clocks := frameSequencerClocks a.frameSequencer.step
    (a.frameEvents : List (ChannelEvent R)).countP (·.isLengthClock) =
        clocks.length.toNat ∧
      (a.frameEvents : List (ChannelEvent R)).countP (·.isSweepClock) =
        clocks.sweep.toNat ∧
      (a.frameEvents : List (ChannelEvent R)).countP (·.isEnvelopeClock) =
        clocks.envelope.toNat := by
  unfold frameEvents
  rw [hskip, if_neg Bool.false_ne_true]
  dsimp only
  generalize frameSequencerClocks a.frameSequencer.step = clocks
  generalize a.consoleModel.isCgbFamily = cgb
  obtain ⟨length, sweep, envelope⟩ := clocks
  cases length <;> cases sweep <;> cases envelope <;> cases cgb <;> exact ⟨rfl, rfl, rfl⟩

/-- What the eight steps clock. -/
theorem frameSequencerClocks_step : ∀ step < 8,
    let clocks := frameSequencerClocks (BitVec.ofNat 8 step)
    clocks.length.toNat + (step + 1) / 2 = (step + 1 + 1) / 2 ∧
      clocks.sweep.toNat + (step + 1) / 4 = (step + 1 + 1) / 4 ∧
      clocks.envelope.toNat + step / 8 = (step + 1) / 8 ∧
      ((BitVec.ofNat 8 step + 1) &&& frameSequencerStepMask : U8).toNat = (step + 1) % 8 := by
  decide

/-- An edge is a step of the sequencer with its clocks, or is swallowed. -/
theorem frameEvents_bring (hstep : a.frameSequencer.step ≤ frameSequencerStepMask) :
    BringsClocks (R := R) a.frameSequencer.step.toNat (a.countedEdges 1)
      a.advanceFrameSequencer.frameSequencer.step.toNat a.frameEvents := by
  have hlt : a.frameSequencer.step.toNat < 8 := Nat.lt_succ_of_le hstep
  unfold countedEdges
  cases hskip : a.skipNextFrameSequencerEdge with
  | true =>
      have hnext : a.advanceFrameSequencer.frameSequencer = a.frameSequencer := by
        unfold advanceFrameSequencer
        rw [hskip]
        rfl
      have hevents : (a.frameEvents : List (ChannelEvent R)) = [] := by
        unfold frameEvents
        rw [hskip]
        rfl
      rw [hnext, hevents]
      exact .none hlt rfl rfl rfl
  | false =>
      have hnext : a.advanceFrameSequencer.frameSequencer.step =
          (a.frameSequencer.step + 1) &&& frameSequencerStepMask := by
        unfold advanceFrameSequencer
        rw [hskip, if_neg Bool.false_ne_true]
        dsimp only
        split <;> rfl
      obtain ⟨hlength, hsweep, henvelope⟩ := frameEvents_countP (R := R) hskip
      obtain ⟨hlengths, hsweeps, henvelopes, hnexts⟩ := frameSequencerClocks_step _ hlt
      rw [BitVec.ofNat_toNat, BitVec.setWidth_eq] at hlengths hsweeps henvelopes hnexts
      refine ⟨?_, ?_, ?_, ?_⟩
      · rw [hnext]
        exact hnexts
      · rw [hlength]
        exact hlengths
      · rw [hsweep]
        exact hsweeps
      · rw [henvelope]
        exact henvelopes

theorem advanceFrameSequencer_skip (a : Apu) :
    a.advanceFrameSequencer.skipNextFrameSequencerEdge = false := by
  unfold advanceFrameSequencer
  dsimp only
  split
  · rfl
  · next hskip =>
      have hskip := Bool.eq_false_iff.mpr hskip
      split
      · exact hskip
      · exact hskip

theorem edgesEvents_bring (edges : Nat) {a : Apu} (h : a.Sound) :
    BringsClocks (R := R) a.frameSequencer.step.toNat (a.countedEdges edges)
      (advanceFrameSequencer^[edges] a).frameSequencer.step.toNat (a.edgesEvents edges) ∧
    (advanceFrameSequencer^[edges] a).skipNextFrameSequencerEdge =
      (a.skipNextFrameSequencerEdge && decide (edges = 0)) := by
  induction edges generalizing a with
  | zero =>
      have hnone : a.countedEdges 0 = 0 := Nat.zero_sub _
      rw [hnone]
      exact ⟨.none (Nat.lt_succ_of_le h.sequencerStep) rfl rfl rfl, (Bool.and_true _).symm⟩
  | succ edges ih =>
      obtain ⟨hlater, hskip⟩ := ih h.advanceFrameSequencer.toSound
      have hfirst := frameEvents_bring (R := R) h.sequencerStep
      have hadd : a.countedEdges (edges + 1) =
          a.countedEdges 1 + a.advanceFrameSequencer.countedEdges edges := by
        rw [Nat.add_comm]
        refine countedEdges_add edges ?_
        rw [a.advanceFrameSequencer_skip, decide_eq_false (by decide), Bool.and_false]
      rw [Function.iterate_succ_apply, hadd]
      refine ⟨hfirst.append hlater, ?_⟩
      rw [hskip, a.advanceFrameSequencer_skip, decide_eq_false (Nat.succ_ne_zero edges),
        Bool.and_false]
      rfl

/-! ## Over a run -/

/-- A write that leaves the power on leaves the sequencer alone. -/
theorem writeRegister_sequencer {address : U16} {value : U8} {speedMode : CgbSpeedMode}
    {divApuSignalHigh : Bool} (hon : a.master.powered = true)
    (hon' : (a.writeRegister address value speedMode divApuSignalHigh).master.powered = true) :
    (a.writeRegister address value speedMode divApuSignalHigh).frameSequencer =
        a.frameSequencer ∧
      (a.writeRegister address value speedMode divApuSignalHigh).skipNextFrameSequencerEdge =
        a.skipNextFrameSequencerEdge := by
  unfold writeRegister at hon' ⊢
  cases hdecode : ApuMmioRegister.decode address with
  | waveRam index => exact ⟨rfl, rfl⟩
  | unmapped => exact ⟨rfl, rfl⟩
  | register owner =>
      rw [hdecode] at hon'
      cases owner with
      | master register =>
          cases register with
          | nr50 =>
              dsimp only [writeApuRegister, writeMasterRegister]
              split <;> exact ⟨rfl, rfl⟩
          | nr51 =>
              dsimp only [writeApuRegister, writeMasterRegister]
              split <;> exact ⟨rfl, rfl⟩
          | nr52 =>
              have hon' : (a.writeNr52 value divApuSignalHigh).master.powered = true := hon'
              show (a.writeNr52 value divApuSignalHigh).frameSequencer = a.frameSequencer ∧
                (a.writeNr52 value divApuSignalHigh).skipNextFrameSequencerEdge =
                  a.skipNextFrameSequencerEdge
              unfold writeNr52 at hon' ⊢
              dsimp only at hon' ⊢
              rw [hon] at hon' ⊢
              cases hvalue : decide (value &&& nr52MasterPowerBit ≠ 0) with
              | true => exact ⟨rfl, rfl⟩
              | false =>
                  rw [hvalue] at hon'
                  exact absurd hon' Bool.false_ne_true
      | _ => exact ⟨rfl, rfl⟩

theorem tickGenerators_sequencer (a : Apu) (clockGenerationTimers : Bool) :
    (a.tickGenerators clockGenerationTimers).frameSequencer = a.frameSequencer ∧
      (a.tickGenerators clockGenerationTimers).skipNextFrameSequencerEdge =
        a.skipNextFrameSequencerEdge := by
  unfold tickGenerators
  dsimp only
  cases a.master.powered <;> cases clockGenerationTimers <;> exact ⟨rfl, rfl⟩

/-- The power stays on, and nothing sets the sequencer to a step. -/
def KeepsPhase (a : Apu) (e : ApuEvent) : Prop :=
  a.StaysOn e ∧ ∀ systemCounter, e ≠ .divApuStartupPhase systemCounter

theorem channelEvents_bring (owns : ApuRegisterOwner → Option R) {e : ApuEvent}
    (h : a.Valid) (hkeeps : a.KeepsPhase e) :
    BringsClocks a.frameSequencer.step.toNat (a.countedEdges e.edges)
      (a.step e).frameSequencer.step.toNat (a.channelEvents owns e) ∧
    (a.step e).skipNextFrameSequencerEdge =
      (a.skipNextFrameSequencerEdge && decide (e.edges = 0)) := by
  obtain ⟨⟨hon, hon', hstart⟩, hphase⟩ := hkeeps
  have hlt : a.frameSequencer.step.toNat < 8 := Nat.lt_succ_of_le h.sequencerStep
  have hzero : a.countedEdges 0 = 0 := Nat.zero_sub _
  cases e with
  | tCycle schedulerTCycle edges speedMode =>
      have hticked := h.tickGenerators (speedMode.apuTickDueAtSchedulerTCycle schedulerTCycle)
      obtain ⟨hsequencer, hkept⟩ :=
        a.tickGenerators_sequencer (speedMode.apuTickDueAtSchedulerTCycle schedulerTCycle)
      obtain ⟨hbring, hskip⟩ := edgesEvents_bring (R := R) edges hticked
      unfold countedEdges at hbring
      rw [hsequencer, hkept] at hbring
      rw [hkept] at hskip
      have hticks : ∀ due apuClock tCyclePhase, BringsClocks a.frameSequencer.step.toNat 0
          a.frameSequencer.step.toNat [(.tCycle due apuClock tCyclePhase : ChannelEvent R)] :=
        fun _ _ _ => .none hlt rfl rfl rfl
      have hboth := (hticks (speedMode.apuTickDueAtSchedulerTCycle schedulerTCycle)
        (a.nextApuClock (speedMode.apuTickDueAtSchedulerTCycle schedulerTCycle))
        a.tCyclePhase).append hbring
      rw [Nat.zero_add] at hboth
      exact ⟨hboth, hskip⟩
  | divApuEdge =>
      refine ⟨frameEvents_bring h.sequencerStep, ?_⟩
      exact a.advanceFrameSequencer_skip.trans (Bool.and_false _).symm
  | write address value speedMode divApuSignalHigh =>
      obtain ⟨hsequencer, hskip⟩ := writeRegister_sequencer hon hon'
      have hnext : (a.step (.write address value speedMode divApuSignalHigh)).frameSequencer =
          a.frameSequencer := hsequencer
      rw [hnext]
      refine ⟨?_, hskip.trans (Bool.and_true _).symm⟩
      refine hzero.symm ▸ .none hlt ?_ ?_ ?_ <;>
        · unfold channelEvents
          dsimp only
          split
          · split <;> rfl
          · rfl
          · rfl
  | startup s => exact absurd rfl (hstart s)
  | divApuStartupPhase systemCounter => exact absurd rfl (hphase systemCounter)

theorem channelRun_brings (owns : ApuRegisterOwner → Option R) {events : List ApuEvent}
    (h : a.Valid) (hkeeps : AllAllowed Apu.step KeepsPhase a events) :
    BringsClocks a.frameSequencer.step.toNat
      (a.countedEdges (events.map ApuEvent.edges).sum)
      (a.run events).frameSequencer.step.toNat (a.channelRun owns events) := by
  induction events generalizing a with
  | nil =>
      have hzero : a.countedEdges 0 = 0 := Nat.zero_sub _
      exact hzero.symm ▸ .none (Nat.lt_succ_of_le h.sequencerStep) rfl rfl rfl
  | cons e events ih =>
      obtain ⟨hkeep, hlater⟩ := hkeeps
      obtain ⟨hfirst, hskip⟩ := channelEvents_bring owns h hkeep
      rw [List.map_cons, List.sum_cons, countedEdges_add _ hskip]
      exact hfirst.append (ih (h.step e) hlater)

/-- From any state of the APU, with the power on: so many edges move the sequencer as many steps on,
an edge that the power on swallows not counted, and bring each channel a length clock at every other
step, a sweep clock at every fourth and an envelope clock at every eighth. -/
theorem frameSequencer_law (m : ApuModel) (before events : List ApuEvent)
    (hkeeps : AllAllowed Apu.step KeepsPhase ((new m).run before) events)
    (owns : ApuRegisterOwner → Option R) :
    let a := (new m).run before
    BringsClocks a.frameSequencer.step.toNat
      (a.countedEdges (events.map ApuEvent.edges).sum)
      (a.run events).frameSequencer.step.toNat (a.channelRun owns events) :=
  channelRun_brings owns ((valid_new m).run before) hkeeps

/-- On a DMG whose divider bit is high as the power comes on, the first edge brings nothing. -/
theorem frameSequencer_law_skipped :
    let a := (new ⟨.gameBoy, .dmgCpuB⟩).run [.write 0xFF26 0x80 .normal true]
    BringsClocks 0 1 1
      (a.channelRun ApuRegisterOwner.channel1? [.divApuEdge, .tCycle 0 1 .normal]) := by
  refine frameSequencer_law ⟨.gameBoy, .dmgCpuB⟩ [.write 0xFF26 0x80 .normal true]
    [.divApuEdge, .tCycle 0 1 .normal] ⟨⟨⟨rfl, rfl, ?_⟩, ?_⟩, ⟨⟨rfl, rfl, ?_⟩, ?_⟩, trivial⟩
    ApuRegisterOwner.channel1? <;>
  · intro _ h
    cases h

end Apu

end GbCycle
