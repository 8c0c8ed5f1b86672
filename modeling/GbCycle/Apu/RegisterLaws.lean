import GbCycle.Apu.ChannelRuns

/-!
# What the registers of the APU read

A register reads the value that was written last with its unreadable bits high, whatever the
channels have done since; the sweep writes the period back, but only into bits that do not read.
While the power is off every register reads as if zero had been written, and only the wave RAM can
be written and read back.  `NR52` shows which channels play; a channel that does not play stays
silent until it is triggered.
-/

namespace GbCycle

theorem and_or_unreadable {readable unreadable : U8} (h : readable ||| unreadable = 0xFF)
    (value : U8) : (value &&& readable) ||| unreadable = value ||| unreadable := by
  ext i hi
  have hbit := congrArg (fun v : U8 => v[i]) h
  have hone : (0xFF : U8)[i] = true := BitVec.getElem_allOnes i hi
  simp only [BitVec.getElem_and, BitVec.getElem_or] at hbit ⊢
  rw [hone] at hbit
  cases hreadable : readable[i] with
  | true => rw [Bool.and_true]
  | false =>
      rw [hreadable, Bool.false_or] at hbit
      rw [hbit, Bool.or_true, Bool.or_true]

/-- As `and_or_unreadable`, of a register that only keeps its writable bits. -/
theorem and_and_or_unreadable {writable readable unreadable : U8}
    (hwritable : writable &&& readable = readable) (h : readable ||| unreadable = 0xFF)
    (value : U8) : (value &&& writable &&& readable) ||| unreadable = value ||| unreadable := by
  rw [BitVec.and_assoc, hwritable]
  exact and_or_unreadable h value

/-! ## The registers of a channel -/

def ChannelEvent.written {Register : Type} [DecidableEq Register] (register : Register) :
    ChannelEvent Register → Option U8
  | .write written value _ _ => if written = register then some value else none
  | _ => none

/-- What an event makes of a register that has unreadable bits. -/
def readAfter (written : Option U8) (unreadable before : U8) : U8 :=
  match written with
  | some value => value ||| unreadable
  | none => before

/-- A channel's registers read what was written last. -/
def ReadsBack {S Register : Type} [DecidableEq Register]
    (step : ApuModel → S → ChannelEvent Register → S) (Valid : S → Prop)
    (read : S → Register → U8) (unreadable : Register → U8) : Prop :=
  ∀ (m : ApuModel) (c : S) (e : ChannelEvent Register) (register : Register), Valid c →
    read (step m c e) register =
      readAfter (e.written register) (unreadable register) (read c register)

def Channel1Register.unreadable : Channel1Register → U8
  | .nr10 => nr10ForcedHighMask
  | .nr11 => nr11WriteOnlyMask
  | .nr12 => 0
  | .nr13 => nr13WriteOnlyReadValue
  | .nr14 => nr14ForcedHighMask

def Channel2Register.unreadable : Channel2Register → U8
  | .nr21 => nr11WriteOnlyMask
  | .nr22 => 0
  | .nr23 => nr23WriteOnlyReadValue
  | .nr24 => nr14ForcedHighMask

def Channel3Register.unreadable : Channel3Register → U8
  | .nr30 => nr30ForcedHighMask
  | .nr31 => nr31WriteOnlyReadValue
  | .nr32 => nr32ForcedHighMask
  | .nr33 => nr33WriteOnlyReadValue
  | .nr34 => nr14ForcedHighMask

def Channel4Register.unreadable : Channel4Register → U8
  | .nr41 => nr41WriteOnlyReadValue
  | .nr42 | .nr43 => 0
  | .nr44 => nr44ForcedHighMask

namespace Channel1State

variable {c d : Channel1State}

/-- The sweep may write the period back, which does not read. -/
theorem Sweeps.read (h : Sweeps c d) (register : Channel1Register) :
    d.readRegister register = c.readRegister register := by
  obtain ⟨hnr10, hrest⟩ := Prod.mk.inj h.frame
  obtain ⟨hnr11, hrest⟩ := Prod.mk.inj hrest
  obtain ⟨hnr12, hrest⟩ := Prod.mk.inj hrest
  obtain ⟨hnr14, -⟩ := Prod.mk.inj hrest
  unfold readRegister
  cases register with
  | nr10 => dsimp only; rw [hnr10]
  | nr11 => dsimp only; rw [hnr11]
  | nr12 => exact hnr12
  | nr13 => rfl
  | nr14 =>
      have hbit : d.nr14 &&& nr14ReadMask = c.nr14 &&& nr14ReadMask := by
        have h' := congrArg (· &&& lengthEnableBit) hnr14
        simp only [lengthEnableBit_high] at h'
        exact h'
      dsimp only
      rw [hbit]

theorem readsBack : ReadsBack step Valid readRegister Channel1Register.unreadable := by
  intro m c e register h
  cases e with
  | tCycle clocked apuClock tCyclePhase =>
      have hdelayed := sweeps_tickDelayedCalculation c clocked
      have hread : ∀ d : Channel1State, Sweeps c d → ({ d with
          pulse := d.pulse.tickFastTimerWithClockGate d.periodValue clocked
          } : Channel1State).readRegister register = c.readRegister register :=
        fun _ hd => hd.read register
      exact hread _
        (.ite (hdelayed.trans (sweeps_tickRecalculation _ apuClock tCyclePhase)) hdelayed)
  | clockLength => rfl
  | clockSweep => exact (sweeps_clockSweep c m.consoleModel).read register
  | clockEnvelope => rfl
  | clockPendingEvenEnvelope => rfl
  | write written value speedMode nextFrameSequencerStep =>
      cases written with
      | nr10 =>
          refine ((sweeps_writeNr10 c value m.consoleModel).read register).trans ?_
          cases register with
          | nr10 => exact and_or_unreadable (by decide) value
          | _ => rfl
      | nr11 =>
          cases register with
          | nr11 => exact and_or_unreadable (by decide) value
          | _ => rfl
      | nr12 =>
          cases register with
          | nr12 => exact BitVec.or_zero.symm
          | _ => rfl
      | nr13 =>
          have hkept : ∀ d : Channel1State, Sweeps c d →
              (d.reloadPeriodIfJustSampled m.consoleModel).readRegister register =
                c.readRegister register := by
            intro d hd
            refine Eq.trans ?_ (hd.read register)
            unfold reloadPeriodIfJustSampled
            split <;> rfl
          have hset : Sweeps c ({ c with nr13 := value } : Channel1State).clearReloadPeriodPending :=
            ⟨rfl, id⟩
          have hread : (c.writeNr13 value m.consoleModel).readRegister register =
              c.readRegister register := by
            unfold writeNr13
            split
            · rfl
            · exact hkept _ hset
          refine hread.trans ?_
          cases register with
          | nr13 => exact (BitVec.or_allOnes (x := value)).symm
          | _ => rfl
      | nr14 =>
          obtain ⟨nr14, hbit, hwrites, -⟩ := writeNr14_writes h.pulse value m.consoleModel
            m.revision speedMode nextFrameSequencerStep
          show (c.writeNr14 value m.consoleModel m.revision speedMode
            nextFrameSequencerStep).readRegister register = _
          unfold readRegister
          cases register with
          | nr10 => dsimp only; rw [hwrites.nr10]; rfl
          | nr11 => dsimp only; rw [hwrites.nr11]; rfl
          | nr12 => exact hwrites.nr12
          | nr13 => rfl
          | nr14 =>
              dsimp only
              rw [hwrites.nr14, show nr14 &&& nr14ReadMask = value &&& nr14ReadMask from hbit]
              exact and_or_unreadable (by decide) value

end Channel1State

namespace Channel2State

theorem readsBack : ReadsBack step Valid readRegister Channel2Register.unreadable := by
  intro m c e register h
  cases e with
  | tCycle clocked apuClock tCyclePhase => rfl
  | clockLength => rfl
  | clockSweep => rfl
  | clockEnvelope => rfl
  | clockPendingEvenEnvelope => rfl
  | write written value speedMode nextFrameSequencerStep =>
      cases written with
      | nr21 =>
          cases register with
          | nr21 => exact and_or_unreadable (by decide) value
          | _ => rfl
      | nr22 =>
          cases register with
          | nr22 => exact BitVec.or_zero.symm
          | _ => rfl
      | nr23 =>
          have hread : (c.writeNr23 value m.consoleModel).readRegister register =
              c.readRegister register := by
            unfold writeNr23 reloadPeriodIfJustSampled
            split <;> rfl
          refine hread.trans ?_
          cases register with
          | nr23 => exact (BitVec.or_allOnes (x := value)).symm
          | _ => rfl
      | nr24 =>
          obtain ⟨hwrites, -⟩ := writeNr24_writes h.pulse value m.consoleModel speedMode
            nextFrameSequencerStep
          show (c.writeNr24 value m.consoleModel speedMode
            nextFrameSequencerStep).readRegister register = _
          unfold readRegister
          cases register with
          | nr21 => dsimp only; rw [hwrites.nr21]; rfl
          | nr22 => exact hwrites.nr22
          | nr23 => rfl
          | nr24 =>
              dsimp only
              rw [hwrites.nr24]
              exact and_and_or_unreadable (by decide) (by decide) value

end Channel2State

namespace Channel3State

theorem tickFastTimer_read (c : Channel3State) (register : Channel3Register) :
    c.tickFastTimer.readRegister register = c.readRegister register := by
  unfold tickFastTimer
  dsimp only
  split
  · rfl
  · split <;> rfl

theorem readsBack : ReadsBack step Valid readRegister Channel3Register.unreadable := by
  intro m c e register _
  cases e with
  | tCycle clocked apuClock tCyclePhase =>
      cases clocked with
      | true => exact tickFastTimer_read _ register
      | false => rfl
  | clockLength => rfl
  | clockSweep => rfl
  | clockEnvelope => rfl
  | clockPendingEvenEnvelope => rfl
  | write written value speedMode nextFrameSequencerStep =>
      cases written with
      | nr30 =>
          cases register with
          | nr30 => exact and_and_or_unreadable (by decide) (by decide) value
          | _ => rfl
      | nr31 =>
          cases register with
          | nr31 => exact (BitVec.or_allOnes (x := value)).symm
          | _ => rfl
      | nr32 =>
          cases register with
          | nr32 => exact and_and_or_unreadable (by decide) (by decide) value
          | _ => rfl
      | nr33 =>
          cases register with
          | nr33 => exact (BitVec.or_allOnes (x := value)).symm
          | _ => rfl
      | nr34 =>
          obtain ⟨hnr30, hnr32, hnr34, -, -⟩ :=
            c.writeNr34_registers value m.consoleModel nextFrameSequencerStep
          show (c.writeNr34 value m.consoleModel nextFrameSequencerStep).readRegister register = _
          unfold readRegister
          cases register with
          | nr30 => dsimp only; rw [hnr30]; rfl
          | nr31 => rfl
          | nr32 => dsimp only; rw [hnr32]; rfl
          | nr33 => rfl
          | nr34 =>
              dsimp only
              rw [hnr34]
              exact and_and_or_unreadable (by decide) (by decide) value

end Channel3State

namespace Channel4State

variable {c d : Channel4State}

theorem Noises.read (h : Noises c d) (register : Channel4Register) :
    d.readRegister register = c.readRegister register :=
  h.keeps (fun c => c.readRegister register) fun _ => by cases register <;> rfl

theorem tickFastTimer_read (c : Channel4State) (register : Channel4Register) :
    c.tickFastTimer.readRegister register = c.readRegister register := by
  have haligned := (noises_tickAlignmentPhaseOnly c).read register
  unfold tickFastTimer
  dsimp only
  generalize c.tickAlignmentPhaseOnly.1 = a at haligned
  split
  · exact ((noises_tickPeriodTimer a).read register).trans haligned
  · refine ((noises_tickPeriodTimer _).read register).trans ?_
    have hcounted := (noises_tickNoiseCounterPhase
      { a with dmgDelayedStart := a.dmgDelayedStart - 1 }).read register
    generalize ({ a with dmgDelayedStart := a.dmgDelayedStart - 1
      } : Channel4State).tickNoiseCounterPhase = d at hcounted
    have hdelayed : d.readRegister register = c.readRegister register :=
      (hcounted.trans (by cases register <;> rfl)).trans haligned
    split
    · refine Eq.trans ?_ hdelayed
      obtain ⟨hnr42, hnr43, hnr44⟩ := trigger_registers
        ({ d with pendingTriggerEnvelopeReload := false } : Channel4State)
        d.pendingTriggerEnvelopeReload
      unfold readRegister
      cases register with
      | nr41 => rfl
      | nr42 => exact hnr42
      | nr43 => exact hnr43
      | nr44 => dsimp only; rw [hnr44]
    · exact hdelayed

theorem readsBack : ReadsBack step Valid readRegister Channel4Register.unreadable := by
  intro m c e register _
  cases e with
  | tCycle clocked apuClock tCyclePhase =>
      cases clocked with
      | true => exact tickFastTimer_read c register
      | false => rfl
  | clockLength => rfl
  | clockSweep => rfl
  | clockEnvelope => rfl
  | clockPendingEvenEnvelope => rfl
  | write written value speedMode nextFrameSequencerStep =>
      cases written with
      | nr41 =>
          cases register with
          | nr41 => exact (BitVec.or_allOnes (x := value)).symm
          | _ => rfl
      | nr42 =>
          have hwritten : ∀ d : Channel4State, Noises c d → ({ d with
              envelope := d.envelope.applyLiveWriteEffect m.consoleModel d.runtime.active value
              nr42 := value
              runtime := d.runtime.setDacEnabled (value &&& dacEnableRegisterMask ≠ 0)
              } : Channel4State).readRegister register =
                ({ c with nr42 := value } : Channel4State).readRegister register := by
            intro d hd
            have hread := hd.read register
            cases register with
            | nr42 => rfl
            | _ => exact hread
          have hread : (c.writeNr42 value m.consoleModel).readRegister register =
              ({ c with nr42 := value } : Channel4State).readRegister register := by
            unfold writeNr42
            dsimp only
            split
            · exact hwritten _ (noises_handleHiddenCounterDacDisable c)
            · exact hwritten _ (.refl c)
          refine hread.trans ?_
          cases register with
          | nr42 => exact BitVec.or_zero.symm
          | _ => rfl
      | nr43 =>
          cases register with
          | nr43 => exact BitVec.or_zero.symm
          | _ => rfl
      | nr44 =>
          obtain ⟨hnr42, hnr43, hnr44, -⟩ :=
            c.writeNr44_registers value m.consoleModel nextFrameSequencerStep
          show (c.writeNr44 value m.consoleModel nextFrameSequencerStep).readRegister register = _
          unfold readRegister
          cases register with
          | nr41 => rfl
          | nr42 => exact hnr42
          | nr43 => exact hnr43
          | nr44 =>
              dsimp only
              rw [hnr44]
              exact and_and_or_unreadable (by decide) (by decide) value

end Channel4State

/-! ## The registers as a memory -/

def ApuRegisterOwner.unreadable : ApuRegisterOwner → U8
  | .channel1 register => register.unreadable
  | .channel2 register => register.unreadable
  | .channel3 register => register.unreadable
  | .channel4 register => register.unreadable
  | .master .nr52 => nr52ForcedHighMask
  | .master _ => 0
  | .unused => apuUnmappedReadValue

/-- What the registers are to a program: a memory that keeps what is written to it as long as it has
power, and that takes no writes without it. -/
structure RegisterMemory where
  powered : Bool
  written : ApuRegisterOwner → U8

def ApuStartupState.written (s : ApuStartupState) : ApuRegisterOwner → U8
  | .channel1 .nr10 => s.nr10
  | .channel1 .nr11 => s.nr11
  | .channel1 .nr12 => s.nr12
  | .channel1 .nr13 => s.nr13
  | .channel1 .nr14 => s.nr14
  | .channel2 .nr21 => s.nr21
  | .channel2 .nr22 => s.nr22
  | .channel2 .nr23 => s.nr23
  | .channel2 .nr24 => s.nr24
  | .channel3 .nr30 => s.nr30
  | .channel3 .nr31 => s.nr31
  | .channel3 .nr32 => s.nr32
  | .channel3 .nr33 => s.nr33
  | .channel3 .nr34 => s.nr34
  | .channel4 .nr41 => s.nr41
  | .channel4 .nr42 => s.nr42
  | .channel4 .nr43 => s.nr43
  | .channel4 .nr44 => s.nr44
  | .master .nr50 => s.nr50
  | .master .nr51 => s.nr51
  | .master .nr52 | .unused => 0

namespace RegisterMemory

def cleared : RegisterMemory := ⟨false, fun _ => 0⟩

def write (r : RegisterMemory) (owner : ApuRegisterOwner) (value : U8) : RegisterMemory :=
  if owner = .master .nr52 then
    if value &&& nr52MasterPowerBit ≠ 0 then { r with powered := true } else cleared
  else if r.powered then { r with written := Function.update r.written owner value }
  else r

def step (r : RegisterMemory) : ApuEvent → RegisterMemory
  | .write address value _ _ =>
    match ApuMmioRegister.decode address with
    | .register owner => r.write owner value
    | .waveRam _ | .unmapped => r
  | .startup s => if s.powered then ⟨true, s.written⟩ else cleared
  | .tCycle .. | .divApuEdge | .divApuStartupPhase _ => r

def run (r : RegisterMemory) (events : List ApuEvent) : RegisterMemory := events.foldl step r

end RegisterMemory

namespace ApuRegisterOwner

theorem channel1?_iff (owner : ApuRegisterOwner) (register : Channel1Register) :
    owner.channel1? = some register ↔ owner = .channel1 register := by
  cases owner <;> simp [channel1?]

theorem channel2?_iff (owner : ApuRegisterOwner) (register : Channel2Register) :
    owner.channel2? = some register ↔ owner = .channel2 register := by
  cases owner <;> simp [channel2?]

theorem channel3?_iff (owner : ApuRegisterOwner) (register : Channel3Register) :
    owner.channel3? = some register ↔ owner = .channel3 register := by
  cases owner <;> simp [channel3?]

theorem channel4?_iff (owner : ApuRegisterOwner) (register : Channel4Register) :
    owner.channel4? = some register ↔ owner = .channel4 register := by
  cases owner <;> simp [channel4?]

end ApuRegisterOwner

namespace ReadsBack

variable {S Register : Type} [DecidableEq Register] {step : ApuModel → S → ChannelEvent Register → S}
  {Valid : S → Prop} {read : S → Register → U8} {unreadable : Register → U8}

/-- Events that write nothing leave what is read alone. -/
theorem unwritten (h : ReadsBack step Valid read unreadable)
    (hvalid : ∀ m c e, Valid c → Valid (step m c e)) (m : ApuModel) (register : Register)
    {events : List (ChannelEvent Register)} (hevents : ∀ e ∈ events, e.written register = none)
    {c : S} (hc : Valid c) :
    read (events.foldl (step m) c) register = read c register := by
  induction events generalizing c with
  | nil => rfl
  | cons e events ih =>
      have hstep := h m c e register hc
      rw [hevents e (List.mem_cons_self ..)] at hstep
      rw [List.foldl_cons, ih (fun e he => hevents e (List.mem_cons_of_mem _ he))
        (hvalid m c e hc)]
      exact hstep

end ReadsBack

/-! ## The registers of a powered APU -/

/-- What an event writes to a register. -/
def ApuEvent.writtenTo (owner : ApuRegisterOwner) : ApuEvent → Option U8
  | .write address value _ _ =>
    if ApuMmioRegister.decode address = .register owner then some value else none
  | _ => none

namespace Apu

variable {Register : Type} [DecidableEq Register]

theorem frameEvents_unwritten (a : Apu) (register : Register) :
    ∀ e ∈ (a.frameEvents : List (ChannelEvent Register)), e.written register = none := by
  intro e he
  unfold frameEvents at he
  split at he
  · cases he
  · simp only [List.mem_append, List.mem_ite_nil_right, List.mem_singleton] at he
    rcases he with ⟨-, rfl⟩ | ⟨-, rfl⟩ | ⟨-, rfl⟩ | ⟨-, rfl⟩ <;> rfl

theorem edgesEvents_unwritten (edges : Nat) (a : Apu) (register : Register) :
    ∀ e ∈ (a.edgesEvents edges : List (ChannelEvent Register)), e.written register = none := by
  induction edges generalizing a with
  | zero =>
      intro e he
      cases he
  | succ edges ih =>
      intro e he
      rcases List.mem_append.mp he with hfirst | hlater
      · exact a.frameEvents_unwritten register e hfirst
      · exact ih _ e hlater

end Apu

namespace ChannelPart

variable {S Register : Type} [DecidableEq Register] {get : ApuChannels → S}
  {owns : ApuRegisterOwner → Option Register}
  {step : ApuModel → S → ChannelEvent Register → S} {Allowed : ApuEvent → Prop}
  {Valid : S → Prop} {read : S → Register → U8} {unreadable : Register → U8}

/-- A channel's register in the APU reads what was written last. -/
theorem readsBack (h : ChannelPart get owns step Allowed)
    (hreads : ReadsBack step Valid read unreadable)
    (hvalid : ∀ m c e, Valid c → Valid (step m c e)) {ownerOf : Register → ApuRegisterOwner}
    (howns : ∀ owner register, owns owner = some register ↔ owner = ownerOf register)
    {a : Apu} {e : ApuEvent} (hon : a.StaysOn e) (hallowed : Allowed e)
    (hc : Valid (get a.channels)) (register : Register) :
    read (get (a.step e).channels) register =
      readAfter (e.writtenTo (ownerOf register)) (unreadable register)
        (read (get a.channels) register) := by
  rw [h.step_eq hon hallowed]
  have hunwritten := fun (events : List (ChannelEvent Register))
      (hevents : ∀ e ∈ events, e.written register = none) =>
    hreads.unwritten hvalid a.model register hevents hc
  cases e with
  | tCycle schedulerTCycle frameSequencerEdges speedMode =>
      refine hunwritten _ fun e he => ?_
      rcases List.mem_cons.mp he with rfl | hedge
      · rfl
      · exact Apu.edgesEvents_unwritten _ _ register e hedge
  | divApuEdge => exact hunwritten _ (a.frameEvents_unwritten register)
  | write address value speedMode divApuSignalHigh =>
      unfold Apu.channelEvents ApuEvent.writtenTo
      dsimp only
      cases hdecode : ApuMmioRegister.decode address with
      | waveRam index => rfl
      | unmapped => rfl
      | register owner =>
          dsimp only
          cases howner : owns owner with
          | none =>
              have hother : owner ≠ ownerOf register := by
                intro hsame
                rw [(howns owner register).mpr hsame] at howner
                cases howner
              rw [if_neg (fun h => hother (ApuMmioRegister.register.inj h))]
              rfl
          | some own =>
              have hown := (howns owner own).mp howner
              refine (hreads a.model _ _ register hc).trans ?_
              unfold ChannelEvent.written
              dsimp only
              by_cases hsame : own = register
              · rw [if_pos hsame, if_pos (by rw [hown, hsame])]
              · rw [if_neg hsame, if_neg]
                intro howner'
                have hboth := (howns owner register).mpr (ApuMmioRegister.register.inj howner')
                exact hsame (Option.some.inj (howner.symm.trans hboth))
  | startup s => exact absurd rfl (hon.2.2 s)
  | divApuStartupPhase systemCounter => rfl

end ChannelPart

namespace Apu

variable {a b : Apu} {e : ApuEvent} {r : RegisterMemory}

theorem advanceFrameSequencer_master (a : Apu) : a.advanceFrameSequencer.master = a.master := by
  unfold advanceFrameSequencer
  dsimp only
  split
  · rfl
  · split <;> rfl

theorem edges_master (edges : Nat) (a : Apu) :
    (advanceFrameSequencer^[edges] a).master = a.master :=
  @iterate_invariant _ advanceFrameSequencer (fun b => b.master = a.master)
    (fun b hb => (advanceFrameSequencer_master b).trans hb) edges a rfl

theorem tickGenerators_master (a : Apu) (clockGenerationTimers : Bool) :
    (a.tickGenerators clockGenerationTimers).master = a.master := by
  unfold tickGenerators
  dsimp only
  split
  · split <;> rfl
  · split
    · rfl
    · rfl

theorem tick_master (a : Apu) (schedulerTCycle edges : Nat) (speedMode : CgbSpeedMode) :
    (a.tickTCycleForSpeed schedulerTCycle edges speedMode).master = a.master :=
  (edges_master edges _).trans (tickGenerators_master a _)

/-- The volume and the panning of a powered APU. -/
theorem readMaster_step (hon : a.StaysOn e) {register : MasterRegister}
    (hregister : register ≠ .nr52) :
    (a.step e).readMasterRegister register =
      readAfter (e.writtenTo (.master register)) 0 (a.readMasterRegister register) := by
  have hkept : ∀ b : Apu, b.master = a.master →
      b.readMasterRegister register = a.readMasterRegister register := by
    intro b hb
    unfold readMasterRegister
    cases register with
    | nr50 => exact congrArg MasterControlState.nr50 hb
    | nr51 => exact congrArg MasterControlState.nr51 hb
    | nr52 => exact absurd rfl hregister
  obtain ⟨hpower, hpower', hstart⟩ := hon
  cases e with
  | tCycle schedulerTCycle edges speedMode => exact hkept _ (tick_master a ..)
  | divApuEdge => exact hkept _ (advanceFrameSequencer_master a)
  | write address value speedMode divApuSignalHigh =>
      have hwritten : (a.writeRegister address value speedMode
        divApuSignalHigh).master.powered = true := hpower'
      show (a.writeRegister ..).readMasterRegister register = _
      unfold ApuEvent.writtenTo
      unfold writeRegister at hwritten ⊢
      dsimp only
      cases hdecode : ApuMmioRegister.decode address with
      | waveRam index => exact hkept _ rfl
      | unmapped => exact hkept _ rfl
      | register owner =>
          cases owner with
          | master written =>
              rw [hdecode] at hwritten
              dsimp only
              cases written with
              | nr50 =>
                  unfold writeApuRegister writeMasterRegister
                  dsimp only
                  rw [hpower, if_pos rfl]
                  cases register with
                  | nr50 => exact (BitVec.or_zero (x := value)).symm
                  | nr51 => rfl
                  | nr52 => exact absurd rfl hregister
              | nr51 =>
                  unfold writeApuRegister writeMasterRegister
                  dsimp only
                  rw [hpower, if_pos rfl]
                  cases register with
                  | nr50 => rfl
                  | nr51 => exact (BitVec.or_zero (x := value)).symm
                  | nr52 => exact absurd rfl hregister
              | nr52 =>
                  have hother : ¬ApuMmioRegister.register (.master .nr52) =
                      .register (.master register) := by
                    intro hsame
                    cases hsame
                    exact hregister rfl
                  rw [if_neg hother]
                  refine hkept _ ?_
                  have hon' : (a.writeNr52 value divApuSignalHigh).master.powered = true := hwritten
                  show (a.writeNr52 value divApuSignalHigh).master = a.master
                  unfold writeNr52 at hon' ⊢
                  dsimp only at hon' ⊢
                  rw [hpower] at hon' ⊢
                  cases hvalue : decide (value &&& nr52MasterPowerBit ≠ 0) with
                  | true => rfl
                  | false =>
                      rw [hvalue] at hon'
                      exact absurd hon' Bool.false_ne_true
          | _ => exact hkept _ rfl
  | startup s => exact absurd rfl (hstart s)
  | divApuStartupPhase systemCounter => exact hkept _ rfl

/-- While the power stays on, a register reads what was written last. -/
theorem readApuRegister_step (h : a.Valid) (hon : a.StaysOn e) {owner : ApuRegisterOwner}
    (howner : owner ≠ .master .nr52) :
    (a.step e).readApuRegister owner =
      readAfter (e.writtenTo owner) owner.unreadable (a.readApuRegister owner) := by
  have hchannels := h.channels
  cases owner with
  | channel1 register =>
      exact channel1_part.readsBack Channel1State.readsBack (fun m c e hc => hc.step m e)
        ApuRegisterOwner.channel1?_iff hon trivial hchannels.channel1 register
  | channel2 register =>
      exact channel2_part.readsBack Channel2State.readsBack (fun m c e hc => hc.step m e)
        ApuRegisterOwner.channel2?_iff hon trivial hchannels.channel2 register
  | channel3 register =>
      by_cases hwave : e.WritesWaveRam
      · cases e with
        | write address value speedMode divApuSignalHigh =>
            obtain ⟨index, hdecode⟩ := hwave
            show (a.writeRegister ..).channels.channel3.readRegister register = _
            unfold writeRegister ApuEvent.writtenTo
            dsimp only
            rw [hdecode]
            show (a.channels.channel3.writeWaveRam ..).readRegister register = _
            unfold Channel3State.writeWaveRam
            split <;> rfl
        | _ => exact absurd hwave id
      · exact channel3_part.readsBack Channel3State.readsBack (fun m c e hc => hc.step m e)
          ApuRegisterOwner.channel3?_iff hon hwave hchannels.channel3 register
  | channel4 register =>
      exact channel4_part.readsBack Channel4State.readsBack (fun m c e hc => hc.step m e)
        ApuRegisterOwner.channel4?_iff hon trivial hchannels.channel4 register
  | master register =>
      have hregister : register ≠ .nr52 := by
        rintro rfl
        exact howner rfl
      have hread := readMaster_step hon hregister
      cases register with
      | nr50 => exact hread
      | nr51 => exact hread
      | nr52 => exact absurd rfl hregister
  | unused =>
      show apuUnmappedReadValue = _
      unfold readAfter
      split
      · exact BitVec.or_allOnes.symm
      · rfl

end Apu

/-! ## The registers over a run -/

namespace RegisterMemory

/-- What an address reads, with the bits of the channels that play; the wave RAM is not a
register. -/
def read (r : RegisterMemory) (playing : U8) (address : U16) : Option U8 :=
  match ApuMmioRegister.decode address with
  | .register (.master .nr52) =>
    some (nr52ForcedHighMask ||| (if r.powered then nr52MasterPowerBit else 0) ||| playing)
  | .register owner => some (r.written owner ||| owner.unreadable)
  | .unmapped => some apuUnmappedReadValue
  | .waveRam _ => none

/-- While the power stays on a step is a write or nothing. -/
theorem step_written {r : RegisterMemory} {e : ApuEvent} (hpower : r.powered = true)
    (hpower' : (r.step e).powered = true) (hstart : ∀ s, e ≠ .startup s) {owner : ApuRegisterOwner}
    (howner : owner ≠ .master .nr52) :
    (r.step e).written owner = (e.writtenTo owner).getD (r.written owner) := by
  cases e with
  | write address value speedMode divApuSignalHigh =>
      unfold step ApuEvent.writtenTo at *
      dsimp only at hpower' ⊢
      cases hdecode : ApuMmioRegister.decode address with
      | waveRam index => rfl
      | unmapped => rfl
      | register written =>
          rw [hdecode] at hpower'
          dsimp only at hpower' ⊢
          unfold write at hpower' ⊢
          by_cases hwritten : written = .master .nr52
          · rw [if_pos hwritten] at hpower' ⊢
            have hother : ¬ApuMmioRegister.register written = .register owner := by
              intro hsame
              exact howner ((ApuMmioRegister.register.inj hsame).symm.trans hwritten)
            rw [if_neg hother]
            by_cases hvalue : value &&& nr52MasterPowerBit ≠ 0
            · rw [if_pos hvalue]
              rfl
            · rw [if_neg hvalue] at hpower'
              exact absurd hpower' Bool.false_ne_true
          · rw [if_neg hwritten, hpower, if_pos rfl]
            dsimp only
            by_cases hsame : written = owner
            · rw [hsame, Function.update_self, if_pos rfl]
              rfl
            · rw [Function.update_of_ne (Ne.symm hsame), if_neg]
              · rfl
              · exact fun h => hsame (ApuMmioRegister.register.inj h)
  | startup s => exact absurd rfl (hstart s)
  | _ => rfl

/-- Only `NR52` puts the power on. -/
theorem step_on {r : RegisterMemory} {e : ApuEvent} (hoff : r.powered = false)
    (hon : (r.step e).powered = true) (hstart : ∀ s, e ≠ .startup s) :
    ∃ address value speedMode divApuSignalHigh,
      e = .write address value speedMode divApuSignalHigh ∧
        ApuMmioRegister.decode address = .register (.master .nr52) ∧
        value &&& nr52MasterPowerBit ≠ 0 := by
  cases e with
  | write address value speedMode divApuSignalHigh =>
      unfold step at hon
      dsimp only at hon
      cases hdecode : ApuMmioRegister.decode address with
      | register owner =>
          rw [hdecode] at hon
          dsimp only at hon
          unfold write at hon
          by_cases howner : owner = .master .nr52
          · rw [if_pos howner] at hon
            by_cases hvalue : value &&& nr52MasterPowerBit ≠ 0
            · exact ⟨_, _, _, _, rfl, hdecode.trans (congrArg _ howner), hvalue⟩
            · rw [if_neg hvalue] at hon
              exact absurd hon Bool.false_ne_true
          · rw [if_neg howner, hoff, if_neg Bool.false_ne_true] at hon
            exact absurd (hoff.symm.trans hon) Bool.false_ne_true
      | _ =>
          rw [hdecode] at hon
          exact absurd (hoff.symm.trans hon) Bool.false_ne_true
  | startup s => exact absurd rfl (hstart s)
  | _ => exact absurd (hoff.symm.trans hon) Bool.false_ne_true

end RegisterMemory

namespace Apu

variable {a : Apu} {e : ApuEvent} {r : RegisterMemory}

/-- Without power a register reads as if zero had been written. -/
theorem Valid.read_off (h : a.Valid) (hoff : a.master.powered = false) {owner : ApuRegisterOwner}
    (howner : owner ≠ .master .nr52) : a.readApuRegister owner = owner.unreadable := by
  obtain ⟨hcleared, hnr50, hnr51, -⟩ := h.off hoff
  cases owner with
  | channel1 register =>
      have hread : Channel1State.default.readRegister register = register.unreadable := by
        cases register <;> decide
      show a.channels.channel1.readRegister register = _
      rw [hcleared.channel1]
      exact hread
  | channel2 register =>
      have hread : Channel2State.default.readRegister register = register.unreadable := by
        cases register <;> decide
      show a.channels.channel2.readRegister register = _
      rw [hcleared.channel2]
      exact hread
  | channel3 register =>
      have hread : Channel3State.default.readRegister register = register.unreadable := by
        cases register <;> decide
      show a.channels.channel3.readRegister register = _
      rw [hcleared.channel3]
      exact hread
  | channel4 register =>
      have hread : Channel4State.default.readRegister register = register.unreadable := by
        cases register <;> decide
      show a.channels.channel4.readRegister register = _
      rw [hcleared.channel4]
      exact hread
  | master register =>
      cases register with
      | nr50 => exact hnr50
      | nr51 => exact hnr51
      | nr52 => exact absurd rfl howner
  | unused => rfl

/-- The APU has the power of the memory, and with it the registers show what it holds. -/
structure Shows (a : Apu) (r : RegisterMemory) : Prop where
  valid : a.Valid
  power : a.master.powered = r.powered
  off : r.powered = false → r = .cleared
  reads : r.powered = true → ∀ owner : ApuRegisterOwner, owner ≠ .master .nr52 →
    a.readApuRegister owner = r.written owner ||| owner.unreadable

theorem step_power (hpower : a.master.powered = r.powered) (e : ApuEvent) :
    (a.step e).master.powered = (r.step e).powered := by
  cases e with
  | tCycle schedulerTCycle edges speedMode =>
      exact (congrArg MasterControlState.powered (tick_master a ..)).trans hpower
  | divApuEdge =>
      exact (congrArg MasterControlState.powered (advanceFrameSequencer_master a)).trans hpower
  | write address value speedMode divApuSignalHigh =>
      show (a.writeRegister ..).master.powered = _
      unfold writeRegister RegisterMemory.step
      dsimp only
      cases ApuMmioRegister.decode address with
      | waveRam index => exact hpower
      | unmapped => exact hpower
      | register owner =>
          show (a.writeApuRegister owner value speedMode divApuSignalHigh).master.powered =
            (r.write owner value).powered
          unfold RegisterMemory.write
          by_cases howner : owner = .master .nr52
          · rw [howner, if_pos rfl]
            show (a.writeNr52 value divApuSignalHigh).master.powered = _
            unfold writeNr52
            by_cases hvalue : value &&& nr52MasterPowerBit ≠ 0
            · rw [if_pos hvalue, decide_eq_true hvalue]
              cases hon : a.master.powered with
              | true => exact hon
              | false => rfl
            · rw [if_neg hvalue, decide_eq_false hvalue]
              cases hon : a.master.powered with
              | true => rfl
              | false => exact hon
          · rw [if_neg howner]
            have hkept : (a.writeApuRegister owner value speedMode
                divApuSignalHigh).master.powered = a.master.powered := by
              cases owner with
              | master register =>
                  unfold writeApuRegister writeMasterRegister
                  cases register with
                  | nr52 => exact absurd rfl howner
                  | nr50 => dsimp only; split <;> rfl
                  | nr51 => dsimp only; split <;> rfl
              | _ => rfl
            refine hkept.trans (hpower.trans ?_)
            split <;> rfl
  | startup s =>
      show s.powered = (if s.powered then (⟨true, s.written⟩ : RegisterMemory) else .cleared).powered
      cases s.powered <;> rfl
  | divApuStartupPhase systemCounter => exact hpower

end Apu

namespace Apu

variable {a : Apu} {r : RegisterMemory}

/-- The power comes on: nothing has been written yet. -/
theorem powerOn_reads (a : Apu) (divApuSignalHigh : Bool) {owner : ApuRegisterOwner}
    (howner : owner ≠ .master .nr52) :
    (a.powerOn divApuSignalHigh).readApuRegister owner = a.readApuRegister owner := by
  cases owner with
  | master register =>
      cases register with
      | nr52 => exact absurd rfl howner
      | _ => rfl
  | _ => rfl

/-- The machine starts with the power on: the registers read what it starts with. -/
theorem startup_reads (a : Apu) {s : ApuStartupState} (hpowered : s.powered = true)
    {owner : ApuRegisterOwner} (howner : owner ≠ .master .nr52) :
    (a.applyStartupState s).readApuRegister owner = s.written owner ||| owner.unreadable := by
  have hchannels : (a.applyStartupState s).channels = _ :=
    if_neg (by rw [hpowered]; exact Bool.false_ne_true)
  have hmaster : (a.applyStartupState s).master.nr50 = s.nr50 ∧
      (a.applyStartupState s).master.nr51 = s.nr51 := ⟨if_pos hpowered, if_pos hpowered⟩
  cases owner with
  | channel1 register =>
      show (a.applyStartupState s).channels.channel1.readRegister register = _
      rw [hchannels]
      cases register with
      | nr10 =>
          show (s.nr10 &&& nr10WritableMask) ||| nr10ForcedHighMask = _
          exact and_or_unreadable (by decide) s.nr10
      | nr11 => exact and_or_unreadable (by decide) s.nr11
      | nr12 => exact (BitVec.or_zero (x := s.nr12)).symm
      | nr13 => exact (BitVec.or_allOnes (x := s.nr13)).symm
      | nr14 => exact and_and_or_unreadable (by decide) (by decide) s.nr14
  | channel2 register =>
      show (a.applyStartupState s).channels.channel2.readRegister register = _
      rw [hchannels]
      cases register with
      | nr21 => exact and_or_unreadable (by decide) s.nr21
      | nr22 => exact (BitVec.or_zero (x := s.nr22)).symm
      | nr23 => exact (BitVec.or_allOnes (x := s.nr23)).symm
      | nr24 => exact and_and_or_unreadable (by decide) (by decide) s.nr24
  | channel3 register =>
      show (a.applyStartupState s).channels.channel3.readRegister register = _
      rw [hchannels]
      cases register with
      | nr30 => exact and_and_or_unreadable (by decide) (by decide) s.nr30
      | nr31 => exact (BitVec.or_allOnes (x := s.nr31)).symm
      | nr32 => exact and_and_or_unreadable (by decide) (by decide) s.nr32
      | nr33 => exact (BitVec.or_allOnes (x := s.nr33)).symm
      | nr34 => exact and_and_or_unreadable (by decide) (by decide) s.nr34
  | channel4 register =>
      show (a.applyStartupState s).channels.channel4.readRegister register = _
      rw [hchannels]
      cases register with
      | nr41 => exact (BitVec.or_allOnes (x := s.nr41)).symm
      | nr42 => exact (BitVec.or_zero (x := s.nr42)).symm
      | nr43 => exact (BitVec.or_zero (x := s.nr43)).symm
      | nr44 => exact and_and_or_unreadable (by decide) (by decide) s.nr44
  | master register =>
      cases register with
      | nr50 => exact hmaster.1.trans (BitVec.or_zero (x := s.nr50)).symm
      | nr51 => exact hmaster.2.trans (BitVec.or_zero (x := s.nr51)).symm
      | nr52 => exact absurd rfl howner
  | unused => exact (BitVec.or_allOnes (x := (0 : U8))).symm

theorem Shows.step (h : a.Shows r) (e : ApuEvent) : (Apu.step a e).Shows (r.step e) := by
  have hpower := step_power h.power e
  refine ⟨h.valid.step e, hpower, fun hoff => ?_, fun hon' owner howner => ?_⟩
  · cases e with
    | write address value speedMode divApuSignalHigh =>
        unfold RegisterMemory.step at hoff ⊢
        dsimp only at hoff ⊢
        cases hdecode : ApuMmioRegister.decode address with
        | waveRam index => exact h.off (by rw [hdecode] at hoff; exact hoff)
        | unmapped => exact h.off (by rw [hdecode] at hoff; exact hoff)
        | register owner =>
            rw [hdecode] at hoff
            dsimp only at hoff ⊢
            unfold RegisterMemory.write at hoff ⊢
            by_cases howner : owner = .master .nr52
            · rw [if_pos howner] at hoff ⊢
              by_cases hvalue : value &&& nr52MasterPowerBit ≠ 0
              · rw [if_pos hvalue] at hoff
                exact absurd hoff.symm Bool.false_ne_true
              · rw [if_neg hvalue]
            · rw [if_neg howner] at hoff ⊢
              cases hon : r.powered with
              | true =>
                  rw [hon, if_pos rfl] at hoff
                  exact absurd hoff.symm Bool.false_ne_true
              | false => exact h.off hon
    | startup s =>
        unfold RegisterMemory.step at hoff ⊢
        dsimp only at hoff ⊢
        cases hpowered : s.powered with
        | true =>
            rw [hpowered] at hoff
            exact absurd hoff.symm Bool.false_ne_true
        | false => rfl
    | _ => exact h.off hoff
  · by_cases hstart : ∃ s, e = .startup s
    · obtain ⟨s, rfl⟩ := hstart
      have hpowered : s.powered = true := hpower.trans hon'
      have hwritten : (r.step (.startup s)).written = s.written := by
        show (if s.powered then (⟨true, s.written⟩ : RegisterMemory) else .cleared).written = _
        rw [hpowered]
        rfl
      rw [hwritten]
      exact startup_reads a hpowered howner
    · have hstart : ∀ s, e ≠ .startup s := fun s hs => hstart ⟨s, hs⟩
      cases hon : r.powered with
      | true =>
          rw [readApuRegister_step h.valid ⟨h.power.trans hon, hpower.trans hon', hstart⟩ howner,
            RegisterMemory.step_written hon hon' hstart howner]
          cases e.writtenTo owner with
          | some value => rfl
          | none => exact h.reads hon owner howner
      | false =>
          obtain ⟨address, value, speedMode, divApuSignalHigh, rfl, hdecode, hvalue⟩ :=
            RegisterMemory.step_on hon hon' hstart
          have hoff : a.master.powered = false := h.power.trans hon
          have hread : (a.step (.write address value speedMode divApuSignalHigh)).readApuRegister
              owner = (a.powerOn divApuSignalHigh).readApuRegister owner := by
            show (a.writeRegister ..).readApuRegister owner = _
            unfold writeRegister
            rw [hdecode]
            show (a.writeNr52 value divApuSignalHigh).previewOutputPath.readApuRegister owner = _
            unfold writeNr52
            rw [hoff, decide_eq_true hvalue]
            cases owner with
            | master register =>
                cases register with
                | nr52 => exact absurd rfl howner
                | _ => rfl
            | _ => rfl
          have hwritten : (r.step (.write address value speedMode divApuSignalHigh)).written owner =
              0 := by
            rw [h.off hon]
            unfold RegisterMemory.step RegisterMemory.write
            dsimp only
            rw [hdecode]
            dsimp only
            rw [if_pos rfl, if_pos hvalue]
            rfl
          rw [hread, powerOn_reads a _ howner, h.valid.read_off hoff howner, hwritten]
          exact BitVec.zero_or.symm

theorem Shows.run (h : a.Shows r) (events : List ApuEvent) :
    (a.run events).Shows (r.run events) := by
  induction events generalizing a r with
  | nil => exact h
  | cons e events ih => exact ih (h.step e)

end Apu

/-- The bits of the channels that are collected in a mask. -/
theorem channelMask_bit (test : Fin channelCount → Bool) (channel : Fin channelCount) :
    (((List.finRange channelCount).foldl
      (fun mask channel => if test channel then mask ||| channelMask channel else mask) 0) &&&
        channelActiveMask).getLsbD channel = test channel := by
  have hchannels : List.finRange channelCount = [⟨0, by decide⟩, ⟨1, by decide⟩, ⟨2, by decide⟩,
    ⟨3, by decide⟩] := by decide
  rw [hchannels]
  simp only [List.foldl_cons, List.foldl_nil]
  obtain ⟨channel, hlt⟩ := channel
  have hcases : channel = 0 ∨ channel = 1 ∨ channel = 2 ∨ channel = 3 := by
    unfold channelCount at hlt
    omega
  generalize hzero : test ⟨0, _⟩ = b₀
  generalize hone : test ⟨1, _⟩ = b₁
  generalize htwo : test ⟨2, _⟩ = b₂
  generalize hthree : test ⟨3, _⟩ = b₃
  rcases hcases with rfl | rfl | rfl | rfl
  · rw [hzero]
    clear hzero hone htwo hthree
    decide +revert
  · rw [hone]
    clear hzero hone htwo hthree
    decide +revert
  · rw [htwo]
    clear hzero hone htwo hthree
    decide +revert
  · rw [hthree]
    clear hzero hone htwo hthree
    decide +revert

theorem ApuChannels.activeMask_bit (c : ApuChannels) (channel : Fin channelCount) :
    c.activeMask.getLsbD channel = (c.runtimes.get channel).active :=
  channelMask_bit (fun channel => (c.runtimes.get channel).active) channel

namespace Apu

/-- At any time a register reads what was written to it last since the power came on, with its
unreadable bits high, and `NR52` reads the power and the channels that play, none without it. -/
theorem registers_memory (m : ApuModel) (events : List ApuEvent) :
    let a := (new m).run events
    let r := RegisterMemory.cleared.run events
    (∀ address value, r.read a.channels.activeMask address = some value →
      a.readRegister address = value) ∧
    (∀ channel : Fin channelCount,
      a.channels.activeMask.getLsbD channel = (a.channels.runtimes.get channel).active) ∧
    (r.powered = false → a.channels.activeMask = 0) := by
  intro a r
  have hfresh : (new m).Shows .cleared :=
    ⟨valid_new m, rfl, fun _ => rfl, fun hon => absurd hon Bool.false_ne_true⟩
  have h : a.Shows r := hfresh.run events
  refine ⟨fun address value hread => ?_, a.channels.activeMask_bit, fun hoff => ?_⟩
  · unfold RegisterMemory.read at hread
    unfold readRegister
    cases hdecode : ApuMmioRegister.decode address with
    | waveRam index =>
        rw [hdecode] at hread
        cases hread
    | unmapped =>
        rw [hdecode] at hread
        exact Option.some.inj hread
    | register owner =>
        rw [hdecode] at hread
        dsimp only at hread ⊢
        by_cases howner : owner = .master .nr52
        · rw [howner] at hread ⊢
          refine Eq.trans ?_ (Option.some.inj hread)
          show a.readNr52 = _
          unfold readNr52
          rw [h.power]
        · have hvalue : r.written owner ||| owner.unreadable = value := by
            cases owner with
            | master register =>
                cases register with
                | nr52 => exact absurd rfl howner
                | _ => exact Option.some.inj hread
            | _ => exact Option.some.inj hread
          rw [← hvalue]
          cases hon : r.powered with
          | true => exact h.reads hon owner howner
          | false =>
              rw [h.valid.read_off (h.power.trans hon) howner, h.off hon]
              exact BitVec.zero_or.symm
  · have hcleared := (h.valid.off (h.power.trans hoff)).1
    unfold ApuChannels.activeMask ApuChannels.maskOf
    simp only [hcleared.quiet]
    decide

theorem registers_memory_volume :
    ((new ⟨.gameBoy, .dmgCpuB⟩).run [.write 0xFF26 0x80 .normal false,
      .write 0xFF24 0x77 .normal false]).readRegister 0xFF24 = 0x77 :=
  (registers_memory _ _).1 0xFF24 0x77 rfl

end Apu

/-! ## The wave RAM -/

namespace Channel3State

theorem tickFastTimer_waveRam (c : Channel3State) : c.tickFastTimer.waveRam = c.waveRam := by
  unfold tickFastTimer
  dsimp only
  split
  · rfl
  · split <;> rfl

theorem trigger_waveRam {c : Channel3State} (hquiet : c.runtime.active = false)
    (consoleModel : ConsoleModel) : (c.trigger consoleModel).1.waveRam = c.waveRam := by
  have hcorruption : c.applyDmgRetriggerWaveRamCorruption consoleModel = c := by
    unfold applyDmgRetriggerWaveRamCorruption
    rw [hquiet, if_pos (.inr (.inl rfl))]
  unfold trigger
  dsimp only
  rw [hcorruption]
  split <;> rfl

/-- Only a trigger of the channel while it plays corrupts the wave RAM. -/
theorem writeRegister_waveRam {c : Channel3State} (hquiet : c.runtime.active = false)
    (register : Channel3Register) (value : U8) (consoleModel : ConsoleModel)
    (nextFrameSequencerStep : U8) :
    (c.writeRegister register value consoleModel nextFrameSequencerStep).waveRam = c.waveRam := by
  cases register with
  | nr34 =>
      show (c.writeNr34 value consoleModel nextFrameSequencerStep).waveRam = c.waveRam
      unfold writeNr34
      dsimp only
      split
      · exact trigger_waveRam (c := { c with nr34 := value &&& nrx4WritableMask }) hquiet _
      · rfl
  | _ => rfl

theorem writePoweredOffRegister_waveRam (c : Channel3State) (register : Channel3Register)
    (value : U8) (consoleModel : ConsoleModel) :
    (c.writePoweredOffRegister register value consoleModel).waveRam = c.waveRam := by
  unfold writePoweredOffRegister
  split
  · rfl
  · split <;> rfl

end Channel3State

/-- What an event makes of the wave RAM while its channel does not play. -/
def waveRamAfter (waveRam : List U8) : ApuEvent → List U8
  | .write address value _ _ =>
    match ApuMmioRegister.decode address with
    | .waveRam index => waveRam.set index value
    | .register _ | .unmapped => waveRam
  | .startup s => s.waveRam
  | .tCycle .. | .divApuEdge | .divApuStartupPhase _ => waveRam

namespace Apu

variable {a : Apu}

def waveRam (a : Apu) : List U8 := a.channels.channel3.waveRam

theorem clockChannels_waveRam (consoleModel : ConsoleModel) (clocks : FrameSequencerClocks)
    (c : ApuChannels) :
    (clockChannels consoleModel clocks c).channel3.waveRam = c.channel3.waveRam := by
  have hite : ∀ (condition : Prop) [Decidable condition] (f : ApuChannels → ApuChannels)
      (c : ApuChannels), (f c).channel3.waveRam = c.channel3.waveRam →
      (if condition then f c else c).channel3.waveRam = c.channel3.waveRam := by
    intro condition _ f c hf
    split
    · exact hf
    · rfl
  unfold clockChannels
  dsimp only
  rw [hite _ ApuChannels.clockEnvelopeAll _ rfl,
    hite _ ApuChannels.clockCgbLiveWritePendingEvenEnvelopeAll _ rfl,
    hite _ (ApuChannels.clockSweepCh1 · consoleModel) _ rfl,
    hite _ ApuChannels.clockLengthAll _ rfl]

theorem advanceFrameSequencer_waveRam (a : Apu) :
    a.advanceFrameSequencer.waveRam = a.waveRam := by
  unfold advanceFrameSequencer
  dsimp only
  split
  · rfl
  · split
    · rfl
    · exact clockChannels_waveRam ..

theorem tickGenerators_waveRam (a : Apu) (clockGenerationTimers : Bool) :
    (a.tickGenerators clockGenerationTimers).waveRam = a.waveRam := by
  have htick : ∀ c : Channel3State, (if clockGenerationTimers then c.beginTCycle.tickFastTimer
      else c.beginTCycle).waveRam = c.waveRam := by
    intro c
    split
    · exact c.beginTCycle.tickFastTimer_waveRam
    · rfl
  unfold tickGenerators waveRam
  dsimp only
  cases a.master.powered with
  | true =>
      have hchannel := htick a.channels.channel3
      split
      · exact hchannel
      · exact hchannel
  | false =>
      cases clockGenerationTimers <;> rfl

theorem writeApuRegister_waveRam (hquiet : a.channels.channel3.runtime.active = false)
    (owner : ApuRegisterOwner) (value : U8) (speedMode : CgbSpeedMode) (divApuSignalHigh : Bool) :
    (a.writeApuRegister owner value speedMode divApuSignalHigh).waveRam = a.waveRam := by
  cases owner with
  | channel3 register =>
      show (writeChannel3Register a.channels.channel3 a register value).waveRam = _
      unfold writeChannel3Register
      split
      · exact Channel3State.writeRegister_waveRam hquiet ..
      · exact Channel3State.writePoweredOffRegister_waveRam ..
  | master register =>
      unfold writeApuRegister writeMasterRegister
      cases register with
      | nr50 => dsimp only; split <;> rfl
      | nr51 => dsimp only; split <;> rfl
      | nr52 =>
          show (a.writeNr52 value divApuSignalHigh).waveRam = a.waveRam
          unfold writeNr52
          dsimp only
          split <;> rfl
  | _ => rfl

theorem step_waveRam (hquiet : a.channels.channel3.runtime.active = false) (e : ApuEvent) :
    (a.step e).waveRam = waveRamAfter a.waveRam e := by
  cases e with
  | tCycle schedulerTCycle edges speedMode =>
      exact @iterate_invariant _ advanceFrameSequencer (fun b => b.waveRam = a.waveRam)
        (fun b hb => (advanceFrameSequencer_waveRam b).trans hb) edges _
        (tickGenerators_waveRam a _)
  | divApuEdge => exact advanceFrameSequencer_waveRam a
  | write address value speedMode divApuSignalHigh =>
      show (a.writeRegister ..).waveRam = _
      unfold writeRegister waveRamAfter
      dsimp only
      cases ApuMmioRegister.decode address with
      | waveRam index =>
          show (a.channels.channel3.writeWaveRam ..).waveRam = _
          unfold Channel3State.writeWaveRam Channel3State.reachedWaveRamByte
            Channel3State.activeWaveRamAccessByteIndex
          rw [hquiet]
          rfl
      | register owner => exact writeApuRegister_waveRam hquiet ..
      | unmapped => rfl
  | startup s =>
      show (a.channels.applyStartup a.consoleModel s).channel3.waveRam = s.waveRam
      unfold ApuChannels.applyStartup
      split <;> rfl
  | divApuStartupPhase systemCounter => rfl

theorem run_waveRam {events : List ApuEvent} (hquiet : AllAllowed Apu.step
    (fun a _ => a.channels.channel3.runtime.active = false) a events) :
    (a.run events).waveRam = events.foldl waveRamAfter a.waveRam := by
  induction events generalizing a with
  | nil => rfl
  | cons e events ih =>
      obtain ⟨hstill, hlater⟩ := hquiet
      rw [List.foldl_cons, ← step_waveRam hstill e]
      exact ih hlater

/-- While the wave channel does not play, the wave RAM is a memory of sixteen bytes that keeps what
is written to it, over power cycles too. -/
theorem waveRam_memory (m : ApuModel) (events : List ApuEvent)
    (hquiet : AllAllowed Apu.step (fun a _ => a.channels.channel3.runtime.active = false) (new m)
      events) :
    let a := (new m).run events
    a.waveRam = events.foldl waveRamAfter (List.replicate waveRamLen 0) ∧
      (a.channels.channel3.runtime.active = false → ∀ address index,
        ApuMmioRegister.decode address = .waveRam index →
          a.readRegister address = a.waveRam.getD index 0) := by
  intro a
  refine ⟨run_waveRam hquiet, fun hstill address index hdecode => ?_⟩
  unfold readRegister
  rw [hdecode]
  show a.channels.channel3.readWaveRam .. = _
  unfold Channel3State.readWaveRam Channel3State.reachedWaveRamByte
    Channel3State.activeWaveRamAccessByteIndex
  rw [hstill]
  rfl

def powerCycleEvents : List ApuEvent :=
  [.write 0xFF26 0x80 .normal false, .write 0xFF3F 0x5A .normal false,
    .write 0xFF26 0x00 .normal false]

theorem waveRam_memory_power_cycle :
    ((new ⟨.gameBoy, .dmgCpuB⟩).run powerCycleEvents).readRegister 0xFF3F = 0x5A := by
  obtain ⟨hwave, hread⟩ :=
    waveRam_memory ⟨.gameBoy, .dmgCpuB⟩ powerCycleEvents ⟨rfl, rfl, rfl, trivial⟩
  rw [hread rfl 0xFF3F 15 rfl, hwave]
  rfl

end Apu

end GbCycle
