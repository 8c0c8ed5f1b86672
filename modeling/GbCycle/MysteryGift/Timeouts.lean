import GbCycle.MysteryGift.Exchange

/-!
# Every phase is left

A phase has some time left: what remains of a timeout or of a delay, or the light that is still
queued.  A T-cycle either leaves the phase or takes one off that time, so that no phase lasts
longer, whatever the light is.  An exchange that has failed ends its delay in the state of a new
one.
-/

namespace GbCycle

namespace MysteryGift

inductive PhaseKind where
  | idle
  | sendingAction
  | receivingHello
  | waitingHelloResponse
  | respondingToHello
  | sendingBlock
  | waitingBlockAck
  | receivingBlock
  | sendingBlockAck
  | completed
  | failed
  deriving Repr, DecidableEq

def ProtocolPhase.kind : ProtocolPhase → PhaseKind
  | .idle => .idle
  | .sendingAction => .sendingAction
  | .receivingHello _ _ => .receivingHello
  | .waitingHelloResponse _ => .waitingHelloResponse
  | .respondingToHello => .respondingToHello
  | .sendingBlock => .sendingBlock
  | .waitingBlockAck _ => .waitingBlockAck
  | .receivingBlock _ _ => .receivingBlock
  | .sendingBlockAck => .sendingBlockAck
  | .completed => .completed
  | .failed => .failed

theorem ProtocolPhase.sending_of_kind {phase phase' : ProtocolPhase} (h : phase.kind = phase'.kind) :
    phase.sending = phase'.sending := by
  cases phase <;> cases phase' <;> first | rfl | nomatch h

/-- The time that a phase may wait, where it waits for light or for a restart. -/
def PhaseKind.timeout : PhaseKind → Nat
  | .receivingHello | .waitingBlockAck | .receivingBlock => irReceiveTimeoutTCycles
  | .waitingHelloResponse => irHelloResponseTimeoutTCycles
  | .completed => irCompletedRestartDelayTCycles
  | .failed => irRetryDelayTCycles
  | _ => 0

namespace RoleAProtocol

/-- The phase waits for a restart. -/
def resting (p : RoleAProtocol) : Prop := p.phase = .completed ∨ p.phase = .failed

/-- The T-cycles that the phase can still last. -/
def timeLeft (p : RoleAProtocol) : Nat :=
  match p.phase.kind with
  | .idle => 0
  | .sendingAction | .respondingToHello | .sendingBlock | .sendingBlockAck =>
      (pulsesLight p.pulses.pulses).length
  | .receivingHello | .waitingHelloResponse | .waitingBlockAck | .receivingBlock => p.waitTCycles
  | .completed | .failed => p.retryDelayTCycles

/-! ## What a new phase looks like -/

/-- A phase that has just been entered is not left by driving it. -/
structure Entered (p : RoleAProtocol) : Prop where
  idle : p.phase ≠ .idle
  sending : p.phase.sending = true → p.pulses.isEmpty = false
  receiving : p.phase.receiverWaiting = true → p.waitTCycles ≠ 0
  resting : p.resting → p.retryDelayTCycles ≠ 0

/-- The phases that an action starts with, or ends the exchange with. -/
def opening : PhaseKind → Bool
  | .sendingAction | .receivingHello | .sendingBlock | .receivingBlock | .completed | .failed => true
  | _ => false

section

variable {p : RoleAProtocol}

theorem entered_failAndRetry (p : RoleAProtocol) : p.failAndRetry.Entered :=
  ⟨nofun, nofun, nofun, fun _ => by show irRetryDelayTCycles ≠ 0; decide⟩

theorem entered_startNextAction (p : RoleAProtocol) :
    p.startNextAction.Entered ∧ opening p.startNextAction.phase.kind = true := by
  have hsending := p.startNextAction_sending
  have hnoop := nextAction_ne_noop p.actions
  unfold startNextAction at hsending ⊢
  dsimp only at hsending ⊢
  generalize (nextAction p.actions).1 = action at hsending hnoop ⊢
  cases action with
  | noop => exact absurd rfl hnoop
  | sendHello => exact ⟨⟨nofun, hsending, nofun, nofun⟩, rfl⟩
  | receiveHello | receiveBlock =>
      exact ⟨⟨nofun, nofun, fun _ => by show irReceiveTimeoutTCycles ≠ 0; decide, nofun⟩, rfl⟩
  | finish =>
      exact ⟨⟨nofun, nofun, nofun, fun _ => by show irCompletedRestartDelayTCycles ≠ 0; decide⟩, rfl⟩
  | sendBlock source =>
      unfold startAction at hsending ⊢
      dsimp only at hsending ⊢
      cases hbytes : source.bytes p.resolvedRegionCode p.payload with
      | none => exact ⟨entered_failAndRetry _, rfl⟩
      | some bytes =>
          have hencode : encodeDataBlock bytes p.pulses =
              some ((blockBytes bytes).encode p.pulses) :=
            encodeDataBlock_eq (length_blockSource hbytes) _
          simp only [hbytes, hencode] at hsending ⊢
          exact ⟨⟨nofun, hsending, nofun, nofun⟩, rfl⟩

theorem ne_of_opening {kind kind' : PhaseKind} (h : opening kind = true)
    (hnot : opening kind' = false) : kind ≠ kind' := by
  rintro rfl
  rw [hnot] at h
  nomatch h

/-- A phase that receives is finished by another one. -/
theorem entered_finishReceiverPhase (h : p.phase.receiverWaiting = true) :
    p.finishReceiverPhase.Entered ∧ p.finishReceiverPhase.phase.kind ≠ p.phase.kind := by
  have hnext := p.entered_startNextAction
  have hfail := p.entered_failAndRetry
  unfold finishReceiverPhase
  cases hphase : p.phase with
  | receivingHello receiver next =>
      exact ⟨⟨nofun, fun _ => isEmpty_encodeHello _, nofun, nofun⟩, nofun⟩
  | waitingHelloResponse receiver =>
      exact ⟨hnext.1, ne_of_opening hnext.2 rfl⟩
  | receivingBlock receiver expectation =>
      dsimp only
      cases receiver.intoResult with
      | none => exact ⟨hfail, nofun⟩
      | some bytes =>
          dsimp only
          cases expectation.accept p.region p.resolvedRegionCode bytes with
          | none => exact ⟨hfail, nofun⟩
          | some resolved =>
              exact ⟨⟨nofun, fun _ => isEmpty_encodeDataMessage _ _, nofun, nofun⟩, nofun⟩
  | waitingBlockAck receiver =>
      dsimp only
      split
      · exact ⟨hnext.1, ne_of_opening hnext.2 rfl⟩
      · exact ⟨hfail, nofun⟩
  | _ =>
      rw [hphase] at h
      nomatch h

/-- A phase that has sent everything is finished by another one. -/
theorem kind_finishSendingPhase (h : p.phase.sending = true) :
    p.finishSendingPhase.phase.kind ≠ p.phase.kind := by
  have hnext := p.entered_startNextAction
  unfold finishSendingPhase
  cases hphase : p.phase with
  | sendingAction | sendingBlock => nofun
  | respondingToHello | sendingBlockAck =>
      exact ne_of_opening hnext.2 rfl
  | _ =>
      rw [hphase] at h
      nomatch h

/-! ## One T-cycle -/

/-- Driving a phase leaves it, or counts down. -/
theorem drive_cases (p : RoleAProtocol) :
    p.driveProtocol.phase.kind ≠ p.phase.kind ∧ ¬p.Entered ∨
      p.resting ∧ p.retryDelayTCycles ≠ 0 ∧
        p.driveProtocol = { p with retryDelayTCycles := p.retryDelayTCycles - 1 } ∨
      ¬p.resting ∧ p.Entered ∧
        p.driveProtocol = { p with waitTCycles := p.waitTCycles - 1 } := by
  by_cases hresting : p.resting
  · have hkind : p.restartExchange.phase.kind ≠ p.phase.kind := by
      rcases hresting with hphase | hphase <;> (rw [hphase]; nofun)
    unfold resting at hresting
    unfold driveProtocol
    rw [if_pos hresting]
    by_cases hzero : p.retryDelayTCycles = 0
    · rw [if_pos hzero]
      exact .inl ⟨hkind, fun h => h.resting hresting hzero⟩
    · rw [if_neg hzero]
      exact .inr (.inl ⟨hresting, hzero, rfl⟩)
  · obtain ⟨hcompleted, hfailed⟩ := not_or.mp hresting
    rw [drive_open hcompleted hfailed]
    by_cases htime : p.waitTCycles = 0 ∧ p.phase.receiverWaiting = true
    · rw [if_pos htime]
      refine .inl ⟨?_, fun h => h.receiving htime.2 htime.1⟩
      have hreceiving := htime.2
      cases hphase : p.phase with
      | failed =>
          rw [hphase] at hreceiving
          nomatch hreceiving
      | _ => nofun
    · rw [if_neg htime]
      unfold drivePhase
      by_cases hidle : p.phase = .idle
      · rw [if_pos hidle]
        refine .inl ⟨?_, fun h => h.idle hidle⟩
        exact ne_of_opening (entered_startNextAction _).2 (by rw [hidle]; rfl)
      · rw [if_neg hidle]
        by_cases hsent : (p.phase.sending && p.pulses.isEmpty) = true
        · rw [if_pos hsent]
          obtain ⟨hsending, hempty⟩ := Bool.and_eq_true_iff.mp hsent
          refine .inl ⟨kind_finishSendingPhase (p := { p with waitTCycles := _ }) hsending, ?_⟩
          intro h
          have hmore := h.sending hsending
          rw [hempty] at hmore
          nomatch hmore
        · rw [if_neg hsent]
          refine .inr (.inr ⟨hresting, ⟨hidle, ?_, ?_, fun h => absurd h hresting⟩, rfl⟩)
          · intro hsending
            rw [hsending, Bool.true_and] at hsent
            exact eq_false_of_ne_true hsent
          · exact fun hreceiving hzero => htime ⟨hzero, hreceiving⟩

/-- A phase that has just been entered is still there at the end of the T-cycle. -/
theorem Entered.drive (h : p.Entered) : p.driveProtocol.phase.kind = p.phase.kind := by
  rcases p.drive_cases with ⟨-, hnot⟩ | ⟨-, -, hdrive⟩ | ⟨-, -, hdrive⟩
  · exact absurd h hnot
  · rw [hdrive]
  · rw [hdrive]

/-- Hearing a level keeps the phase and its time, or finishes a phase that receives. -/
theorem observe_cases (p : RoleAProtocol) (level : Bool) :
    ∃ phase, phase.kind = p.phase.kind ∧
      (p.observeGameEmitter level = { p with phase, previousGameEmitterOn := level } ∨
        phase.receiverWaiting = true ∧
          p.observeGameEmitter level =
            finishReceiverPhase { p with phase, previousGameEmitterOn := level }) := by
  by_cases hsame : p.previousGameEmitterOn = level
  · refine ⟨p.phase.tickSameLevel, by cases p.phase <;> rfl, .inl ?_⟩
    rw [observe_same hsame, ← hsame]
  · cases hobserve : p.phase.observeTransition p.previousGameEmitterOn with
    | mk phase finished =>
        have hkind : phase.kind = p.phase.kind ∧
            (finished = true → phase.receiverWaiting = true) := by
          cases hphase : p.phase <;> rw [hphase] at hobserve <;>
            obtain ⟨rfl, rfl⟩ := Prod.mk.inj hobserve <;>
            exact ⟨rfl, fun h => by first | rfl | nomatch h⟩
        rw [observe_other hsame hobserve]
        cases finished with
        | false => exact ⟨phase, hkind.1, .inl rfl⟩
        | true => exact ⟨phase, hkind.1, .inr ⟨hkind.2 rfl, rfl⟩⟩

/-- A T-cycle that does not leave the phase takes one off its time. -/
theorem timeLeft_tick {level : Bool} (hpositive : p.phase.sending = true → p.pulses.Positive)
    (hkind : (p.tickTCycle level).phase.kind = p.phase.kind) :
    (p.tickTCycle level).timeLeft + 1 ≤ p.timeLeft := by
  unfold tickTCycle at hkind ⊢
  dsimp only at hkind ⊢
  generalize hseen : { p with gameEmitterSeen := p.gameEmitterSeen || level } = seen at hkind ⊢
  have hseenPhase : seen.phase = p.phase := by rw [← hseen]
  have hseenPulses : seen.pulses = p.pulses := by rw [← hseen]
  have hseenTime : seen.timeLeft = p.timeLeft := by rw [← hseen]; rfl
  obtain ⟨phase, hphase, hobserve | ⟨hreceiving, hobserve⟩⟩ := seen.observe_cases level
  · generalize hobserved : seen.observeGameEmitter level = observed at hkind hobserve ⊢
    have hsameKind : observed.phase.kind = p.phase.kind := by
      rw [hobserve, ← hseenPhase]
      exact hphase
    have hsameTime : observed.timeLeft = p.timeLeft := by
      rw [← hseenTime, hobserve]
      unfold timeLeft
      dsimp only
      rw [hphase]
    have hsamePulses : observed.pulses = p.pulses := by
      rw [hobserve, ← hseenPulses]
    have hkind : observed.driveProtocol.phase.kind = p.phase.kind := hkind
    rw [← hsameTime]
    rcases observed.drive_cases with ⟨hne, -⟩ | ⟨hresting, hzero, hdrive⟩ |
        ⟨hopen, hentered, hdrive⟩
    · exact absurd (hkind.trans hsameKind.symm) hne
    · rw [hdrive]
      rcases hresting with hphase | hphase <;>
      · unfold timeLeft emitOutput
        simp only [hphase, ProtocolPhase.kind]
        omega
    · have hlight (hsending : observed.phase.sending = true) :
          (pulsesLight observed.pulses.tickTCycle.2.pulses).length + 1 ≤
            (pulsesLight observed.pulses.pulses).length := by
        have hsent : p.phase.sending = true := by
          rw [← hsending, ProtocolPhase.sending_of_kind hsameKind]
        have hpos : observed.pulses.Positive := hsamePulses ▸ hpositive hsent
        rw [(hpos.tickTCycle (hentered.sending hsending)).2, List.length_cons]
      have hwait (hreceiving : observed.phase.receiverWaiting = true) :
          observed.waitTCycles - 1 + 1 ≤ observed.waitTCycles := by
        have hpos := hentered.receiving hreceiving
        omega
      rw [hdrive]
      unfold timeLeft emitOutput
      cases hphase : observed.phase with
      | idle => exact absurd hphase hentered.idle
      | completed => exact absurd (.inl hphase) hopen
      | failed => exact absurd (.inr hphase) hopen
      | sendingAction | respondingToHello | sendingBlock | sendingBlockAck =>
          exact hlight (by rw [hphase]; rfl)
      | receivingHello | waitingHelloResponse | waitingBlockAck | receivingBlock =>
          exact hwait (by rw [hphase]; rfl)
  · obtain ⟨hentered, hne⟩ := entered_finishReceiverPhase
      (p := { seen with phase, previousGameEmitterOn := level }) hreceiving
    rw [hobserve] at hkind
    have hdrive := hentered.drive.symm.trans hkind
    rw [← hseenPhase, ← hphase] at hdrive
    exact absurd hdrive hne

/-! ## Time limits -/

/-- Where a phase waits, its time is limited, and an exchange that has failed is in the phase of
that name. -/
structure Timed (p : RoleAProtocol) : Prop where
  time : p.phase.sending = false → p.timeLeft ≤ p.phase.kind.timeout
  failed : p.failedExchange = true → p.phase = .failed

theorem Timed.notFailed (h : p.Timed) (hphase : p.phase ≠ .failed) : p.failedExchange = false :=
  eq_false_of_ne_true fun hfailed => hphase (h.failed hfailed)

theorem timed_restartExchange (p : RoleAProtocol) : p.restartExchange.Timed :=
  ⟨fun _ => Nat.le_refl 0, nofun⟩

theorem timed_failAndRetry (p : RoleAProtocol) : p.failAndRetry.Timed :=
  ⟨fun _ => Nat.le_refl irRetryDelayTCycles, fun _ => rfl⟩

theorem timed_startNextAction (hfailed : p.failedExchange = false) : p.startNextAction.Timed := by
  have hnot : ¬p.failedExchange = true := by
    rw [hfailed]
    nofun
  have hnoop := nextAction_ne_noop p.actions
  unfold startNextAction
  dsimp only
  generalize (nextAction p.actions).1 = action at hnoop ⊢
  cases action with
  | noop => exact absurd rfl hnoop
  | sendHello => exact ⟨nofun, fun h => absurd h hnot⟩
  | receiveHello | receiveBlock | finish =>
      exact ⟨fun _ => Nat.le_refl _, fun h => absurd h hnot⟩
  | sendBlock source =>
      unfold startAction
      dsimp only
      cases hbytes : source.bytes p.resolvedRegionCode p.payload with
      | none => exact timed_failAndRetry _
      | some bytes =>
          have hencode : encodeDataBlock bytes p.pulses =
              some ((blockBytes bytes).encode p.pulses) :=
            encodeDataBlock_eq (length_blockSource hbytes) _
          simp only [hencode]
          exact ⟨nofun, fun h => absurd h hnot⟩

theorem timed_finishReceiverPhase (hfailed : p.failedExchange = false) :
    p.finishReceiverPhase.Timed := by
  have hnot : ¬p.failedExchange = true := by
    rw [hfailed]
    nofun
  unfold finishReceiverPhase
  split
  · exact ⟨nofun, fun h => absurd h hnot⟩
  · exact timed_startNextAction hfailed
  · split
    · split
      · exact ⟨nofun, fun h => absurd h hnot⟩
      · exact p.timed_failAndRetry
    · exact p.timed_failAndRetry
  · split
    · exact timed_startNextAction hfailed
    · exact p.timed_failAndRetry
  · exact ⟨fun _ => Nat.le_refl 0, fun h => absurd h hnot⟩

theorem timed_finishSendingPhase (hfailed : p.failedExchange = false) :
    p.finishSendingPhase.Timed := by
  have hnot : ¬p.failedExchange = true := by
    rw [hfailed]
    nofun
  unfold finishSendingPhase
  split
  · exact ⟨fun _ => Nat.le_refl _, fun h => absurd h hnot⟩
  · exact timed_startNextAction hfailed
  · exact timed_startNextAction hfailed
  · exact ⟨fun _ => Nat.le_refl _, fun h => absurd h hnot⟩
  · exact ⟨fun _ => Nat.le_refl 0, fun h => absurd h hnot⟩

theorem Timed.observe (h : p.Timed) (level : Bool) : (p.observeGameEmitter level).Timed := by
  obtain ⟨phase, hkind, hobserve | ⟨hreceiving, hobserve⟩⟩ := p.observe_cases level
  · rw [hobserve]
    refine ⟨?_, fun hfailed => ?_⟩
    · intro hwaits
      have htime := h.time (by rw [← ProtocolPhase.sending_of_kind hkind]; exact hwaits)
      unfold timeLeft at htime ⊢
      dsimp only at htime ⊢
      rw [hkind]
      exact htime
    · rw [h.failed hfailed] at hkind
      cases phase with
      | failed => rfl
      | _ => nomatch hkind
  · rw [hobserve]
    refine timed_finishReceiverPhase (h.notFailed ?_)
    intro hfailed
    rw [hfailed] at hkind
    cases phase with
    | failed => nomatch hreceiving
    | _ => nomatch hkind

theorem Timed.drive (h : p.Timed) : p.driveProtocol.Timed := by
  by_cases hresting : p.phase = .completed ∨ p.phase = .failed
  · unfold driveProtocol
    rw [if_pos hresting]
    split
    · exact p.timed_restartExchange
    · refine ⟨fun hwaits => ?_, h.failed⟩
      have htime := h.time hwaits
      rcases hresting with hphase | hphase <;>
      · unfold timeLeft at htime ⊢
        simp only [hphase, ProtocolPhase.kind] at htime ⊢
        omega
  · obtain ⟨hcompleted, hfailed⟩ := not_or.mp hresting
    have hnot := h.notFailed hfailed
    rw [drive_open hcompleted hfailed]
    split
    · exact p.timed_failAndRetry
    · unfold drivePhase
      split
      · exact timed_startNextAction hnot
      · split
        · exact timed_finishSendingPhase hnot
        · refine ⟨fun hwaits => ?_, h.failed⟩
          have htime := h.time hwaits
          refine Nat.le_trans ?_ htime
          unfold timeLeft
          dsimp only
          split <;> omega

theorem timeLeft_emitOutput (h : p.phase.sending = false) : p.emitOutput.timeLeft = p.timeLeft := by
  unfold timeLeft emitOutput
  dsimp only
  cases hphase : p.phase with
  | sendingAction | respondingToHello | sendingBlock | sendingBlockAck =>
      rw [hphase] at h
      nomatch h
  | _ => rfl

theorem Timed.emit (h : p.Timed) : p.emitOutput.Timed := by
  refine ⟨fun hwaits => ?_, h.failed⟩
  have hsame : p.emitOutput.timeLeft = p.timeLeft := timeLeft_emitOutput hwaits
  rw [hsame]
  exact h.time hwaits

theorem Timed.step (h : p.Timed) (input : ExchangeInput) : (p.step input).Timed := by
  cases input with
  | light gameEmitterOn =>
      have hseen : Timed { p with gameEmitterSeen := p.gameEmitterSeen || gameEmitterOn } :=
        ⟨h.time, h.failed⟩
      exact (hseen.observe gameEmitterOn).drive.emit
  | region region =>
      unfold RoleAProtocol.step setRegion
      dsimp only
      split
      · exact h
      · exact timed_restartExchange _
  | payload payload =>
      unfold RoleAProtocol.step setPayload
      dsimp only
      split
      · exact h
      · exact timed_restartExchange _

theorem Timed.run (h : p.Timed) (inputs : List ExchangeInput) : (p.run inputs).Timed := by
  induction inputs generalizing p with
  | nil => exact h
  | cons input inputs ih => exact ih (h.step input)

/-- The exchange after the light of some T-cycles. -/
def hear (p : RoleAProtocol) (levels : List Bool) : RoleAProtocol := p.run (levels.map .light)

theorem hear_cons (p : RoleAProtocol) (level : Bool) (levels : List Bool) :
    p.hear (level :: levels) = (p.tickTCycle level).hear levels := rfl

/-- What is queued in a phase that sends has no empty pulses. -/
theorem positive_of_playing {trace : List Signal} (h : Playing p trace)
    (hsending : p.phase.sending = true) : p.pulses.Positive := by
  cases h.attempt with
  | underway _ _ _ hunderway =>
      cases hunderway with
      | sendingAction _ _ hemitting => exact hemitting.1
      | sendingBlock _ _ _ _ hemitting => exact hemitting.1
      | respondingToHello _ _ _ hemitting => exact hemitting.1
      | sendingBlockAck _ _ _ hemitting => exact hemitting.1
      | waitingHelloResponse hphase | waitingBlockAck hphase | receivingHello hphase
      | receivingBlock hphase =>
          rw [hphase] at hsending
          nomatch hsending
  | idle hphase | completed hphase | failed hphase =>
      rw [hphase] at hsending
      nomatch hsending

/-- A phase lasts no longer than its time. -/
theorem length_le_timeLeft {trace : List Signal} (h : Playing p trace) {levels : List Bool}
    (hstays : ∀ n ≤ levels.length, (p.hear (levels.take n)).phase.kind = p.phase.kind) :
    levels.length ≤ p.timeLeft := by
  induction levels generalizing p trace with
  | nil => exact Nat.zero_le _
  | cons level levels ih =>
      have hfirst : (p.tickTCycle level).phase.kind = p.phase.kind :=
        hstays 1 (by rw [List.length_cons]; omega)
      have hless := timeLeft_tick (positive_of_playing h) hfirst
      have hrest := ih (h.step (.light level)) (p := p.tickTCycle level) fun n hn => by
        rw [hfirst]
        exact hstays (n + 1) (by rw [List.length_cons]; omega)
      rw [List.length_cons]
      omega

/-! ## Failures -/

/-- Light makes no difference to an exchange that waits for its restart. -/
theorem tick_resting (h : p.resting) (level : Bool) :
    p.tickTCycle level =
      emitOutput
        (if p.retryDelayTCycles = 0 then
          { new p.region p.payload with previousGameEmitterOn := level }
        else
          { p with
            gameEmitterSeen := p.gameEmitterSeen || level
            previousGameEmitterOn := level
            retryDelayTCycles := p.retryDelayTCycles - 1 }) := by
  have hquiet : p.phase.receiverWaiting = false := by
    rcases h with hphase | hphase <;> (rw [hphase]; rfl)
  have hobserve := observe_quiet (p := { p with gameEmitterSeen := p.gameEmitterSeen || level })
    hquiet level
  unfold tickTCycle
  dsimp only
  rw [hobserve]
  exact congrArg emitOutput (if_pos h)

/-- An exchange that waits for its restart is, once the delay is over, a new one but for the
light of the moment. -/
theorem hear_resting (hresting : p.resting) {levels : List Bool} (level : Bool)
    (hlength : levels.length = p.retryDelayTCycles) :
    p.hear (levels ++ [level]) =
      { new p.region p.payload with previousGameEmitterOn := level } ∧
      ∀ n ≤ levels.length, (p.hear (levels.take n)).phase = p.phase := by
  induction levels generalizing p with
  | nil =>
      refine ⟨?_, fun n hn => ?_⟩
      · have hzero : p.retryDelayTCycles = 0 := hlength.symm
        rw [List.nil_append, hear_cons, tick_resting hresting, if_pos hzero]
        rfl
      · rw [Nat.le_zero.mp hn]
        rfl
  | cons first levels ih =>
      rw [List.length_cons] at hlength
      have hmore : p.retryDelayTCycles ≠ 0 := by omega
      have htick := tick_resting hresting first
      rw [if_neg hmore] at htick
      obtain ⟨hrestart, hstays⟩ := ih (p := p.tickTCycle first) (by rw [htick]; exact hresting)
        (by rw [htick]; show _ = p.retryDelayTCycles - 1; omega)
      refine ⟨?_, fun n hn => ?_⟩
      · rw [List.cons_append, hear_cons, hrestart, htick]
        rfl
      · cases n with
        | zero => rfl
        | succ n =>
            rw [List.length_cons] at hn
            rw [List.take_succ_cons, hear_cons, hstays n (by omega), htick]
            rfl

end

/-! ## A phase that outlasts its timeout -/

section

variable {p : RoleAProtocol}

/-- A T-cycle without light in a phase that is not left. -/
theorem tick_dark (hdark : p.previousGameEmitterOn = false) (hopen : ¬p.resting) :
    p.tickTCycle false =
      emitOutput
        (if p.waitTCycles = 0 ∧ p.phase.receiverWaiting = true then
          failAndRetry { p with phase := p.phase.tickSameLevel }
        else
          drivePhase
            { p with phase := p.phase.tickSameLevel, waitTCycles := p.waitTCycles - 1 }) := by
  obtain ⟨hcompleted, hfailed⟩ := not_or.mp hopen
  have hkind : p.phase.tickSameLevel.receiverWaiting = p.phase.receiverWaiting ∧
      p.phase.tickSameLevel ≠ .completed ∧ p.phase.tickSameLevel ≠ .failed := by
    cases hphase : p.phase with
    | completed => exact absurd hphase hcompleted
    | failed => exact absurd hphase hfailed
    | _ => exact ⟨rfl, nofun, nofun⟩
  unfold tickTCycle
  dsimp only
  rw [Bool.or_false, observe_same hdark, drive_open hkind.2.1 hkind.2.2]
  dsimp only
  rw [hkind.1]

theorem not_resting {phase : ProtocolPhase} (hphase : p.phase = phase)
    (hcompleted : phase ≠ .completed) (hfailed : phase ≠ .failed) : ¬p.resting := by
  unfold resting
  rw [hphase]
  exact not_or.mpr ⟨hcompleted, hfailed⟩

/-- A T-cycle without light while a hello is sent. -/
theorem tick_sendingAction (hphase : p.phase = .sendingAction) (hwait : p.waitTCycles = 0)
    (hdark : p.previousGameEmitterOn = false) :
    p.tickTCycle false =
      emitOutput
        (if p.pulses.isEmpty then
          { p with
            phase := .waitingHelloResponse .new
            waitTCycles := irHelloResponseTimeoutTCycles }
        else p) := by
  have hopen := not_resting hphase nofun nofun
  have hquiet : ¬(p.waitTCycles = 0 ∧ p.phase.receiverWaiting = true) := by
    rw [hphase]
    exact fun h => nomatch h.2
  have hsame : { p with phase := .sendingAction, waitTCycles := 0 } = p := by
    rw [← hphase, ← hwait]
  rw [tick_dark hdark hopen, if_neg hquiet, hphase, hwait]
  show emitOutput (drivePhase { p with phase := .sendingAction, waitTCycles := 0 }) = _
  rw [hsame]
  unfold drivePhase
  rw [if_neg (by rw [hphase]; nofun), hphase]
  show emitOutput (if p.pulses.isEmpty = true then _ else _) = _
  split
  · unfold finishSendingPhase
    rw [hphase]
  · rfl

/-- In the dark, a hello is sent to its end, and then an answer is waited for. -/
theorem exists_waitingHelloResponse (hpositive : p.pulses.Positive)
    (hphase : p.phase = .sendingAction) (hwait : p.waitTCycles = 0)
    (hdark : p.previousGameEmitterOn = false) :
    ∃ n q, q = p.hear (List.replicate n false) ∧ q.phase = .sendingAction ∧
      (q.tickTCycle false).phase = .waitingHelloResponse .new ∧
      (q.tickTCycle false).waitTCycles = irHelloResponseTimeoutTCycles ∧
      (q.tickTCycle false).previousGameEmitterOn = false := by
  have htick := tick_sendingAction hphase hwait hdark
  generalize hlength : (pulsesLight p.pulses.pulses).length = length
  induction length generalizing p with
  | zero =>
      have hempty : p.pulses.isEmpty = true := by
        cases hempty : p.pulses.isEmpty with
        | true => rfl
        | false =>
            rw [(hpositive.tickTCycle hempty).2] at hlength
            nomatch hlength
      rw [if_pos hempty] at htick
      exact ⟨0, p, rfl, hphase, by rw [htick]; rfl, by rw [htick]; rfl, by rw [htick]; exact hdark⟩
  | succ length ih =>
      have hmore : ¬p.pulses.isEmpty = true := by
        intro hempty
        rw [PulseQueue.eq_new hempty] at hlength
        nomatch hlength
      obtain ⟨hrest, hlight⟩ := hpositive.tickTCycle (eq_false_of_ne_true hmore)
      rw [if_neg hmore] at htick
      rw [hlight, List.length_cons] at hlength
      have hpulses : (p.tickTCycle false).pulses = p.pulses.tickTCycle.2 := by
        rw [htick]
        rfl
      have hphase' : (p.tickTCycle false).phase = .sendingAction := by
        rw [htick]
        exact hphase
      have hwait' : (p.tickTCycle false).waitTCycles = 0 := by
        rw [htick]
        exact hwait
      have hdark' : (p.tickTCycle false).previousGameEmitterOn = false := by
        rw [htick]
        exact hdark
      obtain ⟨n, q, hq, hrest⟩ := ih (hpulses ▸ hrest) hphase' hwait' hdark'
        (tick_sendingAction hphase' hwait' hdark') (by rw [hpulses]; omega)
      exact ⟨n + 1, q, hq, hrest⟩

/-- In the dark, an answer is waited for until the timeout is over. -/
theorem hear_waitingHelloResponse {receiver : HelloReceiver}
    (hphase : p.phase = .waitingHelloResponse receiver) (hdark : p.previousGameEmitterOn = false)
    {n : Nat} (hn : n ≤ p.waitTCycles) :
    ∃ q receiver', q = p.hear (List.replicate n false) ∧
      q.phase = .waitingHelloResponse receiver' ∧ q.waitTCycles = p.waitTCycles - n ∧
      q.previousGameEmitterOn = false := by
  induction n generalizing p receiver with
  | zero => exact ⟨p, receiver, rfl, hphase, rfl, hdark⟩
  | succ n ih =>
      have hopen := not_resting hphase nofun nofun
      have hmore : ¬(p.waitTCycles = 0 ∧ p.phase.receiverWaiting = true) := by
        intro h
        omega
      have htick := tick_dark hdark hopen
      rw [if_neg hmore, hphase] at htick
      have hphase' : (p.tickTCycle false).phase = .waitingHelloResponse receiver.tickSameLevel := by
        rw [htick]
        rfl
      have hdark' : (p.tickTCycle false).previousGameEmitterOn = false := by
        rw [htick]
        exact hdark
      have hwait' : (p.tickTCycle false).waitTCycles = p.waitTCycles - 1 := by
        rw [htick]
        rfl
      obtain ⟨q, receiver', hq, hrest⟩ := ih hphase' hdark' (by rw [hwait']; omega)
      rw [hwait', Nat.sub_sub, Nat.add_comm] at hrest
      exact ⟨q, receiver', hq, hrest⟩

/-- Without an answer, the exchange fails. -/
theorem tick_timeout {receiver : HelloReceiver}
    (hphase : p.phase = .waitingHelloResponse receiver) (hdark : p.previousGameEmitterOn = false)
    (hwait : p.waitTCycles = 0) : (p.tickTCycle false).failedExchange = true := by
  have hopen := not_resting hphase nofun nofun
  have hover : p.waitTCycles = 0 ∧ p.phase.receiverWaiting = true :=
    ⟨hwait, by rw [hphase]; rfl⟩
  rw [tick_dark hdark hopen, if_pos hover]
  rfl

end

theorem hear_append (p : RoleAProtocol) (levels levels' : List Bool) :
    p.hear (levels ++ levels') = (p.hear levels).hear levels' := by
  unfold hear run
  rw [List.map_append, List.foldl_append]

end RoleAProtocol

/-! ## The protocol -/

/-- In every run: an exchange is reported complete only where the light since its last restart
has performed the whole script; no phase lasts longer than its time, and the time of a phase that
waits is at most its timeout; and an exchange that has failed becomes a new one. -/
theorem exchange_protocol (region : MysteryGiftRegion) (payload : Vector U8 mysteryGiftPayloadLen)
    (inputs : List ExchangeInput) :
    ∃ p trace, p = (RoleAProtocol.new region payload).run inputs ∧
      trace = exchangeTrace (.new region payload) [.heard false] inputs ∧
      (p.completedExchange = true → ∃ played rest resolved, trace = played ++ rest ∧
        Plays p.region p.payload scriptedActions played resolved) ∧
      (∀ levels : List Bool,
        (∀ n ≤ levels.length, (p.hear (levels.take n)).phase.kind = p.phase.kind) →
          levels.length ≤ p.timeLeft) ∧
      (p.phase.sending = false → p.timeLeft ≤ p.phase.kind.timeout) ∧
      (p.failedExchange = true → p.phase = .failed ∧
        ∀ (levels : List Bool) (level : Bool), levels.length = p.timeLeft →
          p.hear (levels ++ [level]) =
            { RoleAProtocol.new p.region p.payload with previousGameEmitterOn := level }) := by
  have hplaying := (Playing.new region payload).run inputs
  have hstart : (RoleAProtocol.new region payload).Timed := RoleAProtocol.timed_restartExchange _
  have htimed := hstart.run inputs
  refine ⟨_, _, rfl, rfl, hplaying.played, fun levels hstays => ?_, htimed.time,
    fun hfailed => ?_⟩
  · exact RoleAProtocol.length_le_timeLeft hplaying hstays
  · have hphase := htimed.failed hfailed
    refine ⟨hphase, fun levels level hlength => ?_⟩
    have hdelay : RoleAProtocol.timeLeft ((RoleAProtocol.new region payload).run inputs) =
        ((RoleAProtocol.new region payload).run inputs).retryDelayTCycles := by
      unfold RoleAProtocol.timeLeft
      rw [hphase]
      rfl
    rw [hdelay] at hlength
    exact (RoleAProtocol.hear_resting (.inr hphase) level hlength).1

/-- An exchange that starts in the dark and stays there. -/
theorem exists_unanswered : ∃ n q receiver,
    q = (RoleAProtocol.new .auto (Vector.replicate 20 0)).hear (List.replicate n false) ∧
    q.phase = .sendingAction ∧ receiver = HelloReceiver.new ∧
    (q.tickTCycle false).phase = .waitingHelloResponse receiver ∧
    (q.tickTCycle false).waitTCycles = irHelloResponseTimeoutTCycles ∧
    (q.tickTCycle false).previousGameEmitterOn = false := by
  have hplaying := (Playing.new .auto (Vector.replicate 20 0)).step (.light false)
  have hphase : ((RoleAProtocol.new .auto (Vector.replicate 20 0)).step (.light false)).phase =
      .sendingAction := rfl
  have hpositive := RoleAProtocol.positive_of_playing hplaying (by rw [hphase]; rfl)
  obtain ⟨n, q, hq, hrest⟩ := RoleAProtocol.exists_waitingHelloResponse hpositive hphase rfl rfl
  exact ⟨n + 1, q, _, hq, hrest.1, rfl, hrest.2⟩

/-- A phase that is still there when its timeout has passed. -/
theorem exchange_outlastsTimeout : ∃ inputs p,
    p = (RoleAProtocol.new .auto (Vector.replicate 20 0)).run inputs ∧
    p.phase.kind ≠ .waitingHelloResponse ∧
    ∀ n ≤ irHelloResponseTimeoutTCycles,
      ((p.tickTCycle false).hear (List.replicate n false)).phase.kind =
        .waitingHelloResponse := by
  obtain ⟨n, q, receiver, hq, hphase, -, hwaiting, htime, hdark⟩ := exists_unanswered
  refine ⟨_, q, hq, by rw [hphase]; nofun, fun n hn => ?_⟩
  obtain ⟨q', receiver', hq', hphase', -⟩ :=
    RoleAProtocol.hear_waitingHelloResponse hwaiting hdark (hn.trans_eq htime.symm)
  rw [← hq', hphase']
  rfl

/-- An exchange without an answer fails, and is a new one after the delay. -/
theorem exchange_protocol_unanswered : ∃ inputs p,
    p = (RoleAProtocol.new .auto (Vector.replicate 20 0)).run inputs ∧
    p.failedExchange = true ∧ p.timeLeft ≤ irRetryDelayTCycles ∧
    p.hear (List.replicate p.timeLeft false ++ [false]) =
      RoleAProtocol.new p.region p.payload := by
  obtain ⟨n, q, receiver, hq, hphase, -, hwaiting, htime, hdark⟩ := exists_unanswered
  obtain ⟨q', receiver', hq', hphase', hwait', hdark'⟩ :=
    RoleAProtocol.hear_waitingHelloResponse hwaiting hdark (Nat.le_of_eq htime.symm)
  rw [htime, Nat.sub_self] at hwait'
  have hfailed := RoleAProtocol.tick_timeout hphase' hdark' hwait'
  have hrun : q'.tickTCycle false =
      (RoleAProtocol.new .auto (Vector.replicate 20 0)).run
        ((List.replicate n false ++ false :: (List.replicate irHelloResponseTimeoutTCycles false ++
          [false])).map .light) := by
    show _ = RoleAProtocol.hear _ _
    rw [RoleAProtocol.hear_append, ← hq, RoleAProtocol.hear_cons, RoleAProtocol.hear_append, ← hq']
    rfl
  obtain ⟨p, _, hp, -, -, -, htimes, hrestarts⟩ :=
    exchange_protocol .auto (Vector.replicate 20 0)
      ((List.replicate n false ++ false :: (List.replicate irHelloResponseTimeoutTCycles false ++
        [false])).map .light)
  rw [← hrun] at hp
  rw [← hp] at hfailed hrun
  obtain ⟨hphase, hnew⟩ := hrestarts hfailed
  have htime := htimes (by rw [hphase]; rfl)
  rw [hphase] at htime
  exact ⟨_, p, hrun, hfailed, htime, hnew _ false List.length_replicate⟩

end MysteryGift

end GbCycle
