import GbCycle.MysteryGift.RoundTrip
import GbCycle.MysteryGift.Protocol

/-!
# What an exchange has done

An exchange is seen from outside as light that is heard and light that is shown, in turns.  An
action of the script is performed by a part of it: light that was shown is that of a hello or of
a block, and light that was heard makes a fresh receiver complete.  The invariant says that the
light since the last restart falls into the actions that are done, in the order of the script,
and what the current one has got to.
-/

namespace GbCycle

namespace MysteryGift

/-! ## Light in turns -/

inductive Signal where
  | heard (level : Bool)
  | shown (level : Bool)
  deriving Repr, DecidableEq

def Signal.heardLevel : Signal → Option Bool
  | .heard level => some level
  | .shown _ => none

def Signal.shownLevel : Signal → Option Bool
  | .heard _ => none
  | .shown level => some level

def heard (trace : List Signal) : List Bool := trace.filterMap Signal.heardLevel

def shown (trace : List Signal) : List Bool := trace.filterMap Signal.shownLevel

def lastHeard (trace : List Signal) : Bool := (heard trace).getLastD false

theorem heard_append (trace trace' : List Signal) :
    heard (trace ++ trace') = heard trace ++ heard trace' := List.filterMap_append

theorem shown_append (trace trace' : List Signal) :
    shown (trace ++ trace') = shown trace ++ shown trace' := List.filterMap_append

theorem heard_concat (trace : List Signal) (level : Bool) :
    heard (trace ++ [.heard level]) = heard trace ++ [level] := heard_append _ _

theorem heard_concat_shown (trace : List Signal) (level : Bool) :
    heard (trace ++ [.shown level]) = heard trace := by
  rw [heard_append]
  exact List.append_nil _

theorem shown_concat (trace : List Signal) (level : Bool) :
    shown (trace ++ [.shown level]) = shown trace ++ [level] := shown_append _ _

theorem shown_concat_heard (trace : List Signal) (level : Bool) :
    shown (trace ++ [.heard level]) = shown trace := by
  rw [shown_append]
  exact List.append_nil _

theorem lastHeard_concat (trace : List Signal) (level : Bool) :
    lastHeard (trace ++ [.heard level]) = level := by
  rw [lastHeard, heard_concat, List.getLastD_concat]

theorem lastHeard_concat_shown (trace : List Signal) (level : Bool) :
    lastHeard (trace ++ [.shown level]) = lastHeard trace := by
  rw [lastHeard, heard_concat_shown, lastHeard]

/-! ## Emitting -/

/-- Some of the light of a queue has been shown, and the rest is still queued. -/
def Emitting (full : PulseQueue) (sent : List Signal) (q : PulseQueue) : Prop :=
  q.Positive ∧ shown sent ++ pulsesLight q.pulses = pulsesLight full.pulses

namespace Emitting

variable {full q : PulseQueue} {sent : List Signal}

theorem start (h : full.Positive) : Emitting full [] full := ⟨h, rfl⟩

theorem hear (h : Emitting full sent q) (level : Bool) :
    Emitting full (sent ++ [.heard level]) q := by
  unfold Emitting
  rw [shown_concat_heard]
  exact h

theorem all (h : Emitting full sent q) (hempty : q.isEmpty = true) :
    shown sent = pulsesLight full.pulses := by
  have hnil : q.pulses = [] := List.isEmpty_iff.mp hempty
  have hlight := h.2
  rw [hnil] at hlight
  rw [← hlight]
  exact (List.append_nil _).symm

end Emitting

/-- A T-cycle takes one level off the light of a queue. -/
theorem PulseQueue.Positive.tickTCycle {q : PulseQueue} (h : q.Positive)
    (hmore : q.isEmpty = false) :
    q.tickTCycle.2.Positive ∧
      pulsesLight q.pulses = q.tickTCycle.1 :: pulsesLight q.tickTCycle.2.pulses := by
  obtain ⟨pulses⟩ := q
  cases pulses with
  | nil => nomatch hmore
  | cons front rest =>
      obtain ⟨level, width⟩ := front
      obtain ⟨n, rfl⟩ : ∃ n, width = n + 1 :=
        Nat.exists_eq_succ_of_ne_zero (Nat.ne_of_gt (h _ List.mem_cons_self))
      have hrest : ∀ pulse ∈ rest, 0 < pulse.remainingTCycles :=
        fun pulse hpulse => h pulse (List.mem_cons_of_mem _ hpulse)
      cases n with
      | zero => exact ⟨hrest, rfl⟩
      | succ n =>
          refine ⟨fun pulse hpulse => ?_, rfl⟩
          rcases List.mem_cons.mp hpulse with rfl | hpulse
          · exact Nat.succ_pos n
          · exact hrest pulse hpulse

theorem Emitting.show {full q : PulseQueue} {sent : List Signal} (h : Emitting full sent q)
    (hmore : q.isEmpty = false) :
    Emitting full (sent ++ [.shown q.tickTCycle.1]) q.tickTCycle.2 := by
  obtain ⟨hpositive, hlight⟩ := h.1.tickTCycle hmore
  refine ⟨hpositive, ?_⟩
  rw [shown_concat, List.append_assoc, ← h.2, hlight]
  rfl

/-! ## Listening on -/

/-- A hello has no bytes. -/
instance : LightReceiver HelloReceiver where
  tickSameLevel := HelloReceiver.tickSameLevel
  observeTransition := HelloReceiver.observeTransition
  intoResult r := if r.completed then some [] else none

section

variable {ρ : Type} [LightReceiver ρ]

/-- A receiver after the light of some T-cycles, and the last level, as long as it has not
completed. -/
def listening (previous : Bool) : List Bool → ρ → Option (Bool × ρ)
  | [], r => some (previous, r)
  | level :: levels, r =>
      if level = previous then listening previous levels (LightReceiver.tickSameLevel r)
      else
        match LightReceiver.observeTransition previous r with
        | (_, true) => none
        | (r, false) => listening level levels r

variable {previous last level : Bool} {levels : List Bool} {r r' r'' : ρ}

theorem listening_append (h : listening previous levels r = some (last, r'))
    (more : List Bool) :
    listening previous (levels ++ more) r = listening last more r' ∧
      listen previous (levels ++ more) r = listen last more r' := by
  induction levels generalizing previous r with
  | nil =>
      obtain ⟨rfl, rfl⟩ := Prod.mk.inj (Option.some.inj h)
      exact ⟨rfl, rfl⟩
  | cons level levels ih =>
      rw [listening] at h
      rw [List.cons_append, listening, listen]
      by_cases hsame : level = previous
      · rw [if_pos hsame] at h
        rw [if_pos hsame, if_pos hsame]
        exact ih h
      · rw [if_neg hsame] at h
        rw [if_neg hsame, if_neg hsame]
        rcases hobserve : LightReceiver.observeTransition previous r with ⟨next, stop⟩
        rw [hobserve] at h
        cases stop with
        | true => cases h
        | false => exact ih h

theorem listening_same (h : listening previous levels r = some (last, r')) :
    listening previous (levels ++ [last]) r =
      some (last, LightReceiver.tickSameLevel r') := by
  rw [(listening_append h [last]).1, listening, if_pos rfl]
  rfl

theorem listening_other (h : listening previous levels r = some (last, r')) (hne : level ≠ last)
    (hobserve : LightReceiver.observeTransition last r' = (r'', false)) :
    listening previous (levels ++ [level]) r = some (level, r'') := by
  rw [(listening_append h [level]).1, listening, if_neg hne, hobserve]
  rfl

theorem listen_other (h : listening previous levels r = some (last, r')) (hne : level ≠ last)
    (hobserve : LightReceiver.observeTransition last r' = (r'', true)) :
    listen previous (levels ++ [level]) r = r'' := by
  rw [(listening_append h [level]).2, listen, if_neg hne, hobserve]

end

/-! ## Performing the script -/

section

variable (region : MysteryGiftRegion) (payload : Vector U8 mysteryGiftPayloadLen)

/-- A part of the light that performs an action, behind the light of those before it. -/
inductive Performs (played : List Signal) (resolved : Option U8) :
    ProtocolAction → List Signal → Option U8 → Prop where
  | sendHello {sent answer : List Signal}
      (hsent : shown sent = pulsesLight (encodeHello .new).pulses)
      (hanswer : (listen (lastHeard (played ++ sent)) (heard answer)
        HelloReceiver.new).completed = true) :
      Performs played resolved .sendHello (sent ++ answer) resolved
  | sendBlock {source : BlockSource} {bytes : List U8} {full : PulseQueue}
      {sent answer : List Signal} (hbytes : source.bytes resolved payload = some bytes)
      (hencode : encodeDataBlock bytes .new = some full)
      (hsent : shown sent = pulsesLight full.pulses)
      (hanswer : (listen (lastHeard (played ++ sent)) (heard answer)
        (DataMessageReceiver.new 1)).intoResult = some [ackOkay]) :
      Performs played resolved (.sendBlock source) (sent ++ answer) resolved
  | receiveHello {call answer : List Signal}
      (hcall : (listen (lastHeard played) (heard call) HelloReceiver.new).completed = true)
      (hanswer : shown answer = pulsesLight (encodeHello .new).pulses) :
      Performs played resolved .receiveHello (call ++ answer) resolved
  | receiveBlock {expectation : ReceiveExpectation} {bytes : List U8} {block answer : List Signal}
      {resolved' : Option U8}
      (hblock : (listen (lastHeard played) (heard block) DataBlockReceiver.new).intoResult =
        some bytes)
      (haccept : expectation.accept region resolved bytes = some resolved')
      (hanswer : shown answer = pulsesLight (encodeBlockAck ackOkay .new).pulses) :
      Performs played resolved (.receiveBlock expectation) (block ++ answer) resolved'

/-- Light that performs some actions one after another, and the region code that is resolved. -/
inductive Plays : List ProtocolAction → List Signal → Option U8 → Prop where
  | start (lead : List Signal) : Plays [] lead region.code
  | act {done : List ProtocolAction} {played segment : List Signal} {resolved resolved' : Option U8}
      {action : ProtocolAction} (hplays : Plays done played resolved)
      (hperforms : Performs region payload played resolved action segment resolved') :
      Plays (done ++ [action]) (played ++ segment) resolved'

end

/-- Everything but the end of the script. -/
def scriptedActions : List ProtocolAction := protocolActions.dropLast

/-- What the current action has got to, behind the light of those before it. -/
inductive Underway (p : RoleAProtocol) (played : List Signal) (resolved : Option U8) :
    ProtocolAction → List Signal → Prop where
  | sendingAction {sent : List Signal} (hphase : p.phase = .sendingAction)
      (hresolved : p.resolvedRegionCode = resolved)
      (hemitting : Emitting (encodeHello .new) sent p.pulses) :
      Underway p played resolved .sendHello sent
  | waitingHelloResponse {sent answer : List Signal} {receiver : HelloReceiver}
      (hphase : p.phase = .waitingHelloResponse receiver)
      (hresolved : p.resolvedRegionCode = resolved) (hpulses : p.pulses = .new)
      (hsent : shown sent = pulsesLight (encodeHello .new).pulses)
      (hlistening : listening (lastHeard (played ++ sent)) (heard answer) HelloReceiver.new =
        some (p.previousGameEmitterOn, receiver)) :
      Underway p played resolved .sendHello (sent ++ answer)
  | sendingBlock {source : BlockSource} {bytes : List U8} {full : PulseQueue}
      {sent : List Signal} (hphase : p.phase = .sendingBlock)
      (hresolved : p.resolvedRegionCode = resolved)
      (hbytes : source.bytes resolved p.payload = some bytes)
      (hencode : encodeDataBlock bytes .new = some full)
      (hemitting : Emitting full sent p.pulses) :
      Underway p played resolved (.sendBlock source) sent
  | waitingBlockAck {source : BlockSource} {bytes : List U8} {full : PulseQueue}
      {sent answer : List Signal} {receiver : DataMessageReceiver}
      (hphase : p.phase = .waitingBlockAck receiver)
      (hresolved : p.resolvedRegionCode = resolved) (hpulses : p.pulses = .new)
      (hbytes : source.bytes resolved p.payload = some bytes)
      (hencode : encodeDataBlock bytes .new = some full)
      (hsent : shown sent = pulsesLight full.pulses)
      (hlistening : listening (lastHeard (played ++ sent)) (heard answer)
        (DataMessageReceiver.new 1) = some (p.previousGameEmitterOn, receiver)) :
      Underway p played resolved (.sendBlock source) (sent ++ answer)
  | receivingHello {call : List Signal} {receiver : HelloReceiver}
      (hphase : p.phase = .receivingHello receiver .noop)
      (hresolved : p.resolvedRegionCode = resolved) (hpulses : p.pulses = .new)
      (hlistening : listening (lastHeard played) (heard call) HelloReceiver.new =
        some (p.previousGameEmitterOn, receiver)) :
      Underway p played resolved .receiveHello call
  | respondingToHello {call answer : List Signal} (hphase : p.phase = .respondingToHello)
      (hresolved : p.resolvedRegionCode = resolved)
      (hcall : (listen (lastHeard played) (heard call) HelloReceiver.new).completed = true)
      (hemitting : Emitting (encodeHello .new) answer p.pulses) :
      Underway p played resolved .receiveHello (call ++ answer)
  | receivingBlock {expectation : ReceiveExpectation} {block : List Signal}
      {receiver : DataBlockReceiver} (hphase : p.phase = .receivingBlock receiver expectation)
      (hresolved : p.resolvedRegionCode = resolved) (hpulses : p.pulses = .new)
      (hlistening : listening (lastHeard played) (heard block) DataBlockReceiver.new =
        some (p.previousGameEmitterOn, receiver)) :
      Underway p played resolved (.receiveBlock expectation) block
  | sendingBlockAck {expectation : ReceiveExpectation} {bytes : List U8}
      {block answer : List Signal} (hphase : p.phase = .sendingBlockAck)
      (hblock : (listen (lastHeard played) (heard block) DataBlockReceiver.new).intoResult =
        some bytes)
      (haccept : expectation.accept p.region resolved bytes = some p.resolvedRegionCode)
      (hemitting : Emitting (encodeBlockAck ackOkay .new) answer p.pulses) :
      Underway p played resolved (.receiveBlock expectation) (block ++ answer)

/-- The light since the last restart, and how far it has brought the exchange. -/
inductive Attempt (p : RoleAProtocol) (trace : List Signal) : Prop where
  | idle (hphase : p.phase = .idle) (hactions : p.actions = protocolActions)
      (hpulses : p.pulses = .new) (hresolved : p.resolvedRegionCode = p.region.code)
      (hcompleted : p.completedExchange = false)
  | underway {done left : List ProtocolAction} {action : ProtocolAction}
      {played segment : List Signal} {resolved : Option U8}
      (hplays : Plays p.region p.payload done played resolved)
      (hscript : scriptedActions = done ++ action :: left)
      (hactions : RoleAProtocol.nextAction p.actions =
        RoleAProtocol.nextAction (left ++ [.finish]))
      (hunderway : Underway p played resolved action segment)
      (htrace : trace = played ++ segment) (hcompleted : p.completedExchange = false)
  | completed {played rest : List Signal} {resolved : Option U8} (hphase : p.phase = .completed)
      (hplays : Plays p.region p.payload scriptedActions played resolved)
      (htrace : trace = played ++ rest)
  | failed (hphase : p.phase = .failed) (hcompleted : p.completedExchange = false)

/-! ## Starting an action -/

theorem mem_scriptedActions {action : ProtocolAction} (h : action ∈ scriptedActions) :
    action ≠ .noop ∧ action ≠ .finish := by
  have hall : ∀ action ∈ scriptedActions, action ≠ .noop ∧ action ≠ .finish := by decide
  exact hall action h

theorem positive_encodeHello : (encodeHello .new).Positive :=
  ((((PulseQueue.positive_new.push _ _).push _ _).push _ _).push _ _).push _ _

theorem positive_encodeBlockAck (status : U8) : (encodeBlockAck status .new).Positive :=
  (PulseQueue.positive_new.push _ _).encodeDataMessage _

theorem length_blockSource {source : BlockSource} {resolved : Option U8}
    {payload : Vector U8 mysteryGiftPayloadLen} {bytes : List U8}
    (h : source.bytes resolved payload = some bytes) : bytes.length < 2 ^ 8 := by
  cases source with
  | regionPrefix =>
      obtain rfl := Option.some.inj h
      decide
  | resolvedRegionCode =>
      obtain ⟨code, -, rfl⟩ := Option.map_eq_some_iff.mp h
      show 1 < 2 ^ 8
      decide
  | payload =>
      obtain rfl := Option.some.inj h
      rw [Vector.length_toList]
      decide
  | empty =>
      obtain rfl := Option.some.inj h
      decide

section

variable {p : RoleAProtocol} {played : List Signal} {done left : List ProtocolAction}

/-- With some actions done, the next one is started. -/
theorem Attempt.startNextAction
    (hplays : Plays p.region p.payload done played p.resolvedRegionCode)
    (hscript : scriptedActions = done ++ left)
    (hactions : RoleAProtocol.nextAction p.actions = RoleAProtocol.nextAction (left ++ [.finish]))
    (hpulses : p.pulses = .new) (hcompleted : p.completedExchange = false)
    (hlevel : lastHeard played = p.previousGameEmitterOn) :
    Attempt p.startNextAction played := by
  have htrace : played = played ++ [] := (List.append_nil played).symm
  unfold RoleAProtocol.startNextAction
  rw [hactions]
  cases left with
  | nil =>
      rw [List.append_nil] at hscript
      rw [← hscript] at hplays
      exact .completed rfl hplays htrace
  | cons action left =>
      have hmem : action ∈ scriptedActions := by
        rw [hscript]
        exact List.mem_append_right done List.mem_cons_self
      obtain ⟨hnoop, hfinish⟩ := mem_scriptedActions hmem
      cases action with
      | noop => exact absurd rfl hnoop
      | finish => exact absurd rfl hfinish
      | sendHello =>
          refine .underway hplays hscript rfl (.sendingAction rfl rfl ?_) htrace hcompleted
          show Emitting _ [] (encodeHello p.pulses)
          rw [hpulses]
          exact .start positive_encodeHello
      | receiveHello =>
          refine .underway hplays hscript rfl (.receivingHello rfl rfl hpulses ?_) htrace hcompleted
          show some (lastHeard played, HelloReceiver.new) = _
          rw [hlevel]
          rfl
      | receiveBlock expectation =>
          refine .underway hplays hscript rfl (.receivingBlock rfl rfl hpulses ?_) htrace hcompleted
          show some (lastHeard played, DataBlockReceiver.new) = _
          rw [hlevel]
          rfl
      | sendBlock source =>
          show Attempt (RoleAProtocol.startAction { p with waitTCycles := 0, actions := left ++ [.finish] }
            (.sendBlock source)) played
          unfold RoleAProtocol.startAction
          dsimp only
          cases hbytes : source.bytes p.resolvedRegionCode p.payload with
          | none => exact .failed rfl hcompleted
          | some bytes =>
              have hencode : encodeDataBlock bytes .new = some ((blockBytes bytes).encode .new) :=
                encodeDataBlock_eq (length_blockSource hbytes) .new
              rw [hpulses]
              simp only [hencode]
              exact .underway hplays hscript rfl (.sendingBlock rfl rfl hbytes hencode
                (.start (blockBytes bytes).positive_encode)) htrace hcompleted

/-! ## Hearing a level -/

theorem RoleAProtocol.observe_same {level : Bool} (h : p.previousGameEmitterOn = level) :
    p.observeGameEmitter level = { p with phase := p.phase.tickSameLevel } := if_pos h

theorem RoleAProtocol.observe_other {level : Bool} (h : p.previousGameEmitterOn ≠ level)
    {phase : ProtocolPhase} {finished : Bool}
    (hobserve : p.phase.observeTransition p.previousGameEmitterOn = (phase, finished)) :
    p.observeGameEmitter level =
      if finished then finishReceiverPhase { p with phase, previousGameEmitterOn := level }
      else { p with phase, previousGameEmitterOn := level } := by
  unfold observeGameEmitter
  rw [if_neg h, hobserve]

/-- A phase that does not receive only takes note of the level. -/
theorem RoleAProtocol.observe_quiet (h : p.phase.receiverWaiting = false) (level : Bool) :
    p.observeGameEmitter level = { p with previousGameEmitterOn := level } := by
  by_cases hsame : p.previousGameEmitterOn = level
  · have htick : p.phase.tickSameLevel = p.phase := by
      cases hphase : p.phase <;> first | rfl | (rw [hphase] at h; nomatch h)
    rw [observe_same hsame, htick, ← hsame]
  · have hobserve : p.phase.observeTransition p.previousGameEmitterOn = (p.phase, false) := by
      cases hphase : p.phase <;> first | rfl | (rw [hphase] at h; nomatch h)
    rw [observe_other hsame hobserve]
    rfl

/-- A phase that receives: the receiver listens on, or the phase is finished. -/
theorem RoleAProtocol.observe_listening {ρ : Type} [LightReceiver ρ] (wrap : ρ → ProtocolPhase)
    (htick : ∀ r, (wrap r).tickSameLevel = wrap (LightReceiver.tickSameLevel r))
    (hwrap : ∀ level r, (wrap r).observeTransition level =
      (wrap (LightReceiver.observeTransition level r).1,
        (LightReceiver.observeTransition level r).2))
    {previous : Bool} {levels : List Bool} {r receiver : ρ} (hphase : p.phase = wrap receiver)
    (h : listening previous levels r = some (p.previousGameEmitterOn, receiver)) (level : Bool) :
    (∃ receiver', p.observeGameEmitter level =
        { p with phase := wrap receiver', previousGameEmitterOn := level } ∧
      listening previous (levels ++ [level]) r = some (level, receiver')) ∨
    ∃ receiver', p.observeGameEmitter level =
        finishReceiverPhase { p with phase := wrap receiver', previousGameEmitterOn := level } ∧
      listen previous (levels ++ [level]) r = receiver' ∧
      LightReceiver.observeTransition p.previousGameEmitterOn receiver = (receiver', true) := by
  by_cases hsame : p.previousGameEmitterOn = level
  · refine .inl ⟨LightReceiver.tickSameLevel receiver, ?_, ?_⟩
    · rw [observe_same hsame, hphase, htick, ← hsame]
    · rw [← hsame]
      exact listening_same h
  · have hother := hwrap p.previousGameEmitterOn receiver
    rw [← hphase] at hother
    have hne : level ≠ p.previousGameEmitterOn := fun heq => hsame heq.symm
    cases hobserve : LightReceiver.observeTransition p.previousGameEmitterOn receiver with
    | mk receiver' finished =>
        rw [hobserve] at hother
        rw [observe_other hsame hother]
        cases finished with
        | false => exact .inl ⟨receiver', rfl, listening_other h hne hobserve⟩
        | true => exact .inr ⟨receiver', rfl, listen_other h hne hobserve, rfl⟩

theorem HelloReceiver.completed_of_observe {level : Bool} {r r' : HelloReceiver}
    (h : LightReceiver.observeTransition level r = (r', true)) : r'.completed = true := by
  obtain ⟨rfl, hcompleted⟩ := Prod.mk.inj h
  exact hcompleted

theorem Attempt.failAndRetry (trace : List Signal) (h : p.completedExchange = false) :
    Attempt p.failAndRetry trace := .failed rfl h

variable {segment : List Signal} {action : ProtocolAction} {resolved : Option U8}

/-- The current action hears a level: it goes on, or the next phase is entered. -/
theorem Attempt.observe_underway (hplays : Plays p.region p.payload done played resolved)
    (hscript : scriptedActions = done ++ action :: left)
    (hactions : RoleAProtocol.nextAction p.actions = RoleAProtocol.nextAction (left ++ [.finish]))
    (hunderway : Underway p played resolved action segment)
    (hcompleted : p.completedExchange = false) (level : Bool) :
    Attempt (p.observeGameEmitter level) (played ++ segment ++ [.heard level]) := by
  have hnext : scriptedActions = (done ++ [action]) ++ left := by
    rw [hscript, List.append_assoc]
    rfl
  cases hunderway with
  | sendingAction hphase hresolved hemitting =>
      rw [RoleAProtocol.observe_quiet (by rw [hphase]; rfl), List.append_assoc]
      exact .underway hplays hscript hactions
        (.sendingAction hphase hresolved (hemitting.hear level)) rfl hcompleted
  | sendingBlock hphase hresolved hbytes hencode hemitting =>
      rw [RoleAProtocol.observe_quiet (by rw [hphase]; rfl), List.append_assoc]
      exact .underway hplays hscript hactions
        (.sendingBlock hphase hresolved hbytes hencode (hemitting.hear level)) rfl hcompleted
  | @respondingToHello call answer hphase hresolved hcall hemitting =>
      rw [RoleAProtocol.observe_quiet (by rw [hphase]; rfl), List.append_assoc, List.append_assoc]
      exact .underway hplays hscript hactions
        (.respondingToHello hphase hresolved hcall (hemitting.hear level)) rfl hcompleted
  | @sendingBlockAck _ _ block answer hphase hblock haccept hemitting =>
      rw [RoleAProtocol.observe_quiet (by rw [hphase]; rfl), List.append_assoc, List.append_assoc]
      exact .underway hplays hscript hactions
        (.sendingBlockAck hphase hblock haccept (hemitting.hear level)) rfl hcompleted
  | @waitingHelloResponse sent answer _ hphase hresolved hpulses hsent hlistening =>
      rw [List.append_assoc, List.append_assoc]
      rcases RoleAProtocol.observe_listening .waitingHelloResponse (fun _ => rfl) (fun _ _ => rfl) hphase
        hlistening level with
        ⟨receiver', hobserve, hlistening'⟩ | ⟨receiver', hobserve, hlisten, hfinished⟩
      · rw [hobserve]
        rw [← heard_concat] at hlistening'
        exact .underway hplays hscript hactions
          (.waitingHelloResponse rfl hresolved hpulses hsent hlistening') rfl hcompleted
      · rw [hobserve]
        rw [← heard_concat] at hlisten
        have hperforms : Performs p.region p.payload played resolved .sendHello
            (sent ++ (answer ++ [.heard level])) resolved :=
          .sendHello hsent (hlisten ▸ HelloReceiver.completed_of_observe hfinished)
        rw [← hresolved] at hplays hperforms
        exact .startNextAction (hplays.act hperforms) hnext hactions hpulses hcompleted
          (by rw [← List.append_assoc, ← List.append_assoc]; exact lastHeard_concat _ level)
  | @waitingBlockAck _ _ _ sent answer _ hphase hresolved hpulses hbytes hencode hsent hlistening =>
      rw [List.append_assoc, List.append_assoc]
      rcases RoleAProtocol.observe_listening .waitingBlockAck (fun _ => rfl) (fun _ _ => rfl) hphase
        hlistening level with
        ⟨receiver', hobserve, hlistening'⟩ | ⟨receiver', hobserve, hlisten, hfinished⟩
      · rw [hobserve]
        rw [← heard_concat] at hlistening'
        exact .underway hplays hscript hactions
          (.waitingBlockAck rfl hresolved hpulses hbytes hencode hsent hlistening') rfl hcompleted
      · rw [hobserve]
        unfold RoleAProtocol.finishReceiverPhase
        dsimp only
        split
        next hack =>
          rw [← heard_concat] at hlisten
          have hperforms : Performs p.region p.payload played resolved (.sendBlock _)
              (sent ++ (answer ++ [.heard level])) resolved :=
            .sendBlock hbytes hencode hsent (hlisten ▸ hack)
          rw [← hresolved] at hplays hperforms
          exact .startNextAction (hplays.act hperforms) hnext hactions hpulses hcompleted
            (by rw [← List.append_assoc, ← List.append_assoc]; exact lastHeard_concat _ level)
        next => exact .failAndRetry _ hcompleted
  | receivingHello hphase hresolved hpulses hlistening =>
      rcases RoleAProtocol.observe_listening (.receivingHello · .noop) (fun _ => rfl)
        (fun _ _ => rfl) hphase hlistening level with
        ⟨receiver', hobserve, hlistening'⟩ | ⟨receiver', hobserve, hlisten, hfinished⟩
      · rw [hobserve, List.append_assoc]
        rw [← heard_concat] at hlistening'
        exact .underway hplays hscript hactions
          (.receivingHello rfl hresolved hpulses hlistening') rfl hcompleted
      · rw [hobserve, List.append_assoc]
        rw [← heard_concat] at hlisten
        have hcall := hlisten ▸ HelloReceiver.completed_of_observe hfinished
        have hstart : Emitting (encodeHello .new) [] (encodeHello p.pulses) := by
          rw [hpulses]
          exact .start positive_encodeHello
        have hresponding : Underway (RoleAProtocol.finishReceiverPhase
            { p with phase := .receivingHello receiver' .noop, previousGameEmitterOn := level })
            played resolved .receiveHello ((segment ++ [.heard level]) ++ []) :=
          .respondingToHello rfl hresolved hcall hstart
        rw [List.append_nil] at hresponding
        exact .underway hplays hscript hactions hresponding rfl hcompleted
  | @receivingBlock expectation _ _ hphase hresolved hpulses hlistening =>
      rcases RoleAProtocol.observe_listening (.receivingBlock · expectation)
        (fun _ => rfl) (fun _ _ => rfl) hphase hlistening level with
        ⟨receiver', hobserve, hlistening'⟩ | ⟨receiver', hobserve, hlisten, hfinished⟩
      · rw [hobserve, List.append_assoc]
        rw [← heard_concat] at hlistening'
        exact .underway hplays hscript hactions
          (.receivingBlock rfl hresolved hpulses hlistening') rfl hcompleted
      · rw [hobserve, List.append_assoc]
        rw [← heard_concat] at hlisten
        unfold RoleAProtocol.finishReceiverPhase
        dsimp only
        cases hbytes : receiver'.intoResult with
        | none => exact .failAndRetry _ hcompleted
        | some bytes =>
            dsimp only
            cases haccept : expectation.accept p.region p.resolvedRegionCode bytes with
            | none => exact .failAndRetry _ hcompleted
            | some resolved' =>
                have hstart : Emitting (encodeBlockAck ackOkay .new) []
                    (encodeBlockAck ackOkay p.pulses) := by
                  rw [hpulses]
                  exact .start (positive_encodeBlockAck ackOkay)
                rw [hresolved] at haccept
                have hacking : Underway
                    { p with
                      resolvedRegionCode := resolved'
                      pulses := encodeBlockAck ackOkay p.pulses
                      phase := .sendingBlockAck
                      previousGameEmitterOn := level }
                    played resolved (.receiveBlock expectation)
                    ((segment ++ [.heard level]) ++ []) :=
                  .sendingBlockAck rfl (hlisten ▸ hbytes) haccept hstart
                rw [List.append_nil] at hacking
                exact .underway hplays hscript hactions hacking rfl hcompleted

variable {trace : List Signal}

/-- Any phase hears a level. -/
theorem Attempt.observe (h : Attempt p trace) (level : Bool) :
    Attempt (p.observeGameEmitter level) (trace ++ [.heard level]) := by
  cases h with
  | idle hphase hactions hpulses hresolved hcompleted =>
      rw [RoleAProtocol.observe_quiet (by rw [hphase]; rfl)]
      exact .idle hphase hactions hpulses hresolved hcompleted
  | underway hplays hscript hactions hunderway htrace hcompleted =>
      rw [htrace]
      exact .observe_underway hplays hscript hactions hunderway hcompleted level
  | completed hphase hplays htrace =>
      rw [RoleAProtocol.observe_quiet (by rw [hphase]; rfl), htrace, List.append_assoc]
      exact .completed hphase hplays rfl
  | failed hphase hcompleted =>
      rw [RoleAProtocol.observe_quiet (by rw [hphase]; rfl)]
      exact .failed hphase hcompleted

theorem RoleAProtocol.startAction_level (p : RoleAProtocol) (action : ProtocolAction) :
    (p.startAction action).previousGameEmitterOn = p.previousGameEmitterOn := by
  cases action with
  | sendBlock source =>
      unfold startAction
      dsimp only
      split
      · rfl
      · split <;> rfl
  | _ => rfl

theorem RoleAProtocol.startNextAction_level (p : RoleAProtocol) :
    p.startNextAction.previousGameEmitterOn = p.previousGameEmitterOn := startAction_level _ _

theorem RoleAProtocol.finishReceiverPhase_level (p : RoleAProtocol) :
    p.finishReceiverPhase.previousGameEmitterOn = p.previousGameEmitterOn := by
  unfold finishReceiverPhase
  split
  · rfl
  · exact p.startNextAction_level
  · split
    · split <;> rfl
    · rfl
  · split
    · exact p.startNextAction_level
    · rfl
  · rfl

theorem RoleAProtocol.observe_level (p : RoleAProtocol) (level : Bool) :
    (p.observeGameEmitter level).previousGameEmitterOn = level := by
  by_cases hsame : p.previousGameEmitterOn = level
  · rw [observe_same hsame]
    exact hsame
  · cases hobserve : p.phase.observeTransition p.previousGameEmitterOn with
    | mk phase finished =>
        rw [observe_other hsame hobserve]
        cases finished with
        | false => rfl
        | true => exact finishReceiverPhase_level _

/-! ## Driving a phase -/

/-- The exchange is about to start again. -/
def RoleAProtocol.restarts (p : RoleAProtocol) : Bool :=
  (p.phase == .completed || p.phase == .failed) && p.retryDelayTCycles == 0

/-- A phase that is not one of waiting for a restart. -/
theorem RoleAProtocol.drive_open (hcompleted : p.phase ≠ .completed) (hfailed : p.phase ≠ .failed) :
    p.driveProtocol =
      if p.waitTCycles = 0 ∧ p.phase.receiverWaiting = true then p.failAndRetry
      else drivePhase { p with waitTCycles := p.waitTCycles - 1 } := by
  have hclosed : ¬(p.phase = .completed ∨ p.phase = .failed) := not_or.mpr ⟨hcompleted, hfailed⟩
  unfold driveProtocol
  rw [if_neg hclosed]
  by_cases hwait : p.waitTCycles = 0
  · have hsame : { p with waitTCycles := p.waitTCycles - 1 } = p := by
      rw [hwait, Nat.zero_sub, ← hwait]
    rw [if_neg (not_not.mpr hwait), hsame]
    by_cases hreceiving : p.phase.receiverWaiting = true
    · rw [if_pos hreceiving, if_pos ⟨hwait, hreceiving⟩]
    · rw [if_neg hreceiving, if_neg fun h => hreceiving h.2]
  · rw [if_pos hwait, if_neg fun h => hwait h.1]

/-- Neither the time that is left nor the light that was seen matters to the action. -/
theorem Underway.frame (h : Underway p played resolved action segment) (tCycles : Nat)
    (seen : Bool) :
    Underway { p with waitTCycles := tCycles, gameEmitterSeen := seen } played resolved action
      segment := by
  cases h with
  | sendingAction h₁ h₂ h₃ => exact .sendingAction h₁ h₂ h₃
  | waitingHelloResponse h₁ h₂ h₃ h₄ h₅ => exact .waitingHelloResponse h₁ h₂ h₃ h₄ h₅
  | sendingBlock h₁ h₂ h₃ h₄ h₅ => exact .sendingBlock h₁ h₂ h₃ h₄ h₅
  | waitingBlockAck h₁ h₂ h₃ h₄ h₅ h₆ h₇ => exact .waitingBlockAck h₁ h₂ h₃ h₄ h₅ h₆ h₇
  | receivingHello h₁ h₂ h₃ h₄ => exact .receivingHello h₁ h₂ h₃ h₄
  | respondingToHello h₁ h₂ h₃ h₄ => exact .respondingToHello h₁ h₂ h₃ h₄
  | receivingBlock h₁ h₂ h₃ h₄ => exact .receivingBlock h₁ h₂ h₃ h₄
  | sendingBlockAck h₁ h₂ h₃ h₄ => exact .sendingBlockAck h₁ h₂ h₃ h₄

theorem Underway.open (h : Underway p played resolved action segment) :
    p.phase ≠ .completed ∧ p.phase ≠ .failed ∧ p.phase ≠ .idle := by
  cases h <;> (rw [‹p.phase = _›]; exact ⟨nofun, nofun, nofun⟩)

theorem PulseQueue.eq_new {q : PulseQueue} (h : q.isEmpty = true) : q = .new := by
  obtain ⟨pulses⟩ := q
  exact congrArg PulseQueue.mk (List.isEmpty_iff.mp h)

/-- The current action goes on: where everything has been sent, the next phase is entered. -/
theorem Attempt.drivePhase (hplays : Plays p.region p.payload done played resolved)
    (hscript : scriptedActions = done ++ action :: left)
    (hactions : RoleAProtocol.nextAction p.actions = RoleAProtocol.nextAction (left ++ [.finish]))
    (hunderway : Underway p played resolved action segment)
    (hcompleted : p.completedExchange = false)
    (hlevel : lastHeard (played ++ segment) = p.previousGameEmitterOn) :
    Attempt p.drivePhase (played ++ segment) := by
  have hnext : scriptedActions = (done ++ [action]) ++ left := by
    rw [hscript, List.append_assoc]
    rfl
  unfold RoleAProtocol.drivePhase
  rw [if_neg hunderway.open.2.2]
  by_cases hsent : (p.phase.sending && p.pulses.isEmpty) = true
  · rw [if_pos hsent]
    obtain ⟨hsending, hempty⟩ := Bool.and_eq_true_iff.mp hsent
    have hpulses := PulseQueue.eq_new hempty
    unfold RoleAProtocol.finishSendingPhase
    cases hunderway with
    | sendingAction hphase hresolved hemitting =>
        rw [hphase]
        have hwaiting : Underway
            { p with
              phase := .waitingHelloResponse .new
              waitTCycles := irHelloResponseTimeoutTCycles }
            played resolved .sendHello (segment ++ []) :=
          .waitingHelloResponse rfl hresolved hpulses (hemitting.all hempty)
            (congrArg (fun level => some (level, HelloReceiver.new)) hlevel)
        rw [List.append_nil] at hwaiting
        exact .underway hplays hscript hactions hwaiting rfl hcompleted
    | @sendingBlock source _ _ _ hphase hresolved hbytes hencode hemitting =>
        rw [hphase]
        have hwaiting : Underway
            { p with
              phase := .waitingBlockAck (.new 1)
              waitTCycles := irReceiveTimeoutTCycles }
            played resolved (.sendBlock source) (segment ++ []) :=
          .waitingBlockAck rfl hresolved hpulses hbytes hencode (hemitting.all hempty)
            (congrArg (fun level => some (level, DataMessageReceiver.new 1)) hlevel)
        rw [List.append_nil] at hwaiting
        exact .underway hplays hscript hactions hwaiting rfl hcompleted
    | respondingToHello hphase hresolved hcall hemitting =>
        rw [hphase]
        have hplays := hplays.act (.receiveHello hcall (hemitting.all hempty))
        rw [← hresolved] at hplays
        exact .startNextAction hplays hnext hactions hpulses hcompleted hlevel
    | sendingBlockAck hphase hblock haccept hemitting =>
        rw [hphase]
        have hplays := hplays.act (.receiveBlock hblock haccept (hemitting.all hempty))
        exact .startNextAction hplays hnext hactions hpulses hcompleted hlevel
    | waitingHelloResponse hphase | receivingHello hphase | waitingBlockAck hphase
    | receivingBlock hphase =>
        rw [hphase] at hsending
        nomatch hsending
  · rw [if_neg hsent]
    exact .underway hplays hscript hactions hunderway rfl hcompleted

/-- Any phase is driven, and where the exchange starts again, so does its light. -/
theorem Attempt.drive (h : Attempt p trace) (hlevel : lastHeard trace = p.previousGameEmitterOn) :
    Attempt p.driveProtocol
      (if p.restarts then [.heard p.previousGameEmitterOn] else trace) := by
  have hdelay (hwaiting : p.phase = .completed ∨ p.phase = .failed)
      (hmore : Attempt { p with retryDelayTCycles := p.retryDelayTCycles - 1 } trace) :
      Attempt p.driveProtocol (if p.restarts then [.heard p.previousGameEmitterOn] else trace) := by
    unfold RoleAProtocol.driveProtocol RoleAProtocol.restarts
    rw [if_pos hwaiting]
    by_cases hzero : p.retryDelayTCycles = 0
    · rw [if_pos hzero]
      exact .idle rfl rfl rfl rfl rfl
    · have hrestarts : ((p.phase == .completed || p.phase == .failed) &&
          p.retryDelayTCycles == 0) = false := by
        rw [beq_eq_false_iff_ne.mpr hzero, Bool.and_false]
      rw [if_neg hzero, hrestarts]
      exact hmore
  have hopen (hcompleted : p.phase ≠ .completed) (hfailed : p.phase ≠ .failed) :
      p.restarts = false := by
    unfold RoleAProtocol.restarts
    rw [beq_eq_false_iff_ne.mpr hcompleted, beq_eq_false_iff_ne.mpr hfailed]
    rfl
  cases h with
  | idle hphase hactions hpulses hresolved hcompleted =>
      have hquiet : ¬(p.waitTCycles = 0 ∧ p.phase.receiverWaiting = true) := by
        rw [hphase]
        exact fun h => nomatch h.2
      rw [hopen (by rw [hphase]; nofun) (by rw [hphase]; nofun),
        RoleAProtocol.drive_open (by rw [hphase]; nofun) (by rw [hphase]; nofun), if_neg hquiet]
      unfold RoleAProtocol.drivePhase
      rw [if_pos hphase]
      have hplays : Plays p.region p.payload [] trace p.resolvedRegionCode :=
        hresolved ▸ .start trace
      exact .startNextAction hplays rfl (congrArg _ hactions) hpulses hcompleted hlevel
  | @underway _ _ _ played segment _ hplays hscript hactions hunderway htrace hcompleted =>
      obtain ⟨hnotCompleted, hnotFailed, -⟩ := hunderway.open
      rw [hopen hnotCompleted hnotFailed, RoleAProtocol.drive_open hnotCompleted hnotFailed]
      by_cases htimeout : p.waitTCycles = 0 ∧ p.phase.receiverWaiting = true
      · rw [if_pos htimeout]
        exact .failAndRetry trace hcompleted
      · rw [if_neg htimeout, htrace]
        exact .drivePhase hplays hscript hactions (hunderway.frame _ _) hcompleted (htrace ▸ hlevel)
  | completed hphase hplays htrace => exact hdelay (.inl hphase) (.completed hphase hplays htrace)
  | failed hphase hcompleted => exact hdelay (.inr hphase) (.failed hphase hcompleted)

end

/-! ## Showing a level -/

theorem PulseQueue.isEmpty_push (q : PulseQueue) (level : Bool) {tCycles : Nat} (h : tCycles ≠ 0) :
    (q.push level tCycles).isEmpty = false := by
  unfold push
  rw [if_neg h]
  cases q.pulses.getLast? with
  | none => rfl
  | some back =>
      dsimp only
      split <;> exact List.isEmpty_eq_false_iff.mpr (List.append_ne_nil_of_right_ne_nil _ nofun)

theorem isEmpty_encodeHello (q : PulseQueue) : (encodeHello q).isEmpty = false :=
  PulseQueue.isEmpty_push _ _ (by decide)

theorem isEmpty_encodeDataMessage (bytes : List U8) (q : PulseQueue) :
    (encodeDataMessage bytes q).isEmpty = false :=
  PulseQueue.isEmpty_push _ _ (by decide)

namespace RoleAProtocol

theorem nextAction_ne_noop (actions : List ProtocolAction) : (nextAction actions).1 ≠ .noop := by
  induction actions with
  | nil => nofun
  | cons action actions ih =>
      cases action with
      | noop => exact ih
      | _ => nofun

/-- Where a phase that sends has been entered, there is something to send. -/
theorem startNextAction_sending {p : RoleAProtocol}
    (h : p.startNextAction.phase.sending = true) :
    p.startNextAction.pulses.isEmpty = false := by
  have hnoop := nextAction_ne_noop p.actions
  unfold startNextAction at h ⊢
  dsimp only at h ⊢
  generalize (nextAction p.actions).1 = action at h hnoop ⊢
  cases action with
  | sendHello => exact isEmpty_encodeHello _
  | sendBlock source =>
      unfold startAction at h ⊢
      dsimp only at h ⊢
      cases hbytes : source.bytes p.resolvedRegionCode p.payload with
      | none =>
          rw [hbytes] at h
          nomatch h
      | some bytes =>
          have hencode : encodeDataBlock bytes p.pulses =
              some ((blockBytes bytes).encode p.pulses) :=
            encodeDataBlock_eq (length_blockSource hbytes) _
          simp only [hencode]
          exact isEmpty_encodeDataMessage _ _
  | noop => exact absurd rfl hnoop
  | receiveHello | receiveBlock | finish => nomatch h

theorem finishSendingPhase_sending {p : RoleAProtocol}
    (h : p.finishSendingPhase.phase.sending = true) :
    p.finishSendingPhase.pulses.isEmpty = false := by
  unfold finishSendingPhase at h ⊢
  split at h
  · nomatch h
  · exact startNextAction_sending h
  · exact startNextAction_sending h
  · nomatch h
  · nomatch h

theorem drivePhase_sending {p : RoleAProtocol} (h : p.drivePhase.phase.sending = true) :
    p.drivePhase.pulses.isEmpty = false := by
  unfold drivePhase at h ⊢
  by_cases hidle : p.phase = .idle
  · rw [if_pos hidle] at h ⊢
    exact startNextAction_sending h
  · rw [if_neg hidle] at h ⊢
    by_cases hsent : (p.phase.sending && p.pulses.isEmpty) = true
    · rw [if_pos hsent] at h ⊢
      exact finishSendingPhase_sending h
    · rw [if_neg hsent] at h ⊢
      rw [h, Bool.true_and] at hsent
      exact eq_false_of_ne_true hsent

theorem drive_sending {p : RoleAProtocol} (h : p.driveProtocol.phase.sending = true) :
    p.driveProtocol.pulses.isEmpty = false := by
  by_cases hwaiting : p.phase = .completed ∨ p.phase = .failed
  · unfold driveProtocol at h
    rw [if_pos hwaiting] at h
    split at h
    · nomatch h
    · rcases hwaiting with hphase | hphase <;>
      · rw [hphase] at h
        nomatch h
  · obtain ⟨hcompleted, hfailed⟩ := not_or.mp hwaiting
    rw [drive_open hcompleted hfailed] at h ⊢
    split at h
    · nomatch h
    next htime =>
      rw [if_neg htime]
      exact drivePhase_sending h

end RoleAProtocol

section

variable {p : RoleAProtocol} {played segment trace : List Signal} {resolved : Option U8}
  {action : ProtocolAction}

theorem Underway.show (h : Underway p played resolved action segment)
    (hmore : p.phase.sending = true → p.pulses.isEmpty = false) :
    Underway p.emitOutput played resolved action
      (segment ++ [.shown p.pulses.tickTCycle.1]) := by
  have hquiet (hpulses : p.pulses = .new) : p.pulses.tickTCycle.2 = .new := by
    rw [hpulses]
    rfl
  cases h with
  | sendingAction hphase hresolved hemitting =>
      exact .sendingAction hphase hresolved (hemitting.show (hmore (by rw [hphase]; rfl)))
  | sendingBlock hphase hresolved hbytes hencode hemitting =>
      exact .sendingBlock hphase hresolved hbytes hencode
        (hemitting.show (hmore (by rw [hphase]; rfl)))
  | respondingToHello hphase hresolved hcall hemitting =>
      rw [List.append_assoc]
      exact .respondingToHello hphase hresolved hcall
        (hemitting.show (hmore (by rw [hphase]; rfl)))
  | sendingBlockAck hphase hblock haccept hemitting =>
      rw [List.append_assoc]
      exact .sendingBlockAck hphase hblock haccept
        (hemitting.show (hmore (by rw [hphase]; rfl)))
  | waitingHelloResponse hphase hresolved hpulses hsent hlistening =>
      rw [← heard_concat_shown _ p.pulses.tickTCycle.1] at hlistening
      rw [List.append_assoc]
      exact .waitingHelloResponse hphase hresolved (hquiet hpulses) hsent hlistening
  | waitingBlockAck hphase hresolved hpulses hbytes hencode hsent hlistening =>
      rw [← heard_concat_shown _ p.pulses.tickTCycle.1] at hlistening
      rw [List.append_assoc]
      exact .waitingBlockAck hphase hresolved (hquiet hpulses) hbytes hencode hsent hlistening
  | receivingHello hphase hresolved hpulses hlistening =>
      rw [← heard_concat_shown _ p.pulses.tickTCycle.1] at hlistening
      exact .receivingHello hphase hresolved (hquiet hpulses) hlistening
  | receivingBlock hphase hresolved hpulses hlistening =>
      rw [← heard_concat_shown _ p.pulses.tickTCycle.1] at hlistening
      exact .receivingBlock hphase hresolved (hquiet hpulses) hlistening

theorem Attempt.show (h : Attempt p trace)
    (hmore : p.phase.sending = true → p.pulses.isEmpty = false) :
    Attempt p.emitOutput (trace ++ [.shown p.pulses.tickTCycle.1]) := by
  cases h with
  | idle hphase hactions hpulses hresolved hcompleted =>
      refine .idle hphase hactions ?_ hresolved hcompleted
      show p.pulses.tickTCycle.2 = .new
      rw [hpulses]
      rfl
  | underway hplays hscript hactions hunderway htrace hcompleted =>
      rw [htrace, List.append_assoc]
      exact .underway hplays hscript hactions (hunderway.show hmore) rfl hcompleted
  | completed hphase hplays htrace =>
      rw [htrace, List.append_assoc]
      exact .completed hphase hplays rfl
  | failed hphase hcompleted => exact .failed hphase hcompleted

end

/-! ## Runs -/

/-- What an exchange is given: the light of a T-cycle, or another region or payload. -/
inductive ExchangeInput where
  | light (gameEmitterOn : Bool)
  | region (region : MysteryGiftRegion)
  | payload (payload : Vector U8 mysteryGiftPayloadLen)
  deriving Repr, DecidableEq

def RoleAProtocol.step (p : RoleAProtocol) : ExchangeInput → RoleAProtocol
  | .light gameEmitterOn => p.tickTCycle gameEmitterOn
  | .region region => p.setRegion region
  | .payload payload => p.setPayload payload

def RoleAProtocol.run (p : RoleAProtocol) (inputs : List ExchangeInput) : RoleAProtocol :=
  inputs.foldl step p

/-- The light since the last restart, the level at which that happened before it. -/
def traceStep (p : RoleAProtocol) (trace : List Signal) : ExchangeInput → List Signal
  | .light gameEmitterOn =>
      let p := ({ p with gameEmitterSeen := p.gameEmitterSeen || gameEmitterOn } :
        RoleAProtocol).observeGameEmitter gameEmitterOn
      (if p.restarts then [.heard p.previousGameEmitterOn]
        else trace ++ [.heard gameEmitterOn]) ++ [.shown p.driveProtocol.pulses.tickTCycle.1]
  | .region region => if p.region = region then trace else [.heard p.previousGameEmitterOn]
  | .payload payload => if p.payload = payload then trace else [.heard p.previousGameEmitterOn]

/-- The light since the last restart of a run, behind the light that there was before. -/
def exchangeTrace (p : RoleAProtocol) (trace : List Signal) : List ExchangeInput → List Signal
  | [] => trace
  | input :: inputs => exchangeTrace (p.step input) (traceStep p trace input) inputs

/-- The invariant of a run. -/
structure Playing (p : RoleAProtocol) (trace : List Signal) : Prop where
  attempt : Attempt p trace
  level : lastHeard trace = p.previousGameEmitterOn

section

variable {p : RoleAProtocol} {trace : List Signal}

theorem Playing.restart (p : RoleAProtocol) :
    Playing p.restartExchange [.heard p.previousGameEmitterOn] :=
  ⟨.idle rfl rfl rfl rfl rfl, rfl⟩

theorem RoleAProtocol.drive_level (p : RoleAProtocol) :
    p.driveProtocol.previousGameEmitterOn = p.previousGameEmitterOn := by
  have hfinish (p : RoleAProtocol) :
      p.finishSendingPhase.previousGameEmitterOn = p.previousGameEmitterOn := by
    unfold finishSendingPhase
    split
    · rfl
    · exact p.startNextAction_level
    · exact p.startNextAction_level
    · rfl
    · rfl
  have hphase (p : RoleAProtocol) :
      p.drivePhase.previousGameEmitterOn = p.previousGameEmitterOn := by
    unfold drivePhase
    split
    · exact p.startNextAction_level
    · split
      · exact hfinish p
      · rfl
  unfold driveProtocol
  split
  · split <;> rfl
  · split
    · exact hphase _
    · split
      · rfl
      · exact hphase p

theorem Attempt.seen (h : Attempt p trace) (seen : Bool) :
    Attempt { p with gameEmitterSeen := seen } trace := by
  cases h with
  | idle h₁ h₂ h₃ h₄ h₅ => exact .idle h₁ h₂ h₃ h₄ h₅
  | underway h₁ h₂ h₃ h₄ h₅ h₆ => exact .underway h₁ h₂ h₃ (h₄.frame _ seen) h₅ h₆
  | completed h₁ h₂ h₃ => exact .completed h₁ h₂ h₃
  | failed h₁ h₂ => exact .failed h₁ h₂

/-- One step of a run keeps the invariant. -/
theorem Playing.step (h : Playing p trace) (input : ExchangeInput) :
    Playing (p.step input) (traceStep p trace input) := by
  cases input with
  | light gameEmitterOn =>
      have hobserved := (h.attempt.seen (p.gameEmitterSeen || gameEmitterOn)).observe gameEmitterOn
      have hlevel := RoleAProtocol.observe_level
        { p with gameEmitterSeen := p.gameEmitterSeen || gameEmitterOn } gameEmitterOn
      unfold RoleAProtocol.step RoleAProtocol.tickTCycle traceStep
      dsimp only
      generalize RoleAProtocol.observeGameEmitter gameEmitterOn
        { p with gameEmitterSeen := p.gameEmitterSeen || gameEmitterOn } = observed
        at hobserved hlevel ⊢
      have hdriven := hobserved.drive (by rw [lastHeard_concat, hlevel])
      refine ⟨hdriven.show observed.drive_sending, ?_⟩
      rw [lastHeard_concat_shown]
      show _ = observed.driveProtocol.previousGameEmitterOn
      rw [observed.drive_level]
      split
      · rfl
      · rw [lastHeard_concat, hlevel]
  | region region =>
      unfold RoleAProtocol.step RoleAProtocol.setRegion traceStep
      dsimp only
      split
      · exact h
      · exact .restart { p with region }
  | payload payload =>
      unfold RoleAProtocol.step RoleAProtocol.setPayload traceStep
      dsimp only
      split
      · exact h
      · exact .restart { p with payload }

/-- A whole run keeps the invariant. -/
theorem Playing.run (h : Playing p trace) (inputs : List ExchangeInput) :
    Playing (p.run inputs) (exchangeTrace p trace inputs) := by
  induction inputs generalizing p trace with
  | nil => exact h
  | cons input inputs ih => exact ih (h.step input)

theorem Playing.new (region : MysteryGiftRegion) (payload : Vector U8 mysteryGiftPayloadLen) :
    Playing (.new region payload) [.heard false] := .restart _

/-- Where an exchange is reported complete, the light since the last restart has performed all
of the script in its order. -/
theorem Playing.played (h : Playing p trace) (hcompleted : p.completedExchange = true) :
    ∃ played rest resolved, trace = played ++ rest ∧
      Plays p.region p.payload scriptedActions played resolved := by
  cases h.attempt with
  | completed _ hplays htrace => exact ⟨_, _, _, htrace, hplays⟩
  | idle _ _ _ _ hnot | underway _ _ _ _ _ hnot | failed _ hnot =>
      rw [hnot] at hcompleted
      nomatch hcompleted

end

end MysteryGift

end GbCycle
