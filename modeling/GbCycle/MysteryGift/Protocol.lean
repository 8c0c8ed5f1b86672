import GbCycle.MysteryGift.Receivers

/-!
# The accessory's side of an exchange

The accessory plays a fixed script: it sends and receives hellos and blocks.  A hello that is
sent waits for an answer, a block for an acknowledgement; what is received is answered.  Each
T-cycle takes the light of the game, drives the phase, and emits the next level of the queue.
Where a phase that receives runs out of time, or gets what is not expected, the exchange has
failed and starts again after a delay.
-/

namespace GbCycle

namespace MysteryGift

def mysteryGiftPayloadLen : Nat := 20
def regionPrefix : U8 := 0x96
def ackOkay : U8 := 0x6C

def irHelloResponseTimeoutTCycles : Nat := 512 * fastInterruptTCycles
def irReceiveTimeoutTCycles : Nat := 4 * 4194304
def irRetryDelayTCycles : Nat := 512 * fastInterruptTCycles
def irCompletedRestartDelayTCycles : Nat := 4 * irRetryDelayTCycles

/-! ## The region of the game -/

def isSupportedWesternRegion (regionCode : U8) : Bool :=
  regionCode == 0x90 || regionCode == 0x96 || regionCode == 0x99 || regionCode == 0x9A ||
    regionCode == 0x9F

inductive MysteryGiftRegion where
  | auto
  | fixed (code : U8)
  deriving Repr, DecidableEq

namespace MysteryGiftRegion

def code : MysteryGiftRegion → Option U8
  | .auto => none
  | .fixed code => some code

def resolve (observedGameRegion : U8) : MysteryGiftRegion → Option U8
  | .auto => if isSupportedWesternRegion observedGameRegion then some observedGameRegion else none
  | .fixed code => some code

end MysteryGiftRegion

/-! ## The script -/

inductive BlockSource where
  | regionPrefix
  | resolvedRegionCode
  | payload
  | empty
  deriving Repr, DecidableEq

inductive ReceiveExpectation where
  | regionCode
  | regionPrefix
  | empty
  | gamePayload
  deriving Repr, DecidableEq

inductive ProtocolAction where
  | noop
  | sendHello
  | receiveHello
  | sendBlock (source : BlockSource)
  | receiveBlock (expectation : ReceiveExpectation)
  | finish
  deriving Repr, DecidableEq

def protocolActions : List ProtocolAction :=
  [.sendHello, .sendBlock .regionPrefix, .sendBlock .empty,
    .receiveHello, .receiveBlock .regionCode, .receiveBlock .empty,
    .sendHello, .sendBlock .payload, .sendBlock .empty,
    .receiveHello, .receiveBlock .regionPrefix, .receiveBlock .empty,
    .sendHello, .sendBlock .resolvedRegionCode, .sendBlock .empty,
    .receiveHello, .receiveBlock .gamePayload, .receiveBlock .empty,
    .sendHello, .sendBlock .empty, .finish]

/-! ## Phases -/

inductive ProtocolPhase where
  | idle
  | sendingAction
  | receivingHello (receiver : HelloReceiver) (next : ProtocolAction)
  | waitingHelloResponse (receiver : HelloReceiver)
  | respondingToHello
  | sendingBlock
  | waitingBlockAck (receiver : DataMessageReceiver)
  | receivingBlock (receiver : DataBlockReceiver) (expectation : ReceiveExpectation)
  | sendingBlockAck
  | completed
  | failed
  deriving Repr, DecidableEq

namespace ProtocolPhase

def tickSameLevel : ProtocolPhase → ProtocolPhase
  | .receivingHello receiver next => .receivingHello receiver.tickSameLevel next
  | .waitingHelloResponse receiver => .waitingHelloResponse receiver.tickSameLevel
  | .receivingBlock receiver expectation => .receivingBlock receiver.tickSameLevel expectation
  | .waitingBlockAck receiver => .waitingBlockAck receiver.tickSameLevel
  | phase => phase

def observeTransition (completedLevel : Bool) : ProtocolPhase → ProtocolPhase × Bool
  | .receivingHello receiver next =>
      let (receiver, finished) := receiver.observeTransition completedLevel
      (.receivingHello receiver next, finished)
  | .waitingHelloResponse receiver =>
      let (receiver, finished) := receiver.observeTransition completedLevel
      (.waitingHelloResponse receiver, finished)
  | .receivingBlock receiver expectation =>
      let (receiver, finished) := receiver.observeTransition completedLevel
      (.receivingBlock receiver expectation, finished)
  | .waitingBlockAck receiver =>
      let (receiver, finished) := receiver.observeTransition completedLevel
      (.waitingBlockAck receiver, finished)
  | phase => (phase, false)

def receiverWaiting : ProtocolPhase → Bool
  | .receivingHello _ _ | .waitingHelloResponse _ | .receivingBlock _ _ | .waitingBlockAck _ => true
  | _ => false

def sending : ProtocolPhase → Bool
  | .sendingAction | .respondingToHello | .sendingBlock | .sendingBlockAck => true
  | _ => false

end ProtocolPhase

/-! ## The protocol -/

structure RoleAProtocol where
  region : MysteryGiftRegion
  resolvedRegionCode : Option U8
  payload : Vector U8 mysteryGiftPayloadLen
  actions : List ProtocolAction
  phase : ProtocolPhase
  pulses : PulseQueue
  outputActive : Bool
  previousGameEmitterOn : Bool
  waitTCycles : Nat
  retryDelayTCycles : Nat
  gameEmitterSeen : Bool
  completedExchange : Bool
  failedExchange : Bool
  deriving Repr, DecidableEq

def BlockSource.bytes (resolvedRegionCode : Option U8) (payload : Vector U8 mysteryGiftPayloadLen) :
    BlockSource → Option (List U8)
  | .regionPrefix => some [MysteryGift.regionPrefix]
  | .resolvedRegionCode => resolvedRegionCode.map fun code => [code]
  | .payload => some payload.toList
  | .empty => some []

/-- The region code that is resolved once some bytes have been received; `None` where they are
not what is expected. -/
def ReceiveExpectation.accept (region : MysteryGiftRegion) (resolvedRegionCode : Option U8)
    (bytes : List U8) : ReceiveExpectation → Option (Option U8)
  | .regionCode =>
      match bytes with
      | [code] => (region.resolve code).map some
      | _ => none
  | .regionPrefix => if bytes = [MysteryGift.regionPrefix] then some resolvedRegionCode else none
  | .empty => if bytes = [] then some resolvedRegionCode else none
  | .gamePayload => if bytes ≠ [] then some resolvedRegionCode else none

namespace RoleAProtocol

def restartExchange (p : RoleAProtocol) : RoleAProtocol :=
  { p with
    resolvedRegionCode := p.region.code
    actions := protocolActions
    phase := .idle
    pulses := .new
    outputActive := false
    waitTCycles := 0
    retryDelayTCycles := 0
    gameEmitterSeen := false
    completedExchange := false
    failedExchange := false }

def new (region : MysteryGiftRegion) (payload : Vector U8 mysteryGiftPayloadLen) : RoleAProtocol :=
  restartExchange
    { region
      resolvedRegionCode := region.code
      payload
      actions := []
      phase := .idle
      pulses := .new
      outputActive := false
      previousGameEmitterOn := false
      waitTCycles := 0
      retryDelayTCycles := 0
      gameEmitterSeen := false
      completedExchange := false
      failedExchange := false }

def setRegion (region : MysteryGiftRegion) (p : RoleAProtocol) : RoleAProtocol :=
  if p.region = region then p else restartExchange { p with region }

def setPayload (payload : Vector U8 mysteryGiftPayloadLen) (p : RoleAProtocol) : RoleAProtocol :=
  if p.payload = payload then p else restartExchange { p with payload }

def failAndRetry (p : RoleAProtocol) : RoleAProtocol :=
  { p with
    phase := .failed
    pulses := .new
    outputActive := false
    waitTCycles := 0
    retryDelayTCycles := irRetryDelayTCycles
    failedExchange := true }

/-- What an action starts; `Noop` is passed over before. -/
def startAction (p : RoleAProtocol) : ProtocolAction → RoleAProtocol
  | .noop => p
  | .sendHello => { p with pulses := encodeHello p.pulses, phase := .sendingAction }
  | .receiveHello =>
      { p with phase := .receivingHello .new .noop, waitTCycles := irReceiveTimeoutTCycles }
  | .sendBlock source =>
      match source.bytes p.resolvedRegionCode p.payload with
      | none => p.failAndRetry
      | some bytes =>
          match encodeDataBlock bytes p.pulses with
          | some pulses => { p with pulses, phase := .sendingBlock }
          -- A block of 256 bytes or more, which no source has.
          | none => p
  | .receiveBlock expectation =>
      { p with
        phase := .receivingBlock .new expectation
        waitTCycles := irReceiveTimeoutTCycles }
  | .finish =>
      { p with
        completedExchange := true
        phase := .completed
        retryDelayTCycles := irCompletedRestartDelayTCycles }

/-- The next action of a list, and those that are left. -/
def nextAction : List ProtocolAction → ProtocolAction × List ProtocolAction
  | [] => (.finish, [])
  | .noop :: actions => nextAction actions
  | action :: actions => (action, actions)

def startNextAction (p : RoleAProtocol) : RoleAProtocol :=
  let (action, actions) := nextAction p.actions
  startAction { p with waitTCycles := 0, actions } action

def finishReceiverPhase (p : RoleAProtocol) : RoleAProtocol :=
  match p.phase with
  | .receivingHello _ next =>
      { p with
        pulses := encodeHello p.pulses
        phase := .respondingToHello
        actions := next :: p.actions }
  | .waitingHelloResponse _ => startNextAction p
  | .receivingBlock receiver expectation =>
      match receiver.intoResult with
      | some bytes =>
          match expectation.accept p.region p.resolvedRegionCode bytes with
          | some resolvedRegionCode =>
              { p with
                resolvedRegionCode
                pulses := encodeBlockAck ackOkay p.pulses
                phase := .sendingBlockAck }
          | none => p.failAndRetry
      | none => p.failAndRetry
  | .waitingBlockAck receiver =>
      if receiver.intoResult = some [ackOkay] then startNextAction p else p.failAndRetry
  | _ => { p with phase := .idle }

def finishSendingPhase (p : RoleAProtocol) : RoleAProtocol :=
  match p.phase with
  | .sendingAction =>
      { p with
        phase := .waitingHelloResponse .new
        waitTCycles := irHelloResponseTimeoutTCycles }
  | .respondingToHello | .sendingBlockAck => startNextAction p
  | .sendingBlock =>
      { p with phase := .waitingBlockAck (.new 1), waitTCycles := irReceiveTimeoutTCycles }
  | _ => { p with phase := .idle }

/-! ## One T-cycle -/

def observeGameEmitter (gameEmitterOn : Bool) (p : RoleAProtocol) : RoleAProtocol :=
  if p.previousGameEmitterOn = gameEmitterOn then { p with phase := p.phase.tickSameLevel }
  else
    let (phase, completed) := p.phase.observeTransition p.previousGameEmitterOn
    let p := { p with phase, previousGameEmitterOn := gameEmitterOn }
    if completed then p.finishReceiverPhase else p

/-- A phase that is not over by time. -/
def drivePhase (p : RoleAProtocol) : RoleAProtocol :=
  if p.phase = .idle then p.startNextAction
  else if p.phase.sending && p.pulses.isEmpty then p.finishSendingPhase
  else p

def driveProtocol (p : RoleAProtocol) : RoleAProtocol :=
  if p.phase = .completed ∨ p.phase = .failed then
    if p.retryDelayTCycles = 0 then p.restartExchange
    else { p with retryDelayTCycles := p.retryDelayTCycles - 1 }
  else if p.waitTCycles ≠ 0 then drivePhase { p with waitTCycles := p.waitTCycles - 1 }
  else if p.phase.receiverWaiting then p.failAndRetry
  else p.drivePhase

def emitOutput (p : RoleAProtocol) : RoleAProtocol :=
  { p with pulses := p.pulses.tickTCycle.2, outputActive := p.pulses.tickTCycle.1 }

def tickTCycle (gameEmitterOn : Bool) (p : RoleAProtocol) : RoleAProtocol :=
  let p := { p with gameEmitterSeen := p.gameEmitterSeen || gameEmitterOn }
  ((p.observeGameEmitter gameEmitterOn).driveProtocol).emitOutput

end RoleAProtocol

end MysteryGift

end GbCycle
