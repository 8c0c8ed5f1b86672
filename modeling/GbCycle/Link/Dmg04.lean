import GbCycle.ExternalPort

/-!
# Two consoles on a DMG-04 cable

The cable acts twice in a shared T-cycle.  Before the machines take external events in, it
queues a clock pulse for a console that waits for one if the other's clock is about to fall;
before their peripherals tick, it stages for each the byte the other sends.  The rest of the
cycle each console does alone, and what its program does to the serial unit comes last.

Of a machine we keep what the cable reads and writes: the serial unit, the port and the
queue of pulses.  The speed, whether STOP holds the machine and what the program writes are
inputs of each cycle, so the theorems hold for every program.
-/

namespace GbCycle

/-! ## One console -/

structure Endpoint (π : Type) where
  serial : Serial
  externalPort : ExternalPort π
  externalSerialClockPulsesPending : U8
  deriving Repr, DecidableEq

structure Dmg04EndpointState where
  attached : Bool
  activeTransfer : Bool
  stagedOutgoingByte : U8
  waitingForExternalClock : Bool
  internalClockEdgePending : Bool
  deriving Repr, DecidableEq

/-- What the program can do to the serial unit in the CPU's phases. -/
inductive SerialWrite where
  | sb (value : U8)
  | sc (value : U8)
  | operatingMode (mode : OperatingMode)
  deriving Repr, DecidableEq

/-- The rest of one machine in one T-cycle.  `speed` and `stopActive` are what the machine
shows before its CPU's phases. -/
structure EndpointCycle where
  speed : CgbSpeedMode
  stopActive : Bool
  writes : List SerialWrite
  deriving Repr, DecidableEq

def SerialWrite.apply (w : SerialWrite) (s : Serial) : Serial :=
  match w with
  | .sb value => s.writeSb value
  | .sc value => s.writeSc value
  | .operatingMode mode => s.applyOperatingModeState mode

namespace Endpoint

variable {π : Type}

def dmg04EndpointState (e : Endpoint π) (c : EndpointCycle) : Dmg04EndpointState :=
  let attached := e.externalPort.attachmentKind == .gameLinkDmg04
  let activeTransfer := attached && e.serial.transferState.isRequested && !c.stopActive
  { attached := attached
    activeTransfer := activeTransfer
    stagedOutgoingByte := e.serial.endpointOutgoingByte
    waitingForExternalClock := activeTransfer && e.serial.clockMode == .external
    internalClockEdgePending := activeTransfer && e.serial.clockMode == .internal &&
      e.serial.internalClockEdgePendingThisTCycleForSpeed c.speed }

def queueExternalSerialClock (e : Endpoint π) : Endpoint π :=
  { e with externalSerialClockPulsesPending :=
      saturatingIncrement e.externalSerialClockPulsesPending }

/-- A pulse that reaches a stopped machine, or a unit that waits for none, is lost. -/
def stepExternalEventIngress (e : Endpoint π) (c : EndpointCycle) : Endpoint π :=
  if e.externalSerialClockPulsesPending = 0 then e
  else
    let e := { e with externalSerialClockPulsesPending :=
                 e.externalSerialClockPulsesPending - 1 }
    if c.stopActive then e else { e with serial := e.serial.queueExternalClockPulse.2 }

def applyWrites (e : Endpoint π) (writes : List SerialWrite) : Endpoint π :=
  { e with serial := writes.foldl (fun s w => w.apply s) e.serial }

variable [PrinterDevice π]

def syncSerialPeerFromExternalPort (e : Endpoint π) : Endpoint π :=
  { e with serial := e.serial.setPeer e.externalPort.serialPeer }

def setDmg04IncomingByte (e : Endpoint π) (incomingByte : Option U8) : Endpoint π :=
  { e with
    externalPort := e.externalPort.setDmg04IncomingByte incomingByte
    }.syncSerialPeerFromExternalPort

/-- The serial unit's share of the peripheral ticks, and the interrupt it queues. -/
def tickSerial (e : Endpoint π) (c : EndpointCycle) : Endpoint π × Option InterruptSource :=
  if c.stopActive then (e, none)
  else if e.externalPort.attachmentKind = .none ∧
      e.serial.externalWaitWithoutPendingClock = true then
    ({ e with serial := e.serial.tickExternalWaitTCycle }, none)
  else if e.serial.requiresFullTCycleTick || e.externalPort.requiresTCycleTick then
    let port := if e.externalPort.requiresTCycleTick then e.externalPort.tickTCycle
      else e.externalPort
    let ticked := e.serial.tickTCycleForSpeed c.speed
    let port := if port.handlesCompletedSerialByte then
        match ticked.1.latestCompletedOutputByte with
        | some byte => port.handleCompletedSerialByte byte
        | none => port
      else port
    let serial := if port.requiresSerialPeerRefreshAfterTCycle then
        ticked.1.setPeer port.serialPeer
      else ticked.1
    ({ e with serial := serial, externalPort := port }, ticked.2)
  else ({ e with serial := e.serial.tickIdleTCycle }, none)

end Endpoint

/-! ## The cable -/

inductive Side where
  | left
  | right
  deriving Repr, DecidableEq

def Side.other : Side → Side
  | .left => .right
  | .right => .left

@[simp] theorem Side.other_other (s : Side) : s.other.other = s := by cases s <;> rfl

/-- A value for each end of the cable. -/
structure Ends (α : Type) where
  left : α
  right : α
  deriving Repr, DecidableEq

def Ends.get {α : Type} (x : Ends α) : Side → α
  | .left => x.left
  | .right => x.right

structure Dmg04Exchange where
  leftIncomingByte : U8
  rightIncomingByte : U8
  deriving Repr, DecidableEq

def resolveDmg04Exchange (left right : Dmg04EndpointState) : Option Dmg04Exchange :=
  if left.internalClockEdgePending && right.waitingForExternalClock then
    some { leftIncomingByte := right.stagedOutgoingByte
           rightIncomingByte := left.stagedOutgoingByte }
  else if right.internalClockEdgePending && left.waitingForExternalClock then
    some { leftIncomingByte := right.stagedOutgoingByte
           rightIncomingByte := left.stagedOutgoingByte }
  else none

/-! ## The shared T-cycle -/

abbrev LinkedPair (π : Type) := Ends (Endpoint π)
abbrev PairCycle := Ends EndpointCycle

namespace LinkedPair

variable {π : Type}

def prepareExternalEventIngress (x : LinkedPair π) (c : PairCycle) : LinkedPair π :=
  let leftState := x.left.dmg04EndpointState c.left
  let rightState := x.right.dmg04EndpointState c.right
  { left :=
      if rightState.internalClockEdgePending && leftState.waitingForExternalClock then
        x.left.queueExternalSerialClock
      else x.left
    right :=
      if leftState.internalClockEdgePending && rightState.waitingForExternalClock then
        x.right.queueExternalSerialClock
      else x.right }

def externalEventIngress (x : LinkedPair π) (c : PairCycle) : LinkedPair π :=
  { left := x.left.stepExternalEventIngress c.left
    right := x.right.stepExternalEventIngress c.right }

variable [PrinterDevice π]

def prepareAutonomousPeripheralTicks (x : LinkedPair π) (c : PairCycle) : LinkedPair π :=
  match resolveDmg04Exchange (x.left.dmg04EndpointState c.left)
      (x.right.dmg04EndpointState c.right) with
  | some exchange =>
      { left := x.left.setDmg04IncomingByte (some exchange.leftIncomingByte)
        right := x.right.setDmg04IncomingByte (some exchange.rightIncomingByte) }
  | none =>
      { left := x.left.setDmg04IncomingByte none
        right := x.right.setDmg04IncomingByte none }

/-- Both machines as they enter the peripheral ticks of a cycle. -/
def prepared (x : LinkedPair π) (c : PairCycle) : LinkedPair π :=
  ((x.prepareExternalEventIngress c).externalEventIngress c).prepareAutonomousPeripheralTicks c

def advanceTCycle (x : LinkedPair π) (c : PairCycle) : LinkedPair π :=
  { left := ((x.prepared c).left.tickSerial c.left).1.applyWrites c.left.writes
    right := ((x.prepared c).right.tickSerial c.right).1.applyWrites c.right.writes }

/-- The interrupt the machine on that side queues in the cycle. -/
def interruptRequest (x : LinkedPair π) (c : PairCycle) (side : Side) :
    Option InterruptSource :=
  (((x.prepared c).get side).tickSerial (c.get side)).2

def run (x : LinkedPair π) : List PairCycle → LinkedPair π
  | [] => x
  | c :: cs => (x.advanceTCycle c).run cs

/-- `attach_dmg04_cable`: both ports get the cable, and its lines are open. -/
def attachDmg04Cable (x : LinkedPair π) : LinkedPair π :=
  let attach (e : Endpoint π) : Endpoint π :=
    { e with externalPort := { attachment := .gameLinkDmg04 none }
      }.syncSerialPeerFromExternalPort.setDmg04IncomingByte none
  { left := attach x.left, right := attach x.right }

theorem run_append (x : LinkedPair π) (cs ds : List PairCycle) :
    x.run (cs ++ ds) = (x.run cs).run ds := by
  induction cs generalizing x with
  | nil => rfl
  | cons c cs ih => exact ih (x.advanceTCycle c)

/-! ## What the cycle is for one side

A pulse queued in the ingress phase changes nothing the cable reads, so both of its actions
see the same pair of endpoint states, and each side's cycle is a function of its own state,
the pulse and the byte the cable hands it. -/

/-- The clock of that side is about to fall. -/
def clockEdge (x : LinkedPair π) (c : PairCycle) (side : Side) : Bool :=
  ((x.get side).dmg04EndpointState (c.get side)).internalClockEdgePending

def waiting (x : LinkedPair π) (c : PairCycle) (side : Side) : Bool :=
  ((x.get side).dmg04EndpointState (c.get side)).waitingForExternalClock

def clocked (x : LinkedPair π) (c : PairCycle) (side : Side) : Bool :=
  x.clockEdge c side.other && x.waiting c side

def incomingByte (x : LinkedPair π) (c : PairCycle) (side : Side) : Option U8 :=
  if x.clocked c side || x.clocked c side.other then
    some (x.get side.other).serial.endpointOutgoingByte
  else none

end LinkedPair

namespace Endpoint

variable {π : Type}

/-- A pulse in the ingress phase changes nothing the cable reads. -/
theorem dmg04EndpointState_ingress (e : Endpoint π) (c d : EndpointCycle) :
    (e.stepExternalEventIngress c).dmg04EndpointState d = e.dmg04EndpointState d := by
  unfold stepExternalEventIngress
  split
  · rfl
  · split
    · rfl
    · simp only [Serial.queueExternalClockPulse]
      split <;> rfl

/-- One endpoint up to its peripheral ticks. -/
def received [PrinterDevice π] (e : Endpoint π) (c : EndpointCycle) (pulse : Bool)
    (incoming : Option U8) : Endpoint π :=
  ((if pulse then e.queueExternalSerialClock else e).stepExternalEventIngress
    c).setDmg04IncomingByte incoming

end Endpoint

namespace LinkedPair

variable {π : Type} [PrinterDevice π]

theorem resolveDmg04Exchange_eq (left right : Dmg04EndpointState) :
    resolveDmg04Exchange left right =
      if (left.internalClockEdgePending && right.waitingForExternalClock) ||
          (right.internalClockEdgePending && left.waitingForExternalClock) then
        some { leftIncomingByte := right.stagedOutgoingByte
               rightIncomingByte := left.stagedOutgoingByte }
      else none := by
  unfold resolveDmg04Exchange
  cases left.internalClockEdgePending && right.waitingForExternalClock <;>
    cases right.internalClockEdgePending && left.waitingForExternalClock <;> rfl

theorem get_prepared (x : LinkedPair π) (c : PairCycle) (side : Side) :
    (x.prepared c).get side =
      (x.get side).received (c.get side) (x.clocked c side) (x.incomingByte c side) := by
  have hstate : ∀ (e : Endpoint π) (b : Bool) (d : EndpointCycle),
      ((if b then e.queueExternalSerialClock else e).stepExternalEventIngress
        d).dmg04EndpointState d = e.dmg04EndpointState d := by
    intro e b d
    rw [Endpoint.dmg04EndpointState_ingress]
    cases b <;> rfl
  simp only [prepared, prepareAutonomousPeripheralTicks, externalEventIngress,
    prepareExternalEventIngress, hstate, resolveDmg04Exchange_eq]
  rcases Bool.eq_false_or_eq_true ((x.left.dmg04EndpointState c.left).internalClockEdgePending &&
      (x.right.dmg04EndpointState c.right).waitingForExternalClock) with hl | hl <;>
    rcases Bool.eq_false_or_eq_true
      ((x.right.dmg04EndpointState c.right).internalClockEdgePending &&
        (x.left.dmg04EndpointState c.left).waitingForExternalClock) with hr | hr <;>
    cases side <;>
    simp only [Ends.get, Endpoint.received, incomingByte, clocked, clockEdge, waiting,
      Side.other, hl, hr] <;>
    rfl

theorem get_advanceTCycle (x : LinkedPair π) (c : PairCycle) (side : Side) :
    (x.advanceTCycle c).get side =
      (((x.prepared c).get side).tickSerial (c.get side)).1.applyWrites
        (c.get side).writes := by
  cases side <;> rfl

end LinkedPair

end GbCycle
