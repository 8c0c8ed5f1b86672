import GbCycle.ExternalPort
import Mathlib.Logic.Function.Basic

/-!
# The DMG-07 four-player adapter

The adapter is the clock of every console on it.  It sends packets of bytes and takes the
byte each console sends back: ping packets while the players sign on, then, once the first
player asks for it, transmission packets that hand every console what all of them sent in
the packet before.

`Dmg07Protocol` is what a completed byte does to the adapter, `Dmg07ByteEngine` says in which
T-cycles the bits are clocked, and `Dmg07Adapter.advanceTCycle` puts both into a shared
T-cycle.  What the consoles do is an input of the cycle.  An index out of the range of the
transmission buffer stops the source; here it is `none`.
-/

namespace GbCycle

namespace Dmg07Port

def all : List Dmg07Port := [.p1, .p2, .p3, .p4]

def index : Dmg07Port → Nat
  | .p1 => 0
  | .p2 => 1
  | .p3 => 2
  | .p4 => 3

def idByte (port : Dmg07Port) : U8 := BitVec.ofNat 8 (port.index + 1)

def connectionBit (port : Dmg07Port) : U8 := 0x10 <<< port.index

theorem index_lt (port : Dmg07Port) : port.index < 4 := by cases port <;> decide

theorem index_inj {port port' : Dmg07Port} (h : port.index = port'.index) : port = port' := by
  cases port <;> cases port' <;> first | rfl | cases h

end Dmg07Port

/-! ## Constants -/

def dmg07PingHeader : U8 := 0xFE
def dmg07Ack : U8 := 0x88
def dmg07TransmissionMarker : U8 := 0xAA
def dmg07TransmissionIndicator : U8 := 0xCC
def dmg07RestartMarker : U8 := 0xFF
def dmg07RestartIndicator : U8 := 0xFF
def dmg07PingPacketBytes : Nat := 4
def dmg07IndicatorBytes : Nat := 4
def dmg07InitialByteDelayTCycles : Nat := 4096
def dmg07SerialBitPeriodTCycles : Nat := 67
def dmg07PingInterByteDelayTCycles : Nat := 5956
def dmg07PingBaseInterPacketDelayTCycles : Nat := 51548
def dmg07RateLowNibbleStepDelayTCycles : Nat := 4194
def dmg07TransmissionBaseInterByteDelayTCycles : Nat := 3720
def dmg07TransmissionRateStepDelayTCycles : Nat := 445
def dmg07TransmissionBasePacketPeriodTCycles : Nat := 71303

/-! ## The transmission buffer -/

def packetLenForSize (size : Nat) : Nat := size * 4

def ringLenForSize (size : Nat) : Nat := packetLenForSize size * 2

/-- Two packets: one is sent while the other one is filled.  A slot holds what one port sent
in one packet. -/
structure Dmg07TransmissionBuffer where
  slots : Fin 8 → Fin 4 → U8
  position : Nat

namespace Dmg07TransmissionBuffer

def new : Dmg07TransmissionBuffer := { slots := fun _ _ => 0, position := 0 }

def reset (_ : Dmg07TransmissionBuffer) : Dmg07TransmissionBuffer := new

def slot? (b : Dmg07TransmissionBuffer) (slot offset : Nat) : Option U8 :=
  if h : slot < 8 ∧ offset < 4 then some (b.slots ⟨slot, h.1⟩ ⟨offset, h.2⟩) else none

def setSlot? (b : Dmg07TransmissionBuffer) (slot offset : Nat) (value : U8) :
    Option Dmg07TransmissionBuffer :=
  if slot < 8 ∧ offset < 4 then
    some { b with slots := fun i j =>
      if i.val = slot ∧ j.val = offset then value else b.slots i j }
  else none

def packetPosition (b : Dmg07TransmissionBuffer) (size : Nat) : Nat :=
  b.position % packetLenForSize size

def ringPosition (b : Dmg07TransmissionBuffer) (size : Nat) : Nat :=
  b.position % ringLenForSize size

/-- A remainder by zero stops the source too. -/
def currentByte (b : Dmg07TransmissionBuffer) (size : Nat) : Option U8 :=
  if size = 0 then none
  else b.slot? (b.ringPosition size / size) (b.ringPosition size % size)

def captureCurrentByte (b : Dmg07TransmissionBuffer) (size : Nat) (connected : Dmg07Port → Bool)
    (outgoingByPort : Dmg07Port → Option U8) : Option Dmg07TransmissionBuffer :=
  if size = 0 then none
  else if b.packetPosition size = 0 ∨ size < b.packetPosition size then some b
  else
    let targetPosition := (b.position - 1 + packetLenForSize size) % ringLenForSize size
    let targetSlotBase := targetPosition / size
    let targetOffset := targetPosition % size
    Dmg07Port.all.foldlM (fun b port =>
      b.setSlot? (targetSlotBase + port.index) targetOffset
        (if connected port then (outgoingByPort port).getD 0 else 0)) b

def advance (b : Dmg07TransmissionBuffer) (size : Nat) : Dmg07TransmissionBuffer :=
  { b with position := (b.position + 1) % ringLenForSize size }

end Dmg07TransmissionBuffer

/-! ## The protocol -/

inductive Dmg07ProtocolPhase where
  | ping (byteIndex : Nat)
  | transmissionIndicator (byteIndex : Nat)
  | transmission (byteIndex : Nat)
  | pingRestartIndicator (byteIndex : Nat)
  deriving Repr, DecidableEq

structure Dmg07Protocol where
  phase : Dmg07ProtocolPhase
  connected : Dmg07Port → Bool
  pingResponseIndex : Dmg07Port → Nat
  rate : U8
  size : Nat
  transitionMarkerCount : Nat
  restartMarkerCount : Nat
  transmissionRestartRequested : Bool
  transmissionBuffer : Dmg07TransmissionBuffer
  delayAfterCompletedByteTCycles : Nat

/-- `u8::saturating_add(1)` on a count. -/
def saturatingCount (n : Nat) : Nat := min (n + 1) 255

namespace Dmg07Protocol

def new : Dmg07Protocol :=
  { phase := .ping 0
    connected := fun _ => false
    pingResponseIndex := fun _ => 0
    rate := 0
    size := 1
    transitionMarkerCount := 0
    restartMarkerCount := 0
    transmissionRestartRequested := false
    transmissionBuffer := .new
    delayAfterCompletedByteTCycles := dmg07PingInterByteDelayTCycles }

def packetLen (p : Dmg07Protocol) : Nat := packetLenForSize p.size

def statusByteFor (p : Dmg07Protocol) (port : Dmg07Port) : U8 :=
  Dmg07Port.all.foldl (fun status candidate =>
    if p.connected candidate then status ||| candidate.connectionBit else status) port.idByte

/-- The byte the adapter sends to a port. -/
def incomingByteFor (p : Dmg07Protocol) (port : Dmg07Port) : Option U8 :=
  match p.phase with
  | .ping 0 => some dmg07PingHeader
  | .ping _ => some (p.statusByteFor port)
  | .transmissionIndicator _ => some dmg07TransmissionIndicator
  | .transmission _ => p.transmissionBuffer.currentByte p.size
  | .pingRestartIndicator _ => some dmg07RestartIndicator

/-! ### The delays after a byte -/

def pingInterPacketDelayTCycles (p : Dmg07Protocol) : Nat :=
  dmg07PingBaseInterPacketDelayTCycles +
    (p.rate &&& 0x0F).toNat * dmg07RateLowNibbleStepDelayTCycles

def transmissionInterByteDelayTCycles (p : Dmg07Protocol) : Nat :=
  dmg07TransmissionBaseInterByteDelayTCycles +
    (p.rate >>> 4).toNat * dmg07TransmissionRateStepDelayTCycles

def minimumPacketPeriodTCycles (p : Dmg07Protocol) : Nat :=
  dmg07TransmissionBasePacketPeriodTCycles +
    (p.rate &&& 0x0F).toNat * dmg07RateLowNibbleStepDelayTCycles

def byteTransferSpanTCycles : Nat := 7 * dmg07SerialBitPeriodTCycles

def transmissionPacketBoundaryDelayTCycles (p : Dmg07Protocol) : Nat :=
  let elapsedBeforeBoundaryDelay := p.packetLen * byteTransferSpanTCycles +
    (p.packetLen - 1) * p.transmissionInterByteDelayTCycles
  max p.transmissionInterByteDelayTCycles
    (p.minimumPacketPeriodTCycles - elapsedBeforeBoundaryDelay)

def delayAfterCompletedPhaseTCycles (p : Dmg07Protocol) (completedPhase : Dmg07ProtocolPhase) :
    Nat :=
  match completedPhase with
  | .ping byteIndex =>
      if byteIndex + 1 = dmg07PingPacketBytes then p.pingInterPacketDelayTCycles
      else dmg07PingInterByteDelayTCycles
  | .transmissionIndicator _ | .pingRestartIndicator _ => p.transmissionInterByteDelayTCycles
  | .transmission byteIndex =>
      if byteIndex + 1 = p.packetLen then p.transmissionPacketBoundaryDelayTCycles
      else p.transmissionInterByteDelayTCycles

/-! ### The ping phase -/

/-- One port's share of a completed ping byte. -/
def consumePingResponse (p : Dmg07Protocol) (outgoingByPort : Dmg07Port → Option U8)
    (port : Dmg07Port) : Dmg07Protocol :=
  let outgoing := outgoingByPort port
  let setIndex (p : Dmg07Protocol) (n : Nat) : Dmg07Protocol :=
    { p with pingResponseIndex := Function.update p.pingResponseIndex port n }
  let setConnected (p : Dmg07Protocol) (c : Bool) : Dmg07Protocol :=
    { p with connected := Function.update p.connected port c }
  match p.pingResponseIndex port with
  | 0 => if outgoing = some dmg07Ack then setIndex p 1 else setConnected p false
  | 1 =>
      if outgoing = some dmg07Ack then setIndex (setConnected p true) 2
      else setIndex (setConnected p false) 0
  | 2 =>
      let p := match port, outgoing with
        | .p1, some rate => { p with rate := rate }
        | _, _ => p
      setIndex p 3
  | 3 =>
      let p := match port, outgoing with
        | .p1, some size =>
            if 1 ≤ size.toNat ∧ size.toNat ≤ 4 then { p with size := size.toNat } else p
        | _, _ => p
      setIndex p 0
  | _ => setIndex p 0

def consumePingResponseByte (p : Dmg07Protocol) (outgoingByPort : Dmg07Port → Option U8) :
    Dmg07Protocol :=
  Dmg07Port.all.foldl (fun p port => p.consumePingResponse outgoingByPort port) p

def trackPingTransitionMarker (p : Dmg07Protocol) (p1Outgoing : Option U8) : Dmg07Protocol :=
  if p1Outgoing = some dmg07TransmissionMarker then
    { p with transitionMarkerCount := saturatingCount p.transitionMarkerCount }
  else if p.transitionMarkerCount < 3 then { p with transitionMarkerCount := 0 }
  else p

def completePingByte (p : Dmg07Protocol) (byteIndex : Nat)
    (outgoingByPort : Dmg07Port → Option U8) : Dmg07Protocol :=
  let p1Outgoing := outgoingByPort .p1
  let p :=
    if 0 < p.transitionMarkerCount ∨
        (p.pingResponseIndex .p1 = 0 ∧ p1Outgoing = some dmg07TransmissionMarker) then
      p.trackPingTransitionMarker p1Outgoing
    else p.consumePingResponseByte outgoingByPort
  if byteIndex + 1 = dmg07PingPacketBytes then
    if 3 ≤ p.transitionMarkerCount then
      { p with phase := .transmissionIndicator 0, transitionMarkerCount := 0 }
    else { p with transitionMarkerCount := 0, phase := .ping 0 }
  else { p with phase := .ping (byteIndex + 1) }

/-! ### The transmission phase -/

def completeTransmissionIndicatorByte (p : Dmg07Protocol) (byteIndex : Nat) : Dmg07Protocol :=
  if byteIndex + 1 = dmg07IndicatorBytes then
    { p with phase := .transmission 0, transmissionBuffer := p.transmissionBuffer.reset }
  else { p with phase := .transmissionIndicator (byteIndex + 1) }

def trackRestartMarker (p : Dmg07Protocol) (byteIndex : Nat) (p1Outgoing : Option U8) :
    Dmg07Protocol :=
  let p := if byteIndex = 0 then { p with restartMarkerCount := 0 } else p
  if p1Outgoing = some dmg07RestartMarker then
    let p := { p with restartMarkerCount := saturatingCount p.restartMarkerCount }
    if 3 ≤ p.restartMarkerCount then { p with transmissionRestartRequested := true } else p
  else if p.restartMarkerCount < 3 then { p with restartMarkerCount := 0 }
  else p

def completeTransmissionByte (p : Dmg07Protocol) (byteIndex : Nat)
    (outgoingByPort : Dmg07Port → Option U8) : Option Dmg07Protocol :=
  match p.transmissionBuffer.captureCurrentByte p.size p.connected outgoingByPort with
  | none => none
  | some buffer =>
      let p := { p with transmissionBuffer := buffer }.trackRestartMarker byteIndex
        (outgoingByPort .p1)
      let p := { p with transmissionBuffer := p.transmissionBuffer.advance p.size }
      some (
        if byteIndex + 1 = packetLenForSize p.size then
          if p.transmissionRestartRequested then
            { p with phase := .pingRestartIndicator 0, transmissionRestartRequested := false,
                     restartMarkerCount := 0 }
          else { p with restartMarkerCount := 0, phase := .transmission 0 }
        else { p with phase := .transmission (byteIndex + 1) })

def completePingRestartIndicatorByte (p : Dmg07Protocol) (byteIndex : Nat) : Dmg07Protocol :=
  if byteIndex + 1 = dmg07IndicatorBytes then
    { p with phase := .ping 0, connected := fun _ => false, pingResponseIndex := fun _ => 0 }
  else { p with phase := .pingRestartIndicator (byteIndex + 1) }

/-! ### A completed byte -/

/-- The state after the byte, before the delay to the next one is set. -/
def completePhaseByte (p : Dmg07Protocol) (outgoingByPort : Dmg07Port → Option U8) :
    Option Dmg07Protocol :=
  match p.phase with
  | .ping byteIndex => some (p.completePingByte byteIndex outgoingByPort)
  | .transmissionIndicator byteIndex => some (p.completeTransmissionIndicatorByte byteIndex)
  | .transmission byteIndex => p.completeTransmissionByte byteIndex outgoingByPort
  | .pingRestartIndicator byteIndex => some (p.completePingRestartIndicatorByte byteIndex)

def completeByte (p : Dmg07Protocol) (outgoingByPort : Dmg07Port → Option U8) :
    Option Dmg07Protocol :=
  (p.completePhaseByte outgoingByPort).map fun q =>
    { q with delayAfterCompletedByteTCycles := q.delayAfterCompletedPhaseTCycles p.phase }

end Dmg07Protocol

/-! ## The clock -/

structure Dmg07ByteEngine where
  nextBitTCycle : Nat
  queuedBitsForByte : Nat
  byteCompletionPending : Bool
  deriving Repr, DecidableEq

namespace Dmg07ByteEngine

def new : Dmg07ByteEngine :=
  { nextBitTCycle := dmg07InitialByteDelayTCycles, queuedBitsForByte := 0,
    byteCompletionPending := false }

def shouldQueueBit (e : Dmg07ByteEngine) (tCycle : Nat) : Bool :=
  !e.byteCompletionPending && decide (e.nextBitTCycle ≤ tCycle)

def recordQueuedBit (e : Dmg07ByteEngine) (tCycle : Nat) : Dmg07ByteEngine :=
  let e := { e with queuedBitsForByte := e.queuedBitsForByte + 1 }
  if e.queuedBitsForByte = 8 then { e with byteCompletionPending := true }
  else { e with nextBitTCycle := tCycle + dmg07SerialBitPeriodTCycles }

def scheduleNextByte (e : Dmg07ByteEngine) (tCycle delayTCycles : Nat) : Dmg07ByteEngine :=
  { e with queuedBitsForByte := 0, nextBitTCycle := tCycle + max delayTCycles 1 }

end Dmg07ByteEngine

/-! ## The adapter -/

/-- `attached` says which ports have a machine. -/
structure Dmg07Adapter where
  attached : Dmg07Port → Bool
  protocol : Dmg07Protocol
  byteEngine : Dmg07ByteEngine
  clockedPortsForByte : Dmg07Port → Bool

/-- What the adapter sees of the consoles in one T-cycle: which wait for a clock before the
cycle, and which byte each has completed after its peripherals ticked. -/
structure Dmg07Cycle where
  waitingForExternalClock : Dmg07Port → Bool
  latestCompletedOutputByte : Dmg07Port → Option U8

namespace Dmg07Adapter

def new (attached : Dmg07Port → Bool) : Dmg07Adapter :=
  { attached := attached, protocol := .new, byteEngine := .new,
    clockedPortsForByte := fun _ => false }

def clocks (a : Dmg07Adapter) (c : Dmg07Cycle) (port : Dmg07Port) : Bool :=
  a.attached port && c.waitingForExternalClock port

/-- The bytes handed out with the clock pulses of the cycle, and the adapter after it. -/
def preparePhase (a : Dmg07Adapter) (tCycle : Nat) (c : Dmg07Cycle) :
    Option ((Dmg07Port → Option U8) × Dmg07Adapter) :=
  if a.byteEngine.shouldQueueBit tCycle then
    if ∀ port ∈ Dmg07Port.all, a.attached port = true →
        (a.protocol.incomingByteFor port).isSome = true then
      some (fun port => if a.clocks c port then a.protocol.incomingByteFor port else none,
        { a with
          clockedPortsForByte := fun port => a.clockedPortsForByte port || a.clocks c port
          byteEngine := a.byteEngine.recordQueuedBit tCycle })
    else none
  else some (fun _ => none, a)

def outgoingByPort (a : Dmg07Adapter) (c : Dmg07Cycle) (port : Dmg07Port) : Option U8 :=
  if a.attached port && a.clockedPortsForByte port then c.latestCompletedOutputByte port
  else none

def finishPhase (a : Dmg07Adapter) (tCycle : Nat) (c : Dmg07Cycle) : Option Dmg07Adapter :=
  if a.byteEngine.byteCompletionPending then
    match a.protocol.completeByte (a.outgoingByPort c) with
    | none => none
    | some protocol => some
        { a with
          protocol := protocol
          clockedPortsForByte := fun _ => false
          byteEngine := { a.byteEngine with byteCompletionPending := false }.scheduleNextByte
            tCycle protocol.delayAfterCompletedByteTCycles }
  else some a

def advanceTCycle (a : Dmg07Adapter) (tCycle : Nat) (c : Dmg07Cycle) : Option Dmg07Adapter :=
  match a.preparePhase tCycle c with
  | none => none
  | some (_, a) => a.finishPhase tCycle c

/-- The bytes the adapter hands out in the cycle. -/
def handedOut (a : Dmg07Adapter) (tCycle : Nat) (c : Dmg07Cycle) : Dmg07Port → Option U8 :=
  match a.preparePhase tCycle c with
  | none => fun _ => none
  | some (handed, _) => handed

/-- `n` cycles from T-cycle `t` on; `env` is what the consoles do. -/
def run (env : Nat → Dmg07Cycle) (a : Dmg07Adapter) (t : Nat) : Nat → Option Dmg07Adapter
  | 0 => some a
  | n + 1 => (run env a t n).bind fun a => a.advanceTCycle (t + n) (env (t + n))

end Dmg07Adapter

end GbCycle
