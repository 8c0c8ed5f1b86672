import GbCycle.MysteryGift.Pulses

/-!
# Receivers of infrared light

A receiver counts the T-cycles of a level and looks at the count when the level changes.  The
receiver of a message waits for a mark and a long space, takes a bit from each space after it
until it has all bytes, and is done with the next mark.  The receiver of a block takes a header,
a payload and a checksum, each a message.
-/

namespace GbCycle

namespace MysteryGift

def isShortMark (duration : Nat) : Bool :=
  irMessageBitMarkTCycles / 2 ≤ duration && duration ≤ irHelloMarkTCycles * 3

/-! ## The hello -/

structure HelloReceiver where
  previousSegmentTCycles : Nat
  shortPulsesSeen : Nat
  completed : Bool
  deriving Repr, DecidableEq

namespace HelloReceiver

def new : HelloReceiver := { previousSegmentTCycles := 0, shortPulsesSeen := 0, completed := false }

def tickSameLevel (r : HelloReceiver) : HelloReceiver :=
  { r with previousSegmentTCycles := saturatingAdd 32 r.previousSegmentTCycles 1 }

def observeTransition (completedLevel : Bool) (r : HelloReceiver) : HelloReceiver × Bool :=
  let duration := r.previousSegmentTCycles
  let r := { r with previousSegmentTCycles := 1 }
  let r :=
    if completedLevel && isShortMark duration then
      let shortPulsesSeen := saturatingAdd 8 r.shortPulsesSeen 1
      { r with shortPulsesSeen, completed := decide (2 ≤ shortPulsesSeen) }
    else r
  (r, r.completed)

end HelloReceiver

/-! ## A message -/

inductive DataMessageReceiverState where
  | waitingForPreambleMark
  | waitingForPreambleSpace
  | receivingBits
  | waitingForTrailerMark
  | done
  deriving Repr, DecidableEq

structure DataMessageReceiver where
  expectedLen : Nat
  state : DataMessageReceiverState
  previousSegmentTCycles : Nat
  bits : List U8
  bytes : List U8
  deriving Repr, DecidableEq

/-- The byte of some bits, the highest first. -/
def packByte (bits : List U8) : U8 := bits.foldl (fun byte bit => (byte <<< 1) ||| (bit &&& 0x01)) 0

namespace DataMessageReceiver

def new (expectedLen : Nat) : DataMessageReceiver where
  expectedLen
  state := .waitingForPreambleMark
  previousSegmentTCycles := 0
  bits := []
  bytes := []

def tickSameLevel (r : DataMessageReceiver) : DataMessageReceiver :=
  { r with previousSegmentTCycles := saturatingAdd 32 r.previousSegmentTCycles 1 }

def pushBit (bit : U8) (r : DataMessageReceiver) : DataMessageReceiver :=
  let bits := r.bits ++ [bit]
  { r with
    bits
    bytes :=
      if bits.length % 8 = 0 then r.bytes ++ [packByte (bits.drop (bits.length - 8))]
      else r.bytes }

def finish (r : DataMessageReceiver) : DataMessageReceiver :=
  if r.bytes.length = r.expectedLen then { r with state := .done } else r

def observeTransition (completedLevel : Bool) (r : DataMessageReceiver) :
    DataMessageReceiver × Bool :=
  let duration := r.previousSegmentTCycles
  let r := { r with previousSegmentTCycles := 1 }
  let r :=
    match r.state with
    | .waitingForPreambleMark =>
        if completedLevel && isShortMark duration then { r with state := .waitingForPreambleSpace }
        else r
    | .waitingForPreambleSpace =>
        if !completedLevel && irMinPreambleSpaceTCycles ≤ duration then
          { r with
            state := if r.expectedLen = 0 then .waitingForTrailerMark else .receivingBits }
        else r
    | .receivingBits =>
        if !completedLevel then
          let r := r.pushBit (if duration < irSpaceZeroOneThresholdTCycles then 0 else 1)
          if r.bits.length = r.expectedLen * 8 then { r with state := .waitingForTrailerMark }
          else r
        else r
    | .waitingForTrailerMark =>
        if completedLevel && isShortMark duration then r.finish else r
    | .done => r
  (r, decide (r.state = .done))

def intoResult (r : DataMessageReceiver) : Option (List U8) :=
  if r.state = .done then some r.bytes else none

end DataMessageReceiver

/-! ## A block -/

inductive DataBlockReceiver where
  | header (receiver : DataMessageReceiver)
  | payload (receiver : DataMessageReceiver) (checksum : U16)
  | checksum (receiver : DataMessageReceiver) (payload : List U8) (checksum : U16)
  | done (bytes : List U8)
  | failed
  deriving Repr, DecidableEq

namespace DataBlockReceiver

def new : DataBlockReceiver := .header (.new 2)

def tickSameLevel : DataBlockReceiver → DataBlockReceiver
  | .header receiver => .header receiver.tickSameLevel
  | .payload receiver sum => .payload receiver.tickSameLevel sum
  | .checksum receiver bytes sum => .checksum receiver.tickSameLevel bytes sum
  | .done bytes => .done bytes
  | .failed => .failed

/-- The next message of the block. -/
def advanceMessage : DataBlockReceiver → DataBlockReceiver
  | .header receiver =>
      match receiver.intoResult with
      | some [headerPrefix, len] =>
          if headerPrefix ≠ messagePrefix ∨ maxReceivedBlockLen < len.toNat then .failed
          else .payload (.new len.toNat) (U16.ofByte messagePrefix + U16.ofByte len)
      | _ => .failed
  | .payload receiver sum =>
      match receiver.intoResult with
      | some bytes =>
          .checksum (.new 2) bytes (bytes.foldl (fun sum byte => sum + U16.ofByte byte) sum)
      | none => .failed
  | .checksum receiver bytes sum =>
      match receiver.intoResult with
      | some [lo, hi] => if U16.ofBytes hi lo = sum then .done bytes else .failed
      | _ => .failed
  | .done bytes => .done bytes
  | .failed => .failed

def isFinished : DataBlockReceiver → Bool
  | .done _ | .failed => true
  | _ => false

def observeTransition (completedLevel : Bool) (r : DataBlockReceiver) : DataBlockReceiver × Bool :=
  let (r, messageCompleted) :=
    match r with
    | .header receiver =>
        let (receiver, messageCompleted) := receiver.observeTransition completedLevel
        (header receiver, messageCompleted)
    | .payload receiver sum =>
        let (receiver, messageCompleted) := receiver.observeTransition completedLevel
        (payload receiver sum, messageCompleted)
    | .checksum receiver bytes sum =>
        let (receiver, messageCompleted) := receiver.observeTransition completedLevel
        (checksum receiver bytes sum, messageCompleted)
    | .done bytes => (done bytes, false)
    | .failed => (failed, false)
  let r := if messageCompleted then r.advanceMessage else r
  (r, r.isFinished)

def intoResult : DataBlockReceiver → Option (List U8)
  | .done bytes => some bytes
  | _ => none

end DataBlockReceiver

/-! ## Listening -/

/-- What the receivers have in common. -/
class LightReceiver (ρ : Type) where
  tickSameLevel : ρ → ρ
  observeTransition : Bool → ρ → ρ × Bool
  intoResult : ρ → Option (List U8)

instance : LightReceiver DataMessageReceiver where
  tickSameLevel := DataMessageReceiver.tickSameLevel
  observeTransition := DataMessageReceiver.observeTransition
  intoResult := DataMessageReceiver.intoResult

instance : LightReceiver DataBlockReceiver where
  tickSameLevel := DataBlockReceiver.tickSameLevel
  observeTransition := DataBlockReceiver.observeTransition
  intoResult := DataBlockReceiver.intoResult

/-- A receiver that is driven by the light of some T-cycles, until it has completed. -/
def listen {ρ : Type} [LightReceiver ρ] (previous : Bool) : List Bool → ρ → ρ
  | [], r => r
  | level :: levels, r =>
      if level = previous then listen previous levels (LightReceiver.tickSameLevel r)
      else
        match LightReceiver.observeTransition previous r with
        | (r, true) => r
        | (r, false) => listen level levels r

/-- What a receiver has received once the light of some T-cycles has been seen, dark before. -/
def receive {ρ : Type} [LightReceiver ρ] (levels : List Bool) (r : ρ) : Option (List U8) :=
  LightReceiver.intoResult (listen false levels r)

end MysteryGift

end GbCycle
