import GbCycle.Word

/-!
# Pulses of infrared light

What the accessory sends is a queue of pulses, light or dark for a number of T-cycles; pulses of
one level that follow each other are merged.  A message is framed by a long space before and
after it, and its bits are short marks with a short or a long space behind them, the highest bit
of a byte first.
-/

namespace GbCycle

namespace MysteryGift

def messagePrefix : U8 := 0x5A
def maxReceivedBlockLen : Nat := 80

def fastInterruptTCycles : Nat := 128
def irHelloMarkTCycles : Nat := 4 * fastInterruptTCycles
def irHelloLongSpaceTCycles : Nat := 60 * fastInterruptTCycles
def irHelloMidSpaceTCycles : Nat := 20 * fastInterruptTCycles
def irHelloShortSpaceTCycles : Nat := 4 * fastInterruptTCycles
def irMessagePreambleMarkTCycles : Nat := 4 * fastInterruptTCycles
def irMessagePreambleSpaceTCycles : Nat := 20 * fastInterruptTCycles
def irMessageBitMarkTCycles : Nat := 2 * fastInterruptTCycles
def irMessageZeroSpaceTCycles : Nat := 4 * fastInterruptTCycles
def irMessageOneSpaceTCycles : Nat := 10 * fastInterruptTCycles
def irMessageTrailerMarkTCycles : Nat := 4 * fastInterruptTCycles
def irMessageTrailerSpaceTCycles : Nat := 16 * fastInterruptTCycles
def irBlockLeadSpaceTCycles : Nat := irHelloLongSpaceTCycles
def irSpaceZeroOneThresholdTCycles : Nat := 9 * fastInterruptTCycles
def irMinPreambleSpaceTCycles : Nat := 12 * fastInterruptTCycles

/-! ## The queue -/

structure Pulse where
  level : Bool
  remainingTCycles : Nat
  deriving Repr, DecidableEq

structure PulseQueue where
  pulses : List Pulse
  deriving Repr, DecidableEq

namespace PulseQueue

def new : PulseQueue := { pulses := [] }

def isEmpty (q : PulseQueue) : Bool := q.pulses.isEmpty

def push (level : Bool) (tCycles : Nat) (q : PulseQueue) : PulseQueue :=
  if tCycles = 0 then q
  else
    match q.pulses.getLast? with
    | some back =>
        if back.level = level then
          { pulses := q.pulses.dropLast ++
              [{ back with
                  remainingTCycles := saturatingAdd 32 back.remainingTCycles tCycles }] }
        else { pulses := q.pulses ++ [{ level, remainingTCycles := tCycles }] }
    | none => { pulses := [{ level, remainingTCycles := tCycles }] }

/-- The level of a T-cycle; dark where nothing is queued. -/
def tickTCycle (q : PulseQueue) : Bool × PulseQueue :=
  match q.pulses with
  | [] => (false, q)
  | front :: rest =>
      let remainingTCycles := front.remainingTCycles - 1
      (front.level,
        { pulses := if remainingTCycles = 0 then rest else { front with remainingTCycles } :: rest })

end PulseQueue

/-! ## Encoders -/

def encodeHello (q : PulseQueue) : PulseQueue :=
  ((((q.push false irHelloLongSpaceTCycles).push true irHelloMarkTCycles).push false
    irHelloMidSpaceTCycles).push true irHelloMarkTCycles).push false irHelloShortSpaceTCycles

/-- The bit of a byte at an index, as a byte. -/
def bitAt (byte : U8) (bitIndex : Nat) : U8 := (byte >>> bitIndex) &&& 0x01

def encodeBit (byte : U8) (q : PulseQueue) (bitIndex : Nat) : PulseQueue :=
  let space :=
    if bitAt byte bitIndex = 0 then irMessageZeroSpaceTCycles else irMessageOneSpaceTCycles
  (q.push true irMessageBitMarkTCycles).push false space

def encodeByte (q : PulseQueue) (byte : U8) : PulseQueue :=
  (List.range 8).reverse.foldl (encodeBit byte) q

def encodeDataMessage (bytes : List U8) (q : PulseQueue) : PulseQueue :=
  let q := ((q.push false irHelloShortSpaceTCycles).push true irMessagePreambleMarkTCycles).push
    false irMessagePreambleSpaceTCycles
  let q := bytes.foldl encodeByte q
  (q.push true irMessageTrailerMarkTCycles).push false irMessageTrailerSpaceTCycles

/-- The sum of a block's header and payload; its length is at most 255 where this is used. -/
def dataBlockChecksum (payload : List U8) : U16 :=
  payload.foldl (fun sum byte => sum + U16.ofByte byte)
    (U16.ofByte messagePrefix + BitVec.ofNat 16 payload.length)

/-- `None` where the length does not fit a `u8`, which is a panic. -/
def encodeDataBlock (payload : List U8) (q : PulseQueue) : Option PulseQueue :=
  if payload.length < 2 ^ 8 then
    let len : U8 := BitVec.ofNat 8 payload.length
    let checksum := dataBlockChecksum payload
    some
      (encodeDataMessage [checksum.low, checksum.high]
        (encodeDataMessage payload
          (encodeDataMessage [messagePrefix, len] (q.push false irBlockLeadSpaceTCycles))))
  else none

def encodeBlockAck (status : U8) (q : PulseQueue) : PulseQueue :=
  encodeDataMessage [status] (q.push false irBlockLeadSpaceTCycles)

end MysteryGift

end GbCycle
