import GbCycle.Word

/-!
# The protocol of the Super Game Boy

A game talks to the Super Game Boy through the two select lines of the joypad port.  A
reset pulse starts a packet, each data pulse carries one bit, and sixteen bytes make a
packet; one to seven packets make a command.  Some commands ask for 4 KiB of what the game
is about to display: the host then reads a fifth of it at each of the next five frames.

This file has the types of the protocol and the two functions on pictures that the
transfers rest on.
-/

namespace GbCycle

/-! ## Lines -/

inductive SgbJoypLineState where
  | idle
  | start
  | zero
  | one
  | invalid
  deriving Repr, DecidableEq

def joypSelectBitsMask : U8 := 0x30
def sgbJoypIdleBits : U8 := 0x30
def sgbJoypStartBits : U8 := 0x00
def sgbJoypZeroBits : U8 := 0x20
def sgbJoypOneBits : U8 := 0x10

namespace SgbJoypLineState

def fromJoypValue (value : U8) : SgbJoypLineState :=
  let bits := value &&& joypSelectBitsMask
  if bits = sgbJoypIdleBits then .idle
  else if bits = sgbJoypStartBits then .start
  else if bits = sgbJoypZeroBits then .zero
  else if bits = sgbJoypOneBits then .one
  else .invalid

def dataBit : SgbJoypLineState → Option U8
  | .zero => some 0
  | .one => some 1
  | .idle | .start | .invalid => none

/-- The two lines have four states, and each of them is a pulse of the protocol. -/
theorem fromJoypValue_ne_invalid (value : U8) : fromJoypValue value ≠ .invalid := by
  have hbits : value &&& joypSelectBitsMask = sgbJoypIdleBits ∨
      value &&& joypSelectBitsMask = sgbJoypStartBits ∨
      value &&& joypSelectBitsMask = sgbJoypZeroBits ∨
      value &&& joypSelectBitsMask = sgbJoypOneBits := by
    revert value
    decide
  intro h
  simp only [fromJoypValue] at h
  split_ifs at h
  rcases hbits with hbits | hbits | hbits | hbits <;> contradiction

end SgbJoypLineState

/-! ## Packets -/

def sgbPacketBytes : Nat := 16
def sgbPacketBits : Nat := 128
def sgbPacketCountMin : Nat := 1
def sgbPacketCountMax : Nat := 7

abbrev SgbPacket := Vector U8 sgbPacketBytes

namespace SgbPacket

def zero : SgbPacket := Vector.replicate sgbPacketBytes 0

/-- The upper five bits of the first byte. -/
def commandId (packet : SgbPacket) : U8 := packet[0] >>> 3

/-- The lower three bits of the first byte. -/
def packetCount (packet : SgbPacket) : Nat := (packet[0] &&& 0x07).toNat

end SgbPacket

/-- The first packet of `PAL_TRN`. -/
def SgbHost.palTrnPacket : SgbPacket := SgbPacket.zero.set 0 0x59

/-! The bytes that the attribute commands read are in the packet. -/

theorem one_lt_sgbPacketBytes : 1 < sgbPacketBytes := by decide

theorem two_lt_sgbPacketBytes : 2 < sgbPacketBytes := by decide

inductive SgbPacketTransportPhase where
  | idle
  | startPending
  | receiving
  | dataPending
  deriving Repr, DecidableEq

inductive SgbPacketTraceStatus where
  | none
  | complete
  | rejectedByHeader
  | rejectedWhileBusy
  | suppressedByIcon
  | invalidPacketLength
  | invalidStopBit
  | incompleteReset
  | orphanDataPulse
  | conflictingPulse
  deriving Repr, DecidableEq

structure SgbPacketTrace where
  status : SgbPacketTraceStatus
  commandId : Option U8
  packetCount : Nat
  packetIndex : Nat
  bitsBuffered : Nat
  bytes : SgbPacket
  deriving Repr, DecidableEq

inductive SgbCommandAcceptance where
  | disabled
  | awaitingCartridgeHeader
  | rejectedByHeader
  | accepted
  deriving Repr, DecidableEq

/-! ## Commands -/

def sgbCommandAttrBlk : U8 := 0x04
def sgbCommandAttrLin : U8 := 0x05
def sgbCommandAttrDiv : U8 := 0x06
def sgbCommandAttrChr : U8 := 0x07
def sgbCommandSound : U8 := 0x08
def sgbCommandSouTrn : U8 := 0x09
def sgbCommandPalSet : U8 := 0x0A
def sgbCommandPalTrn : U8 := 0x0B
def sgbCommandAtrcEn : U8 := 0x0C
def sgbCommandTestEn : U8 := 0x0D
def sgbCommandIconEn : U8 := 0x0E
def sgbCommandDataSnd : U8 := 0x0F
def sgbCommandDataTrn : U8 := 0x10
def sgbCommandMltReq : U8 := 0x11
def sgbCommandJump : U8 := 0x12
def sgbCommandChrTrn : U8 := 0x13
def sgbCommandPctTrn : U8 := 0x14
def sgbCommandAttrTrn : U8 := 0x15
def sgbCommandAttrSet : U8 := 0x16
def sgbCommandMaskEn : U8 := 0x17
def sgbCommandObjTrn : U8 := 0x18
def sgbCommandPalPri : U8 := 0x19

/-- The two screen palettes that `PAL01`, `PAL23`, `PAL03` and `PAL12` set. -/
def directPaletteCommandPair (commandId : U8) : Option (Nat × Nat) :=
  if commandId = 0x00 then some (0, 1)
  else if commandId = 0x01 then some (2, 3)
  else if commandId = 0x02 then some (0, 3)
  else if commandId = 0x03 then some (1, 2)
  else none

end GbCycle
