import GbCycle.Interrupts
import GbCycle.Speed

/-!
# The serial unit

`SB` is a shift register of eight bits.  A write to `SC` with the request bit set starts a
transfer; every clock edge then shifts one bit out and one bit in, and the eighth edge ends
the transfer and requests an interrupt.  With the internal clock an edge is a falling bit of
the unit's own counter; with the external clock it is a pulse somebody queued.

Only `SB` is shared between the program and the wire.  The byte on its way out and the byte
on its way in are latched at the first shift, so the unit at the other end is asked for its
byte once, through `SerialPeer`.
-/

namespace GbCycle

inductive SerialClockMode where
  | external
  | internal
  deriving Repr, DecidableEq

inductive SerialPeer where
  | disconnected
  | loopback
  | stagedIncomingByte (byte : U8)
  deriving Repr, DecidableEq

/-- `bitsShifted` is a byte in the source; it is below eight in every state the unit
itself produces. -/
inductive SerialTransferState where
  | idle
  | transferRequested (bitsShifted : Nat)
  deriving Repr, DecidableEq

structure Serial where
  consoleModel : ConsoleModel
  operatingMode : OperatingMode
  sb : U8
  clockMode : SerialClockMode
  cgbHighSpeedClockField : Bool
  transferState : SerialTransferState
  peer : SerialPeer
  clockCounter : U16
  externalClockPulsesPending : U8
  stagedOutgoingByte : U8
  currentOutgoingByte : U8
  currentOutgoingShiftByte : U8
  currentIncomingByte : U8
  latestCompletedOutputByte : Option U8
  completedOutputBytes : List U8
  deriving Repr, DecidableEq

structure SerialStartupState where
  sb : U8
  clockMode : SerialClockMode
  cgbHighSpeedClock : Bool
  transferState : SerialTransferState
  clockCounter : U16
  deriving Repr, DecidableEq

def SerialTransferState.isRequested : SerialTransferState → Bool
  | .transferRequested _ => true
  | .idle => false

def scTransferRequestBit : U8 := 0x80
def scUnusedReadMask : U8 := 0x7C
def scCgbHighSpeedBit : U8 := 0x02
def scClockModeBit : U8 := 0x01

def scClockMode (sc : U8) : SerialClockMode :=
  if sc &&& scClockModeBit != 0 then .internal else .external

def scTransferState (sc : U8) : SerialTransferState :=
  if sc &&& scTransferRequestBit != 0 then .transferRequested 0 else .idle

def SerialStartupState.fromRegisters (sb sc : U8) : SerialStartupState :=
  { sb := sb, clockMode := scClockMode sc,
    cgbHighSpeedClock := sc &&& scCgbHighSpeedBit != 0,
    transferState := scTransferState sc, clockCounter := 0 }

/-- `u8::saturating_add(1)`. -/
def saturatingIncrement (n : U8) : U8 := if n = 0xFF then 0xFF else n + 1

/-! ## The clock edge -/

def serialInternalClockEdgeBit : CgbSpeedMode → Bool → Nat
  | .normal, false => 8
  | .double, false => 7
  | .normal, true => 3
  | .double, true => 2

def serialInternalClockEdge (previous current : U16) (speed : CgbSpeedMode)
    (highSpeed : Bool) : Bool :=
  let edgeMask := BitVec.twoPow 16 (serialInternalClockEdgeBit speed highSpeed)
  previous &&& edgeMask != 0 && current &&& edgeMask == 0

/-- The number of T-cycles between two edges. -/
def serialInternalClockPeriod (speed : CgbSpeedMode) (highSpeed : Bool) : Nat :=
  2 ^ (serialInternalClockEdgeBit speed highSpeed + 1)

private theorem and_twoPow_beq_zero (w : U16) (k : Nat) (hk : k < 16) :
    (w &&& BitVec.twoPow 16 k == 0) = !w.getLsbD k := by
  rw [BitVec.and_twoPow]
  cases w.getLsbD k
  · simp
  · have hpow : BitVec.twoPow 16 k ≠ 0 := by
      intro h
      have hbit := congrArg (fun v => v.getLsbD k) h
      simp [hk] at hbit
    simpa using hpow

/-- A bit of a counter falls when the counter passes a multiple of twice its weight. -/
private theorem falling_bit {p m : Nat} (hp : 0 < p) (hm : p * 2 ∣ m) (n : Nat) :
    n / p % 2 = 1 ∧ ¬ (n + 1) % m / p % 2 = 1 ↔ (n + 1) % (p * 2) = 0 := by
  rw [← Nat.mod_mul_right_div_self, ← Nat.mod_mul_right_div_self, Nat.mod_mod_of_dvd _ hm,
    Nat.div_eq_iff hp, Nat.div_eq_iff hp, Nat.add_mod_eq_ite]
  have hlt : n % (p * 2) < p * 2 := Nat.mod_lt _ (by omega)
  have hone : 1 % (p * 2) = 1 := Nat.mod_eq_of_lt (by omega)
  rw [hone]
  split <;> omega

/-- The clock falls in every `serialInternalClockPeriod`-th T-cycle of the counter. -/
theorem serialInternalClockEdge_eq (c : U16) (speed : CgbSpeedMode) (highSpeed : Bool) :
    serialInternalClockEdge c (c + 1) speed highSpeed =
      decide ((c.toNat + 1) % serialInternalClockPeriod speed highSpeed = 0) := by
  have hsucc : (c + 1).toNat = (c.toNat + 1) % 65536 := by simp
  have hfall : ∀ k, k < 16 → (c.getLsbD k && !(c + 1).getLsbD k) =
      decide ((c.toNat + 1) % 2 ^ (k + 1) = 0) := by
    intro k hk
    have hdvd : 2 ^ k * 2 ∣ 65536 := Nat.pow_dvd_pow 2 (n := 16) hk
    rw [Bool.eq_iff_iff, Bool.and_eq_true, Bool.not_eq_true', BitVec.getLsbD, BitVec.getLsbD,
      Nat.testBit_eq_decide_div_mod_eq, Nat.testBit_eq_decide_div_mod_eq, hsucc,
      decide_eq_true_eq, decide_eq_false_iff_not, decide_eq_true_eq, Nat.pow_succ]
    exact falling_bit (Nat.two_pow_pos k) hdvd c.toNat
  have hbit : serialInternalClockEdgeBit speed highSpeed < 16 := by
    cases speed <;> cases highSpeed <;> decide
  rw [serialInternalClockEdge, bne, and_twoPow_beq_zero _ _ hbit,
    and_twoPow_beq_zero _ _ hbit, Bool.not_not, hfall _ hbit, serialInternalClockPeriod]

/-- Whatever the speed, the clock falls with the slowest bit. -/
theorem serialInternalClockPeriod_dvd (speed : CgbSpeedMode) (highSpeed : Bool) :
    serialInternalClockPeriod speed highSpeed ∣ 512 := by
  cases speed <;> cases highSpeed <;> decide

namespace Serial

def newWithOperatingMode (consoleModel : ConsoleModel) (operatingMode : OperatingMode) :
    Serial :=
  { consoleModel := consoleModel, operatingMode := operatingMode, sb := 0,
    clockMode := .external, cgbHighSpeedClockField := false, transferState := .idle,
    peer := .disconnected, clockCounter := 0, externalClockPulsesPending := 0,
    stagedOutgoingByte := 0, currentOutgoingByte := 0, currentOutgoingShiftByte := 0,
    currentIncomingByte := 0, latestCompletedOutputByte := none,
    completedOutputBytes := [] }

def cgbHighSpeedSerialEnabled (s : Serial) : Bool :=
  s.consoleModel.isCgbFamily && s.operatingMode.enablesCgbHighSpeedSerial

def cgbHighSpeedClock (s : Serial) : Bool :=
  s.cgbHighSpeedSerialEnabled && s.cgbHighSpeedClockField

def applyOperatingModeState (s : Serial) (operatingMode : OperatingMode) : Serial :=
  let s := { s with operatingMode := operatingMode }
  if s.cgbHighSpeedSerialEnabled then s else { s with cgbHighSpeedClockField := false }

/-! ## The registers -/

def readSb (s : Serial) : U8 := s.sb

def writeSb (s : Serial) (value : U8) : Serial :=
  { s with sb := value, stagedOutgoingByte := value }

def readScHighSpeedBit (s : Serial) : U8 :=
  if s.cgbHighSpeedSerialEnabled then
    if s.cgbHighSpeedClockField then scCgbHighSpeedBit else 0
  else scCgbHighSpeedBit

def readSc (s : Serial) : U8 :=
  scUnusedReadMask ||| s.readScHighSpeedBit
    ||| (if s.transferState.isRequested then scTransferRequestBit else 0)
    ||| (if s.clockMode = .internal then scClockModeBit else 0)

def writeSc (s : Serial) (value : U8) : Serial :=
  { s with
    clockMode := scClockMode value
    cgbHighSpeedClockField :=
      s.cgbHighSpeedSerialEnabled && value &&& scCgbHighSpeedBit != 0
    transferState := scTransferState value
    externalClockPulsesPending := 0
    currentOutgoingByte := 0
    currentOutgoingShiftByte := 0
    currentIncomingByte := 0
    latestCompletedOutputByte := none }

def applyStartupState (s : Serial) (startup : SerialStartupState) : Serial :=
  { s with
    sb := startup.sb
    clockMode := startup.clockMode
    cgbHighSpeedClockField := s.cgbHighSpeedSerialEnabled && startup.cgbHighSpeedClock
    transferState := startup.transferState
    peer := .disconnected
    clockCounter := startup.clockCounter
    externalClockPulsesPending := 0
    stagedOutgoingByte := startup.sb
    currentOutgoingByte := 0
    currentOutgoingShiftByte := 0
    currentIncomingByte := 0
    latestCompletedOutputByte := none
    completedOutputBytes := [] }

def setPeer (s : Serial) (peer : SerialPeer) : Serial := { s with peer := peer }

/-! ## The clock from outside -/

def acceptsExternalClockPulse (s : Serial) : Bool :=
  s.clockMode == .external && s.transferState.isRequested

/-- Whether the pulse is one more to come, and the unit it is queued in. -/
def queueExternalClockPulse (s : Serial) : Bool × Serial :=
  if s.acceptsExternalClockPulse then
    let pending := saturatingIncrement s.externalClockPulsesPending
    (pending != s.externalClockPulsesPending,
      { s with externalClockPulsesPending := pending })
  else (false, s)

def requiresFullTCycleTick (s : Serial) : Bool :=
  s.transferState.isRequested || s.externalClockPulsesPending != 0

def externalWaitWithoutPendingClock (s : Serial) : Bool :=
  s.clockMode == .external && s.transferState.isRequested &&
    s.externalClockPulsesPending == 0

def internalClockEdgePendingThisTCycleForSpeed (s : Serial) (speed : CgbSpeedMode) : Bool :=
  s.clockMode == .internal && s.transferState.isRequested &&
    serialInternalClockEdge s.clockCounter (s.clockCounter + 1) speed s.cgbHighSpeedClock

/-- The byte the other end is to receive: the latched one once the transfer is under way. -/
def endpointOutgoingByte (s : Serial) : U8 :=
  match s.transferState with
  | .transferRequested bits => if bits = 0 then s.stagedOutgoingByte else s.currentOutgoingByte
  | .idle => s.stagedOutgoingByte

/-! ## The shift register -/

def stagedIncomingByteForPeer : SerialPeer → U8
  | .disconnected | .loopback => 0
  | .stagedIncomingByte byte => byte

/-- The bit that comes in, and the incoming byte that is left. -/
def incomingBitFromPeer (peer : SerialPeer) (outgoingBit : Bool) (incoming : U8) : Bool × U8 :=
  match peer with
  | .disconnected => (true, incoming)
  | .loopback => (outgoingBit, incoming)
  | .stagedIncomingByte _ => (incoming &&& 0x80 != 0, incoming <<< 1)

/-- The first shift latches both bytes. -/
def latch (s : Serial) : Serial :=
  { s with
    currentOutgoingByte := s.stagedOutgoingByte
    currentOutgoingShiftByte := s.stagedOutgoingByte
    currentIncomingByte := stagedIncomingByteForPeer s.peer }

def shiftLatched (s : Serial) : Serial :=
  let outgoingBit := s.currentOutgoingShiftByte &&& 0x80 != 0
  let incoming := incomingBitFromPeer s.peer outgoingBit s.currentIncomingByte
  { s with
    currentOutgoingShiftByte := s.currentOutgoingShiftByte <<< 1
    currentIncomingByte := incoming.2
    sb := s.sb <<< 1 ||| (if incoming.1 then 1 else 0) }

def complete (s : Serial) : Serial :=
  { s with
    transferState := .idle
    externalClockPulsesPending := 0
    completedOutputBytes := s.completedOutputBytes ++ [s.currentOutgoingByte]
    latestCompletedOutputByte := some s.currentOutgoingByte
    currentOutgoingByte := 0
    currentOutgoingShiftByte := 0
    currentIncomingByte := 0 }

/-- The unit after one clock edge, and the interrupt it queues. -/
def shiftOneBit (s : Serial) : Serial × Option InterruptSource :=
  match s.transferState with
  | .idle => (s, none)
  | .transferRequested bits =>
      let shifted := (if bits = 0 then s.latch else s).shiftLatched
      if bits + 1 = 8 then (shifted.complete, some .serial)
      else ({ shifted with transferState := .transferRequested (bits + 1) }, none)

/-! ## One T-cycle -/

/-- The part of a T-cycle every branch shares: the counter runs on. -/
def tickIdleTCycle (s : Serial) : Serial :=
  { s with latestCompletedOutputByte := none, clockCounter := s.clockCounter + 1 }

def tickExternalWaitTCycle (s : Serial) : Serial := s.tickIdleTCycle

def tickTCycleForSpeed (s : Serial) (speed : CgbSpeedMode) :
    Serial × Option InterruptSource :=
  let ticked := s.tickIdleTCycle
  match s.transferState with
  | .idle => (ticked, none)
  | .transferRequested _ =>
      match s.clockMode with
      | .internal =>
          if serialInternalClockEdge s.clockCounter ticked.clockCounter speed
              s.cgbHighSpeedClock then
            ticked.shiftOneBit
          else (ticked, none)
      | .external =>
          if s.externalClockPulsesPending != 0 then
            { ticked with
              externalClockPulsesPending := s.externalClockPulsesPending - 1 }.shiftOneBit
          else (ticked, none)

end Serial

end GbCycle
