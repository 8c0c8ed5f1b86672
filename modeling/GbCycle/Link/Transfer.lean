import GbCycle.Link.Dmg04
import Mathlib.Tactic.IntervalCases

/-!
# One console's transfer

How far a transfer is can be read off one serial unit: after `bits` edges the low bits of
`SB` are the high bits of the byte that comes in, and what is still to come is in the
incoming byte.  A T-cycle either leaves this alone or moves the unit on by one bit, and the
eighth edge ends the transfer.  The lemmas are about one end of the cable, for whatever the
cable hands it in the cycle.
-/

namespace GbCycle

/-! ## One shift of one unit -/

theorem shiftIn_toNat (sb : U8) (bit : Bool) :
    (sb <<< 1 ||| (if bit then 1 else 0)).toNat = sb.toNat * 2 % 256 + bit.toNat := by
  have hbit : (if bit then 1 else 0 : U8).toNat = bit.toNat := by
    cases bit <;> rfl
  have hroom : bit.toNat < 2 ^ 1 := bit.toNat_lt
  rw [BitVec.toNat_or, BitVec.toNat_shiftLeft, hbit, Nat.shiftLeft_eq,
    show sb.toNat * 2 ^ 1 % 2 ^ 8 = (sb.toNat % 128) <<< 1 by rw [Nat.shiftLeft_eq]; omega,
    ← Nat.shiftLeft_add_eq_or_of_lt hroom, Nat.shiftLeft_eq]
  omega

theorem topBit (w : U8) : (w &&& 0x80 != 0) = decide (128 ≤ w.toNat) := by
  have hmask : w &&& 0x80 = if w.getLsbD 7 then BitVec.twoPow 8 7 else 0 :=
    BitVec.and_twoPow w 7
  have hmsb : w.getLsbD 7 = decide (128 ≤ w.toNat) := BitVec.msb_eq_decide w
  rw [hmask, hmsb]
  cases decide (128 ≤ w.toNat) <;> rfl

theorem shift_arith {bits sb incoming other : Nat} (hbits : bits < 8)
    (hother : other < 256) (hincoming : incoming = other * 2 ^ bits % 256)
    (hsb : sb % 2 ^ bits = other / 2 ^ (8 - bits)) :
    incoming * 2 % 256 = other * 2 ^ (bits + 1) % 256 ∧
    (sb * 2 % 256 + (decide (128 ≤ incoming)).toNat) % 2 ^ (bits + 1) =
      other / 2 ^ (8 - (bits + 1)) := by
  have htop : (decide (128 ≤ incoming)).toNat = incoming / 128 := by
    rcases Nat.lt_or_ge incoming 128 with h | h
    · rw [decide_eq_false (by omega), Bool.toNat_false]
      omega
    · rw [decide_eq_true h, Bool.toNat_true]
      omega
  rw [htop]
  subst hincoming
  interval_cases bits <;> omega

namespace Serial

/-- The unit has shifted `bits` bits of a transfer that sends `own` and receives `other`. -/
structure Shifting (s : Serial) (mode : SerialClockMode) (bits : Nat) (own other : U8) :
    Prop where
  requested : s.transferState = .transferRequested bits
  clockMode : s.clockMode = mode
  noPulse : s.externalClockPulsesPending = 0
  outgoing : s.endpointOutgoingByte = own
  incoming : bits ≠ 0 → s.currentIncomingByte.toNat = other.toNat * 2 ^ bits % 256
  shifted : s.sb.toNat % 2 ^ bits = other.toNat / 2 ^ (8 - bits)

/-- The unit has finished a transfer that received `other`. -/
structure Received (s : Serial) (other : U8) : Prop where
  idle : s.transferState = .idle
  noPulse : s.externalClockPulsesPending = 0
  sb : s.sb = other

variable {s : Serial} {mode : SerialClockMode} {bits : Nat} {own other byte : U8}

theorem endpointOutgoingByte_requested (h : s.transferState = .transferRequested bits) :
    s.endpointOutgoingByte =
      if bits = 0 then s.stagedOutgoingByte else s.currentOutgoingByte := by
  rw [endpointOutgoingByte, h]

/-- A started transfer has nothing shifted yet. -/
theorem Shifting.start (hrequested : s.transferState = .transferRequested 0)
    (hpulse : s.externalClockPulsesPending = 0) (other : U8) :
    s.Shifting s.clockMode 0 s.stagedOutgoingByte other where
  requested := hrequested
  clockMode := rfl
  noPulse := hpulse
  outgoing := by rw [endpointOutgoingByte_requested hrequested, if_pos rfl]
  incoming h := absurd rfl h
  shifted := by
    have hlt := other.isLt
    rw [Nat.pow_zero, Nat.mod_one]
    exact (Nat.div_eq_of_lt hlt).symm

/-- After the latch of the first shift both bytes of the transfer are in the unit. -/
theorem Shifting.latched (h : s.Shifting mode bits own other)
    (hpeer : s.peer = .stagedIncomingByte byte) (hbyte : bits = 0 → byte = other) :
    (if bits = 0 then s.latch else s).currentOutgoingByte = own ∧
    (if bits = 0 then s.latch else s).currentIncomingByte.toNat =
      other.toNat * 2 ^ bits % 256 := by
  have houtgoing := h.outgoing
  rw [endpointOutgoingByte_requested h.requested] at houtgoing
  by_cases hzero : bits = 0
  · subst hzero
    rw [if_pos rfl] at houtgoing ⊢
    refine ⟨houtgoing, ?_⟩
    have hlt := byte.isLt
    rw [← hbyte rfl]
    show (stagedIncomingByteForPeer s.peer).toNat = _
    rw [hpeer, stagedIncomingByteForPeer]
    omega
  · rw [if_neg hzero] at houtgoing ⊢
    exact ⟨houtgoing, h.incoming hzero⟩

/-- One edge moves the unit on by one bit, and the eighth ends the transfer with the other
byte in `SB` and an interrupt. -/
theorem Shifting.shiftOneBit (h : s.Shifting mode bits own other) (hbits : bits < 8)
    (hpeer : s.peer = .stagedIncomingByte byte) (hbyte : bits = 0 → byte = other) :
    (bits + 1 < 8 ∧ s.shiftOneBit.1.Shifting mode (bits + 1) own other ∧
      s.shiftOneBit.2 = none) ∨
    (bits + 1 = 8 ∧ s.shiftOneBit.1.Received other ∧ s.shiftOneBit.2 = some .serial) := by
  obtain ⟨houtgoing, hincoming⟩ := h.latched hpeer hbyte
  have hsb : (if bits = 0 then s.latch else s).sb = s.sb := by split <;> rfl
  have hpeer' : (if bits = 0 then s.latch else s).peer = .stagedIncomingByte byte := by
    rw [← hpeer]
    split <;> rfl
  have hmode : (if bits = 0 then s.latch else s).clockMode = mode := by
    rw [← h.clockMode]
    split <;> rfl
  have hpulse : (if bits = 0 then s.latch else s).externalClockPulsesPending = 0 := by
    rw [← h.noPulse]
    split <;> rfl
  have hshift : s.shiftOneBit =
      if bits + 1 = 8 then
        ((if bits = 0 then s.latch else s).shiftLatched.complete, some .serial)
      else
        ({ (if bits = 0 then s.latch else s).shiftLatched with
            transferState := .transferRequested (bits + 1) }, none) := by
    rw [Serial.shiftOneBit, h.requested]
  rw [hshift]
  generalize (if bits = 0 then s.latch else s) = l at *
  have hshifted : l.shiftLatched.currentIncomingByte.toNat =
        other.toNat * 2 ^ (bits + 1) % 256 ∧
      l.shiftLatched.sb.toNat % 2 ^ (bits + 1) = other.toNat / 2 ^ (8 - (bits + 1)) := by
    have hlow : l.sb.toNat % 2 ^ bits = other.toNat / 2 ^ (8 - bits) := hsb ▸ h.shifted
    have harith := shift_arith hbits other.isLt hincoming hlow
    simp only [shiftLatched, hpeer', incomingBitFromPeer, shiftIn_toNat, topBit]
    refine ⟨?_, harith.2⟩
    rw [← harith.1, BitVec.toNat_shiftLeft, Nat.shiftLeft_eq]
  by_cases hlast : bits + 1 = 8
  · rw [if_pos hlast]
    refine .inr ⟨hlast, ⟨rfl, rfl, ?_⟩, rfl⟩
    have hfinal := hshifted.2
    have hlt := l.shiftLatched.sb.isLt
    rw [hlast, Nat.mod_eq_of_lt hlt, Nat.sub_self, Nat.pow_zero, Nat.div_one] at hfinal
    exact BitVec.eq_of_toNat_eq hfinal
  · rw [if_neg hlast]
    refine .inl ⟨by omega, ⟨rfl, hmode, hpulse, ?_, fun _ => hshifted.1, hshifted.2⟩, rfl⟩
    rw [endpointOutgoingByte_requested rfl, if_neg (Nat.succ_ne_zero bits)]
    exact houtgoing

/-! ## One T-cycle of one unit -/

theorem shiftOneBit_noPulse (h : s.externalClockPulsesPending = 0) :
    s.shiftOneBit.1.externalClockPulsesPending = 0 := by
  rw [Serial.shiftOneBit]
  split
  · exact h
  · next bits _ =>
      by_cases hlast : bits + 1 = 8
      · rw [if_pos hlast]
        rfl
      · rw [if_neg hlast]
        show (if bits = 0 then s.latch else s).externalClockPulsesPending = 0
        split <;> exact h

/-- A shift leaves the counter and the byte for the next transfer alone. -/
theorem shiftOneBit_frame (s : Serial) :
    s.shiftOneBit.1.clockCounter = s.clockCounter ∧
    s.shiftOneBit.1.stagedOutgoingByte = s.stagedOutgoingByte := by
  rw [Serial.shiftOneBit]
  split
  · exact ⟨rfl, rfl⟩
  · next bits _ =>
      have hlatch : (if bits = 0 then s.latch else s).clockCounter = s.clockCounter ∧
          (if bits = 0 then s.latch else s).stagedOutgoingByte = s.stagedOutgoingByte := by
        split <;> exact ⟨rfl, rfl⟩
      by_cases hlast : bits + 1 = 8
      · rw [if_pos hlast]
        exact hlatch
      · rw [if_neg hlast]
        exact hlatch

/-- The pulse a tick takes: none is left if at most one was pending. -/
def takePulse (s : Serial) : Serial :=
  { s.tickIdleTCycle with externalClockPulsesPending := s.externalClockPulsesPending - 1 }

theorem Shifting.tickIdleTCycle (h : s.Shifting mode bits own other) :
    s.tickIdleTCycle.Shifting mode bits own other :=
  ⟨h.requested, h.clockMode, h.noPulse, h.outgoing, h.incoming, h.shifted⟩

theorem Received.tickIdleTCycle (h : s.Received other) : s.tickIdleTCycle.Received other :=
  ⟨h.idle, h.noPulse, h.sb⟩

/-- What a tick can do: count, or count and shift. -/
theorem tickTCycleForSpeed_cases (s : Serial) (speed : CgbSpeedMode) :
    (s.internalClockEdgePendingThisTCycleForSpeed speed = true ∧
      s.tickTCycleForSpeed speed = s.tickIdleTCycle.shiftOneBit) ∨
    (s.acceptsExternalClockPulse = true ∧ s.externalClockPulsesPending ≠ 0 ∧
      s.tickTCycleForSpeed speed = s.takePulse.shiftOneBit) ∨
    (s.internalClockEdgePendingThisTCycleForSpeed speed = false ∧
      (s.acceptsExternalClockPulse = true → s.externalClockPulsesPending = 0) ∧
      s.tickTCycleForSpeed speed = (s.tickIdleTCycle, none)) := by
  simp only [tickTCycleForSpeed, internalClockEdgePendingThisTCycleForSpeed,
    acceptsExternalClockPulse]
  cases hstate : s.transferState with
  | idle => simp [SerialTransferState.isRequested]
  | transferRequested bits =>
      cases hmode : s.clockMode with
      | internal =>
          by_cases hedge : serialInternalClockEdge s.clockCounter (s.clockCounter + 1) speed
              s.cgbHighSpeedClock = true
          · exact .inl ⟨by rw [hedge]; rfl, if_pos hedge⟩
          · exact .inr (.inr ⟨by rw [eq_false_of_ne_true hedge]; rfl, by simp, if_neg hedge⟩)
      | external =>
          by_cases hpulse : s.externalClockPulsesPending = 0
          · exact .inr (.inr ⟨by simp, fun _ => hpulse, if_neg (by simpa using hpulse)⟩)
          · exact .inr (.inl ⟨rfl, hpulse, if_pos (bne_iff_ne.mpr hpulse)⟩)

theorem tickTCycleForSpeed_idle (h : s.transferState = .idle) (speed : CgbSpeedMode) :
    s.tickTCycleForSpeed speed = (s.tickIdleTCycle, none) := by
  rw [tickTCycleForSpeed, h]

theorem tickTCycleForSpeed_frame (s : Serial) (speed : CgbSpeedMode) :
    (s.tickTCycleForSpeed speed).1.clockCounter = s.clockCounter + 1 ∧
    (s.tickTCycleForSpeed speed).1.stagedOutgoingByte = s.stagedOutgoingByte := by
  rcases tickTCycleForSpeed_cases s speed with ⟨_, h⟩ | ⟨_, _, h⟩ | ⟨_, _, h⟩ <;> rw [h]
  · exact shiftOneBit_frame s.tickIdleTCycle
  · exact shiftOneBit_frame s.takePulse
  · exact ⟨rfl, rfl⟩

/-- A pulse is taken in the cycle it was queued in. -/
theorem tickTCycleForSpeed_noPulse (speed : CgbSpeedMode)
    (h : s.externalClockPulsesPending = 0 ∨
      s.externalClockPulsesPending = 1 ∧ s.acceptsExternalClockPulse = true) :
    (s.tickTCycleForSpeed speed).1.externalClockPulsesPending = 0 := by
  rcases tickTCycleForSpeed_cases s speed with
    ⟨hedge, htick⟩ | ⟨haccepts, hpulse, htick⟩ | ⟨_, hnone, htick⟩ <;> rw [htick]
  · rcases h with h | ⟨_, haccepts⟩
    · exact shiftOneBit_noPulse h
    · simp only [internalClockEdgePendingThisTCycleForSpeed, acceptsExternalClockPulse,
        Bool.and_eq_true, beq_iff_eq] at hedge haccepts
      rw [hedge.1.1] at haccepts
      cases haccepts.1
  · rcases h with h | ⟨h, _⟩
    · exact absurd h hpulse
    · refine shiftOneBit_noPulse ?_
      show s.externalClockPulsesPending - 1 = 0
      rw [h]
      rfl
  · rcases h with h | ⟨_, haccepts⟩
    · exact h
    · exact hnone haccepts

end Serial

/-! ## What the program does to the unit -/

def SerialWrite.sb? : SerialWrite → Option U8
  | .sb value => some value
  | _ => none

def SerialWrite.sc? : SerialWrite → Option U8
  | .sc value => some value
  | _ => none

theorem SerialWrite.apply_noPulse {s : Serial} (w : SerialWrite)
    (h : s.externalClockPulsesPending = 0) :
    (w.apply s).externalClockPulsesPending = 0 := by
  cases w with
  | sb value => exact h
  | sc value => rfl
  | operatingMode mode =>
      simp only [SerialWrite.apply, Serial.applyOperatingModeState]
      split <;> exact h

/-- The next transfer sends the byte last written to `SB`. -/
theorem SerialWrite.apply_frame (w : SerialWrite) (s : Serial) :
    (w.apply s).clockCounter = s.clockCounter ∧
    (w.apply s).stagedOutgoingByte = w.sb?.getD s.stagedOutgoingByte := by
  cases w with
  | sb value => exact ⟨rfl, rfl⟩
  | sc value => exact ⟨rfl, rfl⟩
  | operatingMode mode =>
      simp only [SerialWrite.apply, Serial.applyOperatingModeState]
      split <;> exact ⟨rfl, rfl⟩

/-- A transfer starts, or stops, with a write to `SC` and with nothing else. -/
theorem SerialWrite.apply_transfer (w : SerialWrite) (s : Serial) :
    (w.apply s).transferState = (w.sc?.map scTransferState).getD s.transferState ∧
    (w.apply s).clockMode = (w.sc?.map scClockMode).getD s.clockMode := by
  cases w with
  | sb value => exact ⟨rfl, rfl⟩
  | sc value => exact ⟨rfl, rfl⟩
  | operatingMode mode =>
      simp only [SerialWrite.apply, Serial.applyOperatingModeState]
      split <;> exact ⟨rfl, rfl⟩

/-- What only writes can change shows the last of them. -/
theorem foldl_lastWrite {β : Type} (view : Serial → β) (written : SerialWrite → Option β)
    (hwrite : ∀ w s, view (SerialWrite.apply w s) = (written w).getD (view s))
    (writes : List SerialWrite) (s : Serial) :
    view (writes.foldl (fun s w => w.apply s) s) =
      (writes.filterMap written).getLastD (view s) := by
  induction writes generalizing s with
  | nil => rfl
  | cons w writes ih =>
      rw [List.foldl_cons, ih, hwrite]
      cases hw : written w with
      | none => rw [List.filterMap_cons_none hw, Option.getD_none]
      | some v => rw [List.filterMap_cons_some hw, List.getLastD_cons, Option.getD_some]

/-- The transfer is the one the last write to `SC` asked for, and without one it is the
one there was. -/
theorem foldl_transfer (writes : List SerialWrite) (s : Serial) :
    (writes.foldl (fun s w => w.apply s) s).transferState =
        ((writes.filterMap SerialWrite.sc?).getLast?.map scTransferState).getD s.transferState ∧
    (writes.foldl (fun s w => w.apply s) s).clockMode =
        ((writes.filterMap SerialWrite.sc?).getLast?.map scClockMode).getD s.clockMode := by
  constructor
  · rw [foldl_lastWrite Serial.transferState (fun w => w.sc?.map scTransferState)
      fun w s => (w.apply_transfer s).1, ← List.map_filterMap, List.getLastD_eq_getLast?,
      List.getLast?_map]
  · rw [foldl_lastWrite Serial.clockMode (fun w => w.sc?.map scClockMode)
      fun w s => (w.apply_transfer s).2, ← List.map_filterMap, List.getLastD_eq_getLast?,
      List.getLast?_map]

theorem foldl_clockCounter (writes : List SerialWrite) (s : Serial) :
    (writes.foldl (fun s w => w.apply s) s).clockCounter = s.clockCounter := by
  induction writes generalizing s with
  | nil => rfl
  | cons w writes ih => rw [List.foldl_cons, ih, (w.apply_frame s).1]

/-- Neither the boot hand-off nor anything else but a write to `SB` or `SC` touches a
transfer. -/
theorem Serial.Shifting.applyOperatingModeState {s : Serial} {mode : SerialClockMode}
    {bits : Nat} {own other : U8} (h : s.Shifting mode bits own other)
    (operatingMode : OperatingMode) :
    (s.applyOperatingModeState operatingMode).Shifting mode bits own other := by
  obtain ⟨requested, clockMode, noPulse, outgoing, incoming, shifted⟩ := h
  simp only [Serial.applyOperatingModeState]
  split <;> exact ⟨requested, clockMode, noPulse, outgoing, incoming, shifted⟩

theorem Serial.Received.applyOperatingModeState {s : Serial} {other : U8}
    (h : s.Received other) (operatingMode : OperatingMode) :
    (s.applyOperatingModeState operatingMode).Received other := by
  obtain ⟨idle, noPulse, sb⟩ := h
  simp only [Serial.applyOperatingModeState]
  split <;> exact ⟨idle, noPulse, sb⟩

/-- The program leaves `SB`, `SC` and STOP alone in the cycle. -/
def EndpointCycle.Quiet (c : EndpointCycle) : Prop :=
  c.stopActive = false ∧ ∀ w ∈ c.writes, ∃ mode, w = .operatingMode mode

theorem foldl_quiet (P : Serial → Prop)
    (hmode : ∀ s mode, P s → P (s.applyOperatingModeState mode)) {writes : List SerialWrite} (hquiet : ∀ w ∈ writes, ∃ mode, w = .operatingMode mode)
    {s : Serial} (h : P s) : P (writes.foldl (fun s w => w.apply s) s) := by
  induction writes generalizing s with
  | nil => exact h
  | cons w writes ih =>
      obtain ⟨mode, rfl⟩ := hquiet w (.head _)
      exact ih (fun w hw => hquiet w (.tail _ hw)) (hmode s mode h)

theorem Serial.Shifting.foldl {s : Serial} {mode : SerialClockMode} {bits : Nat}
    {own other : U8} (h : s.Shifting mode bits own other) {c : EndpointCycle}
    (hquiet : c.Quiet) :
    (c.writes.foldl (fun s w => w.apply s) s).Shifting mode bits own other :=
  foldl_quiet (fun s => s.Shifting mode bits own other)
    (fun _ mode hs => hs.applyOperatingModeState mode) hquiet.2 h

theorem Serial.Received.foldl {s : Serial} {other : U8} (h : s.Received other)
    {c : EndpointCycle} (hquiet : c.Quiet) :
    (c.writes.foldl (fun s w => w.apply s) s).Received other :=
  foldl_quiet (fun s => s.Received other)
    (fun _ mode hs => hs.applyOperatingModeState mode) hquiet.2 h

theorem foldl_noPulse (writes : List SerialWrite) {s : Serial}
    (h : s.externalClockPulsesPending = 0) :
    (writes.foldl (fun s w => w.apply s) s).externalClockPulsesPending = 0 := by
  induction writes generalizing s with
  | nil => exact h
  | cons w writes ih => exact ih (w.apply_noPulse h)

/-! ## One T-cycle of one console -/

namespace Endpoint

variable {π : Type}

/-- A console on the cable with no clock pulse on its way. -/
structure Linked (e : Endpoint π) : Prop where
  attached : e.externalPort.attachmentKind = .gameLinkDmg04
  noEvent : e.externalSerialClockPulsesPending = 0
  noPulse : e.serial.externalClockPulsesPending = 0

variable [PrinterDevice π] {e : Endpoint π} {c : EndpointCycle} {pulse : Bool}
  {incoming : Option U8}

/-- One whole T-cycle of a console, as a function of what the cable hands it. -/
def advance (e : Endpoint π) (c : EndpointCycle) (pulse : Bool) (incoming : Option U8) :
    Endpoint π :=
  ((e.received c pulse incoming).tickSerial c).1.applyWrites c.writes

/-- The serial unit as the cable leaves it for the peripheral ticks. -/
def prepareSerial (s : Serial) (pulse : Bool) (incoming : Option U8) : Serial :=
  { s with
    externalClockPulsesPending := if pulse then 1 else 0
    peer := stagedLinePeer incoming }

omit [PrinterDevice π] in
theorem attachmentKind_setDmg04IncomingByte (p : ExternalPort π) (incoming : Option U8) :
    (p.setDmg04IncomingByte incoming).attachmentKind = p.attachmentKind := by
  obtain ⟨attachment⟩ := p
  cases attachment <;> rfl

theorem setDmg04IncomingByte_eq (h : e.externalPort.attachmentKind = .gameLinkDmg04) :
    e.setDmg04IncomingByte incoming =
      { e with serial := e.serial.setPeer (stagedLinePeer incoming),
               externalPort := e.externalPort.setDmg04IncomingByte incoming } := by
  obtain ⟨serial, ⟨attachment⟩, pending⟩ := e
  cases attachment with
  | gameLinkDmg04 _ => rfl
  | none => cases h
  | loopback => cases h
  | printer _ => cases h
  | fourPlayerAdapterDmg07 _ _ => cases h

omit [PrinterDevice π] in
/-- A pulse queued for a console that waits for one reaches its serial unit at once. -/
theorem stepExternalEventIngress_eq (h : e.Linked)
    (hpulse : pulse = true → c.stopActive = false ∧ e.serial.acceptsExternalClockPulse = true) :
    (if pulse then e.queueExternalSerialClock else e).stepExternalEventIngress c =
      { e with serial := { e.serial with externalClockPulsesPending := if pulse then 1 else 0 } }
      := by
  obtain ⟨-, hev, hno⟩ := h
  cases pulse with
  | false =>
      obtain ⟨⟨_, _, _, _, _, _, _, _, pulses, _, _, _, _, _, _⟩, port, pending⟩ := e
      dsimp only at hno
      subst hno
      exact if_pos hev
  | true =>
      obtain ⟨hstop, haccepts⟩ := hpulse rfl
      have hone : saturatingIncrement 0 = 1 := rfl
      obtain ⟨serial, port, pending⟩ := e
      dsimp only at hev hno haccepts
      subst hev
      have hone' : (1 : U8) ≠ 0 := by decide
      rw [if_pos rfl, queueExternalSerialClock, hone]
      refine (if_neg hone').trans ((if_neg (Bool.eq_false_iff.mp hstop)).trans ?_)
      show Endpoint.mk serial.queueExternalClockPulse.2 port (1 - 1) = _
      rw [Serial.queueExternalClockPulse, if_pos haccepts, hno, hone, if_pos rfl]
      rfl

theorem received_eq (h : e.Linked)
    (hpulse : pulse = true → c.stopActive = false ∧ e.serial.acceptsExternalClockPulse = true) :
    e.received c pulse incoming =
      { e with serial := prepareSerial e.serial pulse incoming,
               externalPort := e.externalPort.setDmg04IncomingByte incoming } := by
  rw [received, stepExternalEventIngress_eq h hpulse]
  exact setDmg04IncomingByte_eq h.attached

/-- On the cable the serial unit ticks alone. -/
theorem tickSerial_eq (h : e.externalPort.attachmentKind = .gameLinkDmg04)
    (hstop : c.stopActive = false) :
    e.tickSerial c = ({ e with serial := (e.serial.tickTCycleForSpeed c.speed).1 },
      (e.serial.tickTCycleForSpeed c.speed).2) := by
  have hfull : e.serial.requiresFullTCycleTick = false →
      e.serial.tickTCycleForSpeed c.speed = (e.serial.tickIdleTCycle, none) := by
    intro hidle
    simp only [Serial.requiresFullTCycleTick, Bool.or_eq_false_iff] at hidle
    refine Serial.tickTCycleForSpeed_idle ?_ c.speed
    cases hstate : e.serial.transferState with
    | idle => rfl
    | transferRequested bits =>
        rw [hstate] at hidle
        cases hidle.1
  simp only [tickSerial, hstop, h, ExternalPort.requiresTCycleTick,
    ExternalPort.handlesCompletedSerialByte, ExternalPort.requiresSerialPeerRefreshAfterTCycle]
  cases hrequires : e.serial.requiresFullTCycleTick with
  | true => simp [h]
  | false => simp [hfull hrequires]

omit [PrinterDevice π] in
/-- Without a pulse and without a falling clock the unit only counts. -/
theorem tick_of_noEdge {speed : CgbSpeedMode}
    (hedge : e.serial.internalClockEdgePendingThisTCycleForSpeed speed = false)
    (incoming : Option U8) :
    (prepareSerial e.serial false incoming).tickTCycleForSpeed speed =
      ((prepareSerial e.serial false incoming).tickIdleTCycle, none) := by
  rcases Serial.tickTCycleForSpeed_cases (prepareSerial e.serial false incoming) speed with
    ⟨hfall, _⟩ | ⟨_, hpending, _⟩ | ⟨_, _, htick⟩
  · exact absurd (hedge.symm.trans hfall) Bool.false_ne_true
  · exact absurd rfl hpending
  · exact htick

/-- The pulse a console is handed is one it waits for. -/
def Clockable (e : Endpoint π) (c : EndpointCycle) : Prop :=
  c.stopActive = false ∧ e.serial.acceptsExternalClockPulse = true

theorem advance_running (h : e.Linked) (hpulse : pulse = true → e.Clockable c)
    (hstop : c.stopActive = false) :
    e.advance c pulse incoming =
      { e with
        serial := c.writes.foldl (fun s w => w.apply s)
          ((prepareSerial e.serial pulse incoming).tickTCycleForSpeed c.speed).1
        externalPort := e.externalPort.setDmg04IncomingByte incoming } := by
  rw [advance, received_eq h hpulse, tickSerial_eq _ hstop]
  · rfl
  · exact (attachmentKind_setDmg04IncomingByte _ _).trans h.attached

theorem request_running (h : e.Linked) (hpulse : pulse = true → e.Clockable c)
    (hstop : c.stopActive = false) :
    ((e.received c pulse incoming).tickSerial c).2 =
      ((prepareSerial e.serial pulse incoming).tickTCycleForSpeed c.speed).2 := by
  rw [received_eq h hpulse, tickSerial_eq _ hstop]
  exact (attachmentKind_setDmg04IncomingByte _ _).trans h.attached

/-- A stopped machine is handed no pulse, and only its program's writes change the unit. -/
theorem advance_stopped (h : e.Linked) (hpulse : pulse = true → e.Clockable c)
    (hstop : c.stopActive = true) :
    e.advance c pulse incoming =
      { e with
        serial := c.writes.foldl (fun s w => w.apply s) (prepareSerial e.serial false incoming)
        externalPort := e.externalPort.setDmg04IncomingByte incoming } := by
  have hnone : pulse = false := by
    cases pulse with
    | false => rfl
    | true =>
        rw [(hpulse rfl).1] at hstop
        cases hstop
  subst hnone
  rw [Endpoint.advance, received_eq h hpulse, tickSerial, if_pos hstop]
  rfl

/-- Whatever the program does, no pulse is left over when the cycle ends. -/
theorem Linked.advance (h : e.Linked) (hpulse : pulse = true → e.Clockable c) :
    (e.advance c pulse incoming).Linked := by
  have hkind : (e.externalPort.setDmg04IncomingByte incoming).attachmentKind =
      .gameLinkDmg04 := (attachmentKind_setDmg04IncomingByte _ _).trans h.attached
  by_cases hstop : c.stopActive = true
  · rw [advance_stopped h hpulse hstop]
    exact ⟨hkind, h.noEvent, foldl_noPulse c.writes rfl⟩
  · rw [advance_running h hpulse (eq_false_of_ne_true hstop)]
    refine ⟨hkind, h.noEvent, foldl_noPulse c.writes ?_⟩
    apply Serial.tickTCycleForSpeed_noPulse
    cases pulse with
    | false => exact .inl rfl
    | true => exact .inr ⟨rfl, (hpulse rfl).2⟩

theorem advance_clockCounter (h : e.Linked) (hpulse : pulse = true → e.Clockable c)
    (hstop : c.stopActive = false) :
    (e.advance c pulse incoming).serial.clockCounter = e.serial.clockCounter + 1 := by
  rw [advance_running h hpulse hstop]
  refine (foldl_clockCounter c.writes _).trans ?_
  rw [(Serial.tickTCycleForSpeed_frame _ _).1]
  rfl

/-- The byte the next transfer sends is the one the program last wrote. -/
theorem advance_staged (h : e.Linked) (hpulse : pulse = true → e.Clockable c) :
    (e.advance c pulse incoming).serial.stagedOutgoingByte =
      (c.writes.filterMap SerialWrite.sb?).getLastD e.serial.stagedOutgoingByte := by
  have hlast := foldl_lastWrite Serial.stagedOutgoingByte SerialWrite.sb?
    (fun w s => (w.apply_frame s).2) c.writes
  by_cases hstop : c.stopActive = true
  · rw [advance_stopped h hpulse hstop]
    exact hlast _
  · rw [advance_running h hpulse (eq_false_of_ne_true hstop)]
    refine (hlast _).trans ?_
    rw [(Serial.tickTCycleForSpeed_frame _ _).2]
    rfl

/-- Whatever the unit did in the cycle, its program's last write to `SC` has the last word
on the transfer. -/
theorem advance_transfer (h : e.Linked) (hpulse : pulse = true → e.Clockable c) {value : U8}
    (hsc : (c.writes.filterMap SerialWrite.sc?).getLast? = some value) :
    (e.advance c pulse incoming).serial.transferState = scTransferState value ∧
    (e.advance c pulse incoming).serial.clockMode = scClockMode value := by
  have hlast := foldl_transfer c.writes
  simp only [hsc, Option.map_some, Option.getD_some] at hlast
  by_cases hstop : c.stopActive = true
  · rw [advance_stopped h hpulse hstop]
    exact hlast _
  · rw [advance_running h hpulse (eq_false_of_ne_true hstop)]
    exact hlast _

/-- With no edge and no write to `SC` the transfer stays as it is. -/
theorem advance_transfer_hold (h : e.Linked) (incoming : Option U8)
    (hsc : c.writes.filterMap SerialWrite.sc? = [])
    (hedge : c.stopActive = false →
      e.serial.internalClockEdgePendingThisTCycleForSpeed c.speed = false) :
    (e.advance c false incoming).serial.transferState = e.serial.transferState ∧
    (e.advance c false incoming).serial.clockMode = e.serial.clockMode := by
  have hpulse : false = true → e.Clockable c := nofun
  have hlast := foldl_transfer c.writes
  simp only [hsc, List.getLast?_nil, Option.map_none, Option.getD_none] at hlast
  by_cases hstop : c.stopActive = true
  · rw [advance_stopped h hpulse hstop]
    exact hlast _
  · have hstop := eq_false_of_ne_true hstop
    rw [advance_running h hpulse hstop, tick_of_noEdge (hedge hstop)]
    exact hlast _

/-! ## A console in a transfer -/

structure Transferring (e : Endpoint π) (mode : SerialClockMode) (bits : Nat)
    (own other : U8) : Prop where
  linked : e.Linked
  serial : e.serial.Shifting mode bits own other

structure Finished (e : Endpoint π) (other : U8) : Prop where
  linked : e.Linked
  serial : e.serial.Received other

variable {mode : SerialClockMode} {bits : Nat} {own other byte : U8}

theorem prepareSerial_shifting {s : Serial} (incoming : Option U8)
    (h : s.Shifting mode bits own other) :
    (prepareSerial s false incoming).Shifting mode bits own other :=
  ⟨h.requested, h.clockMode, rfl, h.outgoing, h.incoming, h.shifted⟩

/-- A transfer that gets no edge in the cycle stays where it is. -/
theorem Transferring.hold (h : e.Transferring mode bits own other) (hquiet : c.Quiet)
    (hedge : e.serial.internalClockEdgePendingThisTCycleForSpeed c.speed = false) :
    (e.advance c false incoming).Transferring mode bits own other ∧
    ((e.received c false incoming).tickSerial c).2 = none := by
  have hpulse : false = true → e.Clockable c := nofun
  have htick := tick_of_noEdge hedge incoming
  refine ⟨⟨h.linked.advance hpulse, ?_⟩, ?_⟩
  · rw [advance_running h.linked hpulse hquiet.1, htick]
    exact (prepareSerial_shifting incoming h.serial).tickIdleTCycle.foldl hquiet
  · rw [request_running h.linked hpulse hquiet.1, htick]

/-- A transfer that gets an edge, of its own clock or a pulse from the cable, moves on by
one bit. -/
theorem Transferring.shift (h : e.Transferring mode bits own other) (hbits : bits < 8)
    (hquiet : c.Quiet) (hbyte : bits = 0 → byte = other)
    (hedge : pulse = false ∧
        e.serial.internalClockEdgePendingThisTCycleForSpeed c.speed = true ∨
      pulse = true ∧ mode = .external) :
    (bits + 1 < 8 ∧ (e.advance c pulse (some byte)).Transferring mode (bits + 1) own other ∧
      ((e.received c pulse (some byte)).tickSerial c).2 = none) ∨
    (bits + 1 = 8 ∧ (e.advance c pulse (some byte)).Finished other ∧
      ((e.received c pulse (some byte)).tickSerial c).2 = some .serial) := by
  have haccepts : mode = .external → e.serial.acceptsExternalClockPulse = true := by
    intro hmode
    rw [Serial.acceptsExternalClockPulse, h.serial.clockMode, h.serial.requested, hmode]
    rfl
  have hpulse : pulse = true → e.Clockable c := by
    intro hp
    rcases hedge with ⟨hno, _⟩ | ⟨_, hmode⟩
    · exact absurd (hno.symm.trans hp) Bool.false_ne_true
    · exact ⟨hquiet.1, haccepts hmode⟩
  -- Both kinds of edge shift the same unit: the counter has run on and no pulse is left.
  obtain ⟨s, hs, hpeer, htick⟩ : ∃ s : Serial, s.Shifting mode bits own other ∧
      s.peer = .stagedIncomingByte byte ∧
      (prepareSerial e.serial pulse (some byte)).tickTCycleForSpeed c.speed = s.shiftOneBit := by
    obtain ⟨hreq, hmode, _, hout, hinc, hsb⟩ := h.serial
    rcases Serial.tickTCycleForSpeed_cases (prepareSerial e.serial pulse (some byte)) c.speed with
      ⟨hfall, htick⟩ | ⟨_, hpending, htick⟩ | ⟨hfall, hpending, _⟩
    · rcases hedge with ⟨rfl, _⟩ | ⟨_, hext⟩
      · exact ⟨(prepareSerial e.serial false (some byte)).tickIdleTCycle,
          ⟨hreq, hmode, rfl, hout, hinc, hsb⟩, rfl, htick⟩
      · simp only [Serial.internalClockEdgePendingThisTCycleForSpeed, prepareSerial,
          hmode, hext] at hfall
        cases hfall
    · rcases hedge with ⟨rfl, _⟩ | ⟨rfl, _⟩
      · exact absurd rfl hpending
      · exact ⟨(prepareSerial e.serial true (some byte)).takePulse,
          ⟨hreq, hmode, show (1 : U8) - 1 = 0 from rfl, hout, hinc, hsb⟩, rfl, htick⟩
    · rcases hedge with ⟨_, hown⟩ | ⟨rfl, hext⟩
      · exact absurd (hfall.symm.trans hown) Bool.false_ne_true
      · exact absurd (hpending (haccepts hext)) (by simp [prepareSerial])
  rw [request_running h.linked hpulse hquiet.1, htick]
  have hlinked : (e.advance c pulse (some byte)).Linked := h.linked.advance hpulse
  have hserial : (e.advance c pulse (some byte)).serial =
      c.writes.foldl (fun s w => w.apply s) s.shiftOneBit.1 := by
    rw [advance_running h.linked hpulse hquiet.1, htick]
  rcases hs.shiftOneBit hbits hpeer hbyte with ⟨hlt, hnext, hreq⟩ | ⟨hlast, hdone, hreq⟩
  · refine .inl ⟨hlt, ⟨hlinked, ?_⟩, hreq⟩
    rw [hserial]
    exact hnext.foldl hquiet
  · refine .inr ⟨hlast, ⟨hlinked, ?_⟩, hreq⟩
    rw [hserial]
    exact hdone.foldl hquiet

/-- A finished transfer stays finished. -/
theorem Finished.hold (h : e.Finished other) (hquiet : c.Quiet) :
    (e.advance c false incoming).Finished other ∧
    ((e.received c false incoming).tickSerial c).2 = none := by
  have hpulse : false = true → e.Clockable c := nofun
  have hdone : (prepareSerial e.serial false incoming).Received other :=
    ⟨h.serial.idle, rfl, h.serial.sb⟩
  have htick := Serial.tickTCycleForSpeed_idle hdone.idle c.speed
  refine ⟨⟨h.linked.advance hpulse, ?_⟩, ?_⟩
  · rw [advance_running h.linked hpulse hquiet.1, htick]
    exact hdone.tickIdleTCycle.foldl hquiet
  · rw [request_running h.linked hpulse hquiet.1, htick]

end Endpoint

end GbCycle
