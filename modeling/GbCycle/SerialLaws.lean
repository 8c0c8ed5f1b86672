import GbCycle.Countdown
import GbCycle.Link.Transfer

/-!
# What the serial unit does in a run

Between two writes to `SC` the unit waits, shifts on eight edges, and is done.  The edges are
counted here from the outside: with the internal clock they are where the counter passes a
multiple of the period, with the external one they are the ticks that find a pulse.  A transfer
is followed from its start by this count alone.
-/

namespace GbCycle

inductive SerialEvent where
  | writeSb (value : U8)
  | writeSc (value : U8)
  | tick (speed : CgbSpeedMode)
  | pulse
  | setPeer (peer : SerialPeer)
  deriving Repr, DecidableEq

namespace SerialEvent

def isTick : SerialEvent → Bool
  | tick _ => true
  | _ => false

def sb? : SerialEvent → Option U8
  | writeSb value => some value
  | _ => none

end SerialEvent

/-- The byte that a whole transfer brings in, when `own` goes out. -/
def SerialPeer.incomingByte (own : U8) : SerialPeer → U8
  | .disconnected => 0xFF
  | .loopback => own
  | .stagedIncomingByte byte => byte

namespace Serial

def step (s : Serial) : SerialEvent → Serial × Option InterruptSource
  | .writeSb value => (s.writeSb value, none)
  | .writeSc value => (s.writeSc value, none)
  | .tick speed => s.tickTCycleForSpeed speed
  | .pulse => (s.queueExternalClockPulse.2, none)
  | .setPeer peer => (s.setPeer peer, none)

def after (s : Serial) (es : List SerialEvent) : Serial := es.foldl (fun s e => (s.step e).1) s

/-- In how many places of a run something happens. -/
def tally (happens : Serial → SerialEvent → Bool) : Serial → List SerialEvent → Nat
  | _, [] => 0
  | s, e :: es => (happens s e).toNat + tally happens (s.step e).1 es

/-- A shift edge: of the divider, or by a pulse that waits. -/
def isEdge (s : Serial) : SerialEvent → Bool
  | .tick speed =>
    s.transferState.isRequested &&
      (match s.clockMode with
      | .internal =>
        (s.clockCounter.toNat + 1) % serialInternalClockPeriod speed s.cgbHighSpeedClock = 0
      | .external => s.externalClockPulsesPending ≠ 0)
  | _ => false

def interrupts (s : Serial) (e : SerialEvent) : Bool := (s.step e).2.isSome

def acceptsPulse (s : Serial) : SerialEvent → Bool
  | .pulse => s.queueExternalClockPulse.1
  | _ => false

/-- The byte that was written to `SB` last, `sb` if none was. -/
def lastWritten (sb : U8) (es : List SerialEvent) : U8 := (es.filterMap SerialEvent.sb?).getLastD sb

/-- A transfer is under way from its first edge to its last. -/
def underWay (s : Serial) : Bool :=
  match s.transferState with
  | .idle => false
  | .transferRequested bits => bits ≠ 0

/-- Events that do not cut a transfer off, and change the peer outside transfers. -/
def Undisturbed (s : Serial) : SerialEvent → Prop
  | .writeSc _ => False
  | .setPeer _ => s.underWay = false
  | _ => True

theorem after_append (s : Serial) (es later : List SerialEvent) :
    s.after (es ++ later) = (s.after es).after later := List.foldl_append

theorem tally_append (happens : Serial → SerialEvent → Bool) (s : Serial)
    (es later : List SerialEvent) :
    s.tally happens (es ++ later) = s.tally happens es + (s.after es).tally happens later := by
  induction es generalizing s with
  | nil => exact (Nat.zero_add _).symm
  | cons e es ih =>
      rw [List.cons_append, tally, ih, tally, Nat.add_assoc]
      rfl

/-! ## Ticks -/

/-- What a tick has shifted of: the unit with its counter, and the pulse, moved on. -/
structure Moved (s d : Serial) : Prop where
  transferState : d.transferState = s.transferState
  clockMode : d.clockMode = s.clockMode
  peer : d.peer = s.peer
  sb : d.sb = s.sb
  staged : d.stagedOutgoingByte = s.stagedOutgoingByte
  outgoing : d.currentOutgoingByte = s.currentOutgoingByte
  outgoingShift : d.currentOutgoingShiftByte = s.currentOutgoingShiftByte
  incoming : d.currentIncomingByte = s.currentIncomingByte
  log : d.completedOutputBytes = s.completedOutputBytes

theorem moved_tickIdleTCycle (s : Serial) : s.Moved s.tickIdleTCycle :=
  ⟨rfl, rfl, rfl, rfl, rfl, rfl, rfl, rfl, rfl⟩

theorem moved_takePulse (s : Serial) : s.Moved s.takePulse :=
  ⟨rfl, rfl, rfl, rfl, rfl, rfl, rfl, rfl, rfl⟩

theorem isEdge_tick (s : Serial) (speed : CgbSpeedMode) :
    s.isEdge (.tick speed) = (s.internalClockEdgePendingThisTCycleForSpeed speed ||
      (s.acceptsExternalClockPulse && s.externalClockPulsesPending ≠ 0)) := by
  unfold isEdge internalClockEdgePendingThisTCycleForSpeed acceptsExternalClockPulse
  rw [serialInternalClockEdge_eq]
  cases s.clockMode <;> cases s.transferState <;> simp [SerialTransferState.isRequested]

/-- What an edge shifts: the unit with the pulse, if it is one, taken. -/
structure Edge (s d : Serial) : Prop where
  moved : s.Moved d
  internal : s.clockMode = .internal →
    d.externalClockPulsesPending = s.externalClockPulsesPending
  pulse : s.clockMode = .external → s.externalClockPulsesPending ≠ 0 ∧
    d.externalClockPulsesPending = s.externalClockPulsesPending - 1

/-- An edge shifts one bit and takes its pulse. -/
theorem tick_of_edge {s : Serial} {speed : CgbSpeedMode} (h : s.isEdge (.tick speed) = true) :
    ∃ d, s.Edge d ∧ s.tickTCycleForSpeed speed = d.shiftOneBit := by
  rw [isEdge_tick, Bool.or_eq_true, Bool.and_eq_true, decide_eq_true_eq] at h
  rcases tickTCycleForSpeed_cases s speed with
    ⟨hedge, htick⟩ | ⟨haccepts, hpulse, htick⟩ | ⟨hquiet, hnone, -⟩
  · refine ⟨_, ⟨s.moved_tickIdleTCycle, fun _ => rfl, fun hmode => ?_⟩, htick⟩
    rw [internalClockEdgePendingThisTCycleForSpeed, hmode] at hedge
    cases hedge
  · refine ⟨_, ⟨s.moved_takePulse, fun hmode => ?_, fun _ => ⟨hpulse, rfl⟩⟩, htick⟩
    rw [acceptsExternalClockPulse, hmode] at haccepts
    cases haccepts
  · rcases h with hedge | ⟨haccepts, hpulse⟩
    · rw [hquiet] at hedge
      cases hedge
    · exact absurd (hnone haccepts) hpulse

/-- Any other tick only counts. -/
theorem tick_of_not_edge {s : Serial} {speed : CgbSpeedMode}
    (h : s.isEdge (.tick speed) = false) :
    s.tickTCycleForSpeed speed = (s.tickIdleTCycle, none) := by
  rw [isEdge_tick, Bool.or_eq_false_iff] at h
  rcases tickTCycleForSpeed_cases s speed with
    ⟨hedge, -⟩ | ⟨haccepts, hpulse, -⟩ | ⟨-, -, htick⟩
  · rw [hedge] at h
    cases h.1
  · rw [haccepts, Bool.true_and, decide_eq_false_iff_not] at h
    exact absurd hpulse h.2
  · exact htick

/-! ## One edge -/

/-- What is left to come in of a byte is in the peer, or in the unit where that latched it. -/
def HoldsRest (s : Serial) (bits : Nat) (own other : U8) : Prop :=
  match s.peer with
  | .disconnected => other = 0xFF
  | .loopback => other = own ∧
      s.currentOutgoingShiftByte.toNat = own.toNat * 2 ^ bits % 256
  | .stagedIncomingByte _ => s.currentIncomingByte.toNat = other.toNat * 2 ^ bits % 256

/-- `bits` bits of a byte are in `SB`. -/
def HoldsHead (s : Serial) (bits : Nat) (other : U8) : Prop :=
  s.sb.toNat % 2 ^ bits = other.toNat / 2 ^ (8 - bits)

/-- A transfer between two of its edges. -/
structure Exchanging (s : Serial) (bits : Nat) (own other : U8) : Prop where
  requested : s.transferState = .transferRequested bits
  positive : 0 < bits
  lt : bits < 8
  outgoing : s.currentOutgoingByte = own
  rest : s.HoldsRest bits own other

theorem holdsRest_latch (s : Serial) :
    s.latch.HoldsRest 0 s.stagedOutgoingByte (s.peer.incomingByte s.stagedOutgoingByte) := by
  unfold HoldsRest SerialPeer.incomingByte latch stagedIncomingByteForPeer
  cases hpeer : s.peer with
  | disconnected => rfl
  | loopback =>
      have hlt := s.stagedOutgoingByte.isLt
      refine ⟨rfl, ?_⟩
      dsimp only
      omega
  | stagedIncomingByte byte =>
      have hlt := byte.isLt
      dsimp only
      omega

variable {s d : Serial} {bits : Nat} {own other : U8}

/-- The bit that comes in is the next of the byte. -/
theorem HoldsRest.shiftLatched (h : d.HoldsRest bits own other) (hbits : bits < 8) :
    d.shiftLatched.HoldsRest (bits + 1) own other ∧
      (d.HoldsHead bits other → d.shiftLatched.HoldsHead (bits + 1) other) := by
  have hnext : ∀ {byte : Nat}, byte = other.toNat * 2 ^ bits % 256 →
      d.HoldsHead bits other →
      (d.sb.toNat * 2 % 256 + (decide (128 ≤ byte)).toNat) % 2 ^ (bits + 1) =
        other.toNat / 2 ^ (8 - (bits + 1)) := fun hbyte hhead =>
    (shift_arith hbits other.isLt hbyte hhead).2
  have hdouble : ∀ {byte : U8} {whole : U8}, byte.toNat = whole.toNat * 2 ^ bits % 256 →
      (byte <<< 1).toNat = whole.toNat * 2 ^ (bits + 1) % 256 := by
    intro byte whole hbyte
    rw [BitVec.toNat_shiftLeft, Nat.shiftLeft_eq, hbyte, Nat.pow_one, Nat.pow_succ (m := bits),
      ← Nat.mul_assoc]
    omega
  unfold HoldsRest at h
  unfold HoldsRest HoldsHead Serial.shiftLatched incomingBitFromPeer
  cases hpeer : d.peer with
  | disconnected =>
      rw [hpeer] at h
      subst h
      refine ⟨rfl, fun hhead => ?_⟩
      have hbit : decide (128 ≤ (0xFF : U8).toNat * 2 ^ bits % 256) = true := by
        interval_cases bits <;> decide
      have harith := hnext rfl hhead
      rw [hbit] at harith
      dsimp only
      rw [shiftIn_toNat]
      exact harith
  | loopback =>
      rw [hpeer] at h
      obtain ⟨rfl, hrest⟩ := h
      refine ⟨⟨rfl, hdouble hrest⟩, fun hhead => ?_⟩
      dsimp only
      rw [shiftIn_toNat, topBit]
      exact hnext hrest hhead
  | stagedIncomingByte byte =>
      rw [hpeer] at h
      refine ⟨hdouble h, fun hhead => ?_⟩
      dsimp only
      rw [shiftIn_toNat, topBit]
      exact hnext h hhead

/-- The unit that an edge has shifted, before it looks whether it is done. -/
def shiftedOnce (d : Serial) (bits : Nat) : Serial :=
  (if bits = 0 then d.latch else d).shiftLatched

theorem shiftOneBit_eq (h : d.transferState = .transferRequested bits) :
    d.shiftOneBit = if bits + 1 = 8 then ((d.shiftedOnce bits).complete, some .serial)
      else ({ d.shiftedOnce bits with transferState := .transferRequested (bits + 1) }, none) := by
  rw [shiftOneBit, h]
  rfl

/-- What an edge of a transfer leaves, if it is not the last. -/
structure Shifted (s s' : Serial) (bits : Nat) (own other : U8) : Prop where
  exchanging : s'.Exchanging (bits + 1) own other
  log : s'.completedOutputBytes = s.completedOutputBytes

/-- What the last edge of a transfer leaves. -/
structure Completed (s s' : Serial) (own : U8) : Prop where
  idle : s'.transferState = .idle
  noPulse : s'.externalClockPulsesPending = 0
  log : s'.completedOutputBytes = s.completedOutputBytes ++ [own]

/-- An edge brings a transfer on by one bit, and the eighth completes it. -/
theorem edge_step (hedge : s.Edge d) (hstate : s.transferState = .transferRequested bits)
    (hbits : bits < 8)
    (hown : (if bits = 0 then s.stagedOutgoingByte else s.currentOutgoingByte) = own)
    (hrest : bits ≠ 0 → s.HoldsRest bits own other)
    (hother : bits = 0 → other = s.peer.incomingByte own) :
    (s.HoldsHead bits other → d.shiftOneBit.1.HoldsHead (bits + 1) other) ∧
      (bits + 1 < 8 → s.Shifted d.shiftOneBit.1 bits own other ∧ d.shiftOneBit.2 = none) ∧
      (bits + 1 = 8 → s.Completed d.shiftOneBit.1 own ∧ d.shiftOneBit.2 = some .serial) := by
  obtain ⟨hmoved, -, -⟩ := hedge
  generalize hl : (if bits = 0 then d.latch else d) = l
  have hlatched : l.HoldsRest bits own other ∧ l.currentOutgoingByte = own ∧ l.sb = s.sb ∧
      l.completedOutputBytes = s.completedOutputBytes := by
    subst hl
    by_cases hzero : bits = 0
    · rw [if_pos hzero] at hown ⊢
      subst hzero
      obtain rfl := hother rfl
      have hheld := d.holdsRest_latch
      rw [hmoved.staged, hmoved.peer, hown] at hheld
      exact ⟨hheld, hmoved.staged.trans hown, hmoved.sb, hmoved.log⟩
    · rw [if_neg hzero] at hown ⊢
      refine ⟨?_, hmoved.outgoing.trans hown, hmoved.sb, hmoved.log⟩
      have hheld := hrest hzero
      unfold HoldsRest at hheld ⊢
      rw [hmoved.peer, hmoved.outgoingShift, hmoved.incoming]
      exact hheld
  obtain ⟨hheld, houtgoing, hsb, hlog⟩ := hlatched
  obtain ⟨hrest', hhead'⟩ := hheld.shiftLatched hbits
  have hstate' : d.transferState = .transferRequested bits := hmoved.transferState.trans hstate
  rw [shiftOneBit_eq hstate', shiftedOnce, hl]
  have hhead : s.HoldsHead bits other → l.shiftLatched.HoldsHead (bits + 1) other := by
    intro h
    refine hhead' ?_
    unfold HoldsHead at h ⊢
    rw [hsb]
    exact h
  by_cases hlast : bits + 1 = 8
  · rw [if_pos hlast]
    refine ⟨hhead, fun hless => absurd hlast (by omega), fun _ => ⟨⟨rfl, rfl, ?_⟩, rfl⟩⟩
    show l.completedOutputBytes ++ [l.currentOutgoingByte] = _
    rw [hlog, houtgoing]
  · rw [if_neg hlast]
    refine ⟨hhead, fun hless => ⟨⟨⟨rfl, Nat.succ_pos bits, hless, houtgoing, hrest'⟩, hlog⟩, rfl⟩,
      fun habsurd => absurd habsurd hlast⟩

/-! ## Events without an edge -/

/-- What an event that is no edge leaves alone. -/
structure Quiet (s s' : Serial) : Prop where
  transferState : s'.transferState = s.transferState
  clockMode : s'.clockMode = s.clockMode
  outgoing : s'.currentOutgoingByte = s.currentOutgoingByte
  outgoingShift : s'.currentOutgoingShiftByte = s.currentOutgoingShiftByte
  incoming : s'.currentIncomingByte = s.currentIncomingByte
  log : s'.completedOutputBytes = s.completedOutputBytes

variable {e : SerialEvent} {es : List SerialEvent}

theorem queueExternalClockPulse_eq (s : Serial) :
    s.queueExternalClockPulse.2 =
      if s.acceptsExternalClockPulse then
        { s with externalClockPulsesPending := saturatingIncrement s.externalClockPulsesPending }
      else s := by
  unfold queueExternalClockPulse
  split <;> rfl

theorem step_quiet (hcut : s.Undisturbed e) (hedge : s.isEdge e = false) :
    s.Quiet (s.step e).1 ∧ (s.step e).2 = none ∧ (s.underWay = true → (s.step e).1.peer = s.peer) ∧
      (e.sb? = none → (s.step e).1.sb = s.sb) := by
  cases e with
  | writeSc value => exact hcut.elim
  | writeSb value => exact ⟨⟨rfl, rfl, rfl, rfl, rfl, rfl⟩, rfl, fun _ => rfl, nofun⟩
  | setPeer peer =>
      refine ⟨⟨rfl, rfl, rfl, rfl, rfl, rfl⟩, rfl, fun hway => ?_, fun _ => rfl⟩
      exact absurd (hway.symm.trans hcut) (by decide)
  | pulse =>
      show s.Quiet s.queueExternalClockPulse.2 ∧ _ ∧
        (_ → s.queueExternalClockPulse.2.peer = s.peer) ∧
        (_ → s.queueExternalClockPulse.2.sb = s.sb)
      rw [queueExternalClockPulse_eq]
      split <;> exact ⟨⟨rfl, rfl, rfl, rfl, rfl, rfl⟩, rfl, fun _ => rfl, fun _ => rfl⟩
  | tick speed =>
      show s.Quiet (s.tickTCycleForSpeed speed).1 ∧ (s.tickTCycleForSpeed speed).2 = none ∧
        (_ → (s.tickTCycleForSpeed speed).1.peer = s.peer) ∧
        (_ → (s.tickTCycleForSpeed speed).1.sb = s.sb)
      rw [tick_of_not_edge hedge]
      exact ⟨⟨rfl, rfl, rfl, rfl, rfl, rfl⟩, rfl, fun _ => rfl, fun _ => rfl⟩

theorem Quiet.exchanging {s' : Serial} (h : s.Quiet s') (hpeer : s'.peer = s.peer)
    (hs : s.Exchanging bits own other) : s'.Exchanging bits own other := by
  refine ⟨h.transferState.trans hs.requested, hs.positive, hs.lt, h.outgoing.trans hs.outgoing, ?_⟩
  have hrest := hs.rest
  unfold HoldsRest at hrest ⊢
  rw [hpeer, h.outgoingShift, h.incoming]
  exact hrest

theorem isEdge_of_idle (h : s.transferState = .idle) (e : SerialEvent) : s.isEdge e = false := by
  unfold isEdge
  cases e with
  | tick speed =>
      dsimp only
      rw [h]
      rfl
  | writeSb value => rfl
  | writeSc value => rfl
  | pulse => rfl
  | setPeer peer => rfl

/-- An edge is a tick. -/
theorem isEdge_tick_of (h : s.isEdge e = true) : ∃ speed, e = .tick speed := by
  cases e with
  | tick speed => exact ⟨speed, rfl⟩
  | writeSb value => cases h
  | writeSc value => cases h
  | pulse => cases h
  | setPeer peer => cases h

/-! ## Runs without a write to `SC` -/

abbrev Uncut (s : Serial) (es : List SerialEvent) : Prop :=
  AllAllowed (fun s e => (s.step e).1) Undisturbed s es

/-- A unit without a transfer stays without one. -/
theorem run_idle (hidle : s.transferState = .idle) (huncut : s.Uncut es) :
    (s.after es).transferState = .idle ∧ s.tally isEdge es = 0 ∧ s.tally interrupts es = 0 ∧
      (s.after es).completedOutputBytes = s.completedOutputBytes := by
  induction es generalizing s with
  | nil => exact ⟨hidle, rfl, rfl, rfl⟩
  | cons e es ih =>
      obtain ⟨hcut, hlater⟩ := huncut
      have hedge := isEdge_of_idle hidle e
      obtain ⟨hquiet, hnone, -, -⟩ := step_quiet hcut hedge
      obtain ⟨hstate, hedges, hirqs, hlog⟩ := ih (hquiet.transferState.trans hidle) hlater
      refine ⟨hstate, ?_, ?_, hlog.trans hquiet.log⟩
      · rw [tally, hedge, hedges]
        rfl
      · rw [tally, interrupts, hnone, hirqs]
        rfl

/-- A transfer without an edge waits. -/
theorem run_waiting (hwaits : s.transferState = .transferRequested 0) (huncut : s.Uncut es)
    (hnone : s.tally isEdge es = 0) :
    (s.after es).transferState = .transferRequested 0 ∧ s.tally interrupts es = 0 ∧
      (s.after es).completedOutputBytes = s.completedOutputBytes := by
  induction es generalizing s with
  | nil => exact ⟨hwaits, rfl, rfl⟩
  | cons e es ih =>
      obtain ⟨hcut, hlater⟩ := huncut
      rw [tally, Nat.add_eq_zero_iff, Bool.toNat_eq_zero] at hnone
      obtain ⟨hedge, hnone⟩ := hnone
      obtain ⟨hquiet, hirq, -, -⟩ := step_quiet hcut hedge
      obtain ⟨hstate, hirqs, hlog⟩ := ih (hquiet.transferState.trans hwaits) hlater hnone
      refine ⟨hstate, ?_, hlog.trans hquiet.log⟩
      rw [tally, interrupts, hirq, hirqs]
      rfl

/-- Where a transfer is after so many edges. -/
structure Progress (s s' : Serial) (edges irqs : Nat) (own other : U8) : Prop where
  le : edges ≤ 8
  between : edges < 8 → s'.Exchanging edges own other ∧ irqs = 0 ∧
    s'.completedOutputBytes = s.completedOutputBytes
  done : edges = 8 → s'.transferState = .idle ∧ irqs = 1 ∧
    s'.completedOutputBytes = s.completedOutputBytes ++ [own]

theorem run_exchanging (h : s.Exchanging bits own other) (huncut : s.Uncut es) :
    s.Progress (s.after es) (bits + s.tally isEdge es) (s.tally interrupts es) own other := by
  induction es generalizing s bits with
  | nil => exact ⟨Nat.le_of_lt h.lt, fun _ => ⟨h, rfl, rfl⟩, fun hdone => absurd h.lt (by
      rw [show bits = 8 from hdone]
      decide)⟩
  | cons e es ih =>
      obtain ⟨hcut, hlater⟩ := huncut
      have hway : s.underWay = true := by
        unfold underWay
        rw [h.requested]
        exact decide_eq_true (Nat.pos_iff_ne_zero.mp h.positive)
      cases hedge : s.isEdge e with
      | false =>
          obtain ⟨hquiet, hirq, hpeer, -⟩ := step_quiet hcut hedge
          have hrun := ih (hquiet.exchanging (hpeer hway) h) hlater
          rw [tally, hedge, Bool.toNat_false, Nat.zero_add, tally, interrupts, hirq,
            Option.isSome_none, Bool.toNat_false, Nat.zero_add]
          refine ⟨hrun.le, fun hlt => ?_, fun hdone => ?_⟩
          · obtain ⟨hexchanging, hirqs, hlog⟩ := hrun.between hlt
            exact ⟨hexchanging, hirqs, hlog.trans hquiet.log⟩
          · obtain ⟨hidle, hirqs, hlog⟩ := hrun.done hdone
            exact ⟨hidle, hirqs, hlog.trans (congrArg (· ++ [own]) hquiet.log)⟩
      | true =>
          obtain ⟨speed, rfl⟩ := isEdge_tick_of hedge
          obtain ⟨d, hd, htick⟩ := tick_of_edge hedge
          have hpositive : bits ≠ 0 := Nat.pos_iff_ne_zero.mp h.positive
          obtain ⟨-, hmore, hlast⟩ := edge_step hd h.requested h.lt
            (by rw [if_neg hpositive]; exact h.outgoing) (fun _ => h.rest)
            (fun hzero => absurd hzero hpositive)
          have hstep : s.step (.tick speed) = d.shiftOneBit := htick
          have hafter : s.after (.tick speed :: es) = d.shiftOneBit.1.after es := by
            rw [← hstep]
            rfl
          rw [tally, hedge, tally, interrupts, hstep, hafter, Bool.toNat_true]
          have hlater : d.shiftOneBit.1.Uncut es := by
            rw [← hstep]
            exact hlater
          by_cases hless : bits + 1 < 8
          · obtain ⟨hshifted, hirq⟩ := hmore hless
            have hrun := ih hshifted.exchanging hlater
            rw [hirq, Option.isSome_none, Bool.toNat_false, Nat.zero_add, ← Nat.add_assoc]
            refine ⟨hrun.le, fun hlt => ?_, fun hdone => ?_⟩
            · obtain ⟨hexchanging, hirqs, hlog⟩ := hrun.between hlt
              exact ⟨hexchanging, hirqs, hlog.trans hshifted.log⟩
            · obtain ⟨hidle, hirqs, hlog⟩ := hrun.done hdone
              exact ⟨hidle, hirqs, hlog.trans (congrArg (· ++ [own]) hshifted.log)⟩
          · have hlt := h.lt
            have height : bits + 1 = 8 := by omega
            obtain ⟨hcompleted, hirq⟩ := hlast height
            obtain ⟨hidle, hedges, hirqs, hlog⟩ := run_idle hcompleted.idle hlater
            rw [hirq, hedges, hirqs, Option.isSome_some, Bool.toNat_true]
            refine ⟨by omega, fun hlt => by omega, fun _ => ⟨hidle, rfl, ?_⟩⟩
            rw [hlog, hcompleted.log]

/-- The head of the byte is in `SB` as long as the program leaves `SB` alone. -/
theorem run_head (h : s.Exchanging bits own other) (hhead : s.HoldsHead bits other)
    (huncut : s.Uncut es) (hsb : es.filterMap SerialEvent.sb? = [])
    (hlt : bits + s.tally isEdge es < 8) :
    (s.after es).HoldsHead (bits + s.tally isEdge es) other := by
  induction es generalizing s bits with
  | nil => exact hhead
  | cons e es ih =>
      obtain ⟨hcut, hlater⟩ := huncut
      have hway : s.underWay = true := by
        unfold underWay
        rw [h.requested]
        exact decide_eq_true (Nat.pos_iff_ne_zero.mp h.positive)
      have hnone : e.sb? = none ∧ es.filterMap SerialEvent.sb? = [] := by
        cases he : e.sb? with
        | none => exact ⟨rfl, by rw [List.filterMap_cons_none he] at hsb; exact hsb⟩
        | some value =>
            rw [List.filterMap_cons_some he] at hsb
            cases hsb
      cases hedge : s.isEdge e with
      | false =>
          obtain ⟨hquiet, -, hpeer, hsame⟩ := step_quiet hcut hedge
          rw [tally, hedge, Bool.toNat_false, Nat.zero_add] at hlt ⊢
          refine ih (hquiet.exchanging (hpeer hway) h) ?_ hlater hnone.2 hlt
          unfold HoldsHead at hhead ⊢
          rw [hsame hnone.1]
          exact hhead
      | true =>
          obtain ⟨speed, rfl⟩ := isEdge_tick_of hedge
          obtain ⟨d, hd, htick⟩ := tick_of_edge hedge
          have hpositive : bits ≠ 0 := Nat.pos_iff_ne_zero.mp h.positive
          obtain ⟨hhead', hmore, -⟩ := edge_step hd h.requested h.lt
            (by rw [if_neg hpositive]; exact h.outgoing) (fun _ => h.rest)
            (fun hzero => absurd hzero hpositive)
          have hstep : s.step (.tick speed) = d.shiftOneBit := htick
          have hlater : d.shiftOneBit.1.Uncut es := by
            rw [← hstep]
            exact hlater
          have hafter : s.after (.tick speed :: es) = d.shiftOneBit.1.after es := by
            rw [← hstep]
            rfl
          rw [tally, hedge, Bool.toNat_true, ← Nat.add_assoc] at hlt ⊢
          rw [hafter]
          rw [hstep] at hlt ⊢
          exact ih (hmore (by omega)).1.exchanging (hhead' hhead) hlater hnone.2 hlt

/-! ## Pulses -/

/-- A pulse that is accepted is one more that waits. -/
theorem acceptsPulse_eq (s : Serial) :
    (s.acceptsPulse .pulse).toNat + s.externalClockPulsesPending.toNat =
      s.queueExternalClockPulse.2.externalClockPulsesPending.toNat := by
  unfold acceptsPulse queueExternalClockPulse
  dsimp only
  split
  · unfold saturatingIncrement
    dsimp only
    by_cases hfull : s.externalClockPulsesPending = 0xFF
    · rw [if_pos hfull, hfull]
      rfl
    · rw [if_neg hfull]
      have hmore : s.externalClockPulsesPending + 1 ≠ s.externalClockPulsesPending := by
        bv_omega
      rw [bne_iff_ne.mpr hmore, Bool.toNat_true]
      bv_omega
  · exact Nat.zero_add _

theorem shiftedOnce_frame (d : Serial) (bits : Nat) :
    (d.shiftedOnce bits).clockMode = d.clockMode ∧
      (d.shiftedOnce bits).externalClockPulsesPending = d.externalClockPulsesPending := by
  unfold shiftedOnce
  split <;> exact ⟨rfl, rfl⟩

/-- A shift that does not complete the transfer leaves the other pulses waiting. -/
theorem shiftOneBit_pulses (d : Serial) :
    d.shiftOneBit.1.clockMode = d.clockMode ∧
      (d.shiftOneBit.1.transferState ≠ .idle →
        d.shiftOneBit.1.externalClockPulsesPending = d.externalClockPulsesPending) := by
  cases hstate : d.transferState with
  | idle =>
      unfold shiftOneBit
      rw [hstate]
      exact ⟨rfl, fun _ => rfl⟩
  | transferRequested bits =>
      obtain ⟨hmode, hpulses⟩ := d.shiftedOnce_frame bits
      rw [shiftOneBit_eq hstate]
      split
      · exact ⟨hmode, fun hgoes => absurd rfl hgoes⟩
      · exact ⟨hmode, fun _ => hpulses⟩

theorem step_pulses (hmode : s.clockMode = .external) (hcut : s.Undisturbed e)
    (hgoes : (s.step e).1.transferState ≠ .idle) :
    (s.acceptsPulse e).toNat + s.externalClockPulsesPending.toNat =
        (s.isEdge e).toNat + (s.step e).1.externalClockPulsesPending.toNat := by
  cases e with
  | writeSc value => exact hcut.elim
  | writeSb value => rfl
  | setPeer peer => rfl
  | pulse =>
      rw [s.acceptsPulse_eq]
      exact (Nat.zero_add _).symm
  | tick speed =>
      cases hedge : s.isEdge (.tick speed) with
      | false =>
          show _ = _ + (s.tickTCycleForSpeed speed).1.externalClockPulsesPending.toNat
          rw [tick_of_not_edge hedge]
          rfl
      | true =>
          obtain ⟨d, hd, htick⟩ := tick_of_edge hedge
          obtain ⟨hpulse, htaken⟩ := hd.pulse hmode
          have hstep : s.step (.tick speed) = d.shiftOneBit := htick
          rw [hstep] at hgoes ⊢
          rw [d.shiftOneBit_pulses.2 hgoes, htaken, Bool.toNat_true]
          show 0 + _ = _
          bv_omega

theorem step_clockMode (hcut : s.Undisturbed e) : (s.step e).1.clockMode = s.clockMode := by
  cases hedge : s.isEdge e with
  | false => exact (step_quiet hcut hedge).1.clockMode
  | true =>
      obtain ⟨speed, rfl⟩ := isEdge_tick_of hedge
      obtain ⟨d, hd, htick⟩ := tick_of_edge hedge
      have hstep : s.step (.tick speed) = d.shiftOneBit := htick
      rw [hstep, d.shiftOneBit_pulses.1, hd.moved.clockMode]

/-- Until a transfer with the external clock is over every pulse that it accepts is an edge or
waits to be one. -/
theorem run_pulses (hmode : s.clockMode = .external) (huncut : s.Uncut es)
    (hgoes : (s.after es).transferState ≠ .idle) :
    s.tally acceptsPulse es + s.externalClockPulsesPending.toNat =
      s.tally isEdge es + (s.after es).externalClockPulsesPending.toNat := by
  induction es generalizing s with
  | nil => rfl
  | cons e es ih =>
      obtain ⟨hcut, hlater⟩ := huncut
      have hstill : (s.step e).1.transferState ≠ .idle := fun hidle =>
        hgoes (run_idle hidle hlater).1
      have hstep := step_pulses hmode hcut hstill
      have hrun := ih ((step_clockMode hcut).trans hmode) hlater hgoes
      rw [tally, tally]
      show _ = _ + ((s.step e).1.after es).externalClockPulsesPending.toNat
      omega

/-! ## Startup -/

/-- A unit as a machine starts it. -/
def started (consoleModel : ConsoleModel) (operatingMode : OperatingMode) (sb sc : U8)
    (clockCounter : U16) : Serial :=
  (newWithOperatingMode consoleModel operatingMode).applyStartupState
    { SerialStartupState.fromRegisters sb sc with clockCounter }

theorem step_staged (s : Serial) (e : SerialEvent) :
    (s.step e).1.stagedOutgoingByte = e.sb?.getD s.stagedOutgoingByte ∧
      (s.step e).1.clockCounter = s.clockCounter + (if e.isTick then 1 else 0) := by
  cases e with
  | writeSb value => exact ⟨rfl, (BitVec.add_zero _).symm⟩
  | writeSc value => exact ⟨rfl, (BitVec.add_zero _).symm⟩
  | setPeer peer => exact ⟨rfl, (BitVec.add_zero _).symm⟩
  | pulse =>
      show s.queueExternalClockPulse.2.stagedOutgoingByte = _ ∧
        s.queueExternalClockPulse.2.clockCounter = _
      rw [queueExternalClockPulse_eq]
      split <;> exact ⟨rfl, (BitVec.add_zero _).symm⟩
  | tick speed =>
      obtain ⟨hcounter, hstaged⟩ := s.tickTCycleForSpeed_frame speed
      exact ⟨hstaged, hcounter⟩

/-- The byte that the next transfer sends is the last one written, and the divider counts the
ticks. -/
theorem run_staged (s : Serial) (es : List SerialEvent) :
    (s.after es).stagedOutgoingByte = lastWritten s.stagedOutgoingByte es ∧
      (s.after es).clockCounter.toNat =
        (s.clockCounter.toNat + es.countP SerialEvent.isTick) % 65536 := by
  induction es generalizing s with
  | nil => exact ⟨rfl, (Nat.mod_eq_of_lt s.clockCounter.isLt).symm⟩
  | cons e es ih =>
      obtain ⟨hstaged, hcounter⟩ := s.step_staged e
      obtain ⟨hlast, hticks⟩ := ih (s.step e).1
      refine ⟨hlast.trans ?_, hticks.trans ?_⟩
      · rw [hstaged]
        unfold lastWritten
        cases he : e.sb? with
        | none => rw [List.filterMap_cons_none he, Option.getD_none]
        | some value => rw [List.filterMap_cons_some he, List.getLastD_cons, Option.getD_some]
      · rw [hcounter, List.countP_cons]
        cases e.isTick with
        | false => simp
        | true =>
            rw [if_pos rfl, if_pos rfl, BitVec.toNat_add, show (1 : U16).toNat = 1 from rfl]
            omega

/-- Without a transfer no pulse waits. -/
def Rested (s : Serial) : Prop := s.transferState = .idle → s.externalClockPulsesPending = 0

theorem rested_shiftOneBit {bits : Nat} (h : d.transferState = .transferRequested bits) :
    d.shiftOneBit.1.Rested := by
  rw [shiftOneBit_eq h]
  split
  · exact fun _ => rfl
  · nofun

theorem Rested.step (h : s.Rested) (e : SerialEvent) : (s.step e).1.Rested := by
  cases e with
  | writeSb value => exact h
  | writeSc value => exact fun _ => rfl
  | setPeer peer => exact h
  | pulse =>
      show s.queueExternalClockPulse.2.Rested
      rw [queueExternalClockPulse_eq]
      split
      · next haccepts =>
          intro hidle
          have hidle : s.transferState = .idle := hidle
          rw [acceptsExternalClockPulse, hidle, SerialTransferState.isRequested,
            Bool.and_false] at haccepts
          cases haccepts
      · exact h
  | tick speed =>
      cases hedge : s.isEdge (.tick speed) with
      | false =>
          show (s.tickTCycleForSpeed speed).1.Rested
          rw [tick_of_not_edge hedge]
          exact h
      | true =>
          obtain ⟨d, hd, htick⟩ := tick_of_edge hedge
          show (s.tickTCycleForSpeed speed).1.Rested
          rw [htick]
          cases hstate : s.transferState with
          | idle => cases (isEdge_of_idle hstate _).symm.trans hedge
          | transferRequested bits =>
              exact rested_shiftOneBit (hd.moved.transferState.trans hstate)

theorem rested_after (h : s.Rested) (es : List SerialEvent) : (s.after es).Rested := by
  induction es generalizing s with
  | nil => exact h
  | cons e es ih => exact ih (h.step e)

/-! ## The law -/

/-- The first edge of a transfer latches both of its bytes. -/
theorem first_edge (hwaits : s.transferState = .transferRequested 0) (hedge : s.isEdge e = true) :
    (s.step e).1.Exchanging 1 s.stagedOutgoingByte (s.peer.incomingByte s.stagedOutgoingByte) ∧
      (s.step e).1.HoldsHead 1 (s.peer.incomingByte s.stagedOutgoingByte) ∧
      (s.step e).2 = none ∧ (s.step e).1.completedOutputBytes = s.completedOutputBytes := by
  obtain ⟨speed, rfl⟩ := isEdge_tick_of hedge
  obtain ⟨d, hd, htick⟩ := tick_of_edge hedge
  have hother : 0 = 0 → s.peer.incomingByte s.stagedOutgoingByte =
      s.peer.incomingByte s.stagedOutgoingByte := fun _ => rfl
  obtain ⟨hhead, hmore, -⟩ := edge_step hd hwaits (by decide) (if_pos rfl)
    (fun habsurd => absurd rfl habsurd) hother
  obtain ⟨hshifted, hnone⟩ := hmore (by decide)
  have hstep : s.step (.tick speed) = d.shiftOneBit := htick
  rw [hstep]
  refine ⟨hshifted.exchanging, hhead ?_, hnone, hshifted.log⟩
  have hlt := (s.peer.incomingByte s.stagedOutgoingByte).isLt
  unfold HoldsHead
  rw [Nat.pow_zero, Nat.mod_one]
  exact (Nat.div_eq_of_lt hlt).symm

/-- The last edge of a transfer completes the byte in `SB`. -/
theorem last_edge (h : s.Exchanging 7 own other) (hhead : s.HoldsHead 7 other)
    (hedge : s.isEdge e = true) : (s.step e).1.sb = other := by
  obtain ⟨speed, rfl⟩ := isEdge_tick_of hedge
  obtain ⟨d, hd, htick⟩ := tick_of_edge hedge
  obtain ⟨hhead', -, -⟩ := edge_step hd h.requested (by decide)
    (by rw [if_neg (by decide)]; exact h.outgoing) (fun _ => h.rest)
    (fun hzero => absurd hzero (by decide))
  have hstep : s.step (.tick speed) = d.shiftOneBit := htick
  rw [hstep]
  have hwhole := hhead' hhead
  unfold HoldsHead at hwhole
  rw [Nat.mod_eq_of_lt (BitVec.isLt _), Nat.sub_self, Nat.pow_zero, Nat.div_one] at hwhole
  exact BitVec.eq_of_toNat_eq hwhole

/-- A transfer from its start, for as long as no write to `SC` cuts it off. -/
theorem transfer_law (consoleModel : ConsoleModel) (operatingMode : OperatingMode) (sb sc : U8)
    (clockCounter : U16) (history : List SerialEvent) {s : Serial}
    (hs : s = (started consoleModel operatingMode sb sc clockCounter).after history)
    (hrequested : s.transferState = .transferRequested 0) :
    -- Up to its first edge it waits.
    (∀ waiting, s.Uncut waiting → s.tally isEdge waiting = 0 →
      (s.after waiting).transferState = .transferRequested 0 ∧ s.tally interrupts waiting = 0 ∧
        (s.after waiting).completedOutputBytes = s.completedOutputBytes) ∧
    -- From there the edges decide where it is.
    (∀ waiting first shifting, s.Uncut (waiting ++ first :: shifting) →
      s.tally isEdge waiting = 0 → (s.after waiting).isEdge first = true →
      ∀ own other n s', own = lastWritten sb (history ++ waiting) →
        other = (s.after waiting).peer.incomingByte own →
        n = s.tally isEdge (waiting ++ first :: shifting) →
        s' = s.after (waiting ++ first :: shifting) →
        n ≤ 8 ∧
        (n < 8 → s'.transferState = .transferRequested n ∧
          s.tally interrupts (waiting ++ first :: shifting) = 0 ∧
          s'.completedOutputBytes = s.completedOutputBytes) ∧
        (n = 8 → s'.transferState = .idle ∧
          s.tally interrupts (waiting ++ first :: shifting) = 1 ∧
          s'.completedOutputBytes = s.completedOutputBytes ++ [own]) ∧
        (∀ head last, shifting = head ++ [last] →
          (s.after (waiting ++ first :: head)).isEdge last = true → n = 8 →
          head.filterMap SerialEvent.sb? = [] → s'.sb = other)) ∧
    -- Its pulses are edges or wait for theirs, and none waits for another transfer.
    (∀ es, s.Uncut es → s.clockMode = .external → (s.after es).transferState ≠ .idle →
      s.tally acceptsPulse es + s.externalClockPulsesPending.toNat =
        s.tally isEdge es + (s.after es).externalClockPulsesPending.toNat) ∧
    (∀ es, (s.after es).transferState = .idle →
      (s.after es).externalClockPulsesPending = 0) ∧
    (∀ es value, value &&& scTransferRequestBit ≠ 0 →
      ((s.after es).writeSc value).transferState = .transferRequested 0 ∧
        ((s.after es).writeSc value).externalClockPulsesPending = 0) ∧
    -- The divider counts the ticks, whatever else happens.
    (∀ es, (s.after es).clockCounter.toNat =
      (clockCounter.toNat + (history ++ es).countP SerialEvent.isTick) % 65536) := by
  have hhistory : ∀ es, s.after es =
      (started consoleModel operatingMode sb sc clockCounter).after (history ++ es) := by
    intro es
    rw [hs, after_append]
  have hrested : s.Rested := by
    rw [hs]
    exact rested_after (fun _ => rfl) history
  refine ⟨fun waiting huncut hnone => run_waiting hrequested huncut hnone, ?_,
    fun es huncut hmode hgoes => run_pulses hmode huncut hgoes,
    fun es => rested_after hrested es, ?_, ?_⟩
  · intro waiting first shifting huncut hnone hfirst own other n s' hown hother hn hs'
    obtain ⟨hwaiting, hirqs, hlog⟩ := run_waiting hrequested huncut.of_append hnone
    have hstaged : (s.after waiting).stagedOutgoingByte = own := by
      rw [hown, hhistory, (run_staged _ _).1]
      rfl
    obtain ⟨hcut, hshifting⟩ := huncut.later
    obtain ⟨hexchanging, hhead, hirq, hlog'⟩ := first_edge hwaiting hfirst
    rw [hstaged, ← hother] at hexchanging hhead
    have hafter : ∀ later, s.after (waiting ++ first :: later) =
        ((s.after waiting).step first).1.after later := fun later => after_append ..
    have hedges : ∀ later, s.tally isEdge (waiting ++ first :: later) =
        1 + ((s.after waiting).step first).1.tally isEdge later := by
      intro later
      rw [tally_append, hnone, tally, hfirst, Nat.zero_add]
      rfl
    have hcalls : s.tally interrupts (waiting ++ first :: shifting) =
        ((s.after waiting).step first).1.tally interrupts shifting := by
      rw [tally_append, hirqs, tally, interrupts, hirq, Nat.zero_add]
      exact Nat.zero_add _
    have hprogress := run_exchanging hexchanging hshifting
    rw [← hafter, ← hedges, ← hcalls, ← hn, ← hs'] at hprogress
    refine ⟨hprogress.le, fun hlt => ?_, fun hdone => ?_, ?_⟩
    · obtain ⟨hstate, hcalls, hkept⟩ := hprogress.between hlt
      exact ⟨hstate.requested, hcalls, hkept.trans (hlog'.trans hlog)⟩
    · obtain ⟨hidle, hcalls, hkept⟩ := hprogress.done hdone
      exact ⟨hidle, hcalls, hkept.trans (congrArg (· ++ [own]) (hlog'.trans hlog))⟩
    · intro head last hsplit hlast hdone hsb
      subst hsplit
      have hseven : 1 + ((s.after waiting).step first).1.tally isEdge head = 7 := by
        rw [hn, hedges, tally_append, ← hafter, tally, hlast] at hdone
        show _ = 7
        rw [show ∀ t : Serial, t.tally isEdge [] = 0 from fun _ => rfl, Bool.toNat_true] at hdone
        omega
      have huncut' : ((s.after waiting).step first).1.Uncut head := hshifting.of_append
      have hbefore := run_exchanging hexchanging huncut'
      have hheld := run_head hexchanging hhead huncut' hsb (by omega)
      rw [hseven] at hbefore hheld
      have hwhole := last_edge (hbefore.between (by decide)).1 hheld
        (by rw [← hafter]; exact hlast)
      rw [hs', hafter, after_append]
      exact hwhole
  · intro es value hvalue
    refine ⟨?_, rfl⟩
    show scTransferState value = _
    unfold scTransferState
    rw [if_pos (bne_iff_ne.mpr hvalue)]
  · intro es
    rw [hhistory, (run_staged _ _).2]
    rfl

/-- A transfer with the clock from outside that loops `A5` back. -/
def loopedBack : Serial :=
  (started .gameBoy .dmg 0x00 0x00 0).after
    [.setPeer .loopback, .writeSb 0xA5, .writeSc 0x80]

/-- Pulses, each with its tick. -/
def pulses (n : Nat) : List SerialEvent := (List.replicate n [.pulse, .tick .normal]).flatten

theorem transfer_law_looped_back :
    (loopedBack.after (pulses 8)).transferState = .idle ∧
      (loopedBack.after (pulses 8)).completedOutputBytes = [0xA5] ∧
      (loopedBack.after (pulses 8)).sb = 0xA5 := by
  obtain ⟨-, hedges, -⟩ := transfer_law .gameBoy .dmg 0x00 0x00 0
    [.setPeer .loopback, .writeSb 0xA5, .writeSc 0x80] (s := loopedBack) rfl rfl
  have huncut : loopedBack.Uncut ([.pulse] ++ .tick .normal :: pulses 7) := by
    repeat' constructor
  obtain ⟨-, -, hdone, hsb⟩ := hedges [.pulse] (.tick .normal) (pulses 7) huncut (by decide)
    (by decide) _ _ _ _ rfl rfl rfl rfl
  obtain ⟨hidle, -, hlog⟩ := hdone (by decide)
  have hwhole := hsb (pulses 6 ++ [.pulse]) (.tick .normal) rfl (by decide) (by decide) rfl
  exact ⟨hidle, hlog.trans rfl, hwhole.trans rfl⟩

/-- A write to `SB` between the edges replaces what has come in, and of nine pulses that a
transfer accepts one shifts nothing. -/
theorem written_between_edges :
    (loopedBack.after (pulses 4 ++ [.writeSb 0x00] ++ pulses 4)).transferState = .idle ∧
      (loopedBack.after (pulses 4 ++ [.writeSb 0x00] ++ pulses 4)).sb = 0x05 ∧
      loopedBack.tally acceptsPulse
        (List.replicate 9 .pulse ++ List.replicate 9 (.tick .normal)) = 9 ∧
      loopedBack.tally isEdge
        (List.replicate 9 .pulse ++ List.replicate 9 (.tick .normal)) = 8 := by
  refine ⟨?_, ?_, ?_, ?_⟩ <;> decide

end Serial

end GbCycle
