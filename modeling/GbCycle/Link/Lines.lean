import GbCycle.Link.Exchange

/-!
# The two lines of the cable

A link cable carries bits: at an edge of the master's clock each console shifts in the bit
the other one shifts out.  The cable of the source hands over whole bytes, and a unit latches
the byte it is handed at its own first bit.  So the lines agree for as long as both units are
in the same transfer, which they are if they began it with a common edge, and nothing but a
write to `SC` or an edge the other console does not take can bring them apart.  A console
that begins to wait in the middle of the other's byte is handed that byte from its top.
-/

namespace GbCycle

/-! ## One unit at an edge -/

namespace Serial

/-- The unit with both bytes of the transfer latched: the first edge does it. -/
def latched (s : Serial) : Serial :=
  if s.transferState = .transferRequested 0 then s.latch else s

/-- The bit the unit shifts out at its next edge. -/
def outgoingBit (s : Serial) : Bool := s.latched.currentOutgoingShiftByte &&& 0x80 != 0

/-- The bit that came in last. -/
def lastIncomingBit (s : Serial) : Bool := s.sb &&& 1 != 0

private theorem shiftedIn_bit (sb : U8) (bit : Bool) :
    ((sb <<< 1 ||| (if bit then 1 else 0)) &&& 1 != 0) = bit := by
  have hmask (w : U8) : w &&& 1 = if w.getLsbD 0 then BitVec.twoPow 8 0 else 0 :=
    BitVec.and_twoPow w 0
  have hlast : (sb <<< 1 ||| (if bit then 1 else 0 : U8)).getLsbD 0 = bit := by
    cases bit <;> simp
  show ((sb <<< 1 ||| (if bit then 1 else 0 : U8)) &&& (1 : U8) != 0) = bit
  rw [hmask, hlast]
  cases bit <;> rfl

variable {s : Serial} {bits : Nat}

theorem latched_eq (h : s.transferState = .transferRequested bits) :
    s.latched = if bits = 0 then s.latch else s := by
  simp only [latched, h, SerialTransferState.transferRequested.injEq]

theorem shiftOneBit_requested (h : s.transferState = .transferRequested bits) :
    s.shiftOneBit =
      if bits + 1 = 8 then (s.latched.shiftLatched.complete, some .serial)
      else
        ({ s.latched.shiftLatched with transferState := .transferRequested (bits + 1) }, none)
      := by
  rw [Serial.shiftOneBit, h, latched_eq h]

theorem latched_peer (s : Serial) : s.latched.peer = s.peer := by
  unfold latched
  split <;> rfl

/-- The bit a shift brings in is the one its peer shows. -/
theorem shiftOneBit_incoming (h : s.transferState = .transferRequested bits) :
    s.shiftOneBit.1.lastIncomingBit =
      (incomingBitFromPeer s.peer s.outgoingBit s.latched.currentIncomingByte).1 := by
  rw [shiftOneBit_requested h, outgoingBit, ← latched_peer]
  split <;> simp only [lastIncomingBit, complete, shiftLatched, shiftedIn_bit]

/-- What a unit keeps of the transfer it is in: how far it is, the bits still to come and
the bits still to go. -/
structure InFlight where
  state : SerialTransferState
  incoming : U8
  outgoing : U8

def inFlight (s : Serial) : InFlight :=
  ⟨s.transferState, s.currentIncomingByte, s.currentOutgoingShiftByte⟩

theorem shiftOneBit_inFlight {byte : U8} (h : s.transferState = .transferRequested bits)
    (hpeer : s.peer = .stagedIncomingByte byte) :
    s.shiftOneBit.1.inFlight =
      if bits + 1 = 8 then ⟨.idle, 0, 0⟩
      else ⟨.transferRequested (bits + 1), s.latched.currentIncomingByte <<< 1,
        s.latched.currentOutgoingShiftByte <<< 1⟩ := by
  have hpeer' : s.latched.peer = .stagedIncomingByte byte := s.latched_peer.trans hpeer
  rw [shiftOneBit_requested h]
  split
  · rfl
  · simp only [inFlight, shiftLatched, hpeer', incomingBitFromPeer]

/-- Of what a unit keeps of its transfer, a program changes nothing but with a write to
`SC`. -/
theorem foldl_inFlight {writes : List SerialWrite} (h : writes.filterMap SerialWrite.sc? = [])
    (s : Serial) : (writes.foldl (fun s w => w.apply s) s).inFlight = s.inFlight := by
  rw [foldl_lastWrite inFlight fun w => w.sc?.map fun sc => ⟨scTransferState sc, 0, 0⟩]
  · rw [← List.map_filterMap, h]
    rfl
  · intro w s
    cases w with
    | sb value => rfl
    | sc value => rfl
    | operatingMode mode =>
        simp only [SerialWrite.apply, applyOperatingModeState]
        split <;> rfl

end Serial

namespace Endpoint

variable {π : Type} {e : Endpoint π} {c : EndpointCycle} {pulse : Bool}
  {incoming : Option U8}

/-- The unit at the edge it has in the cycle. -/
def edgeUnit (e : Endpoint π) (incoming : Option U8) : Serial :=
  (prepareSerial e.serial false incoming).tickIdleTCycle

theorem tick_of_edge
    (hedge : pulse = false ∧
        e.serial.internalClockEdgePendingThisTCycleForSpeed c.speed = true ∨
      pulse = true ∧ e.serial.acceptsExternalClockPulse = true) :
    (prepareSerial e.serial pulse incoming).tickTCycleForSpeed c.speed =
      (e.edgeUnit incoming).shiftOneBit := by
  rcases Serial.tickTCycleForSpeed_cases (prepareSerial e.serial pulse incoming) c.speed with
    ⟨hfall, htick⟩ | ⟨haccepts, hpending, htick⟩ | ⟨hfall, hpending, _⟩
  · rcases hedge with ⟨rfl, _⟩ | ⟨_, haccepts⟩
    · exact htick
    · simp only [Serial.internalClockEdgePendingThisTCycleForSpeed, prepareSerial,
        Serial.acceptsExternalClockPulse, Bool.and_eq_true, beq_iff_eq] at hfall haccepts
      rw [hfall.1.1] at haccepts
      cases haccepts.1
  · rcases hedge with ⟨rfl, _⟩ | ⟨rfl, _⟩
    · exact absurd rfl hpending
    · have htaken : (prepareSerial e.serial true incoming).takePulse = e.edgeUnit incoming := by
        simp [Serial.takePulse, prepareSerial, edgeUnit, Serial.tickIdleTCycle]
      rw [htick, htaken]
  · rcases hedge with ⟨rfl, hown⟩ | ⟨rfl, haccepts⟩
    · exact absurd (hfall.symm.trans hown) Bool.false_ne_true
    · exact absurd (hpending haccepts) (by simp [prepareSerial])

variable [PrinterDevice π]

/-- With an edge the unit after the peripheral ticks is shifted by one bit. -/
theorem tickSerial_of_edge (h : e.Linked) (hstop : c.stopActive = false)
    (hedge : pulse = false ∧
        e.serial.internalClockEdgePendingThisTCycleForSpeed c.speed = true ∨
      pulse = true ∧ e.serial.acceptsExternalClockPulse = true) :
    ((e.received c pulse incoming).tickSerial c).1.serial =
      (e.edgeUnit incoming).shiftOneBit.1 := by
  have hpulse : pulse = true → e.Clockable c := by
    intro hp
    rcases hedge with ⟨hno, _⟩ | ⟨_, haccepts⟩
    · exact absurd (hno.symm.trans hp) Bool.false_ne_true
    · exact ⟨hstop, haccepts⟩
  have hkind := (attachmentKind_setDmg04IncomingByte e.externalPort incoming).trans h.attached
  rw [received_eq h hpulse, tickSerial_eq hkind hstop, ← tick_of_edge hedge]

/-- In a cycle without an edge a transfer stays as it is. -/
theorem advance_inFlight_hold (h : e.Linked) (hsc : c.writes.filterMap SerialWrite.sc? = [])
    (hedge : c.stopActive = false →
      e.serial.internalClockEdgePendingThisTCycleForSpeed c.speed = false) :
    (e.advance c false incoming).serial.inFlight = e.serial.inFlight := by
  have hpulse : false = true → e.Clockable c := nofun
  by_cases hstop : c.stopActive = true
  · rw [advance_stopped h hpulse hstop]
    exact Serial.foldl_inFlight hsc _
  · have hstop := eq_false_of_ne_true hstop
    rw [advance_running h hpulse hstop, tick_of_noEdge (hedge hstop)]
    exact Serial.foldl_inFlight hsc _

theorem advance_inFlight_edge (h : e.Linked) (hstop : c.stopActive = false)
    (hsc : c.writes.filterMap SerialWrite.sc? = [])
    (hedge : pulse = false ∧
        e.serial.internalClockEdgePendingThisTCycleForSpeed c.speed = true ∨
      pulse = true ∧ e.serial.acceptsExternalClockPulse = true) :
    (e.advance c pulse incoming).serial.inFlight =
      (e.edgeUnit incoming).shiftOneBit.1.inFlight := by
  rw [← tickSerial_of_edge h hstop hedge]
  exact Serial.foldl_inFlight hsc _

end Endpoint

namespace LinkedPair

variable {π : Type} [PrinterDevice π] {x : LinkedPair π} {c : PairCycle} {side : Side}

/-! ## The lines in a cycle -/

/-- The bit that is last in `SB` after the peripheral ticks of the cycle. -/
def shiftedInBit (x : LinkedPair π) (c : PairCycle) (side : Side) : Bool :=
  (((x.prepared c).get side).tickSerial (c.get side)).1.serial.lastIncomingBit

/-- At an edge of one console's clock each console shifts in what the other one shifts out,
or a one if the other one does not wait for a clock. -/
def LinesAgree (x : LinkedPair π) (c : PairCycle) : Prop :=
  ∀ master, x.clockEdge c master = true →
    (x.waiting c master.other = true → ∀ side,
      x.shiftedInBit c side = (x.get side.other).serial.outgoingBit) ∧
    (x.waiting c master.other = false → x.shiftedInBit c master = true)

/-- What an edge of that side's own clock or a pulse of the other one's finds. -/
structure Edge (x : LinkedPair π) (c : PairCycle) (side : Side) : Prop where
  running : (c.get side).stopActive = false
  requested : (x.get side).serial.transferState.isRequested = true
  edge : x.clocked c side = false ∧
      (x.get side).serial.internalClockEdgePendingThisTCycleForSpeed (c.get side).speed =
        true ∨
    x.clocked c side = true ∧ (x.get side).serial.acceptsExternalClockPulse = true

omit [PrinterDevice π] in
/-- A console whose own clock falls waits for no other. -/
theorem clocked_of_clockEdge (h : x.clockEdge c side = true) : x.clocked c side = false := by
  simp only [clockEdge, Endpoint.dmg04EndpointState, Bool.and_eq_true, beq_iff_eq] at h
  rw [clocked, waiting, Endpoint.dmg04EndpointState, h.1.2]
  simp

omit [PrinterDevice π] in
theorem edge_of_clockEdge (h : x.clockEdge c side = true) : Edge x c side := by
  have hclocked := clocked_of_clockEdge h
  simp only [clockEdge, Endpoint.dmg04EndpointState, Bool.and_eq_true, Bool.not_eq_true'] at h
  obtain ⟨⟨⟨⟨-, hreq⟩, hstop⟩, -⟩, hedge⟩ := h
  exact ⟨hstop, hreq, .inl ⟨hclocked, hedge⟩⟩

omit [PrinterDevice π] in
theorem edge_of_clocked (h : x.clocked c side = true) : Edge x c side := by
  obtain ⟨hstop, haccepts⟩ := clockable_of_clocked h
  refine ⟨hstop, ?_, .inr ⟨h, haccepts⟩⟩
  simp only [Serial.acceptsExternalClockPulse, Bool.and_eq_true] at haccepts
  exact haccepts.2

/-- The unit of that side at its edge. -/
def edgeUnit (x : LinkedPair π) (c : PairCycle) (side : Side) : Serial :=
  (x.get side).edgeUnit (x.incomingByte c side)

omit [PrinterDevice π] in
theorem edgeUnit_transferState (x : LinkedPair π) (c : PairCycle) (side : Side) :
    (x.edgeUnit c side).transferState = (x.get side).serial.transferState := rfl

theorem shiftedInBit_of_edge (hx : x.Linked) (h : Edge x c side) :
    x.shiftedInBit c side = (x.edgeUnit c side).shiftOneBit.1.lastIncomingBit := by
  rw [shiftedInBit, get_prepared, Endpoint.tickSerial_of_edge (hx side) h.running h.edge]
  rfl

/-- A master no console takes the edge of sees the open line. -/
theorem shiftedInBit_of_loneEdge (hx : x.Linked) {master : Side}
    (hedge : x.clockEdge c master = true) (hwait : x.waiting c master.other = false) :
    x.shiftedInBit c master = true := by
  have hmine := edge_of_clockEdge hedge
  have hnone : x.incomingByte c master = none := by
    have hother : x.clocked c master.other = false := by rw [clocked, hwait, Bool.and_false]
    rw [incomingByte, clocked_of_clockEdge hedge, hother]
    rfl
  obtain ⟨bits, hbits⟩ : ∃ bits,
      (x.get master).serial.transferState = .transferRequested bits := by
    have hreq := hmine.requested
    cases hstate : (x.get master).serial.transferState with
    | idle => rw [hstate] at hreq; cases hreq
    | transferRequested bits => exact ⟨bits, rfl⟩
  rw [shiftedInBit_of_edge hx hmine, Serial.shiftOneBit_incoming
    ((edgeUnit_transferState x c master).trans hbits)]
  simp only [edgeUnit, Endpoint.edgeUnit, Endpoint.prepareSerial, hnone, stagedLinePeer,
    Serial.tickIdleTCycle, Serial.incomingBitFromPeer]

/-! ## Both units in one transfer -/

/-- The units are in one transfer of which they have shifted the same number of bits: what
is still to come to the one is what is still to go from the other. -/
structure InStep (x : LinkedPair π) (bits : Nat) : Prop where
  started : bits ≠ 0
  requested : ∀ side, (x.get side).serial.transferState = .transferRequested bits
  crossed : ∀ side, (x.get side).serial.currentIncomingByte =
    (x.get side.other).serial.currentOutgoingShiftByte

/-- Either the units are in one transfer, or it is over. -/
def Paired (x : LinkedPair π) : Prop :=
  (∀ side, (x.get side).serial.transferState = .idle) ∨ ∃ bits, x.InStep bits

/-- One clock falls and the other console waits for it. -/
def commonEdge (x : LinkedPair π) (c : PairCycle) : Bool :=
  x.clocked c .left || x.clocked c .right

/-- A clock falls and the other console does not wait for it. -/
def loneEdge (x : LinkedPair π) (c : PairCycle) : Bool :=
  (x.clockEdge c .left && !x.waiting c .right) || (x.clockEdge c .right && !x.waiting c .left)

/-- Both units have a transfer to begin. -/
def atFirstBit (x : LinkedPair π) : Bool :=
  x.left.serial.transferState == .transferRequested 0 &&
    x.right.serial.transferState == .transferRequested 0

/-- A program starts or gives up a transfer in the cycle. -/
def writesSc (c : PairCycle) : Bool :=
  !((c.left.writes ++ c.right.writes).filterMap SerialWrite.sc?).isEmpty

/-- Whether the units are, after the cycle, in a transfer they began with a common edge:
only a write to `SC` and a lone edge end it early. -/
def pairedAfter (x : LinkedPair π) (c : PairCycle) (paired : Bool) : Bool :=
  (if x.commonEdge c then paired || x.atFirstBit else paired && !x.loneEdge c) &&
    !writesSc c

/-- At every common edge of the run both units begin their transfer, or are in one they
began with a common edge.  `paired` says whether they are in one at the start. -/
def Aligned (x : LinkedPair π) (paired : Bool) : List PairCycle → Prop
  | [] => True
  | c :: cs => (x.commonEdge c = true → paired = true ∨ x.atFirstBit = true) ∧
      (x.advanceTCycle c).Aligned (x.pairedAfter c paired) cs

omit [PrinterDevice π] in
theorem commonEdge_eq_true : x.commonEdge c = true ↔ ∃ master,
    x.clockEdge c master = true ∧ x.waiting c master.other = true := by
  simp only [commonEdge, clocked, Bool.or_eq_true, Bool.and_eq_true]
  constructor
  · rintro (h | h)
    · exact ⟨.right, h⟩
    · exact ⟨.left, h⟩
  · rintro ⟨master, h⟩
    cases master with
    | left => exact .inr h
    | right => exact .inl h

omit [PrinterDevice π] in
/-- At a common edge both units shift. -/
theorem edge_of_commonEdge (h : x.commonEdge c = true) : ∀ side, Edge x c side := by
  obtain ⟨master, hedge, hwait⟩ := commonEdge_eq_true.mp h
  refine forall_side master (edge_of_clockEdge hedge) (edge_of_clocked ?_)
  rw [clocked, Side.other_other, hedge, hwait]
  rfl

omit [PrinterDevice π] in
/-- At a common edge each console is handed the byte of the other one. -/
theorem incomingByte_of_commonEdge (h : x.commonEdge c = true) (side : Side) :
    x.incomingByte c side = some (x.get side.other).serial.endpointOutgoingByte := by
  have hclocked : (x.clocked c side || x.clocked c side.other) = true := by
    cases side with
    | left => exact h
    | right => exact (Bool.or_comm _ _).trans h
  rw [incomingByte, if_pos hclocked]

/-- Both units are about to shift the same bit of the bytes they hand each other. -/
structure Facing (x : LinkedPair π) (c : PairCycle) (bits : Nat) : Prop where
  requested : ∀ side, (x.get side).serial.transferState = .transferRequested bits
  crossed : ∀ side, (x.edgeUnit c side).latched.currentIncomingByte =
    (x.get side.other).serial.latched.currentOutgoingShiftByte

omit [PrinterDevice π] in
theorem facing_of_commonEdge {paired : Bool} (hpaired : paired = true → x.Paired)
    (hcommon : x.commonEdge c = true) (halign : paired = true ∨ x.atFirstBit = true) :
    ∃ bits, x.Facing c bits := by
  have hfirst : x.atFirstBit = true → x.Facing c 0 := by
    intro h
    simp only [atFirstBit, Bool.and_eq_true, beq_iff_eq] at h
    have hrequested : ∀ side, (x.get side).serial.transferState = .transferRequested 0 :=
      forall_side .left h.1 h.2
    refine ⟨hrequested, fun side => ?_⟩
    have hbyte := incomingByte_of_commonEdge hcommon side
    rw [Serial.endpointOutgoingByte_requested (hrequested side.other), if_pos rfl] at hbyte
    rw [Serial.latched_eq (hrequested side.other),
      Serial.latched_eq ((edgeUnit_transferState x c side).trans (hrequested side)), if_pos rfl,
      if_pos rfl]
    show Serial.stagedIncomingByteForPeer (stagedLinePeer (x.incomingByte c side)) = _
    rw [hbyte]
    rfl
  rcases halign with hp | hzero
  · rcases hpaired hp with hidle | ⟨bits, hstep⟩
    · have hreq := (edge_of_commonEdge hcommon .left).requested
      rw [hidle .left] at hreq
      cases hreq
    · refine ⟨bits, hstep.requested, fun side => ?_⟩
      rw [Serial.latched_eq (hstep.requested side.other),
        Serial.latched_eq ((edgeUnit_transferState x c side).trans (hstep.requested side)),
        if_neg hstep.started, if_neg hstep.started]
      exact hstep.crossed side
  · exact ⟨0, hfirst hzero⟩

variable {bits : Nat} {paired : Bool}

omit [PrinterDevice π] in
/-- What a unit sends does not depend on what it is handed. -/
theorem edgeUnit_outgoing (x : LinkedPair π) (c : PairCycle) (side : Side) :
    (x.edgeUnit c side).latched.currentOutgoingShiftByte =
      (x.get side).serial.latched.currentOutgoingShiftByte := by
  by_cases h : (x.get side).serial.transferState = .transferRequested 0
  · rw [Serial.latched, Serial.latched, if_pos h, if_pos ((edgeUnit_transferState ..).trans h)]
    rfl
  · rw [Serial.latched, Serial.latched, if_neg h,
      if_neg (fun h' => h ((edgeUnit_transferState x c side).symm.trans h'))]
    rfl

omit [PrinterDevice π] in
theorem edgeUnit_peer (hcommon : x.commonEdge c = true) (side : Side) :
    (x.edgeUnit c side).peer =
      .stagedIncomingByte (x.get side.other).serial.endpointOutgoingByte := by
  show stagedLinePeer (x.incomingByte c side) = _
  rw [incomingByte_of_commonEdge hcommon]
  rfl

/-- Two units that face each other shift in what the other one shifts out. -/
theorem Facing.shiftedInBit (h : x.Facing c bits) (hx : x.Linked)
    (hcommon : x.commonEdge c = true) (side : Side) :
    x.shiftedInBit c side = (x.get side.other).serial.outgoingBit := by
  rw [shiftedInBit_of_edge hx (edge_of_commonEdge hcommon side),
    Serial.shiftOneBit_incoming ((edgeUnit_transferState ..).trans (h.requested side)),
    edgeUnit_peer hcommon, Serial.incomingBitFromPeer, h.crossed side]
  rfl

/-- A common edge leaves them in one transfer, unless a program starts another one. -/
theorem Facing.next (h : x.Facing c bits) (hx : x.Linked) (hcommon : x.commonEdge c = true)
    (hsc : ∀ side, (c.get side).writes.filterMap SerialWrite.sc? = []) :
    (x.advanceTCycle c).Paired := by
  have hnext : ∀ side, ((x.advanceTCycle c).get side).serial.inFlight =
      if bits + 1 = 8 then ⟨.idle, 0, 0⟩
      else ⟨.transferRequested (bits + 1),
        (x.get side.other).serial.latched.currentOutgoingShiftByte <<< 1,
        (x.get side).serial.latched.currentOutgoingShiftByte <<< 1⟩ := by
    intro side
    have hedge := edge_of_commonEdge hcommon side
    rw [get_advance, Endpoint.advance_inFlight_edge (hx side) hedge.running (hsc side) hedge.edge,
      ← h.crossed side, ← edgeUnit_outgoing]
    exact Serial.shiftOneBit_inFlight ((edgeUnit_transferState x c side).trans (h.requested side))
      (edgeUnit_peer hcommon side)
  by_cases hlast : bits + 1 = 8
  · refine .inl fun side => ?_
    have hstate := congrArg Serial.InFlight.state (hnext side)
    rw [if_pos hlast] at hstate
    exact hstate
  · simp only [if_neg hlast] at hnext
    refine .inr ⟨bits + 1, Nat.succ_ne_zero bits, fun side => ?_, fun side => ?_⟩
    · exact congrArg Serial.InFlight.state (hnext side)
    · have hin := congrArg Serial.InFlight.incoming (hnext side)
      have hout := congrArg Serial.InFlight.outgoing (hnext side.other)
      exact hin.trans hout.symm

omit [PrinterDevice π] in
theorem clockEdge_eq_false (hcommon : x.commonEdge c = false) (hlone : x.loneEdge c = false) :
    ∀ side, x.clockEdge c side = false := by
  have h : x.clockEdge c .left = false ∧ x.clockEdge c .right = false := by
    revert hcommon hlone
    simp only [commonEdge, loneEdge, clocked, Side.other]
    generalize x.clockEdge c .left = l
    generalize x.clockEdge c .right = r
    generalize x.waiting c .left = wl
    generalize x.waiting c .right = wr
    revert l r wl wr
    decide
  exact forall_side .left h.1 h.2

/-- In a cycle without an edge both units stay where they are. -/
theorem Paired.hold (h : x.Paired) (hx : x.Linked) (hcommon : x.commonEdge c = false)
    (hlone : x.loneEdge c = false)
    (hsc : ∀ side, (c.get side).writes.filterMap SerialWrite.sc? = []) :
    (x.advanceTCycle c).Paired := by
  have hno := clockEdge_eq_false hcommon hlone
  have hkeep : ∀ side, ((x.advanceTCycle c).get side).serial.inFlight =
      (x.get side).serial.inFlight := by
    intro side
    have hclocked : x.clocked c side = false := by rw [clocked, hno, Bool.false_and]
    rw [get_advance, hclocked]
    refine Endpoint.advance_inFlight_hold (hx side) (hsc side) fun hstop => ?_
    have hside := hno side
    simp only [clockEdge, Endpoint.dmg04EndpointState, (hx side).attached, hstop] at hside
    simp only [Serial.internalClockEdgePendingThisTCycleForSpeed] at hside ⊢
    simp_all
  rcases h with hidle | ⟨bits, hstep⟩
  · refine .inl fun side => ?_
    exact (congrArg Serial.InFlight.state (hkeep side)).trans (hidle side)
  · refine .inr ⟨bits, hstep.started, fun side => ?_, fun side => ?_⟩
    · exact (congrArg Serial.InFlight.state (hkeep side)).trans (hstep.requested side)
    · exact ((congrArg Serial.InFlight.incoming (hkeep side)).trans (hstep.crossed side)).trans
        (congrArg Serial.InFlight.outgoing (hkeep side.other)).symm

/-! ## Runs -/

theorem paired_advance (hx : x.Linked) (hpaired : paired = true → x.Paired)
    (halign : x.commonEdge c = true → paired = true ∨ x.atFirstBit = true) :
    x.pairedAfter c paired = true → (x.advanceTCycle c).Paired := by
  intro hafter
  simp only [pairedAfter, writesSc, Bool.and_eq_true, Bool.not_not, List.isEmpty_iff,
    List.filterMap_append, List.append_eq_nil_iff] at hafter
  obtain ⟨hedges, hleft, hright⟩ := hafter
  have hsc : ∀ side, (c.get side).writes.filterMap SerialWrite.sc? = [] :=
    forall_side .left hleft hright
  cases hcommon : x.commonEdge c with
  | true =>
      obtain ⟨bits, hfacing⟩ := facing_of_commonEdge hpaired hcommon (halign hcommon)
      exact hfacing.next hx hcommon hsc
  | false =>
      rw [hcommon, if_neg Bool.false_ne_true, Bool.and_eq_true, Bool.not_eq_true'] at hedges
      exact (hpaired hedges.1).hold hx hcommon hedges.2 hsc

theorem linesAgree_of_aligned (hx : x.Linked) (hpaired : paired = true → x.Paired)
    (halign : x.commonEdge c = true → paired = true ∨ x.atFirstBit = true) :
    x.LinesAgree c := by
  intro master hedge
  refine ⟨fun hwait => ?_, shiftedInBit_of_loneEdge hx hedge⟩
  have hcommon := commonEdge_eq_true.mpr ⟨master, hedge, hwait⟩
  obtain ⟨bits, hfacing⟩ := facing_of_commonEdge hpaired hcommon (halign hcommon)
  exact hfacing.shiftedInBit hx hcommon

theorem linesAgree_of_paired {x : LinkedPair π} {cs : List PairCycle} {paired : Bool}
    (hx : x.Linked) (hpaired : paired = true → x.Paired) (halign : x.Aligned paired cs)
    {before after : List PairCycle} {c : PairCycle} (hcs : cs = before ++ c :: after) :
    (x.run before).LinesAgree c := by
  induction cs generalizing x paired before with
  | nil => cases before <;> cases hcs
  | cons d cs ih =>
      cases before with
      | nil =>
          obtain ⟨rfl, rfl⟩ := List.cons.inj hcs
          exact linesAgree_of_aligned hx hpaired halign.1
      | cons d' before =>
          obtain ⟨rfl, hrest⟩ := List.cons.inj hcs
          exact ih (hx.advance d) (paired_advance hx hpaired halign.1) halign.2 hrest

/-- Take any run of two consoles on the cable, whatever their programs write.  A master whose
edge no console takes shifts in a one.  If at every common edge both units begin their
transfer or are in one they began with a common edge, the lines agree in every cycle. -/
theorem dmg04_lines {x : LinkedPair π} (hx : x.Linked) (cs : List PairCycle) :
    (∀ before c after, cs = before ++ c :: after → ∀ master,
      (x.run before).clockEdge c master = true →
      (x.run before).waiting c master.other = false →
      (x.run before).shiftedInBit c master = true) ∧
    (x.Aligned false cs → ∀ before c after, cs = before ++ c :: after →
      (x.run before).LinesAgree c) := by
  refine ⟨fun before c after _ master hedge hwait => ?_, fun halign before c after hcs => ?_⟩
  · exact shiftedInBit_of_loneEdge (hx.run before) hedge hwait
  · exact linesAgree_of_paired hx (fun h => absurd h Bool.false_ne_true) halign hcs

instance decidableAligned (x : LinkedPair π) (paired : Bool) :
    (cs : List PairCycle) → Decidable (x.Aligned paired cs)
  | [] => .isTrue trivial
  | c :: cs =>
      @instDecidableAnd _ _ inferInstance
        (decidableAligned (x.advanceTCycle c) (x.pairedAfter c paired) cs)

/-! ## A console that begins to wait in the middle of a byte -/

/-- A fast clock: a bit takes eight cycles. -/
def fastCycle (left right : List SerialWrite) : PairCycle :=
  { left := { speed := .double, stopActive := false, writes := left }
    right := { speed := .double, stopActive := false, writes := right } }

def freshCgbPair : LinkedPair Empty :=
  let fresh : Endpoint Empty :=
    { serial := Serial.newWithOperatingMode .gameBoyColor .cgb
      externalPort := { attachment := .none }
      externalSerialClockPulsesPending := 0 }
  attachDmg04Cable { left := fresh, right := fresh }

/-- The left program sends `80` with its own clock; the right one asks for a byte before or
after the first of the eight bits. -/
def sendCycles (late : Bool) : List PairCycle :=
  [fastCycle [.sb 0x80, .sc 0x83] (if late then [] else [.sc 0x80])] ++
    List.replicate 7 (fastCycle [] []) ++
    [fastCycle [] (if late then [.sc 0x80] else [])] ++ List.replicate 6 (fastCycle [] [])

theorem freshCgbPair_linked : freshCgbPair.Linked :=
  linked_attachDmg04Cable (forall_side .left rfl rfl) (forall_side .left rfl rfl)

/-- The right console asks in time and the lines agree at the second bit. -/
theorem dmg04_lines_inTime :
    (freshCgbPair.run (sendCycles false)).LinesAgree (fastCycle [] []) :=
  (dmg04_lines freshCgbPair_linked (sendCycles false ++ [fastCycle [] []])).2
    (by decide +kernel) (sendCycles false) (fastCycle [] []) [] rfl

/-- The right console asks one bit too late.  At the next edge the left one shifts out the
second bit of its byte, a zero, and the right one shifts in the first one. -/
theorem dmg04_lines_late : freshCgbPair.Linked ∧
    ¬ (freshCgbPair.run (sendCycles true)).LinesAgree (fastCycle [] []) := by
  refine ⟨freshCgbPair_linked, fun h => ?_⟩
  have hbits := (h .left (by decide +kernel)).1 (by decide +kernel) .right
  have hin : (freshCgbPair.run (sendCycles true)).shiftedInBit (fastCycle [] []) .right =
      true := by decide +kernel
  have hout : ((freshCgbPair.run (sendCycles true)).get .left).serial.outgoingBit = false := by
    decide +kernel
  exact absurd ((hin.symm.trans hbits).trans hout) (by decide)

end LinkedPair

end GbCycle
