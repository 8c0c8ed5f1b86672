import GbCycle.Link.Dmg07Packets

/-!
# A session on the DMG-07

The adapter's T-cycles and the bytes of the protocol are two views of one session.  A byte
takes eight bits, one every 67 T-cycles; in the T-cycle of the last one the protocol moves on
and the delay to the next byte is set.  `Dmg07Byte.next` is that step, and the adapter's run
realises it for whatever the consoles do.  What the protocol's invariant says of the bytes is
then said of the run.
-/

namespace GbCycle

/-- A byte that is about to be sent, and the T-cycle of its first bit. -/
structure Dmg07Byte where
  protocol : Dmg07Protocol
  start : Nat

namespace Dmg07Byte

def bitTCycle (b : Dmg07Byte) (bit : Nat) : Nat := b.start + bit * dmg07SerialBitPeriodTCycles

/-- The port takes one of the first `bits` bits. -/
def clocked (b : Dmg07Byte) (attached : Dmg07Port → Bool) (env : Nat → Dmg07Cycle) (bits : Nat)
    (port : Dmg07Port) : Bool :=
  attached port &&
    (List.range bits).any fun bit => (env (b.bitTCycle bit)).waitingForExternalClock port

/-- What each port that took part in the byte has completed with its last bit. -/
def answer (b : Dmg07Byte) (attached : Dmg07Port → Bool) (env : Nat → Dmg07Cycle) :
    Dmg07Answer := fun port =>
  if b.clocked attached env 8 port then (env (b.bitTCycle 7)).latestCompletedOutputByte port
  else none

def next (attached : Dmg07Port → Bool) (env : Nat → Dmg07Cycle) (b : Dmg07Byte) : Dmg07Byte :=
  let protocol := (b.protocol.completeByte (b.answer attached env)).getD b.protocol
  { protocol := protocol
    start := b.bitTCycle 7 + max protocol.delayAfterCompletedByteTCycles 1 }

/-- Byte `k` of the session of an adapter that is plugged in before T-cycle `t`. -/
def nth (attached : Dmg07Port → Bool) (env : Nat → Dmg07Cycle) (t k : Nat) : Dmg07Byte :=
  (next attached env)^[k]
    { protocol := .new, start := max t dmg07InitialByteDelayTCycles }

end Dmg07Byte

/-! ## The adapter in a byte -/

/-- Before T-cycle `t` the adapter has queued `bits` bits of the byte. -/
structure Sending (ports : Dmg07Port → Bool) (env : Nat → Dmg07Cycle) (b : Dmg07Byte)
    (bits t : Nat) (a : Dmg07Adapter) : Prop where
  attached : a.attached = ports
  protocol : a.protocol = b.protocol
  queued : a.byteEngine.queuedBitsForByte = bits
  notPending : a.byteEngine.byteCompletionPending = false
  next : max t a.byteEngine.nextBitTCycle = b.bitTCycle bits
  clocked : a.clockedPortsForByte = b.clocked ports env bits

section Run

variable {attached : Dmg07Port → Bool} {env : Nat → Dmg07Cycle} {b : Dmg07Byte} {bits t : Nat}
  {a : Dmg07Adapter}

theorem Sending.new (attached : Dmg07Port → Bool) (env : Nat → Dmg07Cycle) (t : Nat) :
    Sending attached env (.nth attached env t 0) 0 t (.new attached) where
  attached := rfl
  protocol := rfl
  queued := rfl
  notPending := rfl
  next := by rw [Dmg07Byte.bitTCycle, Nat.zero_mul]; rfl
  clocked := by
    funext port
    show false = (attached port && _)
    rw [List.range_zero, List.any_nil, Bool.and_false]

/-- Between two bits the adapter waits. -/
theorem Sending.hold (h : Sending attached env b bits t a) (ht : t < b.bitTCycle bits)
    (c : Dmg07Cycle) :
    a.advanceTCycle t c = some a ∧ Sending attached env b bits (t + 1) a ∧
      a.handedOut t c = fun _ => none := by
  obtain ⟨hattached, hprotocol, hqueued, hpending, hnext, hclocked⟩ := h
  have hlater : t < a.byteEngine.nextBitTCycle := by omega
  have hprepare : a.preparePhase t c = some (fun _ => none, a) := by
    rw [Dmg07Adapter.preparePhase, Dmg07ByteEngine.shouldQueueBit, hpending, if_neg]
    simpa using hlater
  refine ⟨?_, ⟨hattached, hprotocol, hqueued, hpending, by omega, hclocked⟩, ?_⟩
  · rw [Dmg07Adapter.advanceTCycle, hprepare]
    exact if_neg (Bool.eq_false_iff.mp hpending)
  · rw [Dmg07Adapter.handedOut, hprepare]

theorem Dmg07Byte.clocked_succ (b : Dmg07Byte) (attached : Dmg07Port → Bool)
    (env : Nat → Dmg07Cycle) (bits : Nat) (port : Dmg07Port) :
    b.clocked attached env (bits + 1) port = (b.clocked attached env bits port ||
      (attached port && (env (b.bitTCycle bits)).waitingForExternalClock port)) := by
  rw [clocked, clocked, List.range_succ, List.any_append, Bool.and_or_distrib_left]
  simp only [List.any_cons, List.any_nil, Bool.or_false]

/-- In the T-cycle of a bit every port that waits for it is handed the byte. -/
theorem Sending.prepare (h : Sending attached env b bits t a) (ht : t = b.bitTCycle bits)
    (hincoming : ∀ port, (b.protocol.incomingByteFor port).isSome = true) :
    ∃ a', a.preparePhase t (env t) =
        some (fun port =>
          if attached port && (env t).waitingForExternalClock port then
            b.protocol.incomingByteFor port
          else none, a') ∧
      a'.attached = attached ∧ a'.protocol = b.protocol ∧
      a'.byteEngine = a.byteEngine.recordQueuedBit t ∧
      a'.clockedPortsForByte = b.clocked attached env (bits + 1) := by
  obtain ⟨hattached, hprotocol, hqueued, hpending, hnext, hclocked⟩ := h
  have hqueue : a.byteEngine.shouldQueueBit t = true := by
    rw [Dmg07ByteEngine.shouldQueueBit, hpending, Bool.not_false, Bool.true_and,
      decide_eq_true_eq]
    omega
  have hall : ∀ port ∈ Dmg07Port.all, a.attached port = true →
      (a.protocol.incomingByteFor port).isSome = true := by
    intro port _ _
    rw [hprotocol]
    exact hincoming port
  rw [Dmg07Adapter.preparePhase, if_pos hqueue, if_pos hall]
  refine ⟨_, congrArg some (Prod.ext ?_ rfl), hattached, hprotocol, rfl, ?_⟩
  · funext port
    simp only [Dmg07Adapter.clocks, hattached, hprotocol]
  · funext port
    simp only [Dmg07Adapter.clocks, hattached, hclocked, Dmg07Byte.clocked_succ, ← ht]

theorem Sending.bit (h : Sending attached env b bits t a) (ht : t = b.bitTCycle bits)
    (hbits : bits < 7) (hincoming : ∀ port, (b.protocol.incomingByteFor port).isSome = true) :
    ∃ a', a.advanceTCycle t (env t) = some a' ∧
      Sending attached env b (bits + 1) (t + 1) a' := by
  obtain ⟨a', hprepare, hattached, hprotocol, hengine, hclocked⟩ := h.prepare ht hincoming
  have hrecord : a.byteEngine.recordQueuedBit t =
      { a.byteEngine with
        queuedBitsForByte := bits + 1
        nextBitTCycle := t + dmg07SerialBitPeriodTCycles } := by
    rw [Dmg07ByteEngine.recordQueuedBit, h.queued]
    exact if_neg (by dsimp only; omega)
  rw [hrecord] at hengine
  have hpending : a'.byteEngine.byteCompletionPending = false := by
    rw [hengine]
    exact h.notPending
  refine ⟨a', ?_, hattached, hprotocol, by rw [hengine], hpending, ?_, hclocked⟩
  · rw [Dmg07Adapter.advanceTCycle, hprepare]
    exact if_neg (Bool.eq_false_iff.mp hpending)
  · rw [hengine, ht]
    simp only [Dmg07Byte.bitTCycle, dmg07SerialBitPeriodTCycles]
    omega

/-- The last bit completes the byte. -/
theorem Sending.lastBit (h : Sending attached env b 7 t a) (ht : t = b.bitTCycle 7)
    (hincoming : ∀ port, (b.protocol.incomingByteFor port).isSome = true)
    {q : Dmg07Protocol} (hq : b.protocol.completeByte (b.answer attached env) = some q) :
    ∃ a', a.advanceTCycle t (env t) = some a' ∧
      Sending attached env (b.next attached env) 0 (t + 1) a' := by
  obtain ⟨a', hprepare, hattached, hprotocol, hengine, hclocked⟩ := h.prepare ht hincoming
  have hrecord : a.byteEngine.recordQueuedBit t =
      { a.byteEngine with queuedBitsForByte := 8, byteCompletionPending := true } := by
    rw [Dmg07ByteEngine.recordQueuedBit, h.queued]
    rfl
  rw [hrecord] at hengine
  have hanswer : a'.outgoingByPort (env t) = b.answer attached env := by
    funext port
    rw [Dmg07Adapter.outgoingByPort, Dmg07Byte.answer, hattached, hclocked, ht]
    simp only [Dmg07Byte.clocked, ← Bool.and_assoc, Bool.and_self]
    rfl
  have hnext : b.next attached env =
      { protocol := q, start := t + max q.delayAfterCompletedByteTCycles 1 } := by
    rw [Dmg07Byte.next, hq, Option.getD_some, ht]
  refine ⟨{ a' with
      protocol := q
      clockedPortsForByte := fun _ => false
      byteEngine := { a'.byteEngine with byteCompletionPending := false }.scheduleNextByte t
        q.delayAfterCompletedByteTCycles }, ?_, ?_⟩
  · rw [Dmg07Adapter.advanceTCycle, hprepare]
    dsimp only
    have hpending : a'.byteEngine.byteCompletionPending = true := by rw [hengine]
    rw [Dmg07Adapter.finishPhase, if_pos hpending, hprotocol, hanswer, hq]
  · rw [hnext]
    refine ⟨hattached, rfl, rfl, rfl, ?_, ?_⟩
    · simp only [Dmg07ByteEngine.scheduleNextByte, Dmg07Byte.bitTCycle]
      omega
    · funext port
      show false = (attached port && _)
      rw [List.range_zero, List.any_nil, Bool.and_false]

theorem Dmg07Adapter.run_add (a : Dmg07Adapter) (m n : Nat) :
    run env a t (m + n) = (run env a t m).bind fun a => run env a (t + m) n := by
  induction n with
  | zero =>
      rw [Nat.add_zero]
      exact (Option.bind_fun_some _).symm
  | succ n ih =>
      rw [← Nat.add_assoc, run, ih, Option.bind_assoc]
      simp only [run, Nat.add_assoc]

theorem Dmg07Adapter.run_trans {a' : Dmg07Adapter} {m n : Nat} (h : run env a t m = some a') :
    run env a t (m + n) = run env a' (t + m) n := by
  rw [run_add, h, Option.bind_some]

theorem Sending.hold_run (h : Sending attached env b bits t a) {m : Nat}
    (hm : t + m ≤ b.bitTCycle bits) :
    Dmg07Adapter.run env a t m = some a ∧ Sending attached env b bits (t + m) a := by
  induction m with
  | zero => exact ⟨rfl, h⟩
  | succ m ih =>
      obtain ⟨hrun, hm'⟩ := ih (by omega)
      obtain ⟨hstep, hnext, -⟩ := hm'.hold (by omega) (env (t + m))
      exact ⟨by rw [Dmg07Adapter.run, hrun, Option.bind_some, hstep], hnext⟩

/-- From anywhere before a byte the run comes to each of its bits. -/
theorem Sending.run_bit (h : Sending attached env b 0 t a)
    (hincoming : ∀ port, (b.protocol.incomingByteFor port).isSome = true) {bit : Nat}
    (hbit : bit ≤ 7) :
    ∃ n a', t + n = b.bitTCycle bit ∧ Dmg07Adapter.run env a t n = some a' ∧
      Sending attached env b bit (t + n) a' := by
  induction bit with
  | zero =>
      have hle : t ≤ b.bitTCycle 0 := h.next ▸ Nat.le_max_left _ _
      obtain ⟨hrun, hnext⟩ := h.hold_run (m := b.bitTCycle 0 - t) (by omega)
      exact ⟨_, a, by omega, hrun, hnext⟩
  | succ bit ih =>
      obtain ⟨n, a', hn, hrun, hsending⟩ := ih (by omega)
      obtain ⟨a'', hstep, hnext⟩ := hsending.bit hn (by omega) hincoming
      have hperiod : b.bitTCycle (bit + 1) = b.bitTCycle bit + 67 := by
        simp only [Dmg07Byte.bitTCycle, dmg07SerialBitPeriodTCycles]
        omega
      have hrun' : Dmg07Adapter.run env a t (n + 1) = some a'' := by
        rw [Dmg07Adapter.run, hrun, Option.bind_some, hstep]
      obtain ⟨hhold, hend⟩ := hnext.hold_run (m := 66) (by omega)
      refine ⟨n + 1 + 66, a'', by omega, ?_, hend⟩
      rw [Dmg07Adapter.run_trans hrun']
      exact hhold

/-! ## The session -/

def Dmg07Byte.protocols (attached : Dmg07Port → Bool) (env : Nat → Dmg07Cycle) (t k : Nat) :
    Dmg07Protocol :=
  (nth attached env t k).protocol

def Dmg07Byte.answers (attached : Dmg07Port → Bool) (env : Nat → Dmg07Cycle) (t k : Nat) :
    Dmg07Answer :=
  (nth attached env t k).answer attached env

variable (attached env t)

theorem Dmg07Byte.nth_succ (k : Nat) :
    nth attached env t (k + 1) = (nth attached env t k).next attached env :=
  Function.iterate_succ_apply' _ _ _

theorem Dmg07Byte.protocols_succ (k : Nat) {q : Dmg07Protocol}
    (hq : (protocols attached env t k).completeByte (answers attached env t k) = some q) :
    protocols attached env t (k + 1) = q := by
  rw [protocols, nth_succ, next]
  exact (congrArg (Option.getD · _) hq).trans (Option.getD_some ..)

theorem Dmg07Byte.inv (k : Nat) :
    Dmg07Inv (protocols attached env t) (answers attached env t) k := by
  induction k with
  | zero => exact .zero rfl
  | succ k ih =>
      obtain ⟨q, hq⟩ := ih.total (answers attached env t k)
      refine ih.succ ?_
      rw [protocols_succ attached env t k hq]
      exact hq

theorem Dmg07Byte.completeByte_nth (k : Nat) :
    (protocols attached env t k).completeByte (answers attached env t k) =
      some (protocols attached env t (k + 1)) := by
  obtain ⟨q, hq⟩ := (inv attached env t k).total (answers attached env t k)
  rw [protocols_succ attached env t k hq]
  exact hq

/-- The run comes to every byte of the session, and to each of its bits. -/
theorem Dmg07Byte.run_nth (k : Nat) :
    ∃ n a, Dmg07Adapter.run env (.new attached) t n = some a ∧
      Sending attached env (nth attached env t k) 0 (t + n) a := by
  induction k with
  | zero => exact ⟨0, _, rfl, .new attached env t⟩
  | succ k ih =>
      obtain ⟨n, a, hrun, hsending⟩ := ih
      have hincoming := (inv attached env t k).incomingByteFor
      obtain ⟨m, a', hm, hrun', hlast⟩ := hsending.run_bit hincoming (Nat.le_refl 7)
      obtain ⟨a'', hstep, hnext⟩ := hlast.lastBit hm hincoming (completeByte_nth attached env t k)
      refine ⟨n + m + 1, a'', ?_, ?_⟩
      · rw [Dmg07Adapter.run, Dmg07Adapter.run_trans hrun, hrun', Option.bind_some,
          ← Nat.add_assoc]
        exact hstep
      · rw [nth_succ, ← Nat.add_assoc, ← Nat.add_assoc]
        exact hnext

theorem Dmg07Byte.run_bit (k : Nat) {bit : Nat} (hbit : bit ≤ 7) :
    ∃ n a, t + n = (nth attached env t k).bitTCycle bit ∧
      Dmg07Adapter.run env (.new attached) t n = some a ∧
      Sending attached env (nth attached env t k) bit (t + n) a := by
  obtain ⟨n, a, hrun, hsending⟩ := run_nth attached env t k
  obtain ⟨m, a', hm, hrun', hbit'⟩ :=
    hsending.run_bit (inv attached env t k).incomingByteFor hbit
  refine ⟨n + m, a', by omega, ?_, ?_⟩
  · rw [Dmg07Adapter.run_trans hrun, hrun']
  · rw [← Nat.add_assoc]
    exact hbit'

/-- In every T-cycle the adapter is in some byte, before one of its bits. -/
theorem Dmg07Byte.run_sending (n : Nat) :
    ∃ k bits a, bits ≤ 7 ∧ Dmg07Adapter.run env (.new attached) t n = some a ∧
      Sending attached env (nth attached env t k) bits (t + n) a := by
  induction n with
  | zero => exact ⟨0, 0, _, by decide, rfl, .new attached env t⟩
  | succ n ih =>
      obtain ⟨k, bits, a, hbits, hrun, hsending⟩ := ih
      have hincoming := (inv attached env t k).incomingByteFor
      have hstep : ∀ a', a.advanceTCycle (t + n) (env (t + n)) = some a' →
          Dmg07Adapter.run env (.new attached) t (n + 1) = some a' := by
        intro a' h
        rw [Dmg07Adapter.run, hrun, Option.bind_some, h]
      have hle : t + n ≤ (nth attached env t k).bitTCycle bits :=
        hsending.next ▸ Nat.le_max_left _ _
      rcases Nat.lt_or_ge (t + n) ((nth attached env t k).bitTCycle bits) with hlt | hge
      · obtain ⟨hadvance, hnext, -⟩ := hsending.hold hlt (env (t + n))
        exact ⟨k, bits, a, hbits, hstep a hadvance, hnext⟩
      · have heq := Nat.le_antisymm hle hge
        rcases Nat.lt_or_ge bits 7 with hlt | hge'
        · obtain ⟨a', hadvance, hnext⟩ := hsending.bit heq hlt hincoming
          exact ⟨k, bits + 1, a', hlt, hstep a' hadvance, hnext⟩
        · obtain rfl := Nat.le_antisymm hbits hge'
          obtain ⟨a', hadvance, hnext⟩ :=
            hsending.lastBit heq hincoming (completeByte_nth attached env t k)
          refine ⟨k + 1, 0, a', by decide, hstep a' hadvance, ?_⟩
          rw [nth_succ]
          exact hnext

/-! ## The time between two packets -/

theorem Dmg07Byte.start_succ (k : Nat) :
    (nth attached env t (k + 1)).start = (nth attached env t k).start +
      Dmg07Protocol.byteTransferSpanTCycles +
      max ((protocols attached env t (k + 1)).delayAfterCompletedPhaseTCycles
        (protocols attached env t k).phase) 1 := by
  have hdelay : (protocols attached env t (k + 1)).delayAfterCompletedByteTCycles =
      (protocols attached env t (k + 1)).delayAfterCompletedPhaseTCycles
        (protocols attached env t k).phase := by
    obtain ⟨r, -, hr⟩ := Dmg07Protocol.completeByte_eq_some (completeByte_nth attached env t k)
    rw [hr]
    rfl
  rw [← hdelay, protocols, nth_succ]
  rfl

/-- From the first byte of a packet on come the others, with the same settings. -/
theorem Dmg07Byte.packetBytes {b : Nat}
    (hphase : (protocols attached env t b).phase = .transmission 0) :
    PacketBytes (protocols attached env t) b ((protocols attached env t b).packetLen - 1) := by
  have hbytes : ∀ n < (protocols attached env t b).packetLen,
      PacketBytes (protocols attached env t) b n := by
    intro n hn
    induction n with
    | zero =>
        intro m hm
        rw [Nat.le_zero.mp hm]
        exact ⟨hphase, .refl _⟩
    | succ n ih =>
        have hpacket := ih (by omega)
        obtain ⟨hphase', hsame⟩ := hpacket n (Nat.le_refl n)
        obtain ⟨half, ht⟩ := (inv attached env t (b + n)).at_phase hphase'
        obtain ⟨c, r, hstep⟩ := ht.step hphase' (completeByte_nth attached env t (b + n))
        refine hpacket.succ (hstep.next ?_).1 hstep.settings
        rw [Dmg07Protocol.packetLen, hsame.size]
        exact hn
  obtain ⟨half, ht⟩ := (inv attached env t b).at_phase hphase
  have hlen : 0 < (protocols attached env t b).packetLen := ht.ring.index_lt
  exact hbytes _ (by omega)

theorem Dmg07Protocol.SameSettings.delays {p q : Dmg07Protocol} (h : p.SameSettings q) :
    p.packetLen = q.packetLen ∧
      p.transmissionInterByteDelayTCycles = q.transmissionInterByteDelayTCycles ∧
      p.transmissionPacketBoundaryDelayTCycles = q.transmissionPacketBoundaryDelayTCycles := by
  simp only [packetLen, transmissionInterByteDelayTCycles, transmissionPacketBoundaryDelayTCycles,
    minimumPacketPeriodTCycles, h.size, h.rate, and_self]

/-- The bytes of a packet start one inter-byte delay apart. -/
theorem Dmg07Byte.start_packet {b n : Nat}
    (hphase : (protocols attached env t b).phase = .transmission 0)
    (hn : n < (protocols attached env t b).packetLen) :
    (nth attached env t (b + n)).start = (nth attached env t b).start +
      n * (Dmg07Protocol.byteTransferSpanTCycles +
        (protocols attached env t b).transmissionInterByteDelayTCycles) := by
  have hpacket := packetBytes attached env t hphase
  induction n with
  | zero => rw [Nat.zero_mul]; rfl
  | succ n ih =>
      obtain ⟨hphase', -⟩ := hpacket n (by omega)
      obtain ⟨-, hsame⟩ := hpacket (n + 1) (by omega)
      obtain ⟨hlen, hinter, -⟩ := hsame.delays
      rw [← Nat.add_assoc] at hlen hinter ⊢
      rw [start_succ, ih (by omega), hphase', Dmg07Protocol.delayAfterCompletedPhaseTCycles, hlen,
        if_neg (by omega), hinter, Nat.succ_mul]
      have hpos : 1 ≤ (protocols attached env t b).transmissionInterByteDelayTCycles := by
        rw [Dmg07Protocol.transmissionInterByteDelayTCycles,
          dmg07TransmissionBaseInterByteDelayTCycles]
        omega
      omega

/-- A packet starts when the minimum period of the rate has passed since the one before, and
its bytes have. -/
theorem Dmg07Byte.packet_period {b : Nat}
    (hphase : (protocols attached env t b).phase = .transmission 0) :
    (nth attached env t (b + (protocols attached env t b).packetLen)).start =
      (nth attached env t b).start +
        max (protocols attached env t b).minimumPacketPeriodTCycles
          ((protocols attached env t b).packetLen *
            (Dmg07Protocol.byteTransferSpanTCycles +
              (protocols attached env t b).transmissionInterByteDelayTCycles)) := by
  obtain ⟨half, ht⟩ := (inv attached env t b).at_phase hphase
  obtain ⟨n, hlen⟩ : ∃ n, (protocols attached env t b).packetLen = n + 1 :=
    ⟨_, (Nat.succ_pred_eq_of_pos ht.ring.index_lt).symm⟩
  obtain ⟨hphase', hsame⟩ := packetBytes attached env t hphase n (by omega)
  obtain ⟨half', ht'⟩ := (inv attached env t (b + n)).at_phase hphase'
  obtain ⟨c, r, hstep⟩ := ht'.step hphase' (completeByte_nth attached env t (b + n))
  obtain ⟨hlen', hinter, hboundary⟩ := (hstep.settings.symm.trans hsame).delays
  rw [hlen, ← Nat.add_assoc, start_succ, start_packet attached env t hphase (by omega), hphase',
    Dmg07Protocol.delayAfterCompletedPhaseTCycles, hlen', if_pos hlen.symm, hboundary,
    Dmg07Protocol.transmissionPacketBoundaryDelayTCycles, hlen]
  rw [Nat.add_sub_cancel, Nat.succ_mul, Nat.succ_mul, Nat.mul_add]
  have hpos : 1 ≤ (protocols attached env t b).transmissionInterByteDelayTCycles := by
    rw [Dmg07Protocol.transmissionInterByteDelayTCycles,
      dmg07TransmissionBaseInterByteDelayTCycles]
    omega
  omega

/-! ## The protocol of a session -/

/-- What a session comes to, for whatever the consoles do. -/
structure Dmg07Session (attached : Dmg07Port → Bool) (env : Nat → Dmg07Cycle) (t : Nat) : Prop
    where
  /-- No index of the transmission buffer is ever out of range. -/
  total : ∀ n, ∃ a, Dmg07Adapter.run env (.new attached) t n = some a
  /-- In the T-cycle of each bit of byte `k` the ports that wait for it are handed the byte
  of the protocol. -/
  bits : ∀ k, ∀ bit < 8, ∃ n a, t + n = (Dmg07Byte.nth attached env t k).bitTCycle bit ∧
    Dmg07Adapter.run env (.new attached) t n = some a ∧
    a.protocol = Dmg07Byte.protocols attached env t k ∧
    ∀ port, a.handedOut (t + n) (env (t + n)) port =
      if attached port && (env (t + n)).waitingForExternalClock port then
        (Dmg07Byte.protocols attached env t k).incomingByteFor port
      else none
  /-- In every other T-cycle nothing is handed out. -/
  quiet : ∀ n, (∀ k, ∀ bit < 8, t + n ≠ (Dmg07Byte.nth attached env t k).bitTCycle bit) →
    ∃ a, Dmg07Adapter.run env (.new attached) t n = some a ∧
      a.handedOut (t + n) (env (t + n)) = fun _ => none
  /-- What the ports answer to byte `k` leads to byte `k + 1`. -/
  completes : ∀ k, (Dmg07Byte.protocols attached env t k).completeByte
    (Dmg07Byte.answers attached env t k) = some (Dmg07Byte.protocols attached env t (k + 1))
  /-- Byte `i` of a transmission packet is the same for all ports: what the port of that
  place answered in the packet before. -/
  transmission : ∀ k i, (Dmg07Byte.protocols attached env t k).phase = .transmission i →
    i ≤ k ∧ PacketBytes (Dmg07Byte.protocols attached env t) (k - i) i ∧
    (i < (Dmg07Byte.protocols attached env t k).packetLen ∧
      (Dmg07Byte.protocols attached env t k).transmissionBuffer.position %
        (Dmg07Byte.protocols attached env t k).packetLen = i ∧
      (Dmg07Byte.protocols attached env t k).transmissionBuffer.position <
        ringLenForSize (Dmg07Byte.protocols attached env t k).size) ∧
    ∃ value, (∀ port, (Dmg07Byte.protocols attached env t k).incomingByteFor port =
        some value) ∧
      (∃ port : Dmg07Port, port.index = i / (Dmg07Byte.protocols attached env t k).size) ∧
      ∀ port : Dmg07Port, port.index = i / (Dmg07Byte.protocols attached env t k).size →
        SentByte (Dmg07Byte.protocols attached env t) (Dmg07Byte.answers attached env t) (k - i)
          port (i % (Dmg07Byte.protocols attached env t k).size) value
  /-- The ping phase ends with a ping packet in which the first port answered three start
  bytes in a row. -/
  enters : ∀ k i, (Dmg07Byte.protocols attached env t k).phase = .ping i →
    (∀ j, (Dmg07Byte.protocols attached env t (k + 1)).phase ≠ .ping j) →
    i = 3 ∧ 3 ≤ k ∧
    (∀ m ≤ 3, (Dmg07Byte.protocols attached env t (k - 3 + m)).phase = .ping m) ∧
    (Dmg07Byte.protocols attached env t (k + 1)).phase = .transmissionIndicator 0 ∧
    ThreeInARow (StartMarker (Dmg07Byte.answers attached env t)) (k - 3) (k + 1)
  /-- The transmission phase is entered through the indicator, and the indicator from the
  ping phase. -/
  before : ∀ k,
    (∀ i, (Dmg07Byte.protocols attached env t (k + 1)).phase = .transmissionIndicator i →
      (Dmg07Byte.protocols attached env t k).phase = .ping 3 ∧ i = 0 ∨
      ∃ j, (Dmg07Byte.protocols attached env t k).phase = .transmissionIndicator j ∧
        i = j + 1) ∧
    (∀ i, (Dmg07Byte.protocols attached env t (k + 1)).phase = .transmission i →
      (Dmg07Byte.protocols attached env t k).phase = .transmissionIndicator 3 ∧ i = 0 ∨
      ∃ j, (Dmg07Byte.protocols attached env t k).phase = .transmission j)
  /-- The transmission phase ends with a packet in which the first port answered three
  restart bytes in a row. -/
  leaves : ∀ k i, (Dmg07Byte.protocols attached env t k).phase = .transmission i →
    (∀ j, (Dmg07Byte.protocols attached env t (k + 1)).phase ≠ .transmission j) →
    i + 1 = (Dmg07Byte.protocols attached env t k).packetLen ∧ i ≤ k ∧
    PacketBytes (Dmg07Byte.protocols attached env t) (k - i) i ∧
    (Dmg07Byte.protocols attached env t (k + 1)).phase = .pingRestartIndicator 0 ∧
    ThreeInARow (RestartMarker (Dmg07Byte.answers attached env t)) (k - i) (k + 1)
  /-- A packet and the next one start the longer of two times apart: the period the low
  nibble of the rate asks for, and what the bytes of the packet take. -/
  period : ∀ b, (Dmg07Byte.protocols attached env t b).phase = .transmission 0 →
    (Dmg07Byte.nth attached env t
        (b + (Dmg07Byte.protocols attached env t b).packetLen)).start =
      (Dmg07Byte.nth attached env t b).start +
        max (Dmg07Byte.protocols attached env t b).minimumPacketPeriodTCycles
          ((Dmg07Byte.protocols attached env t b).packetLen *
            (Dmg07Protocol.byteTransferSpanTCycles +
              (Dmg07Byte.protocols attached env t b).transmissionInterByteDelayTCycles))

/-- Whatever ports are connected and whatever the consoles do, from the moment the adapter
is plugged in every session keeps to the protocol. -/
theorem dmg07_session : Dmg07Session attached env t where
  total n := by
    obtain ⟨_, _, a, _, hrun, _⟩ := Dmg07Byte.run_sending attached env t n
    exact ⟨a, hrun⟩
  bits k bit hbit := by
    obtain ⟨n, a, hn, hrun, hsending⟩ := Dmg07Byte.run_bit attached env t k (by omega : bit ≤ 7)
    obtain ⟨a', hprepare, -⟩ := hsending.prepare hn (Dmg07Byte.inv attached env t k).incomingByteFor
    refine ⟨n, a, hn, hrun, hsending.protocol, fun port => ?_⟩
    rw [Dmg07Adapter.handedOut, hprepare]
    rfl
  quiet n hno := by
    obtain ⟨k, bits, a, hbits, hrun, hsending⟩ := Dmg07Byte.run_sending attached env t n
    have hle : t + n ≤ (Dmg07Byte.nth attached env t k).bitTCycle bits :=
      hsending.next ▸ Nat.le_max_left _ _
    have hne := hno k bits (by omega)
    exact ⟨a, hrun, (hsending.hold (by omega) _).2.2⟩
  completes := Dmg07Byte.completeByte_nth attached env t
  transmission k i hphase := by
    obtain ⟨half, ht⟩ := (Dmg07Byte.inv attached env t k).at_phase hphase
    exact ⟨ht.le, ht.packet, ht.position, ht.incomingByteFor hphase⟩
  enters k i hphase hleave := by
    have hping : PingByte (Dmg07Byte.protocols attached env t) (Dmg07Byte.answers attached env t)
        k i := (Dmg07Byte.inv attached env t k).at_phase hphase
    obtain ⟨rfl, hnext, hthree⟩ :=
      hping.leave hphase (Dmg07Byte.completeByte_nth attached env t k) hleave
    exact ⟨rfl, hping.le, hping.packet, hnext, hthree⟩
  before k :=
    (Dmg07Byte.inv attached env t k).phase_before (Dmg07Byte.completeByte_nth attached env t k)
  leaves k i hphase hleave := by
    obtain ⟨half, ht⟩ := (Dmg07Byte.inv attached env t k).at_phase hphase
    obtain ⟨hlast, hnext, hthree⟩ :=
      ht.leave hphase (Dmg07Byte.completeByte_nth attached env t k) hleave
    exact ⟨hlast, ht.le, ht.packet, hnext, hthree⟩
  period b hphase := Dmg07Byte.packet_period attached env t hphase

end Run

end GbCycle
